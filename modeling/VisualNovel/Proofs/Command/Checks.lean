import VisualNovel.Command.Play
import VisualNovel.Command.Review
import VisualNovel.Proofs.Disk.Files
import VisualNovel.Proofs.Lint.Soundness
import VisualNovel.Proofs.Lint.Wording

/-!
# The check and the review of a novel agree

A check loads the novel, and so gives it a start where it names none, before it looks for faults. A
review looks at the novel as it is written. No link, no look-up and no scene depends on the start
that is named, so the two find the same in it, up to a warning that there is no start
(`Novel.analyze_startingAt`), and they come to the same verdict on every file
(`Command.checks_agree`).
-/

namespace VisualNovel

/-! ## A novel with another start -/

/-- The novel with the scene as its start. -/
def Novel.startingAt (novel : Novel) (start : String) : Novel :=
  { novel with startSceneId := start }

section
variable {novel : Novel} {start : String} {scene : Scene} {node : Node}

/-- The start of a novel with another start is that other one. -/
@[simp] theorem Novel.startSceneId_startingAt : (novel.startingAt start).startSceneId = start := rfl

/-- Scenes are found alike, wherever the novel starts. -/
@[simp] theorem Novel.scene?_startingAt (id : String) :
    (novel.startingAt start).scene? id = novel.scene? id := rfl

/-- What is wrong with branches does not depend on the start. -/
theorem Choice.branchesReport_startingAt (seen : List String) (branches : List Branch) :
    branchesReport (novel.startingAt start) scene node seen branches
      = branchesReport novel scene node seen branches := by
  induction branches generalizing seen with
  | nil => rfl
  | cons branch branches ih =>
    rw [branchesReport, branchesReport, ih]
    rfl

/-- What is wrong with a node does not depend on the start. -/
theorem Node.report_startingAt :
    node.report (novel.startingAt start) scene = node.report novel scene := by
  cases node with
  | choice menu =>
    rw [report, report, Choice.branchesReport_startingAt]
  | dialogue | narration | background | character | audio | jump => rfl

/-- What is wrong with a scene does not depend on the start. -/
theorem Scene.report_startingAt : scene.report (novel.startingAt start) = scene.report novel := by
  simp only [report, Node.report_startingAt]

namespace Novel

/-- The search for a cycle from a scene does not depend on the start. -/
theorem entryCycleFrom_startingAt (chain : List String) (scene : Scene) :
    (novel.startingAt start).entryCycleFrom chain scene = novel.entryCycleFrom chain scene := by
  induction chain, scene using entryCycleFrom.induct novel with
  | case1 chain scene hstays =>
    rw [entryCycleFrom_of_stays hstays, entryCycleFrom_of_stays hstays]
  | case2 chain scene target hjump hold =>
    rw [entryCycleFrom_of_mem hjump hold, entryCycleFrom_of_mem hjump hold]
  | case3 chain scene target hjump hnew hnone =>
    have hnone' : (novel.startingAt start).scene? target = none := hnone
    rw [entryCycleFrom_of_missing hjump hnew hnone, entryCycleFrom_of_missing hjump hnew hnone']
  | case4 chain scene target hjump hnew next hnext _ ih =>
    have hnext' : (novel.startingAt start).scene? target = some next := hnext
    rw [entryCycleFrom_of_scene hjump hnew hnext, entryCycleFrom_of_scene hjump hnew hnext', ih]

/-- The cycles of entry jumps do not depend on the start. -/
theorem entryCycles_startingAt : (novel.startingAt start).entryCycles = novel.entryCycles := by
  simp only [entryCycles, entryCycleFrom_startingAt]
  rfl

/-- What can be reached from given scenes does not depend on the start. -/
theorem explore_startingAt (reached queue : List String) :
    (novel.startingAt start).explore reached queue = novel.explore reached queue := by
  induction reached, queue using explore.induct novel with
  | case1 reached => rw [explore, explore]
  | case2 reached source queue ih =>
    rw [explore, explore]
    exact ih

/-- The report on scenes that cannot be reached looks at the start that it is given. -/
theorem unreachableReport_startingAt (id : String) :
    (novel.startingAt start).unreachableReport id = novel.unreachableReport id := by
  simp only [unreachableReport, reachable, explore_startingAt]
  rfl

/-- The warning about a novel without a named start. -/
def unnamedStart (novel : Novel) : Diagnostic :=
  { severity := .warn, location := novel.id, message := "未设置起始场景，将从第一个场景开始" }

/-- The start from which play and analysis set out in a novel with this first scene. -/
def startFrom (novel : Novel) (first : Scene) : String :=
  if novel.startSceneId = "" then first.id else novel.startSceneId

section
variable {first : Scene} {others : List Scene} (hscenes : novel.scenes = first :: others)
include hscenes

/-- A novel with a first scene can be given a start. -/
theorem withStart?_of_cons :
    novel.withStart? = some (novel.startingAt (novel.startFrom first)) := by
  rw [withStart?, effectiveStart?_of_cons hscenes]
  rfl

/-- A start that is filled in is that of a scene, so that nothing is wrong with it, unless its id is
empty in turn. -/
theorem startReport_startingAt :
    novel.startReport
      = (if novel.startSceneId = "" ∧ first.id ≠ "" then [novel.unnamedStart] else [])
        ++ (novel.startingAt (novel.startFrom first)).startReport := by
  by_cases hnamed : novel.startSceneId = ""
  · by_cases hid : first.id = ""
    · have hsame : novel.startingAt (novel.startFrom first) = novel := by
        rw [startFrom, if_pos hnamed, hid, ← hnamed]
        rfl
      rw [hsame, if_neg (fun h => h.2 hid), List.nil_append]
    · have hfirst : first ∈ novel.scenes := hscenes ▸ List.mem_cons_self
      obtain ⟨found, hfound⟩ := exists_scene?_of_mem hfirst
      have hfilled : (novel.startingAt first.id).startReport = [] := by
        simp [startReport, hid, hfound]
      rw [startFrom, if_pos hnamed, hfilled, if_pos ⟨hnamed, hid⟩]
      simp [startReport, hnamed, unnamedStart]
  · rw [startFrom, if_neg hnamed, if_neg (fun h => hnamed h.1), List.nil_append]
    rfl

/-- What is wrong with a novel is what is wrong with it once its start has been filled in, and that
it has not been named. -/
theorem analyze_startingAt :
    novel.analyze
      = (if novel.startSceneId = "" ∧ first.id ≠ "" then [novel.unnamedStart] else [])
        ++ (novel.startingAt (novel.startFrom first)).analyze := by
  have hstart : (novel.startingAt (novel.startFrom first)).effectiveStart?
      = some (novel.startFrom first) := by
    have hfilled : (novel.startingAt (novel.startFrom first)).scenes = first :: others := hscenes
    rw [effectiveStart?_of_cons hfilled, startSceneId_startingAt]
    by_cases hnamed : novel.startSceneId = ""
    · simp [startFrom, hnamed]
    · simp [startFrom, hnamed]
  rw [analyze_eq (effectiveStart?_of_cons hscenes), analyze_eq hstart, localReport, localReport,
    startReport_startingAt hscenes, entryCycles_startingAt, unreachableReport_startingAt]
  simp only [Scene.report_startingAt, List.append_assoc]
  rfl

/-- So there are errors in both or in none. -/
theorem hasErrors_startingAt :
    (novel.startingAt (novel.startFrom first)).analyze.hasErrors = novel.analyze.hasErrors := by
  have hwarns : Report.hasErrors
      (if novel.startSceneId = "" ∧ first.id ≠ "" then [novel.unnamedStart] else []) = false := by
    split
    · exact Report.hasErrors_eq_false_iff.2 (List.forall_mem_singleton.2 Severity.noConfusion)
    · rfl
  rw [analyze_startingAt hscenes, Report.hasErrors_append, hwarns, Bool.false_or]

/-- A text with scenes is loaded with its start filled in. -/
theorem load_of_cons {text : String} (htext : ofText text = .ok novel) :
    load text = .ok (novel.startingAt (novel.startFrom first)) := by
  simp only [load, htext, withStart?_of_cons hscenes]

end

/-- A text without scenes is not loaded, and they are missed in its novel. -/
theorem load_of_nil {text : String} (htext : ofText text = .ok novel) (hscenes : novel.scenes = []) :
    load text = .error (.noScenes novel.id) ∧ novel.analyze.hasErrors = true := by
  have hstart : novel.effectiveStart? = none := by
    simp [effectiveStart?, firstScene?, hscenes]
  constructor
  · simp only [load, htext, withStart?, hstart, Option.map_none]
  · simp [analyze, hstart, Report.hasErrors, Report.errorCount, Report.count]

end Novel
end

/-! ## Verdicts -/

/-- The file holds a novel, and there are no errors in it. -/
def FileReview.passes : FileReview → Bool
  | refused .. => false
  | novel _ report _ => !report.hasErrors

section
variable {disk : Disk} {path : String}

/-- A file passes when its text is that of a novel without errors. -/
theorem FileReview.passes_iff : (ofFile disk path).passes = true
    ↔ ∃ text novel, disk.readText path = .ok text ∧ Novel.ofText text = .ok novel ∧
      novel.analyze.hasErrors = false := by
  simp only [ofFile]
  cases htext : disk.readText path with
  | error e => simp [passes]
  | ok text =>
    dsimp only
    cases hnovel : Novel.ofText text with
    | error e => simp [passes, hnovel]
    | ok novel => simp [passes, hnovel]

/-- A review of a single file succeeds when the file passes. -/
theorem Review.code_ofFiles :
    (ofFiles disk [path]).code = if (FileReview.ofFile disk path).passes then 0 else 1 := by
  have herrors (review : FileReview) :
      0 < errorCount [review] ↔ review.passes = false := by
    cases review with
    | refused => simp [errorCount, FileReview.refusal?, FileReview.passes]
    | novel => simp [errorCount, FileReview.refusal?, FileReview.passes, FileReview.report,
        Report.hasErrors]
  simp only [ofFiles, List.isEmpty_cons, Bool.false_eq_true, if_false, List.map_cons, List.map_nil,
    herrors]
  cases (FileReview.ofFile disk path).passes with
  | true => rfl
  | false => rfl

/-- The path of a file is reviewed as that one file. -/
theorem Review.ofPath_of_isFile (hfile : disk.isFile path = true) :
    ofPath disk (some path) = ofFiles disk [path] := by
  unfold Disk.isFile at hfile
  split at hfile
  · next place bytes hfind => simp only [ofPath, Option.getD_some, hfind]
  · cases hfile

/-- A novel that is loaded is checked. -/
theorem Command.runCheck_of_load {text : String} (htext : disk.readText path = .ok text)
    {novel : Novel} (hload : Novel.load text = .ok novel) : runCheck disk path = novel.check := by
  simp only [runCheck, Novel.ofFile, htext, hload, Except.mapError]

/-- A novel that cannot be loaded fails the check. -/
theorem Command.code_runCheck_of_load_error {text : String} (htext : disk.readText path = .ok text)
    {e : LoadError} (hload : Novel.load text = .error e) : (runCheck disk path).code = 1 := by
  simp only [runCheck, Novel.ofFile, htext, hload, Except.mapError, CommandError.outcome]

/-- A check succeeds when the file passes, although it looks at the novel that is loaded. -/
theorem Command.code_runCheck :
    (runCheck disk path).code = if (FileReview.ofFile disk path).passes then 0 else 1 := by
  cases htext : disk.readText path with
  | error e =>
    simp [runCheck, Novel.ofFile, CommandError.outcome, FileReview.ofFile, htext, FileReview.passes]
  | ok text =>
    cases hnovel : Novel.ofText text with
    | error e =>
      have hload : Novel.load text = .error (.content e) := by
        simp only [Novel.load, hnovel]
      rw [code_runCheck_of_load_error htext hload]
      simp [FileReview.ofFile, htext, hnovel, FileReview.passes]
    | ok novel =>
      have hpasses : (FileReview.ofFile disk path).passes = !novel.analyze.hasErrors := by
        simp only [FileReview.ofFile, htext, hnovel, FileReview.passes]
      rw [hpasses]
      cases hscenes : novel.scenes with
      | nil =>
        obtain ⟨hload, herrors⟩ := Novel.load_of_nil hnovel hscenes
        rw [code_runCheck_of_load_error htext hload, herrors]
        rfl
      | cons first others =>
        rw [runCheck_of_load htext (Novel.load_of_cons hscenes hnovel), Novel.check,
          Novel.hasErrors_startingAt hscenes]
        cases novel.analyze.hasErrors with
        | true => rfl
        | false => rfl

end

/-- Checking the novel in a file and reviewing it succeed and fail alike: they succeed just when the
file has the text of a novel in which there are no errors. The check loads the novel, which a text
with scenes allows. It finds all that the review finds, in the same order, but for the warning that
comes first where the novel names no start and is given one. -/
theorem Command.checks_agree :
    (∀ disk : Disk, ∀ path, disk.isFile path = true → ∀ arguments config,
      Invocation.ofArguments arguments = .ok { config, command := .check path } →
      ∀ input clock cargo others,
        (run disk arguments input clock).1.code
          = (Review.run cargo disk ("novel-check" :: path :: others)).code ∧
        ((run disk arguments input clock).1.code = 0
          ↔ ∃ text novel, disk.readText path = .ok text ∧ Novel.ofText text = .ok novel ∧
            novel.analyze.hasErrors = false)) ∧
    ∀ (novel : Novel) (first : Scene) (others : List Scene), novel.scenes = first :: others →
      ∃ loaded, novel.withStart? = some loaded ∧
        (∀ text, Novel.ofText text = .ok novel → Novel.load text = .ok loaded) ∧
        novel.analyze
          = (if novel.startSceneId = "" ∧ first.id ≠ "" then [novel.unnamedStart] else [])
            ++ loaded.analyze := by
  constructor
  · intro disk path hfile arguments config harguments input clock cargo others
    have hrun : (run disk arguments input clock).1 = runCheck disk path := by
      simp only [run, harguments]
    have hreview : Review.run cargo disk ("novel-check" :: path :: others)
        = Review.ofFiles disk [path] :=
      Review.ofPath_of_isFile hfile
    rw [hrun, hreview, code_runCheck, Review.code_ofFiles, ← FileReview.passes_iff]
    refine ⟨rfl, ?_⟩
    cases (FileReview.ofFile disk path).passes with
    | true => decide
    | false => decide
  · intro novel first others hscenes
    exact ⟨_, Novel.withStart?_of_cons hscenes, fun _ htext => Novel.load_of_cons hscenes htext,
      Novel.analyze_startingAt hscenes⟩

/-- A disk with nothing on it but the file of the circle. -/
def Disk.circle : Disk :=
  (Disk.blank ["home"]).plant ["home", "circle.json"] (.file Novel.circleText.toUTF8)

/-- The file of the circle is where it was put. -/
theorem Disk.find_circle : Disk.circle.find "circle.json"
    = .ok (["home", "circle.json"], .file Novel.circleText.toUTF8) :=
  rfl

/-- Nothing is wrong with the circle that would keep it from being played. -/
theorem Novel.hasErrors_circle : Novel.circle.analyze.hasErrors = false := by cbv

/-- The circle passes. Its text names no start, and the first scene becomes it. -/
theorem Command.checks_agree_circle :
    Disk.circle.isFile "circle.json" = true ∧
    Invocation.ofArguments ["check", "circle.json"] = .ok { command := .check "circle.json" } ∧
    (run .circle ["check", "circle.json"] .empty (.ofUnix 0)).1.code = 0 ∧
    (Review.run (fun _ => .succeeded) .circle ["novel-check", "circle.json"]).code = 0 ∧
    Novel.load Novel.circleText = .ok .circle ∧
    (Novel.circle.startingAt "").analyze
      = [(Novel.circle.startingAt "").unnamedStart] ++ Novel.circle.analyze := by
  have hfile : Disk.circle.isFile "circle.json" = true := by
    rw [Disk.isFile, Disk.find_circle]
  have harguments : Invocation.ofArguments ["check", "circle.json"]
      = .ok { command := .check "circle.json" } := by
    rfl
  have hwritten : Novel.ofText Novel.circleText = .ok (Novel.circle.startingAt "") := by
    rw [Novel.startingAt]
    cbv
  have hpassed : (Novel.circle.startingAt "").analyze.hasErrors = false := by
    rw [← Novel.hasErrors_startingAt rfl]
    exact Novel.hasErrors_circle
  obtain ⟨hagree, hloaded⟩ := checks_agree
  obtain ⟨hcodes, hverdict⟩ :=
    hagree .circle _ hfile _ _ harguments .empty (.ofUnix 0) (fun _ => .succeeded) []
  have hcode := hverdict.2 ⟨_, _, Disk.readText_of_find Disk.find_circle, hwritten, hpassed⟩
  obtain ⟨loaded, -, hload, hreport⟩ := hloaded (Novel.circle.startingAt "") _ _ rfl
  cases Novel.load_circleText.symm.trans (hload _ hwritten)
  refine ⟨hfile, harguments, hcode, hcodes ▸ hcode, Novel.load_circleText, ?_⟩
  rw [hreport, if_pos]
  exact ⟨rfl, by decide⟩

end VisualNovel

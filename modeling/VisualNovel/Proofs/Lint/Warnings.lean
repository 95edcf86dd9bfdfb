import VisualNovel.Lint.Analysis
import VisualNovel.Proofs.Playback.Resume
import VisualNovel.Proofs.Stage.Directions

/-!
# Play warns of nothing that analysis does not

Analysis looks at every node of a novel once, and play warns when it comes to a node whose reference
is missing. Both look the reference up in the same declarations, so what `Novel.direct` and
`Novel.speak` warn of at a node stands in the report of that node, whatever is on the stage
(`Node.foretells_direct`, `Node.foretells_speak`). A run collects the warnings of its steps, which
are at nodes of scenes of the novel. `Playback.warnings_foretold` says of all steps of play that
analysis has foretold their warnings.
-/

namespace VisualNovel

/-- The message by which analysis reports that a reference is missing. -/
def MissingReference.notice (missing : MissingReference) : String :=
  missing.kind.describe ++ "不存在: " ++ missing.id

/-- The diagnostic tells of the missing reference, with a scene that contains its node. -/
structure Diagnostic.Foretells (novel : Novel) (diagnostic : Diagnostic)
    (missing : MissingReference) : Prop where
  severity : diagnostic.severity = .warn
  message : diagnostic.message = missing.notice
  nodeId : diagnostic.nodeId = some missing.nodeId
  location : ∃ scene ∈ novel.scenes, scene.id = diagnostic.location ∧
    ∃ node ∈ scene.nodes, node.id = missing.nodeId

/-- Analysis reports all that the cues warn of. -/
def Cues.AreForetold (novel : Novel) (cues : Cues) : Prop :=
  ∀ missing ∈ cues.warnings, ∃ diagnostic ∈ novel.analyze, diagnostic.Foretells novel missing

section
variable {novel : Novel} {scene : Scene} {node : Node} {shown : Performance} {cues others : Cues}
  {missing : MissingReference}

theorem Cues.areForetold_none : Cues.none.AreForetold novel :=
  nofun

theorem Cues.areForetold_command (command : AudioCommand) :
    (Cues.command command).AreForetold novel :=
  nofun

theorem Cues.AreForetold.append (h : cues.AreForetold novel) (hothers : others.AreForetold novel) :
    (cues ++ others).AreForetold novel := by
  intro missing hmissing
  rcases List.mem_append.1 hmissing with hold | hnew
  · exact h missing hold
  · exact hothers missing hnew

/-! ## Single nodes -/

/-- What a node of the novel has in its report, analysis reports. -/
theorem Novel.mem_analyze_of_report {diagnostic : Diagnostic} (hscene : scene ∈ novel.scenes)
    (hnode : node ∈ scene.nodes) (h : diagnostic ∈ node.report novel scene) :
    diagnostic ∈ novel.analyze := by
  have hne : ¬scene.nodes.isEmpty = true := by
    intro hempty
    rw [List.isEmpty_iff.1 hempty] at hnode
    cases hnode
  have hreport : diagnostic ∈ novel.scenes.flatMap (·.report novel) := by
    refine List.mem_flatMap.2 ⟨scene, hscene, ?_⟩
    rw [Scene.report, if_neg hne]
    exact List.mem_flatMap.2 ⟨node, hnode, h⟩
  obtain ⟨start, hstart⟩ := exists_effectiveStart? hscene
  simp only [analyze, hstart, List.mem_append]
  exact .inl (.inl (.inr hreport))

/-- The report of a node tells of the missing reference. -/
def Node.Foretells (novel : Novel) (node : Node) (missing : MissingReference) : Prop :=
  missing.nodeId = node.id ∧
    ∀ scene, Diagnostic.atNode .warn scene node missing.notice none ∈ node.report novel scene

theorem Node.Foretells.exists_diagnostic (h : node.Foretells novel missing)
    (hscene : scene ∈ novel.scenes) (hnode : node ∈ scene.nodes) :
    ∃ diagnostic ∈ novel.analyze, diagnostic.Foretells novel missing := by
  obtain ⟨hid, hreport⟩ := h
  refine ⟨_, Novel.mem_analyze_of_report hscene hnode (hreport scene), rfl, rfl, ?_, ?_⟩
  · exact congrArg some hid.symm
  · exact ⟨scene, hscene, rfl, node, hnode, hid.symm⟩

theorem Node.foretells_of_report (hid : missing.nodeId = node.id)
    (hreport : ∀ scene, node.report novel scene
      = [.atNode .warn scene node missing.notice none]) : node.Foretells novel missing := by
  refine ⟨hid, fun scene => ?_⟩
  rw [hreport]
  exact List.mem_singleton_self _

/-- What a cue warns of stands in the report of its node. -/
theorem Node.foretells_direct (h : missing ∈ (novel.direct shown node).2.warnings) :
    node.Foretells novel missing := by
  cases node with
  | character cue =>
    cases hfound : novel.character? cue.characterId with
    | some character =>
      simp only [Novel.direct, Novel.directCharacter, hfound] at h
      cases h
    | none =>
      simp only [Novel.direct, Novel.directCharacter, hfound] at h
      cases List.mem_singleton.1 h
      refine foretells_of_report rfl fun scene => ?_
      simp only [report, hfound, Option.isNone_none, if_true]
      rfl
  | background cue =>
    cases hfound : novel.background? cue.backgroundId with
    | some background =>
      simp only [Novel.direct, Novel.directBackground, hfound] at h
      cases h
    | none =>
      simp only [Novel.direct, Novel.directBackground, hfound] at h
      cases List.mem_singleton.1 h
      refine foretells_of_report rfl fun scene => ?_
      simp only [report, hfound, Option.isNone_none, if_true]
      rfl
  | audio cue =>
    cases hfound : novel.audioAsset? cue.audioId with
    | some asset =>
      simp only [Novel.direct, Novel.warnings_directAudio hfound] at h
      cases h
    | none =>
      simp only [Novel.direct, Novel.directAudio, hfound] at h
      cases List.mem_singleton.1 h
      refine foretells_of_report rfl fun scene => ?_
      simp only [report, hfound]
      rfl
  | dialogue | narration | choice | jump => cases h

/-- What a speaker is missed for stands in the report of the line, be it that the stage already
shows them and nothing is warned of. -/
theorem Node.foretells_speak (h : missing ∈ (novel.speak shown node).2.warnings) :
    node.Foretells novel missing := by
  cases node with
  | dialogue line =>
    simp only [Novel.speak, Novel.enterSpeaker] at h
    split at h
    · cases h
    · split at h
      · next hnone =>
        cases List.mem_singleton.1 h
        refine foretells_of_report rfl fun scene => ?_
        simp only [report, hnone, if_true]
        rfl
      · cases h
  | narration | choice | background | character | audio | jump => cases h

/-! ## Runs -/

variable {reader next : Reader} {new : Cues} {landing : Landing} {n : Nat}

/-- What a step warns of is at a node of the reader's scene. -/
theorem Reader.step_goes_foretold (hstep : reader.step novel = .goes next new) :
    new.AreForetold novel := by
  obtain ⟨scene, node, hscene, hnode, ⟨jump, -, -, rfl⟩ | ⟨-, rfl, -⟩⟩ := step_goes hstep
  · exact Cues.areForetold_none
  · intro missing hmissing
    exact (Node.foretells_direct hmissing).exists_diagnostic (Novel.mem_of_scene? hscene)
      (List.mem_of_getElem? hnode)

theorem Reader.step_halts_foretold (hstep : reader.step novel = .halts landing) :
    landing.cues.AreForetold novel := by
  obtain ⟨scene, hscene, ⟨node, hnode, -, rfl⟩ | ⟨-, -, rfl⟩⟩ := step_halts hstep
  · intro missing hmissing
    exact (Node.foretells_speak hmissing).exists_diagnostic (Novel.mem_of_scene? hscene)
      (List.mem_of_getElem? hnode)
  · exact Cues.areForetold_none

/-- All warnings of a run are foretold. -/
theorem Reader.run_foretold (hcues : cues.AreForetold novel)
    (hrun : reader.run novel n cues = some (.ok landing)) : landing.cues.AreForetold novel := by
  obtain ⟨last, sofar, final, hsofar, hhalts, rfl⟩ :=
    run_invariant (fun _ cues => cues.AreForetold novel)
      (fun _ _ _ _ h hstep => h.append (step_goes_foretold hstep)) hcues hrun
  exact hsofar.append (step_halts_foretold hhalts)

end

/-! ## Play -/

namespace Playback

section
variable {playback : Playback} {call : Call} {reader : Reader} {cues : Cues}
  {moved : Playback × Step} {novel : Novel}

/-- A call warns of nothing before it sets out. -/
theorem Departs.foretold (hdep : playback.Departs call reader cues) : cues.AreForetold novel := by
  cases hdep with
  | advance | choose | jump => exact Cues.areForetold_none
  | restart =>
    split
    · exact Cues.areForetold_command _
    · exact Cues.areForetold_none

/-- All warnings of a call are foretold, and a load has none. -/
theorem Moves.foretold (h : playback.Moves call moved) :
    moved.2.cues.AreForetold playback.novel := by
  cases h with
  | stays => exact Cues.areForetold_none
  | lands hdep hrun => exact Reader.run_foretold hdep.foretold hrun
  | loads => exact Cues.areForetold_command _

end

/-- The steps of play with a novel, whatever saves it is resumed from and loads. -/
inductive Yields (novel : Novel) : Step → Prop
  | start {clock : Instant} {moved : Playback × Step} (h : start novel clock = .ok moved) :
      Yields novel moved.2
  | resume {clock : Instant} {save : Save} {moved : Playback × Step}
      (h : resume novel clock save = .ok moved) : Yields novel moved.2
  | call {playback : Playback} {call : Call} {moved : Playback × Step}
      (hreach : playback.Reachable novel AnySave) (h : playback.call call = .ok moved) :
      Yields novel moved.2

/-- For every warning of every step of play, analysis has a warning of the same kind about the same
reference of the same node, at a scene that contains it. So where analysis warns of no missing
reference, play warns of nothing. -/
theorem warnings_foretold (novel : Novel) :
    (∀ step, Yields novel step → ∀ missing ∈ step.cues.warnings,
      ∃ diagnostic ∈ novel.analyze, diagnostic.Foretells novel missing) ∧
    ((∀ diagnostic ∈ novel.analyze, diagnostic.severity = .warn →
        ∀ missing : MissingReference, diagnostic.message ≠ missing.notice) →
      ∀ step, Yields novel step → step.cues.warnings = []) := by
  have hforetold : ∀ step, Yields novel step → step.cues.AreForetold novel := by
    rintro _ (h | h | ⟨hreach, h⟩)
    · obtain ⟨-, n, hrun⟩ := run_of_start h
      exact Reader.run_foretold Cues.areForetold_none hrun
    · exact (moves_of_resume h).foretold
    · obtain ⟨rfl, -⟩ := novel.isIn_invariant.of_reachable hreach
      exact (moves_of_call h).foretold
  refine ⟨hforetold, fun hsilent step hstep => List.eq_nil_iff_forall_not_mem.2 ?_⟩
  intro missing hmissing
  obtain ⟨diagnostic, hmem, hdiagnostic⟩ := hforetold step hstep missing hmissing
  exact hsilent diagnostic hmem hdiagnostic.severity missing hdiagnostic.message

end Playback

/-- A novel that plays a sound and shows a speaker whom it does not declare. -/
def Novel.gaps : Novel :=
  { id := "gaps", title := "Gaps", author := "", description := "", coverImageUrl := none
    characters := [], backgrounds := [], audio := []
    chapters := [⟨"one", "One",
      [⟨"dark", "Dark", [.audio ⟨"d1", "wind", .play⟩, .jump ⟨"d2", "door"⟩]⟩,
        ⟨"door", "Door", [.dialogue ⟨"d3", "bob", none, "Hello?"⟩]⟩]⟩]
    startSceneId := "dark", createdAt := none, updatedAt := none }

/-- What that novel misses on the way to its first line. -/
def Novel.gapsMissing : List MissingReference :=
  [⟨.audio, "wind", "d1"⟩, ⟨.character, "bob", "d3"⟩]

/-- Analysis foretells what the start of that novel warns of in two scenes. It warns of nothing in
the stroll, where play therefore never does. -/
theorem Playback.warnings_foretold_gaps :
    (∃ step, Yields .gaps step ∧ step.cues.warnings = Novel.gapsMissing ∧
      ∀ missing ∈ Novel.gapsMissing,
        ∃ diagnostic ∈ Novel.gaps.analyze, diagnostic.Foretells .gaps missing) ∧
    Novel.stroll.analyze = [] ∧ ∀ step, Yields .stroll step → step.cues.warnings = [] := by
  have hstart : start .gaps (.ofUnix 0)
      = .ok ((blank .gaps (.ofUnix 0)).land ⟨⟨"door", 0⟩, {}, ⟨[], Novel.gapsMissing⟩⟩ true) := by
    cbv
  have hclean : Novel.stroll.analyze = [] := by
    cbv
  refine ⟨⟨_, .start hstart, rfl, (warnings_foretold .gaps).1 _ (.start hstart)⟩, hclean,
    (warnings_foretold .stroll).2 ?_⟩
  rw [hclean]
  intro diagnostic hmem
  cases hmem

end VisualNovel

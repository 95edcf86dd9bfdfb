import VisualNovel.Proofs.Playback.Log
import VisualNovel.Proofs.Playback.Restart

/-!
# The music does not matter

What is playing decides which commands about music a node gives, and nothing else. So playbacks that
differ in their music and their pasts only (`Playback.SameButMusic`) answer a call alike, up to
those commands, and go on differing only there (`Playback.call_sameButMusic`). A restart and a load
bring music of their own. `Playback.music_unnoticed` says so of any requests.
-/

namespace VisualNovel

/-! ## Cues without music -/

/-- Whether the command plays a sound effect, and has nothing to do with the music. -/
def AudioCommand.isEffect : AudioCommand → Bool
  | .playSfx _ => true
  | .playBgm _ | .stopBgm | .fadeOutBgm _ => false

/-- The sound effects among the commands. -/
def Cues.effects (cues : Cues) : List AudioCommand :=
  cues.commands.filter (·.isEffect)

/-- Cues that differ in their commands about music only. -/
structure Cues.SameButMusic (cues cues' : Cues) : Prop where
  effects : cues.effects = cues'.effects
  warnings : cues.warnings = cues'.warnings

/-- Cues are the same as themselves, music or not. -/
theorem Cues.SameButMusic.refl (cues : Cues) : cues.SameButMusic cues :=
  ⟨rfl, rfl⟩

/-- Cues that differ in music only may be put together. -/
theorem Cues.SameButMusic.append {first first' second second' : Cues}
    (hfirst : first.SameButMusic first') (hsecond : second.SameButMusic second') :
    (first ++ second).SameButMusic (first' ++ second') where
  effects := by
    change (first.commands ++ second.commands).filter _ = (first'.commands ++ second'.commands).filter _
    rw [List.filter_append, List.filter_append]
    exact congrArg₂ (· ++ ·) hfirst.effects hsecond.effects
  warnings := congrArg₂ (· ++ ·) hfirst.warnings hsecond.warnings

/-! ## Nodes -/

/-- What is seen is the same, and so are the cues but for the music. -/
def SeenAlike (shown : Performance) (cues : Cues) (shown' : Performance) (cues' : Cues) : Prop :=
  shown.stage = shown'.stage ∧ cues.SameButMusic cues'

namespace Novel

variable (novel : Novel)

/-- The music before an audio node decides about music only. -/
theorem directAudio_sameButMusic (bgm bgm' : Option String) (cue : AudioCue) :
    (novel.directAudio bgm cue).2.SameButMusic (novel.directAudio bgm' cue).2 := by
  simp only [directAudio]
  cases novel.audioAsset? cue.audioId with
  | none => exact .refl _
  | some asset =>
    obtain ⟨id, name, kind, url⟩ := asset
    obtain ⟨nodeId, audioId, action⟩ := cue
    cases kind <;> cases action
    case bgm.play =>
      dsimp only
      split <;> split <;> exact ⟨rfl, rfl⟩
    case bgm.stop | bgm.fadeOut => cases bgm <;> cases bgm' <;> exact ⟨rfl, rfl⟩
    case sfx.play | sfx.stop | sfx.fadeOut => exact .refl _

/-- What a node directs on the stage does not depend on the music. -/
theorem direct_sameButMusic {shown shown' : Performance} (h : shown.stage = shown'.stage)
    (node : Node) :
    (novel.direct shown node).1.stage = (novel.direct shown' node).1.stage ∧
      (novel.direct shown node).2.SameButMusic (novel.direct shown' node).2 := by
  cases node with
  | audio cue => exact ⟨h, novel.directAudio_sameButMusic _ _ cue⟩
  | character cue | background cue =>
    simp only [direct, h]
    exact ⟨trivial, .refl _⟩
  | dialogue | narration | choice | jump => exact ⟨h, .refl _⟩

/-- How a node speaks does not depend on the music. -/
theorem speak_sameButMusic {shown shown' : Performance} (h : shown.stage = shown'.stage)
    (node : Node) :
    (novel.speak shown node).1.stage = (novel.speak shown' node).1.stage ∧
      (novel.speak shown node).2.SameButMusic (novel.speak shown' node).2 := by
  cases node with
  | dialogue line =>
    simp only [speak, h]
    exact ⟨trivial, .refl _⟩
  | narration | choice | background | character | audio | jump => exact ⟨h, .refl _⟩

/-- Runs that differ in their music only see the same. -/
theorem keepsAlike_seen : novel.KeepsAlike SeenAlike where
  directs node := by
    rintro ⟨hstage, hcues⟩
    obtain ⟨hstage', hcues'⟩ := novel.direct_sameButMusic hstage node
    exact ⟨hstage', hcues.append hcues'⟩
  speaks node := by
    rintro ⟨hstage, hcues⟩
    obtain ⟨hstage', hcues'⟩ := novel.speak_sameButMusic hstage node
    exact ⟨hstage', hcues.append hcues'⟩
  enters h := ⟨rfl, h.2⟩

end Novel

/-! ## Calls -/

/-- Steps that differ in their commands about music only. -/
structure Step.SameButMusic (step step' : Step) : Prop where
  cues : step.cues.SameButMusic step'.cues
  waiting : step.waiting = step'.waiting
  nodeChanged : step.nodeChanged = step'.nodeChanged

/-- Whether the call brings music of its own, or none. -/
def Call.bringsMusic : Call → Bool
  | .restart | .load _ => true
  | .advance | .choose _ | .jump _ => false

namespace Playback

/-- Playbacks that differ in their music and their pasts only. -/
structure SameButMusic (playback playback' : Playback) : Prop where
  novel : playback.novel = playback'.novel
  cursor : playback.cursor = playback'.cursor
  stage : playback.shown.stage = playback'.shown.stage

/-- Moves after which playbacks differ in their music and their pasts only, and which differ
themselves in commands about music only. -/
def MovedAlike (moved moved' : Playback × Step) : Prop :=
  moved.1.SameButMusic moved'.1 ∧ moved.2.SameButMusic moved'.2

variable {a b : Playback}

/-- The music has no part in the current node. -/
theorem SameButMusic.currentNode?_eq (h : a.SameButMusic b) : a.currentNode? = b.currentNode? := by
  simp only [currentNode?, h.novel, h.cursor]

/-- The music has no part in what is waited for. -/
theorem SameButMusic.waiting_eq (h : a.SameButMusic b) : a.waiting = b.waiting := by
  simp only [waiting, h.currentNode?_eq]

/-- Landings that look alike are landed in alike, whatever is noted in which history. -/
theorem movedAlike_land (hnovel : a.novel = b.novel) {landing landing' : Landing}
    (h : Landing.Alike SeenAlike landing landing') (entered : Bool) (history history' : History) :
    MovedAlike ({ a with history }.land landing entered)
      ({ b with history := history' }.land landing' entered) := by
  obtain ⟨hcursor, hstage, hcues⟩ := h
  have hmoved : ({ a with history }.land landing entered).1.SameButMusic
      ({ b with history := history' }.land landing' entered).1 := ⟨hnovel, hcursor, hstage⟩
  exact ⟨hmoved, hcues, hmoved.waiting_eq, rfl⟩

/-- Entries that lead to landings that look alike are landed in alike. -/
theorem movedAlike_of_entries (hnovel : a.novel = b.novel)
    {entry entry' : Except PlaybackError Landing}
    (h : AlikeOutcomes (Landing.Alike SeenAlike) entry entry') (history history' : History) :
    AlikeOutcomes MovedAlike (entry.map ({ a with history }.land · true))
      (entry'.map ({ b with history := history' }.land · true)) :=
  h.map fun hlanding => movedAlike_land hnovel hlanding true history history'

/-- Entries with different music lead to landings that look alike. -/
theorem enter_seenAlike (hnovel : a.novel = b.novel) {id id' : String} (hid : id = id')
    (bgm bgm' : Option String) {cues cues' : Cues} (hcues : cues.SameButMusic cues') :
    AlikeOutcomes (Landing.Alike SeenAlike) (a.novel.enter id bgm cues)
      (b.novel.enter id' bgm' cues') := by
  rw [hnovel, hid]
  exact b.novel.keepsAlike_seen.enter id' ⟨rfl, hcues⟩

/-- The music before it has no part in going on, but for the music. -/
theorem advance_sameButMusic (h : a.SameButMusic b) :
    AlikeOutcomes MovedAlike a.advance b.advance := by
  have hchoice : a.atChoice = b.atChoice := by
    simp only [atChoice, h.currentNode?_eq]
  simp only [advance_eq, h.novel, h.cursor, hchoice]
  cases b.novel.scene? b.cursor.sceneId with
  | none => exact .fails _
  | some scene =>
    dsimp only
    by_cases hstay : (scene.lastIndex ≤ b.cursor.nodeIndex || b.atChoice) = true
    · rw [if_pos hstay, if_pos hstay]
      exact .succeeds ⟨h, .refl _, h.waiting_eq, rfl⟩
    · rw [if_neg hstay, if_neg hstay]
      obtain ⟨hending, hseen⟩ := b.novel.keepsAlike_seen.walk (b.cursor.nodeIndex + 1)
        (scene.nodes.drop (b.cursor.nodeIndex + 1)) ⟨h.stage, .refl .none⟩
      rw [← hending]
      generalize b.novel.walk _ a.shown _ _ = walk at hseen ⊢
      generalize b.novel.walk _ b.shown _ _ = walk' at hseen ⊢
      cases walk.ending with
      | halted i =>
        have hlanding : Landing.Alike SeenAlike ⟨⟨scene.id, i⟩, walk.shown, walk.cues⟩
            ⟨⟨scene.id, i⟩, walk'.shown, walk'.cues⟩ := ⟨rfl, hseen⟩
        exact .succeeds (movedAlike_land h.novel hlanding false _ _)
      | ranOut =>
        have hlanding : Landing.Alike SeenAlike ⟨⟨scene.id, scene.lastIndex⟩, walk.shown, walk.cues⟩
            ⟨⟨scene.id, scene.lastIndex⟩, walk'.shown, walk'.cues⟩ := ⟨rfl, hseen⟩
        exact .succeeds (movedAlike_land h.novel hlanding false _ _)
      | left target =>
        exact movedAlike_of_entries h.novel (enter_seenAlike rfl rfl _ _ hseen.2) _ _

/-- The music before a call decides about music only. -/
theorem call_sameButMusic (h : a.SameButMusic b) (call : Call) :
    AlikeOutcomes MovedAlike (a.call call) (b.call call) := by
  have hscene (id : String) : a.novel.scene? id = b.novel.scene? id := by
    rw [h.novel]
  cases call with
  | jump id =>
    simp only [Playback.call, jump_eq]
    exact movedAlike_of_entries h.novel (enter_seenAlike h.novel rfl _ _ (.refl _)) _ _
  | restart =>
    have hstart : a.novel.startSceneId = b.novel.startSceneId := by
      rw [h.novel]
    simp only [Playback.call, restart_eq]
    refine movedAlike_of_entries h.novel (enter_seenAlike h.novel hstart _ _ ?_) _ _
    split <;> split <;> exact ⟨rfl, rfl⟩
  | choose branchId =>
    simp only [Playback.call, choose_eq, h.currentNode?_eq]
    cases b.currentNode? with
    | none => exact .fails _
    | some node =>
      cases node with
      | choice menu =>
        dsimp only
        cases menu.branch? branchId with
        | none => exact .fails _
        | some branch =>
          exact movedAlike_of_entries h.novel (enter_seenAlike h.novel rfl _ _ (.refl _)) _ _
      | dialogue | narration | background | character | audio | jump => exact .fails _
  | load save =>
    simp only [Playback.call, load_eq, hscene]
    cases b.novel.scene? save.sceneId with
    | none => exact .fails _
    | some scene =>
      dsimp only
      by_cases hfits : scene.nodes.length ≤ save.nodeIndex
      · rw [if_pos hfits, if_pos hfits]
        exact .fails _
      · rw [if_neg hfits, if_neg hfits]
        have hloaded : (a.loaded save).SameButMusic (b.loaded save) := ⟨h.novel, rfl, rfl⟩
        exact .succeeds ⟨hloaded, .refl _, hloaded.waiting_eq, rfl⟩
  | advance => exact advance_sameButMusic h

/-- Where a call brings its music, it does not matter what was playing before. -/
theorem shown_eq_of_bringsMusic (hnovel : a.novel = b.novel) {call : Call}
    (hcall : call.bringsMusic = true) {moved moved' : Playback × Step}
    (h : a.call call = .ok moved) (h' : b.call call = .ok moved') :
    moved.1.shown = moved'.1.shown := by
  cases call with
  | restart =>
    have hrestart : a.restart = .ok moved := h
    have hrestart' : b.restart = .ok moved' := h'
    rw [restart_eq_after, hnovel] at hrestart
    rw [restart_eq_after] at hrestart'
    cases henter : b.novel.enter b.novel.startSceneId none .none with
    | error e =>
      rw [henter] at hrestart
      cases hrestart
    | ok landing =>
      rw [henter] at hrestart hrestart'
      cases hrestart
      cases hrestart'
      rfl
  | load save =>
    cases moves_of_load h with
    | lands hdep => cases hdep
    | loads =>
      cases moves_of_load h' with
      | lands hdep => cases hdep
      | loads => rfl
  | advance | choose | jump => cases hcall

/-! ## Runs -/

/-- A request leaves playbacks different in their music and their pasts only. -/
theorem SameButMusic.afterRequest (h : a.SameButMusic b) (request : Request) :
    (a.afterRequest request).SameButMusic (b.afterRequest request) := by
  cases request with
  | save => exact h
  | call call =>
    have houtcome := call_sameButMusic h call
    simp only [Playback.afterRequest]
    generalize hfirst : a.call call = outcome at houtcome
    generalize hsecond : b.call call = outcome' at houtcome
    cases houtcome with
    | fails =>
      rw [after_of_error hfirst, after_of_error hsecond]
      exact h
    | succeeds hmoved =>
      rw [after_of_ok hfirst, after_of_ok hsecond]
      exact hmoved.1

/-- Requests leave playbacks different in their music and their pasts only. -/
theorem SameButMusic.afterRequests (h : a.SameButMusic b)
    (requests : List (Instant × Instant × Request)) :
    (a.afterRequests (requests.map fun (first, _, request) => (first, request))).SameButMusic
      (b.afterRequests (requests.map fun (_, second, request) => (second, request))) := by
  induction requests generalizing a b with
  | nil => exact h
  | cons asked requests ih =>
    obtain ⟨first, second, request⟩ := asked
    have hasked : { a with clock := first }.SameButMusic { b with clock := second } :=
      ⟨h.novel, h.cursor, h.stage⟩
    exact ih (hasked.afterRequest request)

/-- With the same music, only the pasts are different. -/
theorem SameButMusic.forgetPast_eq (h : a.SameButMusic b) (hbgm : a.shown.bgm = b.shown.bgm) :
    a.forgetPast = b.forgetPast := by
  obtain ⟨novel, cursor, ⟨stage, bgm⟩, history, clock⟩ := a
  obtain ⟨novel', cursor', ⟨stage', bgm'⟩, history', clock'⟩ := b
  obtain ⟨rfl, rfl, rfl⟩ := h
  cases hbgm
  rfl

/-- Playbacks that differ in their pasts only go on so. -/
theorem forgetPast_afterRequests (h : a.forgetPast = b.forgetPast)
    (requests : List (Instant × Instant × Request)) :
    (a.afterRequests (requests.map fun (first, _, request) => (first, request))).forgetPast
      = (b.afterRequests (requests.map fun (_, second, request) => (second, request))).forgetPast := by
  induction requests generalizing a b with
  | nil => exact h
  | cons asked requests ih =>
    obtain ⟨first, second, request⟩ := asked
    have hasked : { a with clock := first }.forgetPast = { b with clock := second }.forgetPast := h
    exact ih (request_congr hasked request).2

/-- Moves by the same call that lead to the same place, where other music may be playing unless the
call brings its own. -/
structure CalledAlike (call : Call) (moved moved' : Playback × Step) : Prop where
  place : moved.1.SameButMusic moved'.1
  step : moved.2.SameButMusic moved'.2
  music : call.bringsMusic = true → moved.1.shown.bgm = moved'.1.shown.bgm

/-- Of two playbacks of a novel that are at the same place with the same stage, whatever music is
playing and whatever is past, the same requests, be they made at different times, leave this so. A
further call fails on both for the same reason, or on both it leads to the same place and stage,
with the same sound effects and warnings, and waits for the same. When the call is a restart or a
load, the music is then the same as well, and as long as it is, it stays so. -/
theorem music_unnoticed (h : a.SameButMusic b) (requests : List (Instant × Instant × Request)) :
    let later := a.afterRequests (requests.map fun (first, _, request) => (first, request))
    let later' := b.afterRequests (requests.map fun (_, second, request) => (second, request))
    later.SameButMusic later' ∧
    (∀ call, AlikeOutcomes (CalledAlike call) (later.call call) (later'.call call)) ∧
    (a.shown.bgm = b.shown.bgm → later.shown.bgm = later'.shown.bgm) := by
  intro later later'
  have hlater : later.SameButMusic later' := h.afterRequests requests
  refine ⟨hlater, fun call => ?_, fun hbgm => ?_⟩
  · refine (call_sameButMusic hlater call).imp fun hmoved hmoved' hsame => ?_
    refine ⟨hsame.1, hsame.2, fun hcall => ?_⟩
    rw [shown_eq_of_bringsMusic hlater.novel hcall hmoved hmoved']
  · have hpast := h.forgetPast_eq hbgm
    exact congrArg (·.shown.bgm) (forgetPast_afterRequests hpast requests)

/-- The stroll at its choice, come to by loading a save without music. -/
def strollQuiet : Playback :=
  strollChoice.loaded { strollChoice.save with bgm := none }

/-- With the song on, the way out fades it out, and without it nothing is heard there; all else is
the same, and after a restart the song plays on both. -/
theorem music_unnoticed_stroll :
    strollChoice.SameButMusic strollQuiet ∧
    strollChoice.shown.bgm = some "song" ∧ strollQuiet.shown.bgm = none ∧
    let later := strollChoice.afterRequests [(.ofUnix 1, .call (.choose "out"))]
    let later' := strollQuiet.afterRequests [(.ofUnix 2, .call (.choose "out"))]
    later.SameButMusic later' ∧ later.cursor = ⟨"road", 1⟩ ∧
      AlikeOutcomes (CalledAlike .restart) later.restart later'.restart := by
  have hsame : strollChoice.SameButMusic strollQuiet := ⟨rfl, rfl, rfl⟩
  obtain ⟨hlater, hcalls, -⟩ :=
    music_unnoticed hsame [(.ofUnix 1, .ofUnix 2, .call (.choose "out"))]
  refine ⟨hsame, ?_, rfl, hlater, ?_, hcalls .restart⟩ <;> cbv

end Playback
end VisualNovel

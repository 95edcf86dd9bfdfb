import VisualNovel.Proofs.Playback.Calls

/-!
# States that play can reach

`Playback.Reachable novel foreign` holds of the playbacks that come from starting the novel, or
from resuming it from a save, by any calls, failed ones included. The saves are those taken in
reachable states, and besides them the `foreign` ones, which may come from anywhere. Time may pass
between calls.

A `Novel.Invariant` consists of what holds of a reader on its way and what holds of a playback at
rest, and `Novel.Invariant.of_reachable` carries it over all reachable states. It asks for nothing
about walks and entries, only about single steps of a reader.
-/

namespace VisualNovel

/-- No save but those taken in reachable states. -/
def NoForeign : Save → Prop :=
  fun _ => False

/-- The states of a novel's play. -/
inductive Playback.Reachable (novel : Novel) (foreign : Save → Prop) : Playback → Prop
  | start {clock : Instant} {moved : Playback × Step}
      (h : Playback.start novel clock = .ok moved) : Reachable novel foreign moved.1
  | resume {clock : Instant} {other : Playback} {moved : Playback × Step}
      (hother : Reachable novel foreign other)
      (h : Playback.resume novel clock other.save = .ok moved) : Reachable novel foreign moved.1
  | resumeForeign {clock : Instant} {save : Save} {moved : Playback × Step} (hsave : foreign save)
      (h : Playback.resume novel clock save = .ok moved) : Reachable novel foreign moved.1
  /-- Any call but a load. -/
  | call {playback : Playback} (h : Reachable novel foreign playback) (call : Call)
      (hcall : ∀ save, call ≠ .load save) : Reachable novel foreign (playback.after call)
  | load {playback other : Playback} (h : Reachable novel foreign playback)
      (hother : Reachable novel foreign other) :
      Reachable novel foreign (playback.after (.load other.save))
  | loadForeign {playback : Playback} {save : Save} (h : Reachable novel foreign playback)
      (hsave : foreign save) : Reachable novel foreign (playback.after (.load save))
  /-- Time passes. -/
  | wait {playback : Playback} (h : Reachable novel foreign playback) (clock : Instant) :
      Reachable novel foreign { playback with clock }

/-- Something that holds of readers on their way and of cursors and performances at rest. -/
structure Novel.Invariant (novel : Novel) (foreign : Save → Prop) (reading : Reader → Prop)
    (resting : Cursor → Performance → Prop) : Prop where
  starts : reading (.before novel.startSceneId none)
  enters : ∀ {cursor shown} (id : String), resting cursor shown → reading (.before id shown.bgm)
  advances : ∀ {cursor shown scene}, resting cursor shown →
    novel.scene? cursor.sceneId = some scene → cursor.nodeIndex < scene.lastIndex →
    (∀ choice, scene.nodes[cursor.nodeIndex]? ≠ some (.choice choice)) →
    reading ⟨cursor.sceneId, cursor.nodeIndex + 1, shown⟩
  goes : ∀ {reader next new}, reading reader → reader.step novel = .goes next new → reading next
  halts : ∀ {reader landing}, reading reader → reader.step novel = .halts landing →
    resting landing.cursor landing.shown
  loads : ∀ {save scene}, foreign save → novel.scene? save.sceneId = some scene →
    save.nodeIndex < scene.nodes.length → resting save.cursor ⟨save.stage, save.bgm⟩

namespace Playback

variable {novel : Novel} {foreign : Save → Prop} {playback : Playback} {call : Call}
  {moved : Playback × Step}

/-- A playback after a call is one that the call moved, or the same. -/
theorem after_cases (playback : Playback) (call : Call) :
    (∃ moved, playback.Moves call moved ∧ playback.after call = moved.1) ∨
      playback.after call = playback := by
  cases h : playback.call call with
  | ok moved => exact .inl ⟨moved, moves_of_call h, after_of_ok h⟩
  | error e => exact .inr (after_of_error h)

/-- A resumed playback has gone back to a save that fits the novel. -/
theorem moves_of_resume {clock : Instant} {save : Save}
    (h : resume novel clock save = .ok moved) : (blank novel clock).Moves (.load save) moved := by
  simp only [resume] at h
  split at h
  · cases h
  · exact moves_of_load h

/-- Where there is no choice under the cursor, the node there is none. -/
theorem ne_choice_of_not_atChoice {scene : Scene}
    (hscene : playback.novel.scene? playback.cursor.sceneId = some scene)
    (hchoice : playback.atChoice = false) (choice : Choice) :
    scene.nodes[playback.cursor.nodeIndex]? ≠ some (.choice choice) := by
  intro hnode
  have hcurrent : playback.currentNode? = some (.choice choice) := by
    simp only [currentNode?, hscene, Option.bind_some, hnode]
  rw [atChoice_iff.2 ⟨choice, hcurrent⟩] at hchoice
  cases hchoice

end Playback

namespace Novel.Invariant

variable {novel : Novel} {foreign : Save → Prop} {reading : Reader → Prop}
  {resting : Cursor → Performance → Prop} {playback : Playback} {call : Call}
  {moved : Playback × Step} (hinv : novel.Invariant foreign reading resting)
include hinv

/-- The invariant holds where a reader halts, if it holds where the reader sets out. -/
theorem of_run {reader : Reader} {cues : Cues} {n : Nat} {landing : Landing}
    (hreading : reading reader) (hrun : reader.run novel n cues = some (.ok landing)) :
    resting landing.cursor landing.shown := by
  obtain ⟨last, before, final, hlast, hhalts, rfl⟩ :=
    Reader.run_invariant (fun reader _ => reading reader)
      (fun _ _ _ _ h hstep => hinv.goes h hstep) hreading hrun
  have hrest := hinv.halts hlast hhalts
  exact hrest

/-- A call that departs from a playback at rest sets out with a reader on its way. -/
theorem of_departs {reader : Reader} {cues : Cues} (hnovel : playback.novel = novel)
    (hrest : resting playback.cursor playback.shown) (hdep : playback.Departs call reader cues) :
    reading reader := by
  subst hnovel
  cases hdep with
  | advance hscene hmore hchoice =>
    exact hinv.advances hrest hscene hmore (Playback.ne_choice_of_not_atChoice hscene hchoice)
  | choose | jump => exact hinv.enters _ hrest
  | restart => exact hinv.starts

/-- A call keeps the invariant, unless it loads a save of which nothing is known. -/
theorem of_moves (hnovel : playback.novel = novel)
    (hrest : resting playback.cursor playback.shown) (hmoves : playback.Moves call moved)
    (hload : ∀ save, call = .load save → foreign save ∨ resting save.cursor ⟨save.stage, save.bgm⟩) :
    resting moved.1.cursor moved.1.shown := by
  cases hmoves with
  | stays => exact hrest
  | lands hdep hrun =>
    rw [hnovel] at hrun
    exact hinv.of_run (hinv.of_departs hnovel hrest hdep) hrun
  | loads hscene hindex =>
    rw [hnovel] at hscene
    rcases hload _ rfl with hsave | hsave
    · exact hinv.loads hsave hscene hindex
    · exact hsave

/-- A playback after a call keeps the invariant. -/
theorem of_after (hnovel : playback.novel = novel)
    (hrest : resting playback.cursor playback.shown)
    (hload : ∀ save, call = .load save → foreign save ∨ resting save.cursor ⟨save.stage, save.bgm⟩) :
    (playback.after call).novel = novel ∧
      resting (playback.after call).cursor (playback.after call).shown := by
  rcases playback.after_cases call with ⟨moved, hmoves, heq⟩ | heq <;> rw [heq]
  · exact ⟨hmoves.novel_eq.trans hnovel, hinv.of_moves hnovel hrest hmoves hload⟩
  · exact ⟨hnovel, hrest⟩

/-- A resumed playback is where the save says. -/
theorem of_resume {clock : Instant} {save : Save} (h : Playback.resume novel clock save = .ok moved)
    (hsave : foreign save ∨ resting save.cursor ⟨save.stage, save.bgm⟩) :
    moved.1.novel = novel ∧ resting moved.1.cursor moved.1.shown := by
  cases Playback.moves_of_resume h with
  | lands hdep => cases hdep
  | loads hscene hindex =>
    refine ⟨rfl, ?_⟩
    rcases hsave with hforeign | hrest
    · exact hinv.loads hforeign hscene hindex
    · exact hrest

/-- The invariant holds in every state of play. -/
theorem of_reachable (h : playback.Reachable novel foreign) :
    playback.novel = novel ∧ resting playback.cursor playback.shown := by
  induction h with
  | @start clock moved h =>
    obtain ⟨hnovel, n, hrun⟩ := Playback.run_of_start h
    exact ⟨hnovel, hinv.of_run hinv.starts hrun⟩
  | resume _ h ih => exact hinv.of_resume h (.inr ih.2)
  | resumeForeign hsave h => exact hinv.of_resume h (.inl hsave)
  | call _ call hcall ih =>
    exact hinv.of_after ih.1 ih.2 fun save hsave => absurd hsave (hcall save)
  | load _ _ ih ihother =>
    refine hinv.of_after ih.1 ih.2 fun save hsave => .inr ?_
    cases hsave
    exact ihother.2
  | loadForeign _ hforeign ih =>
    refine hinv.of_after ih.1 ih.2 fun save hsave => .inl ?_
    cases hsave
    exact hforeign
  | wait _ _ ih => exact ih

end Novel.Invariant
end VisualNovel

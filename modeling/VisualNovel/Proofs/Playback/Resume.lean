import VisualNovel.Proofs.Playback.Past
import VisualNovel.Proofs.Playback.Reachable
import VisualNovel.Proofs.Save.Slots

/-!
# A save holds all that decides what comes

A save leaves out the history, and the past does not matter to play. The cursor is always at a node
of the novel, whatever was loaded (`Novel.isIn_invariant`), so a save of a state of play is never
refused. `Playback.resumes` carries every such state through the text of its save.
-/

namespace VisualNovel

/-- Any save at all. -/
def AnySave : Save → Prop :=
  fun _ => True

/-- The cursor is at a node of the novel. -/
def Cursor.IsIn (novel : Novel) (cursor : Cursor) : Prop :=
  ∃ scene, novel.scene? cursor.sceneId = some scene ∧ cursor.nodeIndex < scene.nodes.length

/-- There is a scene where a cursor is. -/
theorem Cursor.IsIn.scenes_ne_nil {novel : Novel} {cursor : Cursor} (h : cursor.IsIn novel) :
    novel.scenes ≠ [] := by
  obtain ⟨scene, hscene, -⟩ := h
  exact List.ne_nil_of_mem (Novel.mem_of_scene? hscene)

/-- That the cursor is at a node is an invariant of play, whatever saves are loaded. -/
theorem Novel.isIn_invariant (novel : Novel) :
    novel.Invariant AnySave (fun _ => True) (fun cursor _ => cursor.IsIn novel) where
  starts := trivial
  enters _ _ := trivial
  advances _ _ _ _ := trivial
  goes _ _ := trivial
  halts := by
    intro reader landing _ hstep
    obtain ⟨scene, hscene, ⟨node, hnode, -, rfl⟩ | ⟨hne, -, rfl⟩⟩ := Reader.step_halts hstep
    · obtain ⟨hi, -⟩ := List.getElem?_eq_some_iff.1 hnode
      exact ⟨scene, hscene, hi⟩
    · exact ⟨scene, hscene, Nat.sub_lt (List.length_pos_iff.2 hne) Nat.one_pos⟩
  loads _ hscene hindex := ⟨_, hscene, hindex⟩

namespace Playback

/-- A save of a cursor that is at a node is accepted, and restores all but the past. -/
theorem resume_save {playback : Playback} (h : playback.cursor.IsIn playback.novel)
    (clock : Instant) :
    ∃ resumed, resumed.forgetPast = playback.forgetPast ∧
      resume playback.novel clock playback.save
        = .ok (resumed, ⟨.command (musicCommand playback.shown.bgm), resumed.waiting, true⟩) := by
  have hscenes : playback.novel.scenes.isEmpty = false :=
    List.isEmpty_eq_false_iff.2 h.scenes_ne_nil
  obtain ⟨scene, hscene, hindex⟩ := h
  refine ⟨(blank playback.novel clock).loaded playback.save, rfl, ?_⟩
  have hsaved : (blank playback.novel clock).novel.scene? playback.save.sceneId = some scene :=
    hscene
  have hfits : ¬scene.nodes.length ≤ playback.save.nodeIndex := Nat.not_le.2 hindex
  simp only [resume, hscenes, load_eq, hsaved, hfits, if_false]
  rfl

/-- A save of a state of play whose node index has 64 bits, made in a year of four digits, is read
back from the slot it was written to and is accepted. Resuming from it brings back the music by one
command, without warnings, and shows what was shown; from then on both playbacks answer all requests
alike, saves apart from their times, and show the same after each. -/
theorem resumes {novel : Novel} {playback : Playback} (h : playback.Reachable novel AnySave)
    (hindex : playback.cursor.nodeIndex < Json.naturalBound)
    (hyear : 0 ≤ playback.clock.date.year ∧ playback.clock.date.year ≤ 9999)
    (store : MemoryStore) (novelId : String) (clock : Instant) :
    ∃ stored resumed step,
      Slots.write store novelId playback.save = (.ok (), stored) ∧
      Slots.read stored novelId = .ok (some playback.save) ∧
      resume novel clock playback.save = .ok (resumed, step) ∧
      step.cues = ⟨[musicCommand playback.shown.bgm], []⟩ ∧
      resumed.view = playback.view ∧
      ∀ requests : List (Instant × Instant × Request),
        resumed.transcript (requests.map fun (first, _, request) => (first, request))
          = playback.transcript (requests.map fun (_, second, request) => (second, request)) := by
  obtain ⟨rfl, hcursor⟩ := novel.isIn_invariant.of_reachable h
  have hread : Save.ofText playback.save.toText = .ok playback.save :=
    Save.ofText_toText hindex hyear
  obtain ⟨stored, hwrite, hstored⟩ := Slots.read_write hread store novelId
  obtain ⟨resumed, hsame, hresume⟩ := resume_save hcursor clock
  exact ⟨stored, resumed, _, hwrite, hstored, hresume, rfl, view_congr hsame, transcript_eq hsame⟩

/-- A save made at the choice of the stroll, with the song on, opens the same way out. -/
theorem resumes_stroll :
    strollChoice.Reachable .stroll AnySave ∧ strollChoice.cursor.nodeIndex < Json.naturalBound ∧
    (0 ≤ strollChoice.clock.date.year ∧ strollChoice.clock.date.year ≤ 9999) ∧
    ∃ stored resumed step,
      Slots.write MemoryStore.empty "stroll" strollChoice.save = (.ok (), stored) ∧
      Slots.read stored "stroll" = .ok (some strollChoice.save) ∧
      resume .stroll (.ofUnix 60) strollChoice.save = .ok (resumed, step) ∧
      step.cues = ⟨[.playBgm "song"], []⟩ ∧
      resumed.transcript [(.ofUnix 61, .call (.choose "out")), (.ofUnix 62, .save)]
        = strollChoice.transcript [(.ofUnix 1, .call (.choose "out")), (.ofUnix 2, .save)] := by
  have hreach : strollChoice.Reachable .stroll AnySave :=
    .call (.start start_stroll) .advance nofun
  have hcursor : strollChoice.cursor = ⟨"hall", 2⟩ := by cbv
  have hindex : strollChoice.cursor.nodeIndex < Json.naturalBound := by
    rw [hcursor]
    decide
  have hclock : strollChoice.clock = .ofUnix 0 := by cbv
  have hyear : 0 ≤ strollChoice.clock.date.year ∧ strollChoice.clock.date.year ≤ 9999 := by
    rw [hclock]
    decide
  have hbgm : strollChoice.shown.bgm = some "song" := by cbv
  obtain ⟨stored, resumed, step, hwrite, hread, hresume, hcues, -, hsame⟩ :=
    resumes hreach hindex hyear .empty "stroll" (.ofUnix 60)
  rw [hbgm] at hcues
  have hout := hsame [(.ofUnix 61, .ofUnix 1, .call (.choose "out")), (.ofUnix 62, .ofUnix 2, .save)]
  exact ⟨hreach, hindex, hyear, stored, resumed, step, hwrite, hread, hresume, hcues, hout⟩

end Playback
end VisualNovel

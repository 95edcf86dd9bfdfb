import VisualNovel.Proofs.Playback.Log
import VisualNovel.Proofs.Playback.Resume
import VisualNovel.Proofs.Playback.TwoRuns

/-!
# A restart is a fresh start

A restart enters the start scene as a start does, with nothing on the stage and no music, and only
the command to stop the music comes before (`Playback.restart_eq_after`). It keeps nothing of the
past: the history is emptied, and its limit is that of a new one in every state of play
(`Playback.Reachable.exists_keeps`). So `Playback.restart_fresh` holds after any run of play.
-/

namespace VisualNovel
namespace Playback

variable {novel : Novel} {playback : Playback} {landing : Landing} {clock : Instant}

/-- The command that comes before a restart: music that is playing stops. -/
def silencing (playback : Playback) : Cues :=
  if playback.shown.bgm.isSome then .command .stopBgm else .none

theorem silencing_append (playback : Playback) (cues : Cues) :
    playback.silencing ++ cues
      = ⟨(if playback.shown.bgm.isSome then [.stopBgm] else []) ++ cues.commands,
          cues.warnings⟩ := by
  rw [silencing]
  split <;> rfl

/-- The music before a restart has no part in the entry of the start scene. -/
theorem restart_eq_after (playback : Playback) :
    playback.restart
      = (playback.novel.enter playback.novel.startSceneId none .none).map fun landing =>
        { playback with history := playback.history.clear }.land (landing.after playback.silencing)
          true := by
  have hafter := playback.novel.enter_after playback.silencing playback.novel.startSceneId none
  simp only [restart_eq]
  rw [silencing] at hafter ⊢
  rw [hafter]
  cases playback.novel.enter playback.novel.startSceneId none .none <;> rfl

/-- In every state of play, whatever saves are loaded, the history is the end of a log. -/
theorem Reachable.exists_keeps (h : playback.Reachable novel AnySave) :
    ∃ log, playback.history.Keeps log := by
  have hcall {playback : Playback} (call : Call) (hold : ∃ log, playback.history.Keeps log) :
      ∃ log, (playback.after call).history.Keeps log := by
    obtain ⟨log, hlog⟩ := hold
    exact ⟨_, keeps_after hlog call⟩
  have hresume {clock : Instant} {save : Save} {moved : Playback × Step}
      (hmoved : Playback.resume novel clock save = .ok moved) : ∃ log, moved.1.history.Keeps log := by
    cases moves_of_resume hmoved with
    | lands hdep => cases hdep
    | loads => exact ⟨[], History.keeps_new⟩
  induction h with
  | start hstart =>
    obtain ⟨landing, rfl⟩ := exists_land_of_start hstart
    exact ⟨_, keeps_land _ History.keeps_new landing true⟩
  | resume _ hmoved => exact hresume hmoved
  | resumeForeign _ hmoved => exact hresume hmoved
  | call _ call _ ih => exact hcall call ih
  | load _ _ ih => exact hcall _ ih
  | loadForeign _ _ ih => exact hcall _ ih
  | wait _ _ ih => exact ih

/-- A restart in a state of play and a fresh start come of the same entry. -/
theorem Reachable.exists_entry (h : playback.Reachable novel AnySave) (clock : Instant) :
    ∃ entry : Except PlaybackError Landing,
      Playback.start novel clock = entry.map (fun landing => (blank novel clock).land landing true) ∧
      playback.restart = entry.map fun landing =>
        { playback with history := playback.history.clear }.land (landing.after playback.silencing)
          true := by
  obtain ⟨rfl, hcursor⟩ := novel.isIn_invariant.of_reachable h
  exact ⟨_, start_eq_map hcursor.scenes_ne_nil clock, playback.restart_eq_after⟩

/-- In every state of play, whatever saves were loaded on the way, a restart fails just when a fresh
start of the novel does, and for the same reason. When it succeeds it leads to where the fresh start
leads, sees and hears the same, and waits for the same; the history has the same limit and tells the
same, apart from the times; and its cues are those of the fresh start, with a command to stop the
music in front when there was music. -/
theorem restart_fresh (h : playback.Reachable novel AnySave) (clock : Instant) :
    (∀ e, playback.restart = .error e ↔ start novel clock = .error e) ∧
    ∀ fresh step, start novel clock = .ok (fresh, step) →
      ∃ restarted,
        playback.restart = .ok (restarted,
          { step with
            cues := ⟨(if playback.shown.bgm.isSome then [.stopBgm] else []) ++ step.cues.commands,
              step.cues.warnings⟩ }) ∧
        restarted.view = fresh.view ∧
        restarted.history.limit = fresh.history.limit ∧
        restarted.history.events.map (·.entry) = fresh.history.events.map (·.entry) := by
  obtain ⟨log, hlog⟩ := h.exists_keeps
  obtain ⟨entry, hstart, hrestart⟩ := h.exists_entry clock
  obtain ⟨rfl, -⟩ := novel.isIn_invariant.of_reachable h
  rw [hstart, hrestart]
  cases entry with
  | error e =>
    refine ⟨fun _ => Iff.rfl, fun fresh step hfresh => ?_⟩
    cases hfresh
  | ok landing =>
    refine ⟨fun e => ⟨nofun, nofun⟩, fun fresh step hfresh => ?_⟩
    cases hfresh
    let cleared := { playback with history := playback.history.clear }
    have hnew := keeps_land (blank playback.novel clock) History.keeps_new landing true
    have hcleared := keeps_land cleared hlog.clear (landing.after playback.silencing) true
    refine ⟨(cleared.land (landing.after playback.silencing) true).1, ?_, rfl,
      hcleared.limit.trans hnew.limit.symm, hcleared.events.trans hnew.events.symm⟩
    rw [← silencing_append]
    rfl

/-- At the choice of the stroll the song is on, so a restart stops it before it begins again. -/
theorem restart_fresh_stroll :
    strollChoice.Reachable .stroll AnySave ∧
    ∃ restarted, strollChoice.restart
        = .ok (restarted, ⟨⟨[.stopBgm, .playBgm "song"], []⟩, .click, true⟩) ∧
      restarted.view = strollStart.1.view ∧
      restarted.history.events.map (·.entry)
        = [.sceneEntered "hall", .line (some "ann") "Out?"] := by
  have hreach : strollChoice.Reachable .stroll AnySave :=
    .call (.start start_stroll) .advance nofun
  obtain ⟨-, hsucceeds⟩ := restart_fresh hreach (.ofUnix 0)
  obtain ⟨restarted, hrestart, hview, -, hhistory⟩ := hsucceeds _ _ start_stroll
  have hbgm : strollChoice.shown.bgm = some "song" := by cbv
  rw [hbgm] at hrestart
  refine ⟨hreach, restarted, hrestart.trans ?_, hview, hhistory.trans ?_⟩ <;> cbv

end Playback
end VisualNovel

import VisualNovel.Proofs.Playback.Sounds
import VisualNovel.Proofs.Player.Operations

/-!
# The deck plays what play takes to be playing

The playback keeps which music is playing, and the deck learns of it by commands only. A `Music` is
in step with the playback (`Music.InStep`) when the deck plays that music, or when nothing should
be playing and the deck is silent or still fading out its music. Commands of the playback keep them
in step, and so does the passing of time; `Player.music_inStep` says so for whole sessions. So a
fade that the playback asks for is always of the music on the deck.
-/

namespace VisualNovel
namespace Music

/-- The deck plays the given music, or it is silent or about to be when there is none. -/
def InStep (music : Music) : (bgm : Option String) → Prop
  | some id => music.deck.current = some id ∧ music.fade = none
  | none =>
    (music.deck.current = none ∧ music.fade = none) ∨
      ∃ fade, music.fade = some fade ∧ music.deck.current = some fade.audioId

variable {music : Music} {before after : Option String} {command : AudioCommand}
  {commands : List AudioCommand} {id : String}

/-- A silent deck is in step with silence. -/
theorem inStep_silent (fadeMilliseconds : Nat) : Music.InStep { fadeMilliseconds } none :=
  .inl ⟨rfl, rfl⟩

/-- The deck plays the music that fades out. -/
theorem InStep.current_of_changes (h : music.InStep before)
    (hchange : AudioCommand.Changes before (.fadeOutBgm id) after) :
    music.deck.current = some id := by
  cases hchange
  exact h.1

/-- A command keeps the deck in step with the music that it makes. -/
theorem InStep.execute (h : music.InStep before) (hchange : command.Changes before after) :
    (music.execute command).InStep after := by
  cases hchange with
  | playBgm before id =>
    simp only [Music.execute]
    split
    · next hplays =>
      -- the music goes on only when it plays and does not fade
      simp only [isFading, Bool.not_eq_true', Option.isSome_eq_false_iff, Option.isNone_iff_eq_none,
        Bool.and_eq_true, decide_eq_true_eq] at hplays
      exact ⟨hplays.2, hplays.1⟩
    · exact ⟨rfl, rfl⟩
  | stopBgm => exact .inl ⟨rfl, rfl⟩
  | fadeOutBgm id =>
    simp only [Music.execute, if_pos h.1]
    exact .inr ⟨_, rfl, h.1⟩
  | playSfx _ id =>
    cases before with
    | some playing => exact h
    | none => exact h

theorem InStep.executeAll (h : music.InStep before) (hsounds : Sounds before commands after) :
    (music.executeAll commands).InStep after := by
  induction hsounds generalizing music with
  | nil => exact h
  | cons hfirst _ ih => exact ih (h.execute hfirst)

/-- Time can only end a fade, and then nothing plays any more. -/
theorem InStep.tick (h : music.InStep before) (seconds : Float32) :
    (music.tick seconds).InStep before := by
  cases hfade : music.fade with
  | none =>
    simp only [Music.tick, hfade]
    exact h
  | some fade =>
    cases before with
    | some id =>
      rw [h.2] at hfade
      cases hfade
    | none =>
      have hcurrent : music.deck.current = some fade.audioId := by
        rcases h with ⟨-, hnone⟩ | ⟨other, hother, hcurrent⟩
        · rw [hnone] at hfade
          cases hfade
        · cases hother.symm.trans hfade
          exact hcurrent
      simp only [Music.tick, hfade, if_pos hcurrent]
      split
      · exact .inr ⟨_, rfl, hcurrent⟩
      · exact .inl ⟨rfl, rfl⟩

/-- Each fade among the commands begins on the deck when its turn comes. -/
def FadesBegin (music : Music) (commands : List AudioCommand) : Prop :=
  ∀ earlier id later, commands = earlier ++ .fadeOutBgm id :: later →
    let there := music.executeAll earlier
    there.deck.current = some id ∧
      there.execute (.fadeOutBgm id) =
        { there with
          deck := there.deck.fadeOut there.fadeMilliseconds
          fade := some ⟨id, seconds there.fadeMilliseconds⟩ }

theorem InStep.fadesBegin (h : music.InStep before) (hsounds : Sounds before commands after) :
    music.FadesBegin commands := by
  rintro earlier id later rfl
  obtain ⟨between, hearlier, hlater⟩ := hsounds.split
  cases hlater with
  | cons hchange =>
    have hcurrent := (h.executeAll hearlier).current_of_changes hchange
    exact ⟨hcurrent, by simp only [Music.execute, if_pos hcurrent]⟩

end Music

namespace Player

variable {σ : Type} {novel : Novel} {player : Player σ}

theorem Turns.inStep {turned : Player σ} (hturns : player.Turns turned)
    (h : player.music.InStep player.playback.shown.bgm) :
    turned.music.InStep turned.playback.shown.bgm := by
  cases hturns with
  | takes _ hcall =>
    rw [take_music, take_playback]
    exact h.executeAll (Playback.moves_of_call hcall).sounds
  | stays => exact h
  | ticks seconds => exact h.tick seconds
  | setsClock => exact h

theorem Reachable.inStep [SaveStore σ] (h : player.Reachable novel) :
    player.music.InStep player.playback.shown.bgm := by
  induction h with
  | start hstart =>
    obtain ⟨moved, hmoved, hplayback, hmusic⟩ := start_cases hstart
    rw [hplayback, hmusic]
    exact (Music.inStep_silent _).executeAll (Playback.start_sounds hmoved)
  | after _ operation ih => exact (turns_after operation).inStep ih
  | restock _ _ ih => exact ih

/-- In every state of a session, with a store of any content, the deck is in step with the music
that the playback takes to be playing. So each fade that a further call or a fresh start asks for
begins on the deck. -/
theorem music_inStep [SaveStore σ] (h : player.Reachable novel) :
    player.music.InStep player.playback.shown.bgm ∧
    (∀ call moved, player.playback.call call = .ok moved →
      player.music.FadesBegin moved.2.cues.commands) ∧
    ∀ fadeMilliseconds clock moved, Playback.start novel clock = .ok moved →
      Music.FadesBegin { fadeMilliseconds } moved.2.cues.commands := by
  refine ⟨h.inStep, ?_, ?_⟩
  · intro call moved hcall
    exact h.inStep.fadesBegin (Playback.moves_of_call hcall).sounds
  · intro fadeMilliseconds clock moved hstart
    exact (Music.inStep_silent fadeMilliseconds).fadesBegin (Playback.start_sounds hstart)

/-- The stroll on its road, come to through the gate. -/
def strollJump : Playback × Step :=
  Playback.strollStart.1.land
    ⟨⟨"road", 1⟩, ⟨⟨[⟨"ann", .left, none⟩], none⟩, none⟩, .command (.fadeOutBgm "song")⟩ true

/-- The song plays in the hall, and a jump to the gate fades it out. -/
theorem music_inStep_stroll :
    ∃ player : Player MemoryStore,
      Player.start .stroll {} MemoryStore.empty (.ofUnix 0) = .ok player ∧
      player.music.InStep (some "song") ∧
      player.playback.call (.jump "gate") = .ok strollJump ∧
      player.music.FadesBegin [.fadeOutBgm "song"] := by
  obtain ⟨player, hstart⟩ : ∃ player : Player MemoryStore,
      Player.start .stroll {} MemoryStore.empty (.ofUnix 0) = .ok player := by
    simp only [Player.start, Playback.start_stroll]
    exact ⟨_, rfl⟩
  obtain ⟨moved, hmoved, hplayback, -⟩ := start_cases hstart
  cases Playback.start_stroll.symm.trans hmoved
  have hjump : player.playback.call (.jump "gate") = .ok strollJump := by
    rw [hplayback]
    cbv
  obtain ⟨hinStep, hcalls, -⟩ := music_inStep (.start hstart)
  rw [hplayback] at hinStep
  exact ⟨player, hstart, hinStep, hjump, hcalls _ _ hjump⟩

end Player
end VisualNovel

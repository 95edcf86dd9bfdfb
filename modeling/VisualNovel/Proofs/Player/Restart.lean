import VisualNovel.Proofs.Music.Fades
import VisualNovel.Proofs.Playback.Muted
import VisualNovel.Proofs.Playback.Restart
import VisualNovel.Proofs.Player.Coherence
import VisualNovel.Proofs.Player.Offers

/-!
# What is heard after a restart

A restart stops the music that the playback takes to be playing, and then its deck is told what a
fresh one is told at a start. Music that is fading out is still on the deck, but the playback takes
nothing to be playing by then and does not stop it. Commands that play or stop music bring any deck
to sound like a fresh one (`Music.soundsLike_of_music`), and sound effects leave it alone.

So `Player.restart_heard` says that a session sounds after a restart as at a start, unless music was
fading out and the start scene has no music, and that the music fades on then.
`Player.restart_embers` shows such a session.
-/

namespace VisualNovel

/-- None of the commands is about music. -/
def Cues.IsQuiet (cues : Cues) : Prop :=
  ∀ command ∈ cues.commands, command.isEffect = true

namespace Music

variable {music music' : Music} {commands : List AudioCommand} {bgm after : Option String}

/-- The same music is on both decks, and it is fading out on both or on neither. -/
structure SoundsLike (music music' : Music) : Prop where
  current : music.deck.current = music'.deck.current
  isFading : music.isFading = music'.isFading

/-- When the same music is played on decks, they sound alike, whatever was before. -/
theorem soundsLike_playBgm (music music' : Music) (id : String) :
    (music.execute (.playBgm id)).SoundsLike (music'.execute (.playBgm id)) := by
  obtain ⟨hcurrent, hfading⟩ := music.execute_playBgm id
  obtain ⟨hcurrent', hfading'⟩ := music'.execute_playBgm id
  exact ⟨hcurrent.trans hcurrent'.symm, hfading.trans hfading'.symm⟩

/-- Music that is to fade out stays on the deck. -/
theorem current_fadeOutBgm (music : Music) (id : String) :
    (music.execute (.fadeOutBgm id)).deck.current = music.deck.current := by
  simp only [Music.execute]
  split <;> rfl

/-- Music on the deck fades out when it is told to. -/
theorem isFading_fadeOutBgm {id : String} (hcurrent : music.deck.current = some id) :
    (music.execute (.fadeOutBgm id)).isFading = true := by
  simp only [Music.execute, if_pos hcurrent]
  rfl

/-- Other music than that on the deck does not fade out. -/
theorem execute_fadeOutBgm_of_ne {id : String} (hcurrent : music.deck.current ≠ some id) :
    music.execute (.fadeOutBgm id) = music :=
  if_neg hcurrent

/-- A command keeps decks sounding alike. -/
theorem SoundsLike.execute (h : music.SoundsLike music') (command : AudioCommand) :
    (music.execute command).SoundsLike (music'.execute command) := by
  cases command with
  | playBgm id => exact soundsLike_playBgm music music' id
  | stopBgm => exact ⟨rfl, rfl⟩
  | fadeOutBgm id =>
    by_cases hcurrent : music.deck.current = some id
    · have hcurrent' : music'.deck.current = some id := h.current.symm.trans hcurrent
      refine ⟨?_, (isFading_fadeOutBgm hcurrent).trans (isFading_fadeOutBgm hcurrent').symm⟩
      rw [current_fadeOutBgm, current_fadeOutBgm, h.current]
    · have hcurrent' : music'.deck.current ≠ some id := h.current ▸ hcurrent
      rw [execute_fadeOutBgm_of_ne hcurrent, execute_fadeOutBgm_of_ne hcurrent']
      exact h
  | playSfx id => exact ⟨h.current, h.isFading⟩

theorem SoundsLike.executeAll (h : music.SoundsLike music') (commands : List AudioCommand) :
    (music.executeAll commands).SoundsLike (music'.executeAll commands) := by
  induction commands generalizing music music' with
  | nil => exact h
  | cons command commands ih => exact ih (h.execute command)

/-- Sound effects leave the music alone. -/
theorem executeAll_of_effects (heffects : ∀ command ∈ commands, command.isEffect = true)
    (music : Music) :
    (music.executeAll commands).deck.current = music.deck.current ∧
      (music.executeAll commands).fade = music.fade := by
  induction commands generalizing music with
  | nil => exact ⟨rfl, rfl⟩
  | cons command commands ih =>
    obtain ⟨hfirst, hrest⟩ := List.forall_mem_cons.1 heffects
    cases command with
    | playSfx id => exact ih hrest _
    | playBgm | stopBgm | fadeOutBgm => cases hfirst

/-- Commands that lead on from silence, with one about music among them, bring all decks to sound
alike: the first one about music plays or stops it. -/
theorem soundsLike_of_music (hsounds : Sounds none commands after)
    (hmusic : ∃ command ∈ commands, command.isEffect = false) (music music' : Music) :
    (music.executeAll commands).SoundsLike (music'.executeAll commands) := by
  induction commands generalizing music music' with
  | nil =>
    obtain ⟨command, hmem, -⟩ := hmusic
    cases hmem
  | cons command commands ih =>
    obtain _ | ⟨hfirst, hrest⟩ := hsounds
    cases hfirst with
    | playBgm _ id => exact (soundsLike_playBgm music music' id).executeAll commands
    | stopBgm =>
      have hstops : (music.execute .stopBgm).SoundsLike (music'.execute .stopBgm) := ⟨rfl, rfl⟩
      exact hstops.executeAll commands
    | playSfx _ id =>
      obtain ⟨command, hmem, hcommand⟩ := hmusic
      rcases List.mem_cons.1 hmem with rfl | hmem
      · cases hcommand
      · exact ih hrest ⟨command, hmem, hcommand⟩ _ _

/-- What a restart commands brings a deck that is in step to sound like a fresh one, unless its
music fades out and none is played or stopped. Then the music fades on. -/
theorem InStep.restarts (h : music.InStep bgm) {cues : Cues}
    (hsounds : Sounds none cues.commands after) (fadeMilliseconds : Nat) :
    let restarted :=
      music.executeAll ((if bgm.isSome then [.stopBgm] else []) ++ cues.commands)
    let fresh := Music.executeAll { fadeMilliseconds } cues.commands
    (music.isFading = true ∧ cues.IsQuiet → restarted.deck.current = music.deck.current ∧
      restarted.fade = music.fade ∧ fresh.deck.current = none ∧ fresh.fade = none) ∧
    (¬(music.isFading = true ∧ cues.IsQuiet) → restarted.SoundsLike fresh) := by
  intro restarted fresh
  cases bgm with
  | some id =>
    have hplays : music.isFading = false := by
      rw [isFading, h.2]
      rfl
    refine ⟨fun hfades => ?_, fun _ => ?_⟩
    · rw [hplays] at hfades
      cases hfades.1
    · have hstops : (music.execute .stopBgm).SoundsLike { fadeMilliseconds } := ⟨rfl, rfl⟩
      exact hstops.executeAll cues.commands
  | none =>
    by_cases hquiet : cues.IsQuiet
    · obtain ⟨hcurrent, hfade⟩ := executeAll_of_effects hquiet music
      obtain ⟨hsilent, hnone⟩ := executeAll_of_effects hquiet { fadeMilliseconds }
      refine ⟨fun _ => ⟨hcurrent, hfade, hsilent, hnone⟩, fun hnot => ?_⟩
      rcases h with ⟨hempty, hplain⟩ | ⟨fade, hfades, -⟩
      · have hlike : music.SoundsLike { fadeMilliseconds } := by
          refine ⟨hempty, ?_⟩
          rw [isFading, hplain]
          rfl
        exact hlike.executeAll cues.commands
      · refine absurd ⟨?_, hquiet⟩ hnot
        rw [isFading, hfades]
        rfl
    · have hmusic : ∃ command ∈ cues.commands, command.isEffect = false := by
        simpa [Cues.IsQuiet] using hquiet
      exact ⟨fun hfades => absurd hfades.2 hquiet, fun _ => soundsLike_of_music hsounds hmusic _ _⟩

end Music

namespace Player

variable {σ : Type} [SaveStore σ] {novel : Novel} {player : Player σ}

/-- When a start of the novel succeeds, a restart of a session does. The deck is then told to stop if
music was playing, and what it is told at the start. -/
theorem Reachable.restart_of_start (h : player.Reachable novel) {clock : Instant}
    {begun : Playback × Step} (hbegun : Playback.start novel clock = .ok begun) :
    player.restart.1 = .ok () ∧
    player.restart.2.music = player.music.executeAll
      ((if player.playback.shown.bgm.isSome then [.stopBgm] else []) ++ begun.2.cues.commands) := by
  obtain ⟨entry, hentry, hentry'⟩ := h.playback_reachable.exists_entry clock
  cases entry with
  | error e => cases hbegun.symm.trans hentry
  | ok landing =>
    cases hbegun.symm.trans hentry
    rw [restart_eq, hentry']
    refine ⟨rfl, (take_music _ _).trans ?_⟩
    exact congrArg (player.music.executeAll ·.commands)
      (player.playback.silencing_append landing.cues)

/-- After a restart of a session, whatever was playing, fading or stopped, a start of the novel
succeeds as well. The deck then plays what it plays after the start, and fades it out just when it
fades there, with one exception: when music was fading out and the start commands nothing about
music, the music goes on fading after the restart, where a start is silent. -/
theorem restart_heard (h : player.Reachable novel) (hrestart : player.restart.1 = .ok ())
    (options : PlayerOptions) (store : σ) (clock : Instant) :
    ∃ first fresh, Playback.start novel clock = .ok first ∧
      start novel options store clock = .ok fresh ∧
      (¬(player.music.isFading = true ∧ first.2.cues.IsQuiet) →
        player.restart.2.music.SoundsLike fresh.music) ∧
      (player.music.isFading = true ∧ first.2.cues.IsQuiet →
        player.restart.2.music.deck.current = player.music.deck.current ∧
        player.restart.2.music.fade = player.music.fade ∧
        fresh.music.deck.current = none ∧ fresh.music.fade = none) := by
  obtain ⟨entry, hentry, hentry'⟩ := h.playback_reachable.exists_entry clock
  cases entry with
  | error e =>
    rw [restart_eq, hentry'] at hrestart
    cases hrestart
  | ok landing =>
    obtain ⟨-, hheard⟩ := h.restart_of_start hentry
    obtain ⟨fresh, hfresh, -, -⟩ := exists_start hentry options store
    obtain ⟨begun, hbegun, -, hmusic⟩ := start_cases hfresh
    cases hentry.symm.trans hbegun
    obtain ⟨hfades, hlike⟩ :=
      h.inStep.restarts (Playback.start_sounds hentry) options.fadeMilliseconds
    refine ⟨_, fresh, hentry, hfresh, ?_⟩
    rw [hheard, hmusic]
    exact ⟨hlike, hfades⟩

/-- A jump takes the step of the playback's jump. -/
theorem after_jump {moved : Playback × Step} {sceneId : String}
    (h : player.playback.jump sceneId = .ok moved) :
    player.after (.jump sceneId) = player.take moved := by
  simp only [after, jump_eq, h, takeIfOk]

/-- At the gate of the stroll the song fades out. After a restart it plays and does not fade, as it
does at the start. -/
theorem restart_heard_stroll :
    ∃ player fresh : Player MemoryStore, player.Reachable .stroll ∧
      player.music.isFading = true ∧ player.restart.1 = .ok () ∧
      start .stroll {} MemoryStore.empty (.ofUnix 0) = .ok fresh ∧
      player.restart.2.music.SoundsLike fresh.music ∧
      fresh.music.deck.current = some "song" ∧ fresh.music.isFading = false := by
  obtain ⟨first, hstart, hplayback, -⟩ :=
    exists_start Playback.start_stroll {} MemoryStore.empty
  obtain ⟨moved, hmoved, -, hmusic⟩ := start_cases hstart
  cases Playback.start_stroll.symm.trans hmoved
  have hjump : first.playback.jump "gate" = .ok strollJump := by
    rw [hplayback]
    cbv
  have hreach : (first.after (.jump "gate")).Reachable .stroll := .after (.start hstart) _
  rw [after_jump hjump] at hreach
  have hsong := Music.execute_playBgm { fadeMilliseconds := 1500 } "song"
  have hfading : (first.take strollJump).music.isFading = true := by
    rw [take_music, hmusic]
    exact Music.isFading_fadeOutBgm hsong.1
  obtain ⟨hrestart, -⟩ := hreach.restart_of_start Playback.start_stroll
  obtain ⟨begun, fresh, hbegun, hfresh, hlike, -⟩ :=
    restart_heard hreach hrestart {} MemoryStore.empty (.ofUnix 0)
  cases Playback.start_stroll.symm.trans hbegun
  cases hstart.symm.trans hfresh
  have hplays : ¬Playback.strollStart.2.cues.IsQuiet := by
    intro hquiet
    cases hquiet (.playBgm "song") (.head _)
  refine ⟨_, first, hreach, hfading, hrestart, hstart, hlike fun h => hplays h.2, ?_⟩
  rw [hmusic]
  exact hsong

end Player

/-! ## Music that outlives a restart -/

/-- An evening without music, a fire with a song, and embers at which the song fades out. -/
def Novel.hearth : Novel :=
  { id := "hearth", title := "Hearth", author := "", description := "", coverImageUrl := none
    characters := [], backgrounds := [], audio := [⟨"song", "song", .bgm, ""⟩]
    chapters := [⟨"one", "One", [
      ⟨"evening", "Evening", [.narration ⟨"e1", "It gets dark."⟩]⟩,
      ⟨"fire", "Fire", [.audio ⟨"f1", "song", .play⟩, .narration ⟨"f2", "The fire burns."⟩]⟩,
      ⟨"embers", "Embers", [.audio ⟨"m1", "song", .fadeOut⟩, .narration ⟨"m2", "It dies down."⟩]⟩]⟩]
    startSceneId := "evening", createdAt := none, updatedAt := none }

namespace Player

/-- The evening at the hearth. -/
def hearthEvening : Playback × Step :=
  (Playback.blank .hearth (.ofUnix 0)).land ⟨⟨"evening", 0⟩, ⟨⟨[], none⟩, none⟩, .none⟩ true

/-- The fire, come to from the evening. -/
def hearthFire : Playback × Step :=
  hearthEvening.1.land ⟨⟨"fire", 1⟩, ⟨⟨[], none⟩, some "song"⟩, .command (.playBgm "song")⟩ true

/-- The embers, come to from the fire. -/
def hearthEmbers : Playback × Step :=
  hearthFire.1.land ⟨⟨"embers", 1⟩, ⟨⟨[], none⟩, none⟩, .command (.fadeOutBgm "song")⟩ true

/-- A restart at the embers leaves the song of the fire on the deck, where it goes on fading out. A
start of the novel is silent. -/
theorem restart_embers :
    ∃ player fresh : Player MemoryStore, player.Reachable .hearth ∧ player.restart.1 = .ok () ∧
      start .hearth {} MemoryStore.empty (.ofUnix 0) = .ok fresh ∧
      player.restart.2.music.deck.current = some "song" ∧
      player.restart.2.music.isFading = true ∧
      fresh.music.deck.current = none ∧ fresh.music.isFading = false := by
  have hevening : Playback.start .hearth (.ofUnix 0) = .ok hearthEvening := by cbv
  obtain ⟨first, hstart, hplayback, -⟩ := exists_start hevening {} MemoryStore.empty
  obtain ⟨begun, hbegun, -, hmusic⟩ := start_cases hstart
  cases hevening.symm.trans hbegun
  have hfire : first.playback.jump "fire" = .ok hearthFire := by
    rw [hplayback]
    cbv
  have hembers : (first.take hearthFire).playback.jump "embers" = .ok hearthEmbers := by
    rw [take_playback]
    cbv
  have hreach : ((first.after (.jump "fire")).after (.jump "embers")).Reachable .hearth :=
    .after (.after (.start hstart) _) _
  rw [after_jump hfire, after_jump hembers] at hreach
  have hheard : ((first.take hearthFire).take hearthEmbers).music
      = (({ fadeMilliseconds := 1500 } : Music).execute (.playBgm "song")).execute
          (.fadeOutBgm "song") := by
    rw [take_music, take_music, hmusic]
    rfl
  obtain ⟨hrestart, hrestarted⟩ := hreach.restart_of_start hevening
  have hnothing : (if hearthEmbers.1.shown.bgm.isSome then [AudioCommand.stopBgm] else [])
      ++ hearthEvening.2.cues.commands = [] := rfl
  rw [take_playback, hheard, hnothing, Music.executeAll, List.foldl_nil] at hrestarted
  obtain ⟨hsong, -⟩ := Music.execute_playBgm { fadeMilliseconds := 1500 } "song"
  refine ⟨_, first, hreach, hrestart, hstart, ?_⟩
  rw [hrestarted, hmusic]
  exact ⟨(Music.current_fadeOutBgm _ _).trans hsong, Music.isFading_fadeOutBgm hsong, rfl, rfl⟩

end Player
end VisualNovel

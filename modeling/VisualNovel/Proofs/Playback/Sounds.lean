import VisualNovel.Proofs.Playback.Calls

/-!
# Audio commands tell what is playing

Play does not tell the deck which music it takes to be playing, only the commands that lead there.
`Sounds before commands bgm` says that commands lead from the one music to the other, and that each
fade among them is of the music playing by then. Every call gives such commands
(`Playback.Moves.sounds`), however many nodes and scenes it went through.
-/

namespace VisualNovel

/-- What a command makes of the music that is playing. Only music that is playing fades out. -/
inductive AudioCommand.Changes : Option String → AudioCommand → Option String → Prop
  | playBgm (before : Option String) (id : String) : Changes before (.playBgm id) (some id)
  | stopBgm (before : Option String) : Changes before .stopBgm none
  | fadeOutBgm (id : String) : Changes (some id) (.fadeOutBgm id) none
  | playSfx (bgm : Option String) (id : String) : Changes bgm (.playSfx id) bgm

/-- Commands lead from one music to another. -/
inductive Sounds : Option String → List AudioCommand → Option String → Prop
  | nil (bgm : Option String) : Sounds bgm [] bgm
  | cons {before between after : Option String} {command : AudioCommand}
      {commands : List AudioCommand} (hfirst : command.Changes before between)
      (hrest : Sounds between commands after) : Sounds before (command :: commands) after

namespace Sounds

variable {before between after : Option String} {commands others : List AudioCommand}

theorem single {command : AudioCommand} (h : command.Changes before after) :
    Sounds before [command] after :=
  .cons h (.nil after)

/-- Commands that lead on from where others led follow them. -/
theorem append (hfirst : Sounds before commands between) (hrest : Sounds between others after) :
    Sounds before (commands ++ others) after := by
  induction hfirst with
  | nil => exact hrest
  | cons hcommand _ ih => exact .cons hcommand (ih hrest)

/-- Commands can be cut anywhere. -/
theorem split (h : Sounds before (commands ++ others) after) :
    ∃ between, Sounds before commands between ∧ Sounds between others after := by
  induction commands generalizing before with
  | nil => exact ⟨before, .nil before, h⟩
  | cons command commands ih =>
    cases h with
    | cons hcommand hrest =>
      obtain ⟨between, hfirst, hlast⟩ := ih hrest
      exact ⟨between, .cons hcommand hfirst, hlast⟩

end Sounds

/-! ## Nodes and runs -/

section
variable (novel : Novel) (shown : Performance) (node : Node)

/-- An audio node changes the music by what it commands. -/
theorem Novel.directAudio_sounds (bgm : Option String) (cue : AudioCue) :
    Sounds bgm (novel.directAudio bgm cue).2.commands (novel.directAudio bgm cue).1 := by
  obtain ⟨nodeId, audioId, action⟩ := cue
  simp only [directAudio]
  cases novel.audioAsset? audioId with
  | none => exact .nil bgm
  | some asset =>
    obtain ⟨id, name, kind, url⟩ := asset
    cases kind <;> cases action
    case bgm.play =>
      dsimp only
      split
      · exact .nil bgm
      · exact .single (.playBgm bgm id)
    case bgm.stop =>
      cases bgm with
      | none => exact .nil none
      | some playing => exact .single (.stopBgm (some playing))
    case bgm.fadeOut =>
      cases bgm with
      | none => exact .nil none
      | some playing => exact .single (.fadeOutBgm playing)
    case sfx.play => exact .single (.playSfx bgm id)
    case sfx.stop => exact .nil bgm
    case sfx.fadeOut => exact .nil bgm

/-- A character or background node commands nothing. -/
theorem Novel.direct_sounds :
    Sounds shown.bgm (novel.direct shown node).2.commands (novel.direct shown node).1.bgm := by
  cases node with
  | audio cue => exact novel.directAudio_sounds shown.bgm cue
  | character cue =>
    simp only [direct, directCharacter]
    cases novel.character? cue.characterId <;> exact .nil shown.bgm
  | background cue =>
    simp only [direct, directBackground]
    cases novel.background? cue.backgroundId <;> exact .nil shown.bgm
  | dialogue | narration | choice | jump => exact .nil shown.bgm

/-- A speaker commands nothing. -/
theorem Novel.speak_sounds :
    Sounds shown.bgm (novel.speak shown node).2.commands (novel.speak shown node).1.bgm := by
  cases node with
  | dialogue line =>
    simp only [speak, enterSpeaker]
    split
    · exact .nil shown.bgm
    · split <;> exact .nil shown.bgm
  | narration | choice | background | character | audio | jump => exact .nil shown.bgm

end

section
variable {novel : Novel} {reader next : Reader} {cues new : Cues} {landing : Landing} {n : Nat}
  {before : Option String}

/-- A step commands what it makes of the music, and the music goes on from scene to scene. -/
theorem Reader.step_goes_sounds (hstep : reader.step novel = .goes next new) :
    Sounds reader.shown.bgm new.commands next.shown.bgm := by
  obtain ⟨scene, node, -, -, ⟨jump, -, rfl, rfl⟩ | ⟨-, rfl, rfl⟩⟩ := step_goes hstep
  · exact .nil reader.shown.bgm
  · exact novel.direct_sounds reader.shown node

theorem Reader.step_halts_sounds (hstep : reader.step novel = .halts landing) :
    Sounds reader.shown.bgm landing.cues.commands landing.shown.bgm := by
  obtain ⟨scene, -, ⟨node, -, -, rfl⟩ | ⟨-, -, rfl⟩⟩ := step_halts hstep
  · exact novel.speak_sounds reader.shown node
  · exact .nil reader.shown.bgm

/-- The commands of a whole run lead from the music before it to that of the landing. -/
theorem Reader.run_sounds (hcues : Sounds before cues.commands reader.shown.bgm)
    (hrun : reader.run novel n cues = some (.ok landing)) :
    Sounds before landing.cues.commands landing.shown.bgm := by
  obtain ⟨last, sofar, final, hsofar, hhalts, rfl⟩ :=
    run_invariant (fun reader cues => Sounds before cues.commands reader.shown.bgm)
      (fun _ _ _ _ h hstep => h.append (step_goes_sounds hstep)) hcues hrun
  exact hsofar.append (step_halts_sounds hhalts)

end

/-! ## Calls -/

namespace Playback

variable {playback : Playback} {call : Call} {moved : Playback × Step} {reader : Reader}
  {cues : Cues}

/-- A call departs with the music that is playing, a restart after having stopped it. -/
theorem Departs.sounds (hdep : playback.Departs call reader cues) :
    Sounds playback.shown.bgm cues.commands reader.shown.bgm := by
  cases hdep with
  | advance | choose | jump => exact .nil playback.shown.bgm
  | restart =>
    cases hbgm : playback.shown.bgm with
    | none => exact .nil none
    | some playing => exact .single (.stopBgm (some playing))

/-- The commands of a call lead from the music before it to that after it. -/
theorem Moves.sounds (h : playback.Moves call moved) :
    Sounds playback.shown.bgm moved.2.cues.commands moved.1.shown.bgm := by
  cases h with
  | stays => exact .nil playback.shown.bgm
  | lands hdep hrun => exact Reader.run_sounds hdep.sounds hrun
  | @loads save =>
    simp only [loaded]
    cases save.bgm with
    | none => exact .single (.stopBgm playback.shown.bgm)
    | some id => exact .single (.playBgm playback.shown.bgm id)

/-- The commands of a start lead from silence to the music after it. -/
theorem start_sounds {novel : Novel} {clock : Instant} (h : start novel clock = .ok moved) :
    Sounds none moved.2.cues.commands moved.1.shown.bgm := by
  obtain ⟨-, n, hrun⟩ := run_of_start h
  exact Reader.run_sounds (.nil none) hrun

end Playback
end VisualNovel

import VisualNovel.Proofs.Playback.Reachable
import VisualNovel.Proofs.Stage.Cast

/-!
# What is seen and heard is declared

The stage shows only characters and backgrounds of the novel, each character once, and the music is
music of the novel (`Performance.IsDeclared`). Commands play and fade out only such music, and play
only sound effects of the novel (`Cues.AreDeclared`). Both are kept by single nodes, since a node
with a reference that the novel does not declare changes nothing. `Playback.shows_declared` says so
for all states of play and all commands of their calls.
-/

namespace VisualNovel

/-! ## What is declared -/

/-- The novel finds an asset of the kind under the id. -/
def Novel.HasAudio (novel : Novel) (kind : AudioKind) (id : String) : Prop :=
  ∃ asset, novel.audioAsset? id = some asset ∧ asset.kind = kind

/-- The stage shows nothing but what the novel declares, and each character once. -/
structure Stage.IsDeclared (novel : Novel) (stage : Stage) : Prop where
  once : stage.castIds.Nodup
  characters : ∀ id ∈ stage.castIds, ∃ character ∈ novel.characters, character.id = id
  background : ∀ id, stage.backgroundId = some id →
    ∃ background ∈ novel.backgrounds, background.id = id

/-- The stage is declared, and the music is music of the novel. -/
structure Performance.IsDeclared (novel : Novel) (shown : Performance) : Prop where
  stage : shown.stage.IsDeclared novel
  bgm : ∀ id, shown.bgm = some id → novel.HasAudio .bgm id

/-- The command is about an asset of the novel of the right kind. -/
def AudioCommand.IsDeclared (novel : Novel) : AudioCommand → Prop
  | .playBgm id | .fadeOutBgm id => novel.HasAudio .bgm id
  | .playSfx id => novel.HasAudio .sfx id
  | .stopBgm => True

/-- All commands among the cues are about assets of the right kind. -/
def Cues.AreDeclared (novel : Novel) (cues : Cues) : Prop :=
  ∀ command ∈ cues.commands, command.IsDeclared novel

section
variable {novel : Novel} {stage : Stage} {shown : Performance} {cues others : Cues}

/-- There is nothing undeclared in no cues. -/
theorem Cues.areDeclared_none : Cues.none.AreDeclared novel :=
  nofun

/-- A warning about what is missing commands nothing. -/
theorem Cues.areDeclared_missing (kind : ReferenceKind) (id nodeId : String) :
    (Cues.missing kind id nodeId).AreDeclared novel :=
  nofun

/-- A cue with one command is declared when the command is. -/
theorem Cues.areDeclared_command {command : AudioCommand} (h : command.IsDeclared novel) :
    (Cues.command command).AreDeclared novel := by
  intro other hother
  cases List.mem_singleton.1 hother
  exact h

/-- Declared cues may be put together. -/
theorem Cues.AreDeclared.append (h : cues.AreDeclared novel) (hothers : others.AreDeclared novel) :
    (cues ++ others).AreDeclared novel := by
  intro command hcommand
  rcases List.mem_append.1 hcommand with hold | hnew
  · exact h command hold
  · exact hothers command hnew

/-- Nobody stands on the empty stage, and it has no background. -/
theorem Stage.isDeclared_empty : Stage.empty.IsDeclared novel where
  once := .nil
  characters := nofun
  background := nofun

/-- A character that the look-up finds is one of the novel's. -/
theorem Novel.exists_character {id : String} {character : Character}
    (h : novel.character? id = some character) :
    ∃ character ∈ novel.characters, character.id = id :=
  ⟨character, List.mem_of_find?_eq_some h, by simpa using List.find?_some h⟩

/-- A background that is found is declared. -/
theorem Novel.exists_background {id : String} {background : Background}
    (h : novel.background? id = some background) :
    ∃ background ∈ novel.backgrounds, background.id = id :=
  ⟨background, List.mem_of_find?_eq_some h, by simpa using List.find?_some h⟩

/-- An asset that was found is found again under its own id. -/
theorem Novel.hasAudio_id {id : String} {asset : AudioAsset}
    (h : novel.audioAsset? id = some asset) : novel.HasAudio asset.kind asset.id := by
  have hid : asset.id = id := by simpa using List.find?_some h
  rw [hid]
  exact ⟨asset, h, rfl⟩

/-- Silence is no music that would have to be declared. -/
theorem Novel.hasAudio_of_none (id : String) (h : none = some id) : novel.HasAudio .bgm id := by
  cases h

/-! ## Single nodes -/

/-- A stage with no more characters than a declared one is declared. -/
theorem Stage.IsDeclared.of_sublist {other : Stage} (h : stage.IsDeclared novel)
    (hids : other.castIds.Sublist stage.castIds)
    (hbackground : other.backgroundId = stage.backgroundId) : other.IsDeclared novel where
  once := h.once.sublist hids
  characters id hid := h.characters id (hids.subset hid)
  background id hid := h.background id (hbackground ▸ hid)

/-- Changes of a placement that leave its character keep the stage declared. -/
theorem Stage.IsDeclared.update (h : stage.IsDeclared novel) {f : Placement → Placement}
    (hf : ∀ entry, (f entry).characterId = entry.characterId) (id : String) :
    (stage.update id f).IsDeclared novel := by
  refine h.of_sublist ?_ rfl
  rw [castIds_update hf]

/-- A character of the novel who is not on screen may enter. -/
theorem Stage.IsDeclared.add (h : stage.IsDeclared novel) {entry : Placement}
    (hnew : entry.characterId ∉ stage.castIds)
    (hcharacter : ∃ character ∈ novel.characters, character.id = entry.characterId) :
    (stage.add entry).IsDeclared novel := by
  refine ⟨nodup_castIds_add h.once hnew, ?_, h.background⟩
  intro id hid
  rw [castIds_add] at hid
  rcases List.mem_append.1 hid with hold | hlast
  · exact h.characters id hold
  · rw [List.mem_singleton.1 hlast]
    exact hcharacter

/-- A character node about a character of the novel keeps the stage declared. -/
theorem Stage.IsDeclared.act (h : stage.IsDeclared novel) {cue : CharacterCue}
    (hcharacter : ∃ character ∈ novel.characters, character.id = cue.characterId) :
    (stage.act cue).IsDeclared novel := by
  simp only [Stage.act]
  cases cue.action with
  | enter =>
    dsimp only
    split
    · refine h.update ?_ _
      exact fun _ => rfl
    · next hoff => exact h.add (mt isOnScreen_iff.2 hoff) hcharacter
  | exit =>
    refine h.of_sublist ?_ rfl
    rw [castIds_remove]
    exact List.filter_sublist
  | move =>
    refine h.update ?_ _
    exact fun _ => rfl

/-- A node about a character lets only declared ones onto the stage. -/
theorem Novel.directCharacter_declared (h : stage.IsDeclared novel) (cue : CharacterCue) :
    (novel.directCharacter stage cue).1.IsDeclared novel ∧
      (novel.directCharacter stage cue).2.AreDeclared novel := by
  simp only [directCharacter]
  cases hfound : novel.character? cue.characterId with
  | none => exact ⟨h, Cues.areDeclared_missing _ _ _⟩
  | some character => exact ⟨h.act (exists_character hfound), Cues.areDeclared_none⟩

/-- A node about a background puts up only a declared one. -/
theorem Novel.directBackground_declared (h : stage.IsDeclared novel) (cue : BackgroundCue) :
    (novel.directBackground stage cue).1.IsDeclared novel ∧
      (novel.directBackground stage cue).2.AreDeclared novel := by
  simp only [directBackground]
  cases hfound : novel.background? cue.backgroundId with
  | none => exact ⟨h, Cues.areDeclared_missing _ _ _⟩
  | some background =>
    refine ⟨⟨h.once, h.characters, ?_⟩, Cues.areDeclared_none⟩
    intro id hid
    cases hid
    exact exists_background hfound

/-- What an audio node plays is of the kind of the asset that it refers to, and what it fades out
has been playing. -/
theorem Novel.directAudio_declared {bgm : Option String}
    (h : ∀ id, bgm = some id → novel.HasAudio .bgm id) (cue : AudioCue) :
    (∀ id, (novel.directAudio bgm cue).1 = some id → novel.HasAudio .bgm id) ∧
      (novel.directAudio bgm cue).2.AreDeclared novel := by
  simp only [directAudio]
  cases hfound : novel.audioAsset? cue.audioId with
  | none => exact ⟨h, Cues.areDeclared_missing _ _ _⟩
  | some asset =>
    have hasset := hasAudio_id hfound
    dsimp only
    split
    · next hkind _ =>
      rw [hkind] at hasset
      split
      · exact ⟨h, Cues.areDeclared_none⟩
      · refine ⟨?_, Cues.areDeclared_command hasset⟩
        intro id hid
        cases hid
        exact hasset
    · cases bgm with
      | none => exact ⟨h, Cues.areDeclared_none⟩
      | some playing => exact ⟨hasAudio_of_none, Cues.areDeclared_command trivial⟩
    · cases bgm with
      | none => exact ⟨h, Cues.areDeclared_none⟩
      | some playing => exact ⟨hasAudio_of_none, Cues.areDeclared_command (h playing rfl)⟩
    · next hkind _ =>
      rw [hkind] at hasset
      exact ⟨h, Cues.areDeclared_command hasset⟩
    · exact ⟨h, Cues.areDeclared_none⟩
    · exact ⟨h, Cues.areDeclared_none⟩

/-- A direction keeps what is seen and heard declared. -/
theorem Novel.direct_declared (h : shown.IsDeclared novel) (node : Node) :
    (novel.direct shown node).1.IsDeclared novel ∧
      (novel.direct shown node).2.AreDeclared novel := by
  cases node with
  | character cue =>
    obtain ⟨hstage, hcues⟩ := novel.directCharacter_declared h.stage cue
    exact ⟨⟨hstage, h.bgm⟩, hcues⟩
  | background cue =>
    obtain ⟨hstage, hcues⟩ := novel.directBackground_declared h.stage cue
    exact ⟨⟨hstage, h.bgm⟩, hcues⟩
  | audio cue =>
    obtain ⟨hbgm, hcues⟩ := novel.directAudio_declared h.bgm cue
    exact ⟨⟨h.stage, hbgm⟩, hcues⟩
  | dialogue | narration | choice | jump => exact ⟨h, Cues.areDeclared_none⟩

/-- A speaker who comes on stage is one of the novel's. -/
theorem Novel.speak_declared (h : shown.IsDeclared novel) (node : Node) :
    (novel.speak shown node).1.IsDeclared novel ∧ (novel.speak shown node).2.AreDeclared novel := by
  cases node with
  | dialogue line =>
    simp only [speak, enterSpeaker]
    split
    · exact ⟨h, Cues.areDeclared_none⟩
    · next hoff =>
      cases hfound : novel.character? line.characterId with
      | none => exact ⟨h, Cues.areDeclared_missing _ _ _⟩
      | some character =>
        have hnew : line.characterId ∉ shown.stage.castIds := mt Stage.isOnScreen_iff.2 hoff
        exact ⟨⟨h.stage.add hnew (exists_character hfound), h.bgm⟩, Cues.areDeclared_none⟩
  | narration | choice | background | character | audio | jump =>
    exact ⟨h, Cues.areDeclared_none⟩

end

/-! ## Runs -/

section
variable {novel : Novel} {reader next : Reader} {cues new : Cues} {landing : Landing} {n : Nat}

/-- An entry drops the stage and keeps the music. -/
theorem Reader.before_declared {bgm : Option String}
    (h : ∀ id, bgm = some id → novel.HasAudio .bgm id) (sceneId : String) :
    (Reader.before sceneId bgm).shown.IsDeclared novel :=
  ⟨Stage.isDeclared_empty, h⟩

/-- A step of a reader that goes on brings in nothing undeclared. -/
theorem Reader.step_goes_declared (h : reader.shown.IsDeclared novel)
    (hstep : reader.step novel = .goes next new) :
    next.shown.IsDeclared novel ∧ new.AreDeclared novel := by
  obtain ⟨scene, node, -, -, ⟨jump, -, rfl, rfl⟩ | ⟨-, rfl, rfl⟩⟩ := step_goes hstep
  · exact ⟨before_declared h.bgm _, Cues.areDeclared_none⟩
  · exact novel.direct_declared h node

/-- A step of a reader that halts brings in nothing undeclared. -/
theorem Reader.step_halts_declared (h : reader.shown.IsDeclared novel)
    (hstep : reader.step novel = .halts landing) :
    landing.shown.IsDeclared novel ∧ landing.cues.AreDeclared novel := by
  obtain ⟨scene, -, ⟨node, -, -, rfl⟩ | ⟨-, -, rfl⟩⟩ := step_halts hstep
  · exact novel.speak_declared h node
  · exact ⟨h, Cues.areDeclared_none⟩

/-- That what is seen and heard is declared is an invariant of play. -/
theorem Novel.declared_invariant (novel : Novel) :
    novel.Invariant NoForeign (·.shown.IsDeclared novel) (fun _ shown => shown.IsDeclared novel) where
  starts := Reader.before_declared Novel.hasAudio_of_none _
  enters id h := Reader.before_declared h.bgm id
  advances h _ _ _ := h
  goes h hstep := (Reader.step_goes_declared h hstep).1
  halts h hstep := (Reader.step_halts_declared h hstep).1
  loads h := h.elim

/-- All commands of a run are declared. -/
theorem Reader.run_declared (h : reader.shown.IsDeclared novel) (hcues : cues.AreDeclared novel)
    (hrun : reader.run novel n cues = some (.ok landing)) : landing.cues.AreDeclared novel := by
  obtain ⟨last, sofar, final, ⟨hlast, hsofar⟩, hhalts, rfl⟩ :=
    run_invariant (fun reader cues => reader.shown.IsDeclared novel ∧ cues.AreDeclared novel)
      (fun _ _ _ _ h hstep =>
        ⟨(step_goes_declared h.1 hstep).1, h.2.append (step_goes_declared h.1 hstep).2⟩)
      ⟨h, hcues⟩ hrun
  exact hsofar.append (step_halts_declared hlast hhalts).2

end

/-! ## Calls -/

namespace Playback

variable {novel : Novel} {playback : Playback} {call : Call} {moved : Playback × Step}

/-- The command that brings back music of the novel is declared. -/
theorem musicCommand_declared {bgm : Option String}
    (h : ∀ id, bgm = some id → novel.HasAudio .bgm id) :
    (Cues.command (musicCommand bgm)).AreDeclared novel := by
  cases bgm with
  | none => exact Cues.areDeclared_command trivial
  | some id => exact Cues.areDeclared_command (h id rfl)

/-- The commands of a call are declared, if what is seen and heard is, and what a save that is
loaded holds. -/
theorem Moves.declared (hnovel : playback.novel = novel) (h : playback.shown.IsDeclared novel)
    (hload : ∀ save, call = .load save → ∀ id, save.bgm = some id → novel.HasAudio .bgm id)
    (hmoves : playback.Moves call moved) : moved.2.cues.AreDeclared novel := by
  cases hmoves with
  | stays => exact Cues.areDeclared_none
  | lands hdep hrun =>
    have hreading := novel.declared_invariant.of_departs hnovel h hdep
    rw [hnovel] at hrun
    refine Reader.run_declared hreading ?_ hrun
    cases hdep with
    | advance | choose | jump => exact Cues.areDeclared_none
    | restart =>
      split
      · exact Cues.areDeclared_command trivial
      · exact Cues.areDeclared_none
  | loads => exact musicCommand_declared (hload _ rfl)

/-- The call loads no save but one that was taken in the novel's play. -/
def LoadsOwn (novel : Novel) (call : Call) : Prop :=
  ∀ save, call = .load save → ∃ other : Playback, other.Reachable novel NoForeign ∧ save = other.save

/-- In every state of play, the stage shows characters of the novel, each once, before a background
of the novel, and the music is music of the novel. The commands that come with a call, a start or a
resumption play and fade out such music only, and play sound effects of the novel only. -/
theorem shows_declared (h : playback.Reachable novel NoForeign) :
    playback.shown.IsDeclared novel ∧
    (∀ call moved, LoadsOwn novel call → playback.call call = .ok moved →
      moved.2.cues.AreDeclared novel) ∧
    (∀ clock moved, resume novel clock playback.save = .ok moved →
      moved.2.cues.AreDeclared novel) ∧
    ∀ clock moved, start novel clock = .ok moved → moved.2.cues.AreDeclared novel := by
  obtain ⟨hnovel, hshown⟩ := novel.declared_invariant.of_reachable h
  refine ⟨hshown, ?_, ?_, ?_⟩
  · intro call moved hown hcall
    refine Moves.declared hnovel hshown ?_ (moves_of_call hcall)
    intro save hsave id hid
    obtain ⟨other, hother, rfl⟩ := hown save hsave
    exact (novel.declared_invariant.of_reachable hother).2.bgm id hid
  · intro clock moved hresume
    cases moves_of_resume hresume with
    | lands hdep => cases hdep
    | loads => exact musicCommand_declared hshown.bgm
  · intro clock moved hstart
    obtain ⟨-, n, hrun⟩ := run_of_start hstart
    exact Reader.run_declared (Reader.before_declared Novel.hasAudio_of_none _) Cues.areDeclared_none hrun

/-- At the choice of the stroll the song of the novel plays, and the way out fades it out. -/
theorem shows_declared_stroll :
    strollChoice.Reachable .stroll NoForeign ∧ strollChoice.shown.IsDeclared .stroll ∧
    strollChoice.shown.bgm = some "song" ∧
    ∃ moved, strollChoice.call (.choose "out") = .ok moved ∧
      moved.2.cues.commands = [.fadeOutBgm "song"] ∧ moved.2.cues.AreDeclared .stroll := by
  have hreach : strollChoice.Reachable .stroll NoForeign := .call (.start start_stroll) .advance nofun
  have hbgm : strollChoice.shown.bgm = some "song" := by cbv
  obtain ⟨moved, hcall, hcommands⟩ : ∃ moved, strollChoice.call (.choose "out") = .ok moved ∧
      moved.2.cues.commands = [.fadeOutBgm "song"] := by
    refine ⟨{ strollChoice with history := strollChoice.noted (.choose "out") }.land ⟨⟨"road", 1⟩,
      ⟨⟨[⟨"ann", .left, none⟩], none⟩, none⟩, .command (.fadeOutBgm "song")⟩ true, ?_, rfl⟩
    cbv
  obtain ⟨hshown, hcommand, -⟩ := shows_declared hreach
  have hown : LoadsOwn .stroll (.choose "out") := by
    intro save hsave
    cases hsave
  exact ⟨hreach, hshown, hbgm, moved, hcall, hcommands, hcommand _ _ hown hcall⟩

end Playback
end VisualNovel

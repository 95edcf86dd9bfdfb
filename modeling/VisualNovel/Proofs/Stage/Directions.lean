import VisualNovel.Proofs.Stage.Cast
import VisualNovel.Stage.Direction

/-!
# What directions change

A background, character or audio node refers to something under an id, and changes nothing when the
novel does not declare it. A character node changes the entry of its character and no other
(`CharacterCue.Changes`, which leaves one stage only, by `CharacterCue.Changes.unique`), a
background node the background, an audio node the music, and a speaker who is not on screen comes
last, at the first free position (`Stage.Offers`).

`Novel.changes_subject_only` puts this together, and carries what nodes leave alone over all
sequences of them (`Spares`): the entries of characters whom none of them is about stay as they
were, and in their order.
-/

namespace VisualNovel

/-! ## What nodes refer to -/

/-- What a node that directs refers to, and under which id. -/
def Node.reference? : Node → Option (ReferenceKind × String)
  | character cue => some (.character, cue.characterId)
  | background cue => some (.background, cue.backgroundId)
  | audio cue => some (.audio, cue.audioId)
  | dialogue _ | narration _ | choice _ | jump _ => none

/-- The character whom a node is about. -/
def Node.subject? : Node → Option String
  | character cue => some cue.characterId
  | dialogue line => some line.characterId
  | narration _ | choice _ | background _ | audio _ | jump _ => none

namespace Novel

/-- The novel declares something of the kind under the id. -/
def Declares (novel : Novel) : ReferenceKind → String → Prop
  | .character, id => ∃ character ∈ novel.characters, character.id = id
  | .background, id => ∃ background ∈ novel.backgrounds, background.id = id
  | .audio, id => ∃ asset ∈ novel.audio, asset.id = id

variable {novel : Novel} {shown : Performance} {node : Node} {kind : ReferenceKind} {id : String}

/-- A character is found when it is declared. -/
theorem character?_isSome_iff : (novel.character? id).isSome ↔ novel.Declares .character id := by
  simp [character?, Declares]

/-- A background is found when it is declared. -/
theorem background?_isSome_iff : (novel.background? id).isSome ↔ novel.Declares .background id := by
  simp [background?, Declares]

/-- A piece of audio is found when it is declared. -/
theorem audioAsset?_isSome_iff : (novel.audioAsset? id).isSome ↔ novel.Declares .audio id := by
  simp [audioAsset?, Declares]

/-- A character is missing when it is not declared. -/
theorem character?_eq_none_iff : novel.character? id = none ↔ ¬novel.Declares .character id := by
  rw [← character?_isSome_iff, Option.not_isSome_iff_eq_none]

/-- A node whose reference is not declared changes nothing, and warns of it. -/
theorem direct_of_not_declares (href : node.reference? = some (kind, id))
    (hmissing : ¬novel.Declares kind id) :
    novel.direct shown node = (shown, { warnings := [⟨kind, id, node.id⟩] }) := by
  cases node with
  | character cue =>
    cases href
    simp only [direct, directCharacter, character?_eq_none_iff.2 hmissing]
    rfl
  | background cue =>
    cases href
    rw [← background?_isSome_iff, Option.not_isSome_iff_eq_none] at hmissing
    simp only [direct, directBackground, hmissing]
    rfl
  | audio cue =>
    cases href
    rw [← audioAsset?_isSome_iff, Option.not_isSome_iff_eq_none] at hmissing
    simp only [direct, directAudio, hmissing]
    rfl
  | dialogue | narration | choice | jump => cases href

/-- A node about a declared character lets it act. -/
theorem direct_character {cue : CharacterCue} (h : novel.Declares .character cue.characterId) :
    novel.direct shown (.character cue)
      = ({ shown with stage := shown.stage.act cue }, .none) := by
  obtain ⟨character, hfound⟩ := Option.isSome_iff_exists.1 (character?_isSome_iff.2 h)
  simp only [direct, directCharacter, hfound]

/-- A node about a declared background puts it up. -/
theorem direct_background {cue : BackgroundCue} (h : novel.Declares .background cue.backgroundId) :
    novel.direct shown (.background cue)
      = ({ shown with stage := { shown.stage with backgroundId := some cue.backgroundId } },
          .none) := by
  obtain ⟨background, hfound⟩ := Option.isSome_iff_exists.1 (background?_isSome_iff.2 h)
  simp only [direct, directBackground, hfound]

/-- An audio node whose asset is declared warns of nothing. -/
theorem warnings_directAudio {cue : AudioCue} {asset : AudioAsset}
    (h : novel.audioAsset? cue.audioId = some asset) (bgm : Option String) :
    (novel.directAudio bgm cue).2.warnings = [] := by
  simp only [directAudio, h]
  split
  · split <;> rfl
  · cases bgm <;> rfl
  · cases bgm <;> rfl
  · rfl
  · rfl
  · rfl

/-- A node whose reference is declared warns of nothing. -/
theorem warnings_direct (href : node.reference? = some (kind, id)) (h : novel.Declares kind id) :
    (novel.direct shown node).2.warnings = [] := by
  cases node with
  | character cue =>
    cases href
    rw [direct_character h]
    rfl
  | background cue =>
    cases href
    rw [direct_background h]
    rfl
  | audio cue =>
    cases href
    obtain ⟨asset, hfound⟩ := Option.isSome_iff_exists.1 (audioAsset?_isSome_iff.2 h)
    exact warnings_directAudio hfound shown.bgm
  | dialogue | narration | choice | jump => cases href

end Novel

/-! ## Character nodes -/

namespace CharacterCue

/-- What a character node makes of the entry of its character, who may be off screen before or
after. -/
def entryAfter? (cue : CharacterCue) (before : Option Placement) : Option Placement :=
  let position := cue.position.getD .center
  match cue.action with
  | .enter => some ⟨cue.characterId, position, cue.emotion⟩
  | .exit => none
  | .move =>
    before.map fun entry => ⟨cue.characterId, position, cue.emotion.or entry.emotion⟩

/-- The stage after a character node differs from that before it in the entry of the character, who
stays in their place, leaves, or comes last. -/
structure Changes (cue : CharacterCue) (before after : Stage) : Prop where
  entry : after.placement? cue.characterId = cue.entryAfter? (before.placement? cue.characterId)
  others : after.others cue.characterId = before.others cue.characterId
  stays : cue.characterId ∈ before.castIds → cue.characterId ∈ after.castIds →
    after.castIds = before.castIds
  comes : cue.characterId ∉ before.castIds → cue.characterId ∈ after.castIds →
    after.castIds = before.castIds ++ [cue.characterId]
  background : after.backgroundId = before.backgroundId
  once : after.castIds.Nodup

variable {cue : CharacterCue} {stage before after after' : Stage} {f : Placement → Placement}

/-- A change in place is one that keeps the character. -/
theorem changes_update (h : stage.castIds.Nodup)
    (hf : ∀ entry, (f entry).characterId = entry.characterId)
    (hentry : (stage.placement? cue.characterId).map f
      = cue.entryAfter? (stage.placement? cue.characterId)) :
    cue.Changes stage (stage.update cue.characterId f) where
  entry := (Stage.placement?_update hf stage cue.characterId).trans hentry
  others := Stage.others_update hf stage cue.characterId
  stays _ _ := Stage.castIds_update hf stage cue.characterId
  comes hoff hon := by
    rw [Stage.castIds_update hf] at hon
    exact absurd hon hoff
  background := rfl
  once := by
    rw [Stage.castIds_update hf]
    exact h

/-- A character node changes the stage as it says. -/
theorem changes_act (h : stage.castIds.Nodup) (cue : CharacterCue) :
    cue.Changes stage (stage.act cue) := by
  obtain ⟨nodeId, id, action, position, emotion⟩ := cue
  have hid : ∀ entry, stage.placement? id = some entry → entry.characterId = id := by
    intro entry hentry
    simpa using List.find?_some hentry
  cases action with
  | enter =>
    simp only [Stage.act]
    split
    · next hon =>
      refine changes_update h (fun _ => rfl) ?_
      obtain ⟨entry, hentry⟩ := Option.isSome_iff_exists.1 hon
      simp only [hentry, Option.map_some, entryAfter?, hid entry hentry]
    · next hoff =>
      have hnew : id ∉ stage.castIds := mt Stage.isOnScreen_iff.2 hoff
      exact
        { entry := Stage.placement?_add hnew
          others := Stage.others_add stage _
          stays := fun hon => absurd hon hnew
          comes := fun _ _ => Stage.castIds_add stage _
          background := rfl
          once := Stage.nodup_castIds_add h hnew }
  | exit =>
    have hgone : id ∉ (stage.remove id).castIds :=
      Stage.placement?_eq_none_iff.1 (Stage.placement?_remove stage id)
    exact
      { entry := Stage.placement?_remove stage id
        others := Stage.others_remove stage id
        stays := fun _ hon => absurd hon hgone
        comes := fun _ hon => absurd hon hgone
        background := rfl
        once := by
          rw [Stage.act, Stage.castIds_remove]
          exact h.filter _ }
  | move =>
    refine changes_update h (fun _ => rfl) ?_
    cases hentry : stage.placement? id with
    | none => rfl
    | some entry => simp only [Option.map_some, entryAfter?, hid entry hentry]

/-- What a character node leaves and changes determines who stands on the stage. -/
theorem Changes.castIds_eq (h : cue.Changes before after) (h' : cue.Changes before after') :
    after'.castIds = after.castIds := by
  have hentry : after'.placement? cue.characterId = after.placement? cue.characterId :=
    h'.entry.trans h.entry.symm
  by_cases hon : cue.characterId ∈ after.castIds
  · have hon' : cue.characterId ∈ after'.castIds := by
      by_contra hoff
      rw [← Stage.placement?_eq_none_iff, hentry, Stage.placement?_eq_none_iff] at hoff
      exact hoff hon
    by_cases hbefore : cue.characterId ∈ before.castIds
    · rw [h.stays hbefore hon, h'.stays hbefore hon']
    · rw [h.comes hbefore hon, h'.comes hbefore hon']
  · have hoff' : cue.characterId ∉ after'.castIds := by
      rw [← Stage.placement?_eq_none_iff, hentry, Stage.placement?_eq_none_iff]
      exact hon
    -- without the character, only the others are left
    rw [Stage.castIds, Stage.castIds, ← Stage.others_of_notMem hon, ← Stage.others_of_notMem hoff',
      h.others, h'.others]

/-- What a character node leaves and changes determines the stage after it. -/
theorem Changes.unique (h : cue.Changes before after) (h' : cue.Changes before after') :
    after' = after := by
  refine Stage.eq_of_placement? h.once (h.castIds_eq h') ?_ (h'.background.trans h.background.symm)
  intro id
  by_cases hid : id = cue.characterId
  · rw [hid, h.entry, h'.entry]
  · rw [Stage.placement?_eq_find?_others hid, Stage.placement?_eq_find?_others hid, h.others,
      h'.others]

end CharacterCue

/-! ## Speakers -/

namespace Stage

/-- Nobody stands at the position. -/
def IsFree (stage : Stage) (position : Position) : Prop :=
  ∀ entry ∈ stage.cast, entry.position ≠ position

/-- The position for somebody who comes by themselves: the first free one of the center, the left
and the right, or else the center. -/
inductive Offers (stage : Stage) : Position → Prop
  | center (h : stage.IsFree .center) : Offers stage .center
  | left (hcenter : ¬stage.IsFree .center) (h : stage.IsFree .left) : Offers stage .left
  | right (hcenter : ¬stage.IsFree .center) (hleft : ¬stage.IsFree .left)
      (h : stage.IsFree .right) : Offers stage .right
  | crowded (h : ∀ position, ¬stage.IsFree position) : Offers stage .center

/-- A position is free when nobody is found there. -/
theorem isFree_iff {stage : Stage} {position : Position} :
    stage.IsFree position ↔ (!stage.isOccupied position) = true := by
  simp [isOccupied, IsFree]

/-- Whoever comes by themselves gets the position that the stage offers. -/
theorem offers_freePosition (stage : Stage) : stage.Offers stage.freePosition := by
  have hoccupied : ∀ position, (!stage.isOccupied position) = false → ¬stage.IsFree position := by
    intro position h hfree
    rw [isFree_iff.1 hfree] at h
    cases h
  simp only [freePosition, entryOrder, List.find?_cons, List.find?_nil]
  split
  · next hcenter => exact .center (isFree_iff.2 hcenter)
  · next hcenter =>
    split
    · next hleft => exact .left (hoccupied _ hcenter) (isFree_iff.2 hleft)
    · next hleft =>
      split
      · next hright =>
        exact .right (hoccupied _ hcenter) (hoccupied _ hleft) (isFree_iff.2 hright)
      · next hright =>
        refine .crowded ?_
        rintro (_ | _ | _)
        · exact hoccupied _ hleft
        · exact hoccupied _ hcenter
        · exact hoccupied _ hright

end Stage

namespace Novel

variable {novel : Novel} {shown : Performance} {line : Dialogue}

/-- A speaker on the stage stays as they are. -/
theorem speak_of_mem (h : line.characterId ∈ shown.stage.castIds) :
    novel.speak shown (.dialogue line) = (shown, .none) := by
  simp only [speak, enterSpeaker, Stage.isOnScreen_iff.2 h, if_true]

/-- A speaker who is not declared does not come, and there is a warning. -/
theorem speak_of_not_declares (hoff : line.characterId ∉ shown.stage.castIds)
    (hmissing : ¬novel.Declares .character line.characterId) :
    novel.speak shown (.dialogue line)
      = (shown, { warnings := [⟨.character, line.characterId, line.id⟩] }) := by
  simp only [speak, enterSpeaker, if_neg (mt Stage.isOnScreen_iff.1 hoff),
    character?_eq_none_iff.2 hmissing]
  rfl

/-- A declared speaker who is not on the stage comes to the free position. -/
theorem speak_of_declares (hoff : line.characterId ∉ shown.stage.castIds)
    (h : novel.Declares .character line.characterId) :
    novel.speak shown (.dialogue line)
      = ({ shown with
            stage := shown.stage.add ⟨line.characterId, shown.stage.freePosition, line.emotion⟩ },
          .none) := by
  obtain ⟨character, hfound⟩ := Option.isSome_iff_exists.1 (character?_isSome_iff.2 h)
  simp only [speak, enterSpeaker, if_neg (mt Stage.isOnScreen_iff.1 hoff), hfound]
  rfl

end Novel

/-! ## Sequences of nodes -/

/-- Nodes change nothing on the way from one performance to another but what they are about, and
nobody stands on the stage twice after them. -/
structure Spares (nodes : List Node) (before after : Performance) : Prop where
  once : after.stage.castIds.Nodup
  cast : ∀ p : String → Bool, (∀ node ∈ nodes, ∀ id, node.subject? = some id → p id = false) →
    after.stage.cast.filter (p ·.characterId) = before.stage.cast.filter (p ·.characterId)
  background : (∀ node ∈ nodes, node.kind ≠ .background) →
    after.stage.backgroundId = before.stage.backgroundId
  bgm : (∀ node ∈ nodes, node.kind ≠ .audio) → after.bgm = before.bgm

namespace Spares

variable {nodes others : List Node} {node : Node} {before between after : Performance}
  {stage : Stage}

/-- No nodes are needed for no change. -/
theorem refl (h : before.stage.castIds.Nodup) (nodes : List Node) : Spares nodes before before :=
  ⟨h, fun _ _ => rfl, fun _ => rfl, fun _ => rfl⟩

/-- What nodes spare one after another, they spare together. -/
theorem append (hfirst : Spares nodes before between) (hrest : Spares others between after) :
    Spares (nodes ++ others) before after where
  once := hrest.once
  cast p hp := by
    rw [List.forall_mem_append] at hp
    exact (hrest.cast p hp.2).trans (hfirst.cast p hp.1)
  background h := by
    rw [List.forall_mem_append] at h
    exact (hrest.background h.2).trans (hfirst.background h.1)
  bgm h := by
    rw [List.forall_mem_append] at h
    exact (hrest.bgm h.2).trans (hfirst.bgm h.1)

/-- A node about a character may change the entry of that character. -/
theorem of_others {id : String} (hsubject : node.subject? = some id) (honce : stage.castIds.Nodup)
    (hothers : stage.others id = before.stage.others id)
    (hbackground : stage.backgroundId = before.stage.backgroundId) :
    Spares [node] before { before with stage } where
  once := honce
  cast _ hp := Stage.filter_of_others hothers (hp node (List.mem_singleton_self _) id hsubject)
  background _ := hbackground
  bgm _ := rfl

end Spares

namespace Novel

variable (novel : Novel)

/-- What is seen and heard after nodes that direct and speak in turn. -/
def perform (shown : Performance) (nodes : List Node) : Performance :=
  nodes.foldl (fun shown node => (novel.speak (novel.direct shown node).1 node).1) shown

variable {shown : Performance}

/-- A node changes nothing by its direction but what it is about. -/
theorem direct_spares (h : shown.stage.castIds.Nodup) (node : Node) :
    Spares [node] shown (novel.direct shown node).1 := by
  cases node with
  | character cue =>
    by_cases hdeclared : novel.Declares .character cue.characterId
    · have hchanges := CharacterCue.changes_act h cue
      rw [direct_character hdeclared]
      exact .of_others rfl hchanges.once hchanges.others hchanges.background
    · rw [direct_of_not_declares rfl hdeclared]
      exact .refl h _
  | background cue =>
    by_cases hdeclared : novel.Declares .background cue.backgroundId
    · rw [direct_background hdeclared]
      exact
        { once := h
          cast := fun _ _ => rfl
          background := fun hkind => absurd rfl (hkind _ (List.mem_singleton_self _))
          bgm := fun _ => rfl }
    · rw [direct_of_not_declares rfl hdeclared]
      exact .refl h _
  | audio cue =>
    exact
      { once := h
        cast := fun _ _ => rfl
        background := fun _ => rfl
        bgm := fun hkind => absurd rfl (hkind _ (List.mem_singleton_self _)) }
  | dialogue | narration | choice | jump => exact .refl h _

/-- A node changes nothing by its speaker but what it is about. -/
theorem speak_spares (h : shown.stage.castIds.Nodup) (node : Node) :
    Spares [node] shown (novel.speak shown node).1 := by
  cases node with
  | dialogue line =>
    by_cases hon : line.characterId ∈ shown.stage.castIds
    · rw [speak_of_mem hon]
      exact .refl h _
    · by_cases hdeclared : novel.Declares .character line.characterId
      · rw [speak_of_declares hon hdeclared]
        exact .of_others rfl (Stage.nodup_castIds_add h hon) (Stage.others_add _ _) rfl
      · rw [speak_of_not_declares hon hdeclared]
        exact .refl h _
  | narration | choice | background | character | audio | jump => exact .refl h _

/-- Nodes that are performed spare what they are not about. -/
theorem perform_spares (h : shown.stage.castIds.Nodup) (nodes : List Node) :
    Spares nodes shown (novel.perform shown nodes) := by
  induction nodes generalizing shown with
  | nil => exact .refl h _
  | cons node nodes ih =>
    have hdirects := novel.direct_spares h node
    have hspeaks := novel.speak_spares hdirects.once node
    have hnode : Spares [node] shown (novel.speak (novel.direct shown node).1 node).1 :=
      { once := hspeaks.once
        cast := fun _ hp => (hspeaks.cast _ hp).trans (hdirects.cast _ hp)
        background := fun hkind => (hspeaks.background hkind).trans (hdirects.background hkind)
        bgm := fun hkind => (hspeaks.bgm hkind).trans (hdirects.bgm hkind) }
    exact hnode.append (ih hspeaks.once)

/-- On a stage that shows nobody twice, a node whose reference is not declared changes nothing,
gives no command, and warns once, by the kind and the id of the reference and the node. A node whose
reference is declared warns of nothing. A character node changes the entry of its character only, as
it says, a background node the background only, and an audio node the music only. A speaker on
screen changes nothing; one who is off screen comes last, with the emotion of the line, at the first
free position; and one who is not declared is warned of. Over all sequences of nodes, nobody comes
to stand on the stage twice, and what no node is about stays, in its order. -/
theorem changes_subject_only (honce : shown.stage.castIds.Nodup) :
    (∀ node kind id, node.reference? = some (kind, id) →
      (¬novel.Declares kind id →
        novel.direct shown node = (shown, { warnings := [⟨kind, id, node.id⟩] })) ∧
      (novel.Declares kind id → (novel.direct shown node).2.warnings = [])) ∧
    (∀ cue, novel.Declares .character cue.characterId →
      ∃ stage, novel.direct shown (.character cue) = ({ shown with stage }, .none) ∧
        ∀ after, cue.Changes shown.stage after ↔ after = stage) ∧
    (∀ cue, novel.Declares .background cue.backgroundId →
      novel.direct shown (.background cue)
        = ({ shown with stage := { shown.stage with backgroundId := some cue.backgroundId } },
            .none)) ∧
    (∀ cue, ∃ bgm cues, novel.direct shown (.audio cue) = ({ shown with bgm }, cues)) ∧
    (∀ line : Dialogue,
      (line.characterId ∈ shown.stage.castIds →
        novel.speak shown (.dialogue line) = (shown, .none)) ∧
      (line.characterId ∉ shown.stage.castIds → novel.Declares .character line.characterId →
        ∃ position, shown.stage.Offers position ∧
          novel.speak shown (.dialogue line)
            = ({ shown with
                  stage := shown.stage.add ⟨line.characterId, position, line.emotion⟩ },
                .none)) ∧
      (line.characterId ∉ shown.stage.castIds → ¬novel.Declares .character line.characterId →
        novel.speak shown (.dialogue line)
          = (shown, { warnings := [⟨.character, line.characterId, line.id⟩] }))) ∧
    ∀ nodes, Spares nodes shown (novel.perform shown nodes) := by
  refine ⟨?_, ?_, ?_, ?_, ?_, novel.perform_spares honce⟩
  · intro node kind id href
    exact ⟨direct_of_not_declares href, warnings_direct href⟩
  · intro cue hdeclared
    have hchanges := CharacterCue.changes_act honce cue
    refine ⟨shown.stage.act cue, direct_character hdeclared, fun after => ⟨hchanges.unique, ?_⟩⟩
    rintro rfl
    exact hchanges
  · intro cue hdeclared
    exact direct_background hdeclared
  · intro cue
    exact ⟨_, _, rfl⟩
  · intro line
    refine ⟨speak_of_mem, fun hoff hdeclared => ?_, speak_of_not_declares⟩
    exact ⟨_, shown.stage.offers_freePosition, speak_of_declares hoff hdeclared⟩

/-- Two sisters, one of whom has a friend whom the novel forgets to declare. -/
def parlour : Novel :=
  { id := "parlour", title := "Parlour", author := "", description := "", coverImageUrl := none
    characters := [⟨"ann", "ann", "Ann", "", []⟩, ⟨"eve", "eve", "Eve", "", []⟩]
    backgrounds := [], audio := [], chapters := []
    startSceneId := "", createdAt := none, updatedAt := none }

/-- The friend and one sister in the parlour. -/
def parlourGuests : Performance :=
  ⟨⟨[⟨"bob", .center, none⟩, ⟨"ann", .left, some "shy"⟩], none⟩, none⟩

/-- In the parlour Ann moves with her emotion, the friend cannot be moved, and Eve comes to the
right. Over all of this the friend's entry stays. -/
theorem changes_subject_only_parlour :
    parlourGuests.stage.castIds.Nodup ∧ parlour.Declares .character "ann" ∧
    (∃ stage, parlour.direct parlourGuests (.character ⟨"p1", "ann", .move, none, none⟩)
        = ({ parlourGuests with stage }, .none) ∧
      stage.placement? "ann" = some ⟨"ann", .center, some "shy"⟩ ∧
      stage.castIds = ["bob", "ann"]) ∧
    ¬parlour.Declares .character "bob" ∧
    parlour.direct parlourGuests (.character ⟨"p2", "bob", .exit, none, none⟩)
      = (parlourGuests, { warnings := [⟨.character, "bob", "p2"⟩] }) ∧
    parlour.Declares .character "eve" ∧
    (∃ position, parlourGuests.stage.Offers position ∧ position = .right ∧
      parlour.speak parlourGuests (.dialogue ⟨"p3", "eve", none, "Hello."⟩)
        = ({ parlourGuests with stage := parlourGuests.stage.add ⟨"eve", position, none⟩ },
            .none)) ∧
    (parlour.perform parlourGuests
        [.character ⟨"p1", "ann", .exit, none, none⟩, .dialogue ⟨"p3", "eve", none, "Hello."⟩]
      ).stage.cast.filter (·.characterId == "bob") = [⟨"bob", .center, none⟩] := by
  have honce : parlourGuests.stage.castIds.Nodup := by decide
  have hann : parlour.Declares .character "ann" := ⟨_, List.mem_cons_self, rfl⟩
  have heve : parlour.Declares .character "eve" :=
    ⟨_, List.mem_cons_of_mem _ List.mem_cons_self, rfl⟩
  have hbob : ¬parlour.Declares .character "bob" := by
    simp [Declares, parlour]
  obtain ⟨hrefers, hacts, -, -, hspeaks, hspares⟩ := @changes_subject_only parlour _ honce
  obtain ⟨stage, hmoves, hchanges⟩ := hacts ⟨"p1", "ann", .move, none, none⟩ hann
  have hmoved := (hchanges stage).2 rfl
  have hstays : "ann" ∈ stage.castIds := by
    by_contra hoff
    have hentry := hmoved.entry
    rw [Stage.placement?_eq_none_iff.2 hoff] at hentry
    cases hentry
  obtain ⟨position, hoffers, hspeaks⟩ :=
    (hspeaks ⟨"p3", "eve", none, "Hello."⟩).2.1 (by decide) heve
  have hright : position = .right := by
    cases hoffers with
    | center hfree => exact absurd rfl (hfree _ List.mem_cons_self)
    | left _ hfree => exact absurd rfl (hfree _ (List.mem_cons_of_mem _ List.mem_cons_self))
    | right => rfl
    | crowded hcrowded =>
      refine absurd ?_ (hcrowded .right)
      simp [Stage.IsFree, parlourGuests]
  refine ⟨honce, hann, ⟨stage, hmoves, hmoved.entry, hmoved.stays (by decide) hstays⟩, hbob,
    (hrefers _ _ _ rfl).1 hbob, heve, ⟨position, hoffers, hright, hspeaks⟩, ?_⟩
  refine (hspares _).cast (· == "bob") ?_
  simp [Node.subject?]

end Novel
end VisualNovel

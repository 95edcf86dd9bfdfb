import VisualNovel.Novel.Format
import VisualNovel.Proofs.Schema.Records

/-!
# Novels are read back

Every record of the format is faithful to its values, from sprites and branches up to the novel
itself. A node needs more: it is held back as a whole, which limits its nesting, and the member that
names its kind has to be told from its fields (`Node.faithful_of_record`). As the nodes of a novel
stand six levels deep and nest three more, `Novel.written_readsBack` holds of every novel, and of
every node by itself.
-/

namespace VisualNovel

open Codec VisualNovel.Field

instance : LawfulWorded Position := ⟨by rintro (_ | _ | _) <;> rfl⟩

instance : LawfulWorded Transition := ⟨by rintro (_ | _ | _) <;> rfl⟩

instance : LawfulWorded StageAction := ⟨by rintro (_ | _ | _) <;> rfl⟩

instance : LawfulWorded AudioAction := ⟨by rintro (_ | _ | _) <;> rfl⟩

instance : LawfulWorded AudioKind := ⟨by rintro (_ | _) <;> rfl⟩

instance : LawfulWorded NodeKind := ⟨by rintro (_ | _ | _ | _ | _ | _ | _) <;> rfl⟩

section
variable {name : String} {n : Nat}

/-- A text that has to be there is read back. -/
theorem faithful_requiredText {text : String} : (required name .text).Faithful n text :=
  faithful_required name (faithful_text n text)

/-- A text that may be missing is read back, be it the default or not. -/
theorem faithful_defaultText {default text : String} :
    (withDefault name .text default).Faithful n text :=
  faithful_withDefault name default (faithful_text n text)

/-- A text that is left out when there is none is read back. -/
theorem faithful_omittableText {text? : Option String} :
    (omittable name .text).Faithful n text? :=
  faithful_omittable name nofun fun text _ => faithful_text n text

variable {α : Type} [Worded α] [LawfulWorded α]

/-- A word that has to be there is read back. -/
theorem faithful_requiredWord {value : α} : (required name (.word α)).Faithful n value :=
  faithful_required name (faithful_word n value)

/-- A word that is left out when there is none is read back. -/
theorem faithful_omittableWord {value? : Option α} :
    (omittable name (.word α)).Faithful n value? :=
  faithful_omittable name nofun fun value _ => faithful_word n value

end

/-! ## Nodes -/

section
variable (n : Nat)

/-- What somebody says is read back, with the face it is said with if one is named. -/
theorem Dialogue.faithful (node : Dialogue) : Dialogue.record.Faithful n node where
  names := by decide
  build := rfl
  fields := ⟨faithful_requiredText, faithful_requiredText, faithful_omittableText,
    faithful_requiredText, trivial⟩

/-- What the narrator says is read back. -/
theorem Narration.faithful (node : Narration) : Narration.record.Faithful n node where
  names := by decide
  build := rfl
  fields := ⟨faithful_requiredText, faithful_requiredText, trivial⟩

/-- A branch is read back, with its condition if it has one. -/
theorem Branch.faithful (branch : Branch) : Branch.record.Faithful n branch where
  names := by decide
  build := rfl
  fields := ⟨faithful_requiredText, faithful_requiredText, faithful_requiredText,
    faithful_omittableText, trivial⟩

/-- A choice is read back, and nests two levels more than its branches. -/
theorem Choice.faithful (node : Choice) : Choice.record.Faithful (n + 2) node where
  names := by decide
  build := rfl
  fields := ⟨faithful_requiredText, faithful_omittableText, faithful_withDefault _ _ <|
    faithful_list fun branch _ => (branch.faithful n).codec, trivial⟩

/-- A change of the background is read back, with or without a transition. -/
theorem BackgroundCue.faithful (node : BackgroundCue) : BackgroundCue.record.Faithful n node where
  names := by decide
  build := rfl
  fields := ⟨faithful_requiredText, faithful_requiredText, faithful_omittableWord, trivial⟩

/-- A direction for a character is read back, whatever of it is left out. -/
theorem CharacterCue.faithful (node : CharacterCue) : CharacterCue.record.Faithful n node where
  names := by decide
  build := rfl
  fields := ⟨faithful_requiredText, faithful_requiredText, faithful_requiredWord,
    faithful_omittableWord, faithful_omittableText, trivial⟩

/-- A direction for the music is read back. -/
theorem AudioCue.faithful (node : AudioCue) : AudioCue.record.Faithful n node where
  names := by decide
  build := rfl
  fields := ⟨faithful_requiredText, faithful_requiredText, faithful_requiredWord, trivial⟩

/-- A jump is read back. -/
theorem Jump.faithful (node : Jump) : Jump.record.Faithful n node where
  names := by decide
  build := rfl
  fields := ⟨faithful_requiredText, faithful_requiredText, trivial⟩

end

namespace Node

/-- The member that names the kind of a node is found, and what is left are its fields. -/
theorem kindOf_tagged {kind : NodeKind} {members : List (Json.Text × Json)}
    (hfields : ∀ member ∈ members, isKindMember member = false) :
    let tagged := (some kindName, .ofString (Worded.word kind)) :: members
    kindOf tagged = .ok kind ∧ tagged.filter (!isKindMember ·) = members := by
  have hnone : members.filter isKindMember = [] :=
    List.filter_eq_nil_iff.2 fun member hmember => by simp [hfields member hmember]
  have hall : members.filter (!isKindMember ·) = members :=
    List.filter_eq_self.2 fun member hmember => by simp [hfields member hmember]
  have hkind : isKindMember (some kindName, .ofString (Worded.word kind)) = true := rfl
  have hread : readKind (.ofString (Worded.word kind)) = .ok kind := by
    simp only [readKind, Json.ofString, readWord, LawfulWorded.ofWord?_word]
  constructor
  · simp only [kindOf, List.filter_cons_of_pos hkind, hnone, hread]
    rfl
  · rw [List.filter_cons, hkind, hall]
    rfl

/-- A node is read back when the record of its kind is faithful to it and has no field that is
called like the member that names the kind. -/
theorem faithful_of_record {α : Type} {record : Record α} {value : α} {node : Node}
    {wrap : α → Node} {n depth : Nat} (h : record.Faithful n value)
    (hnames : kindName ∉ record.fields.names) (hnode : wrap value = node)
    (hmembers : node.members = record.members value)
    (hread : ∀ json, readFields node.kind json = (record.read .held json).map wrap)
    (hdepth : depth + (n + 1) ≤ greatestDepth) : (Node.codec depth).Faithful (n + 1) node := by
  have hplain : node.toJson.IsPlain (n + 1) := by
    refine .ofMembers (List.forall_mem_cons.2 ⟨.string n _, ?_⟩)
    rw [hmembers]
    exact fun member hmember => (Fields.mem_write h.fields member hmember).2
  refine ⟨fun _ => ?_, hplain⟩
  have hfields : ∀ member ∈ node.members.map fun member => (some member.1, member.2),
      isKindMember member = false := by
    rw [List.forall_mem_map, hmembers]
    intro member hmember
    have hname := (Fields.mem_write h.fields member hmember).1
    simp only [isKindMember, beq_eq_false_iff_ne, ne_eq, Option.some.injEq]
    intro heq
    exact hnames (heq ▸ hname)
  obtain ⟨hkind, hothers⟩ := @kindOf_tagged node.kind _ hfields
  have hjson : node.toJson = .object ((some kindName, .ofString (Worded.word node.kind)) ::
      node.members.map fun member => (some member.1, member.2)) := rfl
  have hheld : (node.toJson.isSound && decide (depth + node.toJson.depth ≤ greatestDepth))
      = true := by
    have hle := hplain.depth_le
    simp only [hplain.isSound, Bool.true_and, decide_eq_true_eq]
    omega
  have hvalue : record.read .held (.object (node.members.map fun member =>
      (some member.1, member.2))) = .ok value := by
    rw [hmembers]
    exact h.read_members .held
  rw [hjson] at hheld
  simp only [codec, hjson, readAt, hheld, if_true, hkind, hothers]
  simp only [bind, Except.bind, hread, hvalue, Except.map, hnode]

/-- A node that is held back is read back when three levels of nesting are left for it. -/
theorem faithful {depth : Nat} (hdepth : depth + 3 ≤ greatestDepth) (node : Node) :
    (Node.codec depth).Faithful 3 node := by
  cases node with
  | dialogue node =>
    exact faithful_of_record (node.faithful 2) (by decide) rfl rfl (fun _ => rfl) hdepth
  | narration node =>
    exact faithful_of_record (node.faithful 2) (by decide) rfl rfl (fun _ => rfl) hdepth
  | choice node =>
    exact faithful_of_record (node.faithful 0) (by decide) rfl rfl (fun _ => rfl) hdepth
  | background node =>
    exact faithful_of_record (node.faithful 2) (by decide) rfl rfl (fun _ => rfl) hdepth
  | character node =>
    exact faithful_of_record (node.faithful 2) (by decide) rfl rfl (fun _ => rfl) hdepth
  | audio node =>
    exact faithful_of_record (node.faithful 2) (by decide) rfl rfl (fun _ => rfl) hdepth
  | jump node =>
    exact faithful_of_record (node.faithful 2) (by decide) rfl rfl (fun _ => rfl) hdepth

end Node

/-! ## Assets, scenes and novels -/

section
variable (n : Nat)

/-- A sprite is read back. -/
theorem Sprite.faithful (sprite : Sprite) : Sprite.record.Faithful n sprite where
  names := by decide
  build := rfl
  fields := ⟨faithful_requiredText, faithful_requiredText, faithful_defaultText, trivial⟩

/-- A character is read back, and nests two levels more than the sprites. -/
theorem Character.faithful (character : Character) :
    Character.record.Faithful (n + 2) character where
  names := by decide
  build := rfl
  fields := ⟨faithful_requiredText, faithful_requiredText, faithful_requiredText,
    faithful_defaultText, faithful_withDefault _ _ <|
      faithful_list fun sprite _ => (sprite.faithful n).codec, trivial⟩

/-- A background is read back. -/
theorem Background.faithful (background : Background) : Background.record.Faithful n background where
  names := by decide
  build := rfl
  fields := ⟨faithful_requiredText, faithful_requiredText, faithful_defaultText, trivial⟩

/-- A piece of audio is read back. -/
theorem AudioAsset.faithful (asset : AudioAsset) : AudioAsset.record.Faithful n asset where
  names := by decide
  build := rfl
  fields := ⟨faithful_requiredText, faithful_requiredText, faithful_requiredWord,
    faithful_defaultText, trivial⟩

end

/-- The nodes of a scene stand deep enough inside a novel, but not too deep. -/
theorem Scene.faithful (scene : Scene) : Scene.record.Faithful 4 scene where
  names := by decide
  build := rfl
  fields := ⟨faithful_requiredText, faithful_requiredText, faithful_withDefault _ _ <|
    faithful_list fun node _ => node.faithful (by decide), trivial⟩

/-- A chapter is read back, and nests six levels at most. -/
theorem Chapter.faithful (chapter : Chapter) : Chapter.record.Faithful 6 chapter where
  names := by decide
  build := rfl
  fields := ⟨faithful_requiredText, faithful_requiredText, faithful_withDefault _ _ <|
    faithful_list fun scene _ => scene.faithful.codec, trivial⟩

namespace Novel

/-- A novel is read back, and nests eight levels at most. -/
theorem faithful (novel : Novel) : record.Faithful 8 novel where
  names := by decide
  build := rfl
  fields := ⟨faithful_requiredText, faithful_requiredText, faithful_defaultText,
    faithful_defaultText, faithful_omittableText,
    faithful_withDefault _ _ <| faithful_list fun character _ => (character.faithful 4).codec,
    faithful_withDefault _ _ <| faithful_list fun background _ => (background.faithful 6).codec,
    faithful_withDefault _ _ <| faithful_list fun asset _ => (asset.faithful 6).codec,
    faithful_withDefault _ _ <| faithful_list fun chapter _ => chapter.faithful.codec,
    faithful_defaultText, faithful_omittableText, faithful_omittableText, trivial⟩

/-- A novel is read back from its own text, and a node from its own. -/
theorem written_readsBack :
    (∀ novel : Novel, ofText novel.toText = .ok novel) ∧
      ∀ node : Node, (Node.codec 0).parse node.toJson.compact = .ok node := by
  refine ⟨fun novel => ?_, fun node => ?_⟩
  · have hread := novel.faithful.codec.parse_pretty
    rw [ofText, toText, hread]
  · exact (node.faithful (by decide)).parse_compact

end Novel
end VisualNovel

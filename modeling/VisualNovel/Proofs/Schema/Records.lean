import VisualNovel.Proofs.Basic
import VisualNovel.Proofs.Schema.Faithful

/-!
# Records are read back field by field

A record writes a member for every part that is shown, in the order of the fields. Since the names
of the fields are distinct, each member finds the slot of its own field empty (`Fields.meetAll_write`),
and the fields without a member settle for the values that they assume (`Fields.settle_met`). So a
record is faithful to a value when its fields are (`Record.Faithful.codec`).

The other way round, a value that a record has read from whatever document is put together from
parts that its fields have read or assume (`Record.takes_of_read`).
-/

namespace VisualNovel

/-! ## Fields -/

namespace Field

variable {α : Type} {codec : Codec α} {n : Nat}

/-- A part that is written is read back, and any other is the one that the field assumes. -/
structure Faithful (field : Field α) (n : Nat) (value : α) : Prop where
  shown : field.isShown value = true → field.codec.Faithful n value
  hidden : field.isShown value = false → field.whenAbsent = some value

/-- A field that has to be there is faithful as its codec is. -/
theorem faithful_required (name : String) {value : α} (h : codec.Faithful n value) :
    (required name codec).Faithful n value :=
  ⟨fun _ => h, nofun⟩

/-- A field with a default is faithful as its codec is, as it is always written. -/
theorem faithful_withDefault (name : String) (default : α) {value : α}
    (h : codec.Faithful n value) : (withDefault name codec default).Faithful n value :=
  ⟨fun _ => h, nofun⟩

/-- A field that is null without a value is faithful when no value is written as null. -/
theorem faithful_nullable (name : String) (hnull : codec.NeverNull) {value? : Option α}
    (h : ∀ value ∈ value?, codec.Faithful n value) : (nullable name codec).Faithful n value? :=
  ⟨fun _ => Codec.faithful_optional hnull h, nofun⟩

/-- A field that is left out without a value is faithful when no value is written as null. -/
theorem faithful_omittable (name : String) (hnull : codec.NeverNull) {value? : Option α}
    (h : ∀ value ∈ value?, codec.Faithful n value) : (omittable name codec).Faithful n value? where
  shown _ := Codec.faithful_optional hnull h
  hidden hnone := by
    rw [Option.isSome_eq_false_iff.1 hnone |> Option.isNone_iff_eq_none.1]
    rfl

end Field

namespace Fields

variable {β : Type} {n : Nat}

/-- Every field is faithful to its part. -/
def Faithful : {β : Type} → Fields β → Nat → β → Prop
  | _, .nil, _, () => True
  | _, .cons field fields, n, (value, values) => field.Faithful n value ∧ fields.Faithful n values

/-- The slots after the members that are written for the parts. -/
def met : {β : Type} → (fields : Fields β) → β → fields.Slots
  | _, .nil, () => ()
  | _, .cons field fields, (value, values) =>
    (if field.isShown value then some value else none, fields.met values)

section
variable {fields : Fields β} {values : β}

/-- A member is written for a field, and it is plain. -/
theorem mem_write (h : fields.Faithful n values) :
    ∀ member ∈ fields.write values, member.1 ∈ fields.names ∧ member.2.IsPlain n := by
  induction fields with
  | nil => nofun
  | cons field fields ih =>
    obtain ⟨value, values⟩ := values
    obtain ⟨hfield, hfields⟩ := h
    have hrest : ∀ member ∈ fields.write values,
        member.1 ∈ (cons field fields).names ∧ member.2.IsPlain n :=
      fun member hmember => (ih hfields member hmember).imp_left (List.mem_cons_of_mem _)
    simp only [write]
    split
    · next hshown =>
      exact List.forall_mem_cons.2 ⟨⟨List.mem_cons_self, (hfield.shown hshown).isPlain⟩, hrest⟩
    · exact hrest

/-- Members that are not those of the first field are taken by the other fields. -/
theorem meetAll_cons {α : Type} {field : Field α} {source : Source}
    {members : List (Json.Text × Json)} {slot : Option α} {others slots : fields.Slots}
    (hnew : ∀ member ∈ members, member.1 ≠ some field.name)
    (h : fields.meetAll source members others = .ok slots) :
    (cons field fields).meetAll source members (slot, others) = .ok (slot, slots) := by
  induction members generalizing others with
  | nil =>
    cases h
    rfl
  | cons member members ih =>
    obtain ⟨name | name, json⟩ := member
    · cases h
    · obtain ⟨hname, hrest⟩ := List.forall_mem_cons.1 hnew
      have hother : ¬field.name = name := fun heq => hname (congrArg some heq.symm)
      simp only [meetAll] at h ⊢
      cases hmeet : fields.meet source name json others with
      | error e =>
        rw [hmeet] at h
        cases h
      | ok others' =>
        rw [hmeet] at h
        simp only [meet, if_neg hother, hmeet]
        exact ih hrest h

/-- Every written member finds the slot of its field empty. -/
theorem meetAll_write (hnames : fields.names.Nodup) (h : fields.Faithful n values)
    (source : Source) :
    fields.meetAll source ((fields.write values).map fun member => (some member.1, member.2))
      fields.noneMet = .ok (fields.met values) := by
  induction fields with
  | nil => rfl
  | cons field fields ih =>
    obtain ⟨value, values⟩ := values
    obtain ⟨hfield, hfields⟩ := h
    obtain ⟨hnew, hothers⟩ := List.nodup_cons.1 hnames
    have hrest := ih hothers hfields
    have hforeign : ∀ member ∈ (fields.write values).map fun member => (some member.1, member.2),
        member.1 ≠ some field.name := by
      rw [List.forall_mem_map]
      intro member hmember heq
      exact hnew (Option.some.inj heq ▸ (mem_write hfields member hmember).1)
    simp only [write, met]
    split
    · next hshown =>
      have hread := (hfield.shown hshown).read_write source
      simp only [List.map_cons, meetAll, noneMet, meet, if_true, hread, Option.isSome_none,
        Bool.false_eq_true, if_false]
      exact meetAll_cons hforeign hrest
    · exact meetAll_cons hforeign hrest

/-- The fields that have not been met settle for what they assume. -/
theorem settle_met (h : fields.Faithful n values) :
    fields.settle (fields.met values) = .ok values := by
  induction fields with
  | nil => rfl
  | cons field fields ih =>
    obtain ⟨value, values⟩ := values
    obtain ⟨hfield, hfields⟩ := h
    have hrest := ih hfields
    have hslot : (if field.isShown value then some value else none).or field.whenAbsent
        = some value := by
      cases hshown : field.isShown value with
      | true => rfl
      | false => exact hfield.hidden hshown
    simp only [met, settle, hslot, hrest]
    rfl

end
end Fields

/-! ## Records -/

namespace Record

variable {α : Type} {record : Record α} {n : Nat} {value : α}

/-- The record is put together from its parts, and each field is faithful to its part. -/
structure Faithful (record : Record α) (n : Nat) (value : α) : Prop where
  names : record.fields.names.Nodup
  build : record.build (record.parts value) = value
  fields : record.fields.Faithful n (record.parts value)

/-- A record is read back from its own members. -/
theorem Faithful.read_members (h : record.Faithful n value) (source : Source) :
    record.read source (.ofMembers (record.members value)) = .ok value := by
  simp only [read, Json.ofMembers, readMembers, members,
    Fields.meetAll_write h.names h.fields source]
  simp only [bind, Except.bind, Fields.settle_met h.fields, h.build]

/-- A record is faithful to a value with one more array or object around the parts. -/
theorem Faithful.codec (h : record.Faithful n value) : record.codec.Faithful (n + 1) value where
  read_write := h.read_members
  isPlain := .ofMembers fun member hmember => (Fields.mem_write h.fields member hmember).2

end Record

/-! ## What has been read -/

/-- The value is one that the field has read somewhere, or one that it assumes. -/
def Field.Takes {α : Type} (field : Field α) (value : α) : Prop :=
  (∃ source json, field.codec.read source json = .ok value) ∨
    field.whenAbsent = some value ∨ field.whenShort = some value

/-- A field with a default value takes nothing else that it has not read. -/
theorem Field.read_or_eq_of_takes {α : Type} {name : String} {codec : Codec α} {default value : α}
    (h : (withDefault name codec default).Takes value) :
    (∃ source json, codec.read source json = .ok value) ∨ value = default := by
  rcases h with hread | habsent | hshort
  · exact .inl hread
  · exact .inr (Option.some.inj habsent).symm
  · exact .inr (Option.some.inj hshort).symm

namespace Fields

variable {β : Type}

/-- Every field takes its part. -/
def Takes : {β : Type} → Fields β → β → Prop
  | _, .nil, () => True
  | _, .cons field fields, (value, values) => field.Takes value ∧ fields.Takes values

/-- Every field that has been met takes what is in its slot. -/
def Holds : {β : Type} → (fields : Fields β) → fields.Slots → Prop
  | _, .nil, _ => True
  | _, @cons α _ field fields, slots =>
    let (slot, others) : Option α × fields.Slots := slots
    (∀ value ∈ slot, field.Takes value) ∧ fields.Holds others

/-- Before any member is met, the slots are empty. -/
theorem holds_noneMet (fields : Fields β) : fields.Holds fields.noneMet := by
  induction fields with
  | nil => exact True.intro
  | cons field fields ih => exact ⟨nofun, ih⟩

section
variable {fields : Fields β} {source : Source} {slots slots' : fields.Slots}

/-- A member fills the slot of its field with what the field has read. -/
theorem holds_of_meet {name : String} {json : Json} (hslots : fields.Holds slots)
    (h : fields.meet source name json slots = .ok slots') : fields.Holds slots' := by
  induction fields with
  | nil => exact True.intro
  | cons field fields ih =>
    obtain ⟨slot, others⟩ := slots
    obtain ⟨hslot, hothers⟩ := hslots
    simp only [meet] at h
    split at h
    · split at h
      · cases h
      · obtain ⟨value, hread, h⟩ := exists_of_bind_eq_ok h
        cases h
        refine ⟨fun value' hvalue => ?_, hothers⟩
        cases hvalue
        exact .inl ⟨source, json, hread⟩
    · obtain ⟨others', hmeet, h⟩ := exists_of_bind_eq_ok h
      cases h
      exact ⟨hslot, ih hothers hmeet⟩

/-- The members fill the slots of their fields with what the fields have read. -/
theorem holds_of_meetAll {members : List (Json.Text × Json)} (hslots : fields.Holds slots)
    (h : fields.meetAll source members slots = .ok slots') : fields.Holds slots' := by
  induction members generalizing slots with
  | nil =>
    cases h
    exact hslots
  | cons member members ih =>
    obtain ⟨name | name, json⟩ := member
    · cases h
    · obtain ⟨next, hmeet, h⟩ := exists_of_bind_eq_ok h
      exact ih (holds_of_meet hslots hmeet) h

/-- A field settles for what is in its slot, or for what it assumes. -/
theorem takes_of_settle {values : β} (hslots : fields.Holds slots)
    (h : fields.settle slots = .ok values) : fields.Takes values := by
  induction fields with
  | nil => exact True.intro
  | cons field fields ih =>
    obtain ⟨slot, others⟩ := slots
    obtain ⟨hslot, hothers⟩ := hslots
    simp only [settle] at h
    split at h
    · next value hvalue =>
      obtain ⟨values', hsettle, h⟩ := exists_of_bind_eq_ok h
      cases h
      refine ⟨?_, ih hothers hsettle⟩
      rcases Option.or_eq_some_iff.1 hvalue with hmet | ⟨-, habsent⟩
      · exact hslot value hmet
      · exact .inr (.inl habsent)
    · cases h

end

/-- Items are read by the fields in whose places they stand. -/
theorem takes_of_readItems {fields : Fields β} {source : Source} {short : Nat → ReadError}
    {index : Nat} {items : List Json} {read : β × List Json}
    (h : fields.readItems source short index items = .ok read) : fields.Takes read.1 := by
  induction fields generalizing index items with
  | nil => exact True.intro
  | cons field fields ih =>
    cases items with
    | nil =>
      simp only [readItems] at h
      split at h
      · next value hshort =>
        obtain ⟨rest, hrest, h⟩ := exists_of_bind_eq_ok h
        cases h
        exact ⟨.inr (.inr hshort), ih hrest⟩
      · cases h
    | cons item items =>
      obtain ⟨value, hread, h⟩ := exists_of_bind_eq_ok h
      obtain ⟨rest, hrest, h⟩ := exists_of_bind_eq_ok h
      cases h
      exact ⟨.inl ⟨source, item, hread⟩, ih hrest⟩

end Fields

/-- A record puts together only what its fields have read or assume, be it read from an object or
from an array. -/
theorem Record.takes_of_read {α : Type} {record : Record α} {source : Source} {json : Json}
    {value : α} (h : record.read source json = .ok value) :
    ∃ parts, record.fields.Takes parts ∧ record.build parts = value := by
  simp only [read] at h
  split at h
  · obtain ⟨slots, hmet, h⟩ := exists_of_bind_eq_ok h
    obtain ⟨parts, hsettle, h⟩ := exists_of_bind_eq_ok h
    cases h
    have hslots := Fields.holds_of_meetAll (Fields.holds_noneMet _) hmet
    exact ⟨parts, Fields.takes_of_settle hslots hsettle, rfl⟩
  · obtain ⟨⟨parts, left⟩, hread, h⟩ := exists_of_bind_eq_ok h
    refine ⟨parts, Fields.takes_of_readItems hread, ?_⟩
    dsimp only at h
    split at h <;> cases h
    rfl
  · cases h

end VisualNovel

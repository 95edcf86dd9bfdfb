import VisualNovel.Proofs.Json.RoundTrip
import VisualNovel.Schema.Record

/-!
# Faithful codecs

A codec is faithful to a value when it reads the value back from what it writes for it, and what it
writes is plain: strings with texts, numbers with values, and no more than the given number of
arrays and objects inside each other (`Codec.Faithful`). A record is faithful to a value when each
of its fields is faithful to its part, and a part that is not written is the one that its field
assumes (`Record.Faithful.codec`). Whatever a faithful codec writes as a text, on one line or over
several, is read back from it (`Codec.Faithful.parse_compact`, `Codec.Faithful.parse_pretty`).
-/

namespace VisualNovel

/-! ## Plain documents -/

/-- Strings have texts, numbers are literals with values, and at most `n` arrays and objects stand
inside each other. -/
inductive Json.IsPlain : Nat → Json → Prop
  | null (n : Nat) : IsPlain n .null
  | bool (n : Nat) (b : Bool) : IsPlain n (.bool b)
  | number (n : Nat) {literal : Json.Number} (hliteral : literal.IsLiteral)
      (hvalue : literal.numeric?.isSome = true) : IsPlain n (.number literal)
  | string (n : Nat) (text : String) : IsPlain n (.ofString text)
  | array {n : Nat} {items : List Json} (h : ∀ item ∈ items, IsPlain n item) :
      IsPlain (n + 1) (.array items)
  | object {n : Nat} {members : List (Json.Text × Json)}
      (hnames : ∀ member ∈ members, member.1.isSome = true)
      (h : ∀ member ∈ members, IsPlain n member.2) :
      IsPlain (n + 1) (.object members)

namespace Json

variable {n : Nat} {json : Json}

/-- What is plain can be written. -/
theorem IsPlain.isWritable (h : json.IsPlain n) : json.IsWritable := by
  induction h with
  | null => exact .null
  | bool _ b => exact .bool b
  | number _ hliteral => exact .number hliteral
  | string _ text => exact .string (some text)
  | array _ ih => exact .array ih
  | object _ _ ih => exact .object ih

/-- Items are sound when each of them is. -/
theorem itemsSound_iff {items : List Json} :
    itemsSound items = true ↔ ∀ item ∈ items, item.isSound = true := by
  induction items with
  | nil => simp [itemsSound]
  | cons item items ih => simp [itemsSound, ih]

/-- Members are sound when each has a name and a sound value. -/
theorem membersSound_iff {members : List (Json.Text × Json)} :
    membersSound members = true ↔
      ∀ member ∈ members, member.1.isSome = true ∧ member.2.isSound = true := by
  induction members with
  | nil => simp [membersSound]
  | cons member members ih =>
    obtain ⟨name, value⟩ := member
    simp [membersSound, memberSound, ih]

/-- Items nest as deep as the deepest of them. -/
theorem itemsDepth_le_iff {items : List Json} :
    itemsDepth items ≤ n ↔ ∀ item ∈ items, item.depth ≤ n := by
  induction items with
  | nil => simp [itemsDepth]
  | cons item items ih => simp only [itemsDepth, Nat.max_le, ih, List.forall_mem_cons]

/-- Members nest as deep as the deepest of their values. -/
theorem membersDepth_le_iff {members : List (Json.Text × Json)} :
    membersDepth members ≤ n ↔ ∀ member ∈ members, member.2.depth ≤ n := by
  induction members with
  | nil => simp [membersDepth]
  | cons member members ih =>
    obtain ⟨name, value⟩ := member
    simp only [membersDepth, memberDepth, Nat.max_le, ih, List.forall_mem_cons]

/-- In what is plain, strings have texts and numbers have values. -/
theorem IsPlain.isSound (h : json.IsPlain n) : json.isSound = true := by
  induction h with
  | null | bool | string => rfl
  | number _ _ hvalue => exact hvalue
  | array _ ih => exact itemsSound_iff.2 ih
  | object hnames _ ih =>
    exact membersSound_iff.2 fun member hmember => ⟨hnames member hmember, ih member hmember⟩

/-- What is plain nests no deeper than it is said to. -/
theorem IsPlain.depth_le (h : json.IsPlain n) : json.depth ≤ n := by
  induction h with
  | null | bool | string | number => exact Nat.zero_le _
  | array _ ih => exact Nat.succ_le_succ (itemsDepth_le_iff.2 ih)
  | object _ _ ih => exact Nat.succ_le_succ (membersDepth_le_iff.2 ih)

/-- An object of plain values nests one level more than they do. -/
theorem IsPlain.ofMembers {members : List (String × Json)}
    (h : ∀ member ∈ members, member.2.IsPlain n) : (ofMembers members).IsPlain (n + 1) := by
  refine .object ?_ ?_ <;> rw [List.forall_mem_map]
  · exact fun _ _ => rfl
  · exact h

end Json

/-! ## Codecs -/

namespace Codec

variable {α : Type} {codec : Codec α} {n : Nat} {value : α}

/-- The value is read back from what is written for it, and that is plain. -/
structure Faithful (codec : Codec α) (n : Nat) (value : α) : Prop where
  read_write : ∀ source, codec.read source (codec.write value) = .ok value
  isPlain : (codec.write value).IsPlain n

/-- What is written as a text on one line is read back from it. -/
theorem Faithful.parse_compact (h : codec.Faithful n value) :
    codec.parse (codec.write value).compact = .ok value := by
  rw [parse, h.isPlain.isWritable.parse?_compact]
  exact h.read_write .text

/-- What is written as an indented text is read back from it. -/
theorem Faithful.parse_pretty (h : codec.Faithful n value) :
    codec.parse (codec.write value).pretty = .ok value := by
  rw [parse, h.isPlain.isWritable.parse?_pretty]
  exact h.read_write .text

/-- What is read from a text is read from the document in it. -/
theorem exists_read_of_parse {text : String} (h : codec.parse text = .ok value) :
    ∃ json, codec.read .text json = .ok value := by
  rw [parse] at h
  split at h
  · next json _ => exact ⟨json, h⟩
  · cases h

/-- A text is read back, whatever it is expected as. -/
theorem faithful_textAs (expected : Expected) (n : Nat) (text : String) :
    (textAs expected).Faithful n text :=
  ⟨fun _ => rfl, .string n text⟩

/-- A text is read back. -/
theorem faithful_text (n : Nat) (text : String) : Codec.text.Faithful n text :=
  faithful_textAs .text n text

/-- A flag is read back. -/
theorem faithful_flag (n : Nat) (b : Bool) : flag.Faithful n b :=
  ⟨fun _ => rfl, .bool n b⟩

/-- A number of 64 bits is read back. -/
theorem faithful_natural (kind : String) {k : Nat} (hk : k < Json.naturalBound) (n : Nat) :
    (natural kind).Faithful n k where
  read_write _ := by simp only [natural, Json.ofNat, Json.Number.numeric?_ofNat hk]
  isPlain := .number n (Json.Number.isLiteral_ofNat k) (by rw [Json.Number.numeric?_ofNat hk]; rfl)

/-- A number that is read has 64 bits. -/
theorem lt_of_read_natural {kind : String} {source : Source} {json : Json} {k : Nat}
    (h : (natural kind).read source json = .ok k) : k < Json.naturalBound := by
  simp only [natural] at h
  split at h
  · split at h
    · next hnumeric =>
      cases h
      exact Json.Number.lt_of_numeric? hnumeric
    · cases h
    · cases h
  · cases h

/-- The items of a list are read back one by one. -/
theorem faithful_list {values : List α} (h : ∀ value ∈ values, codec.Faithful n value) :
    codec.list.Faithful (n + 1) values where
  read_write source := by
    simp only [list]
    induction values with
    | nil => rfl
    | cons value values ih =>
      obtain ⟨hvalue, hvalues⟩ := List.forall_mem_cons.1 h
      simp only [List.map_cons, List.mapM_cons, hvalue.read_write, ih hvalues]
      rfl
  isPlain := .array (List.forall_mem_map.2 fun value hvalue => (h value hvalue).isPlain)

/-- No value is written as null. -/
def NeverNull (codec : Codec α) : Prop :=
  ∀ value, codec.write value ≠ .null

/-- An optional value is told from the missing one because it is not written as null. -/
theorem faithful_optional (hnull : codec.NeverNull) {value? : Option α}
    (h : ∀ value ∈ value?, codec.Faithful n value) : codec.optional.Faithful n value? := by
  cases value? with
  | none => exact ⟨fun _ => rfl, .null n⟩
  | some value =>
    have hvalue := h value rfl
    refine ⟨fun source => ?_, hvalue.isPlain⟩
    simp only [optional]
    split
    · next heq => exact absurd heq (hnull value)
    · rw [hvalue.read_write]
      rfl

end Codec

/-- Different values have different words. -/
class LawfulWorded (α : Type) [Worded α] : Prop where
  ofWord?_word : ∀ value : α, Worded.ofWord? (Worded.word value) = some value

namespace Codec

/-- A value with a word of its own is read back. -/
theorem faithful_word {α : Type} [Worded α] [LawfulWorded α] (n : Nat) (value : α) :
    (word α).Faithful n value where
  read_write source := by
    simp only [word, Json.ofString, readWord, LawfulWorded.ofWord?_word]
  isPlain := .string n _

end Codec
end VisualNovel

import VisualNovel.Schema.Codec

/-!
# Records

A record is read from an object with a member per field, in any order and with other members
ignored, or from an array with an item per field. It is written as an object with the fields in
their own order.

Members are read in the order of the text, so the first bad or repeated one is reported; fields
that are missing are reported afterwards, the first in the record's order.
-/

namespace VisualNovel

/-- A field of a record. -/
structure Field (α : Type) where
  /-- The name of its member. -/
  name : String
  /-- How its value is read and written. -/
  codec : Codec α
  /-- Its value in an object without such a member. -/
  whenAbsent : Option α := none
  /-- Its value in an array that ends before it. -/
  whenShort : Option α := none
  /-- Whether the value is written at all. -/
  isShown : α → Bool := fun _ => true

namespace Field

/-- A field that has to be there. -/
def required {α : Type} (name : String) (codec : Codec α) : Field α :=
  { name, codec }

/-- A field with a default value. -/
def withDefault {α : Type} (name : String) (codec : Codec α) (default : α) : Field α :=
  { name, codec, whenAbsent := some default, whenShort := some default }

/-- An optional field, written as null when there is no value. -/
def nullable {α : Type} (name : String) (codec : Codec α) : Field (Option α) :=
  { name, codec := codec.optional, whenAbsent := some none }

/-- An optional field, left out when there is no value. -/
def omittable {α : Type} (name : String) (codec : Codec α) : Field (Option α) :=
  { name, codec := codec.optional, whenAbsent := some none, whenShort := some none
    isShown := Option.isSome }

end Field

/-- The fields of a record whose values form the given product. -/
inductive Fields : Type → Type 1 where
  | nil : Fields Unit
  | cons {α β : Type} (field : Field α) (fields : Fields β) : Fields (α × β)

namespace Fields

/-- How many fields there are. -/
def count {β : Type} : Fields β → Nat
  | .nil => 0
  | .cons _ fields => fields.count + 1

/-- The names of the fields, in order. -/
def names {β : Type} : Fields β → List String
  | .nil => []
  | .cons field fields => field.name :: fields.names

/-! ## Objects -/

/-- A value for each field that has been met. -/
def Slots {β : Type} : Fields β → Type
  | .nil => Unit
  | @cons α _ _ fields => Option α × fields.Slots

/-- No field has been met. -/
def noneMet {β : Type} : (fields : Fields β) → fields.Slots
  | .nil => ()
  | .cons _ fields => (none, fields.noneMet)

/-- Takes the member of an object into the slot of its field. -/
def meet {β : Type} (source : Source) (name : String) (json : Json) :
    (fields : Fields β) → fields.Slots → Except ReadError fields.Slots
  | .nil, slots => .ok slots
  | @cons α _ field fields, slots =>
    let (slot, others) : Option α × fields.Slots := slots
    if field.name = name then
      if slot.isSome then .error (.duplicateField name)
      else do
        let value ← field.codec.read source json
        .ok (some value, others)
    else do
      let others ← fields.meet source name json others
      .ok (slot, others)

/-- Takes the members of an object one after the other. -/
def meetAll {β : Type} (source : Source) (fields : Fields β) :
    List (Json.Text × Json) → fields.Slots → Except ReadError fields.Slots
  | [], slots => .ok slots
  | (none, _) :: _, _ => .error .malformed
  | (some name, json) :: members, slots => do
    let slots ← fields.meet source name json slots
    fields.meetAll source members slots

/-- The values of all fields, with defaults for those that have not been met. -/
def settle {β : Type} : (fields : Fields β) → fields.Slots → Except ReadError β
  | .nil, () => .ok ()
  | @cons α _ field fields, slots =>
    let (slot, others) : Option α × fields.Slots := slots
    match slot.or field.whenAbsent with
    | some value => do
      let values ← fields.settle others
      .ok (value, values)
    | none => .error (.missingField field.name)

/-! ## Arrays -/

/-- Reads the fields from items in their own order, counting from `index`, and returns the items
that are left. `short` is the error for an array that ends before the field with that index. -/
def readItems {β : Type} (source : Source) (short : Nat → ReadError) (index : Nat) :
    Fields β → List Json → Except ReadError (β × List Json)
  | .nil, items => .ok ((), items)
  | .cons field fields, [] =>
    match field.whenShort with
    | some value => do
      let (values, items) ← fields.readItems source short (index + 1) []
      .ok ((value, values), items)
    | none => .error (short index)
  | .cons field fields, item :: items => do
    let value ← field.codec.read source item
    let (values, items) ← fields.readItems source short (index + 1) items
    .ok ((value, values), items)

/-! ## Writing -/

/-- The members of the written object. -/
def write {β : Type} : Fields β → β → List (String × Json)
  | .nil, () => []
  | .cons field fields, (value, values) =>
    if field.isShown value then (field.name, field.codec.write value) :: fields.write values
    else fields.write values

end Fields

/-- A record type: its title in messages, its fields, and how it is put together from them. -/
structure Record (α : Type) where
  /-- What messages call it. -/
  title : String
  /-- The product of the types of its fields. -/
  Parts : Type
  /-- Its fields. -/
  fields : Fields Parts
  /-- Puts a value together. -/
  build : Parts → α
  /-- Takes a value apart. -/
  parts : α → Parts

namespace Record

/-- Reads the record from the members of an object. -/
def readMembers {α : Type} (record : Record α) (source : Source)
    (members : List (Json.Text × Json)) : Except ReadError α := do
  let slots ← record.fields.meetAll source members record.fields.noneMet
  let parts ← record.fields.settle slots
  .ok (record.build parts)

/-- Reads the record from the items of an array. -/
def readItems {α : Type} (record : Record α) (source : Source) (items : List Json) :
    Except ReadError α := do
  let count := record.fields.count
  let short := fun index => ReadError.invalidLength index (.fields record.title count)
  let (parts, left) ← record.fields.readItems source short 0 items
  match source, left with
  | _, [] => .ok (record.build parts)
  | .text, _ => .error .malformed
  | .held, _ => .error (.invalidLength items.length (.length count))

/-- Reads the record from an object or an array. -/
def read {α : Type} (record : Record α) (source : Source) (json : Json) : Except ReadError α :=
  match json with
  | .object members => record.readMembers source members
  | .array items => record.readItems source items
  | _ => .error (.mismatch json (.record record.title))

/-- The members of the written record. -/
def members {α : Type} (record : Record α) (value : α) : List (String × Json) :=
  record.fields.write (record.parts value)

/-- The codec of the record. -/
def codec {α : Type} (record : Record α) : Codec α where
  read := record.read
  write value := .ofMembers (record.members value)

end Record
end VisualNovel

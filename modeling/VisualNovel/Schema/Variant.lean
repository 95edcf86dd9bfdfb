import VisualNovel.Schema.Codec

/-!
# Unions whose values are named for their kind

A value of a kind with fields is an object whose only member is named for the kind and holds the
fields. A kind without fields has a single value: the name of the kind, or an object with null
under the name.
-/

namespace VisualNovel

/-- How the values of one kind are read. -/
inductive Variant (α : Type) where
  /-- The kind has this value only. -/
  | bare (value : α)
  /-- The kind has fields. -/
  | fields (read : Source → Json → Except ReadError α)

namespace Variant

/-- Reads a value that is given by the name of its kind alone. -/
def readBare {α : Type} : Variant α → Except ReadError α
  | bare value => .ok value
  | fields _ => .error (.invalidType .unitVariant .variantWithFields)

/-- Reads a value from what stands under the name of its kind. -/
def readUnder {α : Type} (variant : Variant α) (source : Source) (json : Json) :
    Except ReadError α :=
  match variant with
  | bare value => (Codec.readNothing source json).map fun () => value
  | fields read => read source json

/-- Reads a value of a union, given how the values of each kind are read. -/
def readUnion {κ α : Type} [Worded κ] (variant : κ → Variant α) (source : Source) (json : Json) :
    Except ReadError α :=
  match json with
  | .string (some name) => do
    let kind ← Codec.readWord κ name
    (variant kind).readBare
  | .object ((some name, inner) :: others) => do
    let kind ← Codec.readWord κ name
    let value ← (variant kind).readUnder source inner
    if others.isEmpty then .ok value else .error .malformed
  | _ => .error .malformed

end Variant
end VisualNovel

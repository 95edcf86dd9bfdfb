import VisualNovel.Json.Number

/-!
# JSON documents

A document keeps the order of members and every repetition of a name, and numbers as they were
written. A string keeps its text, or the fact that its escapes give none.
-/

namespace VisualNovel

/-- The text of a JSON string; none when an escape in it is half of a surrogate pair. -/
abbrev Json.Text := Option String

/-- A JSON document. -/
inductive Json where
  | null
  | bool (value : Bool)
  | number (literal : Json.Number)
  | string (text : Json.Text)
  | array (items : List Json)
  | object (members : List (Json.Text × Json))

namespace Json

/-- A document that is a natural number. -/
def ofNat (n : Nat) : Json :=
  .number (.ofNat n)

/-- A document that is an integer. -/
def ofInt (n : Int) : Json :=
  .number (.ofInt n)

/-- A document that is a text. -/
def ofString (s : String) : Json :=
  .string (some s)

/-- A document that is an object with the given members. -/
def ofMembers (members : List (String × Json)) : Json :=
  .object (members.map fun member => (some member.1, member.2))

/-! ## Nesting and well-formed texts -/

mutual

/-- How many arrays and objects stand around the innermost place of the document. -/
def depth : Json → Nat
  | .array items => itemsDepth items + 1
  | .object members => membersDepth members + 1
  | _ => 0
termination_by structural json => json

/-- The greatest depth of some items. -/
def itemsDepth : List Json → Nat
  | [] => 0
  | item :: items => max item.depth (itemsDepth items)
termination_by structural items => items

/-- The greatest depth of some members. -/
def membersDepth : List (Json.Text × Json) → Nat
  | [] => 0
  | member :: members => max (memberDepth member) (membersDepth members)
termination_by structural members => members

/-- The depth of a member's value. -/
def memberDepth : Json.Text × Json → Nat
  | (_, value) => value.depth
termination_by structural member => member

end

mutual

/-- Whether every string has a text and every number a value. -/
def isSound : Json → Bool
  | .number n => n.numeric?.isSome
  | .string text => text.isSome
  | .array items => itemsSound items
  | .object members => membersSound members
  | _ => true
termination_by structural json => json

/-- Whether all items are sound. -/
def itemsSound : List Json → Bool
  | [] => true
  | item :: items => item.isSound && itemsSound items
termination_by structural items => items

/-- Whether all members are sound. -/
def membersSound : List (Json.Text × Json) → Bool
  | [] => true
  | member :: members => memberSound member && membersSound members
termination_by structural members => members

/-- Whether a member's name has a text and its value is sound. -/
def memberSound : Json.Text × Json → Bool
  | (name, value) => name.isSome && value.isSound
termination_by structural member => member

end

end Json
end VisualNovel

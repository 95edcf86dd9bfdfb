import VisualNovel.Json.Basic

/-!
# Writing JSON

A document is written in a `Layout`: `compact` without white space, or `pretty` with every item
and member on a line of its own, indented by two spaces per level. Empty arrays and objects stay
closed in both.
-/

namespace VisualNovel.Json

/-- Where white space goes in a written document. -/
structure Layout where
  /-- The break in front of an item, a member or a closing bracket at the given depth. -/
  lineBreak : Nat → List Char
  /-- The space between a member's colon and its value. -/
  gap : List Char

/-- No white space at all. -/
def Layout.compact : Layout :=
  ⟨fun _ => [], []⟩

/-- A line for every item and member. -/
def Layout.pretty : Layout :=
  ⟨fun depth => '\n' :: List.replicate (2 * depth) ' ', [' ']⟩

/-! ## Strings -/

/-- The digit of a value below sixteen. -/
def hexChar (n : Nat) : Char :=
  Nat.digitChar n

/-- The `\u` escape of a value below 2 ^ 16. -/
def unitEscape (n : Nat) : List Char :=
  ['\\', 'u', hexChar (n / 4096 % 16), hexChar (n / 256 % 16), hexChar (n / 16 % 16),
    hexChar (n % 16)]

/-- A character inside a string: quotes, backslashes and controls are escaped, the rest stands
for itself. -/
def escapeChar (c : Char) : List Char :=
  match c with
  | '"' => ['\\', '"']
  | '\\' => ['\\', '\\']
  | '\x08' => ['\\', 'b']
  | '\x0c' => ['\\', 'f']
  | '\n' => ['\\', 'n']
  | '\r' => ['\\', 'r']
  | '\t' => ['\\', 't']
  | c => if c.toNat < 0x20 then unitEscape c.toNat else [c]

/-- A string between quotes. One without text is written as half of a surrogate pair. -/
def writeText : Json.Text → List Char
  | some text => '"' :: text.toList.flatMap escapeChar ++ ['"']
  | none => '"' :: unitEscape 0xD800 ++ ['"']

/-! ## Documents -/

mutual

/-- The document at the given depth. -/
def write (layout : Layout) (depth : Nat) : Json → List Char
  | .null => ['n', 'u', 'l', 'l']
  | .bool true => ['t', 'r', 'u', 'e']
  | .bool false => ['f', 'a', 'l', 's', 'e']
  | .number n => n.chars
  | .string text => writeText text
  | .array [] => ['[', ']']
  | .array items => '[' :: writeItems layout (depth + 1) items ++ layout.lineBreak depth ++ [']']
  | .object [] => ['{', '}']
  | .object members =>
    '{' :: writeMembers layout (depth + 1) members ++ layout.lineBreak depth ++ ['}']
termination_by structural json => json

/-- Items separated by commas, each after a break. -/
def writeItems (layout : Layout) (depth : Nat) : List Json → List Char
  | [] => []
  | [item] => layout.lineBreak depth ++ item.write layout depth
  | item :: items =>
    layout.lineBreak depth ++ item.write layout depth ++ ',' :: writeItems layout depth items
termination_by structural items => items

/-- Members separated by commas, each after a break. -/
def writeMembers (layout : Layout) (depth : Nat) : List (Json.Text × Json) → List Char
  | [] => []
  | [member] => layout.lineBreak depth ++ writeMember layout depth member
  | member :: members =>
    layout.lineBreak depth ++ writeMember layout depth member
      ++ ',' :: writeMembers layout depth members
termination_by structural members => members

/-- A name, a colon and a value. -/
def writeMember (layout : Layout) (depth : Nat) : Json.Text × Json → List Char
  | (name, value) => writeText name ++ ':' :: layout.gap ++ value.write layout depth
termination_by structural member => member

end

/-- The document without white space. -/
def compact (json : Json) : String :=
  String.ofList (json.write .compact 0)

/-- The document with a line for every item and member. -/
def pretty (json : Json) : String :=
  String.ofList (json.write .pretty 0)

end VisualNovel.Json

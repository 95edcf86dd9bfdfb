import VisualNovel.Json.Token

/-!
# Reading JSON

A document is built from its tokens one by one, with a stack of the arrays and objects that are
still open. `Json.parse?` accepts exactly one document with white space around it.
-/

namespace VisualNovel.Json

/-- An array or object that is still open, its parts in reverse. -/
inductive Frame where
  /-- An array and its items so far. -/
  | array (items : List Json)
  /-- An object and its members so far. -/
  | object (members : List (Json.Text × Json))
  /-- An object whose next member has its name already. -/
  | member (members : List (Json.Text × Json)) (name : Json.Text)

/-- What the next token may be. -/
inductive Expecting where
  /-- The start of a value. -/
  | value
  /-- The start of a value, or the end of an array without items. -/
  | firstItem
  /-- A member's name, or the end of an object without members. -/
  | firstName
  /-- A member's name. -/
  | name
  /-- The colon after a member's name. -/
  | colon
  /-- What follows the finished value: a comma, the end of its container, or nothing. -/
  | after (value : Json)

/-- A document under construction: what may come next, and what is still open. -/
structure Draft where
  /-- What the next token may be. -/
  expecting : Expecting
  /-- The open arrays and objects, innermost first. -/
  stack : List Frame

namespace Draft

/-- Nothing has been read yet. -/
def start : Draft :=
  ⟨.value, []⟩

/-- Takes the first token of a value. -/
def beginValue (stack : List Frame) : Token → Option Draft
  | .openArray => some ⟨.firstItem, .array [] :: stack⟩
  | .openObject => some ⟨.firstName, .object [] :: stack⟩
  | .null => some ⟨.after .null, stack⟩
  | .bool b => some ⟨.after (.bool b), stack⟩
  | .number n => some ⟨.after (.number n), stack⟩
  | .string text => some ⟨.after (.string text), stack⟩
  | _ => none

/-- Takes the name of a member. -/
def beginMember (stack : List Frame) : Token → Option Draft
  | .string name =>
    match stack with
    | .object members :: stack => some ⟨.colon, .member members name :: stack⟩
    | _ => none
  | _ => none

/-- Takes the token after a finished value. -/
def continueAfter (value : Json) (stack : List Frame) : Token → Option Draft
  | .comma =>
    match stack with
    | .array items :: stack => some ⟨.value, .array (value :: items) :: stack⟩
    | .member members name :: stack => some ⟨.name, .object ((name, value) :: members) :: stack⟩
    | _ => none
  | .closeArray =>
    match stack with
    | .array items :: stack => some ⟨.after (.array (value :: items).reverse), stack⟩
    | _ => none
  | .closeObject =>
    match stack with
    | .member members name :: stack =>
      some ⟨.after (.object ((name, value) :: members).reverse), stack⟩
    | _ => none
  | _ => none

/-- Takes one token. -/
def step (p : Draft) (t : Token) : Option Draft :=
  match p.expecting with
  | .value => beginValue p.stack t
  | .firstItem =>
    match t, p.stack with
    | .closeArray, .array _ :: stack => some ⟨.after (.array []), stack⟩
    | t, stack => beginValue stack t
  | .firstName =>
    match t, p.stack with
    | .closeObject, .object _ :: stack => some ⟨.after (.object []), stack⟩
    | t, stack => beginMember stack t
  | .name => beginMember p.stack t
  | .colon =>
    match t with
    | .colon => some ⟨.value, p.stack⟩
    | _ => none
  | .after value => continueAfter value p.stack t

/-- The finished document, if nothing is open. -/
def finish? (p : Draft) : Option Json :=
  match p with
  | ⟨.after value, []⟩ => some value
  | _ => none

end Draft

/-- The document that the tokens spell. -/
def ofTokens? (tokens : List Token) : Option Json := do
  let p ← tokens.foldlM Draft.step Draft.start
  p.finish?

/-- The document that the text spells. -/
def parse? (text : String) : Option Json := do
  let tokens ← Token.scan text.toList
  ofTokens? tokens

end VisualNovel.Json

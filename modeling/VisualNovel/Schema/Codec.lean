import VisualNovel.Json.Parser
import VisualNovel.Json.Printer
import VisualNovel.Schema.Error

/-!
# Reading and writing values as JSON

A `Codec` reads a type from documents and writes it as one. This module has the codecs of texts,
numbers, lists, optional values and plain enumerations; records are in `Schema.Record`.
-/

namespace VisualNovel

/-- Where a document comes from. Some faults are told differently in the two cases. -/
inductive Source where
  /-- It is read straight from a text. -/
  | text
  /-- It was held back as a whole until its type was known. -/
  | held
deriving DecidableEq

/-- How a type is read from documents and written as one. -/
structure Codec (α : Type) where
  /-- Reads a value. -/
  read : Source → Json → Except ReadError α
  /-- Writes a value. -/
  write : α → Json

/-- Reads a value from a text. -/
def Codec.parse {α : Type} (codec : Codec α) (text : String) : Except ReadError α :=
  match Json.parse? text with
  | some json => codec.read .text json
  | none => .error .malformed

namespace Codec

/-! ## Scalars -/

/-- A text, described as `expected` where it is missing. -/
def textAs (expected : Expected) : Codec String where
  read _ json :=
    match json with
    | .string (some text) => .ok text
    | _ => .error (.mismatch json expected)
  write := .ofString

/-- A text. -/
def text : Codec String :=
  textAs .text

/-- A truth value. -/
def flag : Codec Bool where
  read _ json :=
    match json with
    | .bool b => .ok b
    | _ => .error (.mismatch json .flag)
  write := .bool

/-- A natural number of 64 bits, under the name of its kind. -/
def natural (kind : String) : Codec Nat where
  read _ json :=
    match json with
    | .number n =>
      match n.numeric? with
      | some (.natural n) => .ok n
      | some (.negative n) => .error (.invalidValue (.integer n) (.number kind))
      | _ => .error (.mismatch json (.number kind))
    | _ => .error (.mismatch json (.number kind))
  write := .ofNat

/-- An integer of 64 bits, under the name of its kind. -/
def integer (kind : String) : Codec Int where
  read _ json :=
    match json with
    | .number n =>
      match n.numeric? with
      | some (.natural n) =>
        if n < Json.negativeBound then .ok n else .error (.invalidValue (.integer n) (.number kind))
      | some (.negative n) => .ok n
      | _ => .error (.mismatch json (.number kind))
    | _ => .error (.mismatch json (.number kind))
  write := .ofInt

/-! ## Lists and optional values -/

/-- A list, written as an array. -/
def list {α : Type} (codec : Codec α) : Codec (List α) where
  read source json :=
    match json with
    | .array items => items.mapM (codec.read source)
    | _ => .error (.mismatch json .sequence)
  write values := .array (values.map codec.write)

/-- A value that may be null. -/
def optional {α : Type} (codec : Codec α) : Codec (Option α) where
  read source json :=
    match json with
    | .null => .ok none
    | _ => (codec.read source json).map some
  write
    | some value => codec.write value
    | none => .null

end Codec

/-! ## Enumerations -/

/-- A type with finitely many values, each of which has a word. -/
class Worded (α : Type) where
  /-- All values, in the order in which messages list them. -/
  all : List α
  /-- The word of a value. -/
  word : α → String

/-- The value that a word stands for. -/
def Worded.ofWord? {α : Type} [Worded α] (word : String) : Option α :=
  (Worded.all (α := α)).find? (Worded.word · == word)

namespace Codec

/-- The value with the given word. -/
def readWord (α : Type) [Worded α] (word : String) : Except ReadError α :=
  match Worded.ofWord? word with
  | some value => .ok value
  | none => .error (.unknownVariant word ((Worded.all (α := α)).map Worded.word))

/-- Checks the value that stands under the word of a variant without fields. -/
def readNothing (source : Source) (json : Json) : Except ReadError Unit :=
  match source, json with
  | _, .null => .ok ()
  | .held, .object [] => .ok ()
  | _, json => .error (.mismatch json .unit)

/-- An enumeration: a word, or an object with the word as its only member and null under it. -/
def word (α : Type) [Worded α] : Codec α where
  read source json :=
    match source, json with
    | _, .string (some name) => readWord α name
    | .text, .object ((some name, value) :: others) => do
      let variant ← readWord α name
      readNothing .text value
      if others.isEmpty then .ok variant else .error .malformed
    | .text, _ => .error .malformed
    | .held, .object [(some name, value)] => do
      let variant ← readWord α name
      readNothing .held value
      .ok variant
    | .held, .object _ => .error (.invalidValue .map .singleMember)
    | .held, json => .error (.mismatch json .variant)
  write value := .ofString (Worded.word value)

end Codec
end VisualNovel

import VisualNovel.Json.Basic
import VisualNovel.Decimal.Layout
import VisualNovel.Text.Quoted

/-!
# Why a document cannot be read

`ReadError` lists the causes. `ReadError.message` is their wording, in terms of what was found
(`Found`) and what the schema asks for (`Expected`).
-/

namespace VisualNovel

/-- What stands in a document where something else is expected. -/
inductive Found where
  | null
  | boolean (value : Bool)
  | integer (value : Int)
  | float (value : Float)
  | string (text : String)
  | sequence
  | map
  | unitVariant

/-- What stands at the top of the document; none when it is a string without a text or a number
without a value. -/
def Found.of? : Json → Option Found
  | .null => some .null
  | .bool b => some (.boolean b)
  | .number n =>
    match n.numeric? with
    | some (.natural n) => some (.integer n)
    | some (.negative n) => some (.integer n)
    | some (.float x) => some (.float x)
    | none => none
  | .string (some text) => some (.string text)
  | .string none => none
  | .array _ => some .sequence
  | .object _ => some .map

/-- The wording of what was found. -/
def Found.describe : Found → String
  | .null => "null"
  | .boolean b => s!"boolean `{b}`"
  | .integer n => s!"integer `{n}`"
  | .float x => s!"floating point `{String.ofList ((Decimal.ofFloat? x).getD [])}`"
  | .string text => "string " ++ Text.quoted text
  | .sequence => "sequence"
  | .map => "map"
  | .unitVariant => "unit variant"

/-- What a schema asks for. -/
inductive Expected where
  | text
  | path
  | date
  | flag
  /-- A number of the kind with the given name. -/
  | number (kind : String)
  | sequence
  | unit
  /-- The name of a variant. -/
  | variantName
  /-- A variant written as its name, or as an object with its name as the only member. -/
  | variant
  /-- An object with one member. -/
  | singleMember
  /-- A variant that has fields. -/
  | variantWithFields
  /-- A union whose variants are told apart by a member. -/
  | taggedUnion (name : String)
  /-- A record, or a variant with fields, under its full title. -/
  | record (title : String)
  /-- All the fields of a record. -/
  | fields (title : String) (count : Nat)
  /-- A sequence of the given length. -/
  | length (count : Nat)

/-- A count of elements. -/
def elements (count : Nat) : String :=
  if count = 1 then "1 element" else s!"{count} elements"

/-- The wording of what is expected. -/
def Expected.describe : Expected → String
  | .text => "a string"
  | .path => "path string"
  | .date => "an RFC 3339 formatted date and time string"
  | .flag => "a boolean"
  | .number kind => kind
  | .sequence => "a sequence"
  | .unit => "unit"
  | .variantName => "variant identifier"
  | .variant => "string or map"
  | .singleMember => "map with a single key"
  | .variantWithFields => "struct variant"
  | .taggedUnion name => "internally tagged enum " ++ name
  | .record title => title
  | .fields title count => title ++ " with " ++ elements count
  | .length count => elements count ++ " in sequence"

/-- Why a document cannot be read. -/
inductive ReadError where
  /-- The text is not JSON, or a value in it has no meaning of its own. -/
  | malformed
  /-- A text that should be a date is none. -/
  | invalidDate
  | missingField (name : String)
  | duplicateField (name : String)
  | unknownVariant (name : String) (known : List String)
  | invalidType (found : Found) (expected : Expected)
  | invalidValue (found : Found) (expected : Expected)
  | invalidLength (length : Nat) (expected : Expected)

/-- The names to choose from. -/
def oneOf (names : List String) : String :=
  match names.map fun name => s!"`{name}`" with
  | [a, b] => a ++ " or " ++ b
  | names => "one of " ++ ", ".intercalate names

/-- The wording of a cause. -/
def ReadError.message : ReadError → String
  | .malformed => "JSON syntax error"
  | .invalidDate => "invalid timestamp"
  | .missingField name => s!"missing field `{name}`"
  | .duplicateField name => s!"duplicate field `{name}`"
  | .unknownVariant name known => s!"unknown variant `{name}`, expected {oneOf known}"
  | .invalidType found expected =>
    "invalid type: " ++ found.describe ++ ", expected " ++ expected.describe
  | .invalidValue found expected =>
    "invalid value: " ++ found.describe ++ ", expected " ++ expected.describe
  | .invalidLength length expected =>
    s!"invalid length {length}, expected " ++ expected.describe

/-- The error for a document of the wrong type. -/
def ReadError.mismatch (json : Json) (expected : Expected) : ReadError :=
  match Found.of? json with
  | some found => .invalidType found expected
  | none => .malformed

end VisualNovel

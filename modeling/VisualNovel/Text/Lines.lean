/-!
# Lines

A line of output ends with a line feed. Input is split after each line feed, and a line loses its
end, which is a line feed with or without a carriage return before it.
-/

namespace VisualNovel.Text

/-- A line of output. -/
def line (text : String) : String :=
  text ++ "\n"

/-- Lines of output. -/
def lines (texts : List String) : String :=
  String.join (texts.map line)

/-- Puts a byte in front of lines: into the first line, or as a line of its own when it is a line
feed or there is no line. -/
def consByte (byte : UInt8) : List (List UInt8) → List (List UInt8)
  | [] => [[byte]]
  | first :: others =>
    if byte = 10 then [byte] :: first :: others else (byte :: first) :: others

/-- Splits bytes after each line feed. -/
def splitLines (bytes : List UInt8) : List (List UInt8) :=
  bytes.foldr consByte []

/-- A line without the line feed at its end, and without a carriage return before that. -/
def withoutLineEnd (bytes : List UInt8) : List UInt8 :=
  match bytes.reverse with
  | 10 :: 13 :: rest => rest.reverse
  | 10 :: rest => rest.reverse
  | _ => bytes

/-- The text of some bytes, if they are the UTF-8 form of one. -/
def ofBytes? (bytes : List UInt8) : Option String :=
  String.fromUTF8? ⟨bytes.toArray⟩

/-- The lines of some bytes; none for a line that is no text. -/
def linesOf (bytes : ByteArray) : List (Option String) :=
  (splitLines bytes.data.toList).map fun line => ofBytes? (withoutLineEnd line)

end VisualNovel.Text

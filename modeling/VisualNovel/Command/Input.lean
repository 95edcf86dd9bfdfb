import VisualNovel.Disk.Basic
import VisualNovel.Text.Lines

/-!
# Input

Lines of input come from the standard input or from a file. Bytes are taken in block by block, each
block when a line needs it. So what is written into the file while a session goes on becomes input
as far as it lies behind the blocks that were taken in before.
-/

namespace VisualNovel

/-- Where input comes from. -/
inductive Input.Origin where
  | standard (bytes : ByteArray)
  /-- What is at a place of a disk. -/
  | file (place : Place)

/-- Input of which a part may have been taken in. -/
structure Input where
  origin : Input.Origin
  /-- How many bytes have been taken in. -/
  position : Nat := 0
  /-- The bytes that have been taken in and belong to no line so far. -/
  pending : List UInt8 := []

namespace Input

/-- The input in the file at a path; the standard input when there is no path. -/
def ofPath (disk : Disk) (path : Option String) (standard : ByteArray) :
    Except FileError Input :=
  match path with
  | none => .ok { origin := .standard standard }
  | some path => do
    let (place, _) ← disk.find path
    .ok { origin := .file place }

/-- The bytes that there are now; none when they cannot be read. -/
def bytes? (input : Input) (disk : Disk) : Option ByteArray :=
  match input.origin with
  | .standard bytes => some bytes
  | .file place =>
    match disk.entry? place with
    | some (.file bytes) => some bytes
    | _ => none

/-- The greatest length of a block. -/
def blockSize : Nat := 8192

/-- The block that follows what has been taken in, empty at the end. -/
def block (input : Input) (bytes : ByteArray) : ByteArray :=
  bytes.extract input.position (input.position + blockSize)

/-- A block does not reach beyond the end. -/
theorem size_block (input : Input) (bytes : ByteArray) :
    (input.block bytes).size = min (input.position + blockSize) bytes.size - input.position := by
  simp [block]

/-- The next line with its end, empty at the end of the input, and the input after it. -/
def takeLine (input : Input) (bytes : ByteArray) : List UInt8 × Input :=
  match input.pending.span (· != 10) with
  | (line, lineEnd :: pending) => (line ++ [lineEnd], { input with pending })
  | (line, []) =>
    let taken := input.block bytes
    if _h : taken.size = 0 then (line, { input with pending := [] })
    else
      let (others, input) :=
        takeLine { input with position := input.position + taken.size, pending := taken.data.toList }
          bytes
      (line ++ others, input)
termination_by bytes.size - input.position
decreasing_by
  have := input.size_block bytes
  simp only [taken] at _h ⊢
  omega

/-- The next line, which is none when it is no text or cannot be read, and the input after it;
nothing at the end. -/
def next? (input : Input) (disk : Disk) : Option (Option String × Input) :=
  match input.bytes? disk with
  | none => some (none, input)
  | some bytes =>
    match input.takeLine bytes with
    | ([], _) => none
    | (line, input) => some (Text.ofBytes? (Text.withoutLineEnd line), input)

/-- More lines than a session can take from the input. A line takes a byte of what there is at the
beginning, or it is the rest of a save that was written since: a save is a single line, and only
the one that follows another state of the story is longer than the one before. -/
def lineLimit (input : Input) (disk : Disk) : Nat :=
  4 * ((input.bytes? disk).map (·.size)).getD 0 + 4

end Input
end VisualNovel

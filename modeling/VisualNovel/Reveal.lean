/-!
# Showing a text bit by bit

A `Reveal` shows a growing part of a text. A timer collects the characters that are due, at a
speed in characters per second; what is not yet a whole character stays on the timer.
-/

namespace VisualNovel

/-- A text of which the first characters are visible. -/
structure Reveal where
  text : String := ""
  /-- How many characters the text has. -/
  total : Nat := text.length
  total_eq : total = text.length := by rfl
  /-- How many characters are visible. -/
  visible : Nat := 0
  /-- Characters per second; at zero or less a text is shown at once. -/
  speed : Float32
  /-- The part of the next character that is due. -/
  timer : Float32 := 0
deriving DecidableEq

namespace Reveal

/-- The speed unless another is asked for. -/
def defaultSpeed : Float32 := 33

/-- Whether the whole text is visible. -/
def isComplete (reveal : Reveal) : Bool :=
  reveal.total ≤ reveal.visible

/-- Where the character with the number starts, in bytes; none when there are not so many. -/
def startOf? : (chars : List Char) → (number : Nat) → Option Nat
  | [], _ => none
  | _ :: _, 0 => some 0
  | c :: chars, number + 1 => (startOf? chars number).map (c.utf8Size + ·)

/-- The visible part of the text: what is in front of the first character that is hidden. -/
def visibleText (reveal : Reveal) : String :=
  match startOf? reveal.text.toList reveal.visible with
  | some start => (String.fromUTF8? (reveal.text.toUTF8.extract 0 start)).getD ""
  | none => reveal.text

/-- Shows a new text from its start. -/
def restart (reveal : Reveal) (text : String) : Reveal :=
  { text, speed := reveal.speed }

/-- Shows the whole text. -/
def skipToEnd (reveal : Reveal) : Reveal :=
  { reveal with visible := reveal.total, timer := 0 }

/-- Takes whole characters off the timer, at most `hidden` of them: how many are then visible, and
what is left. -/
def takeDue (visible : Nat) : (hidden : Nat) → (timer : Float32) → Nat × Float32
  | 0, timer => (visible, timer)
  | hidden + 1, timer =>
    if 1 ≤ timer then takeDue (visible + 1) hidden (timer - 1) else (visible, timer)

/-- Lets time pass, in seconds, and tells whether the whole text is visible then. -/
def elapse (reveal : Reveal) (seconds : Float32) : Bool × Reveal :=
  if reveal.isComplete then (true, reveal)
  else if reveal.speed ≤ 0 then (true, reveal.skipToEnd)
  else
    let hidden := reveal.total - reveal.visible
    let (visible, timer) :=
      takeDue reveal.visible hidden (reveal.timer + seconds * reveal.speed)
    let later := { reveal with visible, timer }
    (later.isComplete, later)

/-- What time makes of a text, in seconds. -/
def advance (reveal : Reveal) (seconds : Float32) : Reveal :=
  (reveal.elapse seconds).2

end Reveal
end VisualNovel

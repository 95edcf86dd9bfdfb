/-!
# History

The history keeps what the player has read, chosen and entered. It is a window on the latest
events: when it holds more than its limit, the oldest are dropped.
-/

namespace VisualNovel

/-- Something that the player has seen. The timestamp is in seconds since the start of 1970. -/
inductive HistoryEvent where
  /-- A line, with its speaker unless it is narrated. -/
  | line (speaker : Option String) (text : String) (timestamp : Int)
  /-- A choice: the question and the text that was chosen. -/
  | choiceMade (prompt : Option String) (option : String) (timestamp : Int)
  | sceneEntered (sceneId : String) (timestamp : Int)
deriving DecidableEq, Repr

namespace HistoryEvent

/-- When it happened. -/
def timestamp : HistoryEvent → Int
  | line _ _ t => t
  | choiceMade _ _ t => t
  | sceneEntered _ t => t

/-- Whether it is a line. -/
def isLine : HistoryEvent → Bool
  | line .. => true
  | _ => false

/-- The scene that was entered. -/
def scene? : HistoryEvent → Option String
  | sceneEntered sceneId _ => some sceneId
  | _ => none

end HistoryEvent

/-- The latest events, in the order in which they happened. -/
structure History where
  /-- The events that are kept, the latest at the end. -/
  kept : Array HistoryEvent := #[]
  /-- How many events are kept. -/
  limit : Nat := 1000
deriving DecidableEq, Repr

namespace History

/-- A history without events, with the default limit. -/
def new : History := {}

/-- The same events under another limit. They may be more than it allows until the next one is
added. -/
def withLimit (history : History) (limit : Nat) : History :=
  { history with limit }

/-- The events, in the order in which they happened. -/
def events (history : History) : List HistoryEvent :=
  history.kept.toList

/-- Adds an event and drops the oldest ones beyond the limit. -/
def push (history : History) (event : HistoryEvent) : History :=
  let kept := history.kept.push event
  if history.limit < kept.size then
    { history with kept := kept.extract (kept.size - history.limit) kept.size }
  else { history with kept }

/-- Adding an event keeps the limit. -/
@[simp]
theorem limit_push (history : History) (event : HistoryEvent) :
    (history.push event).limit = history.limit := by
  simp only [push]
  split <;> rfl

/-- What is kept are the last events, as many as the limit allows. -/
theorem events_push (history : History) (event : HistoryEvent) :
    (history.push event).events
      = (history.events ++ [event]).drop (history.events.length + 1 - history.limit) := by
  simp only [push, events]
  split
  next h =>
    simp only [Array.size_push] at h
    simp only [Array.toList_extract, List.extract_eq_take_drop, Array.size_push, Array.toList_push,
      Array.length_toList]
    exact List.take_of_length_le (by simp)
  next h =>
    simp only [Array.size_push] at h
    rw [Array.toList_push, Array.length_toList, Nat.sub_eq_zero_of_le (by omega), List.drop_zero]

/-- Adds several events, one after the other. -/
def pushAll (history : History) (events : List HistoryEvent) : History :=
  events.foldl push history

/-- Forgets all events. -/
def clear (history : History) : History :=
  { history with kept := #[] }

/-- How many lines there are. -/
def lineCount (history : History) : Nat :=
  history.events.countP (·.isLine)

/-- The last events, at most `count`. -/
def latest (history : History) (count : Nat) : List HistoryEvent :=
  history.events.drop (history.events.length - count)

/-- The last lines, at most `count`, in the order in which they happened. -/
def recentLines (history : History) (count : Nat) : List HistoryEvent :=
  ((history.events.reverse.filter (·.isLine)).take count).reverse

/-- The scenes entered, in order. -/
def visitedScenes (history : History) : List String :=
  history.events.filterMap (·.scene?)

end History
end VisualNovel

import Mathlib
import VisualNovel.History.Basic

/-!
# The window of the history

Whatever a history holds, and whatever its limit is, adding events leaves the latest of all of them,
as many as the limit allows (`History.events_pushAll`). What is told of the history is told of this
window: its lines, counted or the last ones of them, and the scenes that were entered in it. Which
they are is said by a relation that goes through the window from its start (`Picks`), while the last
lines are found from its end (`History.slides`).
-/

namespace VisualNovel

/-! ## Ends of a list, and what its elements tell -/

/-- The list is the end of another one: `count` elements of it, or all when it has not so many. -/
structure IsEnd {α : Type} (count : Nat) (whole last : List α) : Prop where
  isSuffix : last <:+ whole
  length_eq : last.length = min count whole.length

/-- The second list has, in order, what the elements of the first one tell. -/
inductive Picks {α β : Type} (tells : α → β → Prop) : List α → List β → Prop
  | nil : Picks tells [] []
  | take {a : α} {b : β} {as : List α} {bs : List β} (h : tells a b) (hrest : Picks tells as bs) :
    Picks tells (a :: as) (b :: bs)
  | skip {a : α} {as : List α} {bs : List β} (h : ∀ b, ¬tells a b) (hrest : Picks tells as bs) :
    Picks tells (a :: as) bs

section
variable {α β : Type} {tells : α → β → Prop}

theorem isEnd_drop (count : Nat) (whole : List α) :
    IsEnd count whole (whole.drop (whole.length - count)) where
  isSuffix := List.drop_suffix _ _
  length_eq := by
    rw [List.length_drop]
    omega

/-- The first elements of a list that is reversed are its last ones. -/
theorem isEnd_reverse_take_reverse (count : Nat) (whole : List α) :
    IsEnd count whole (whole.reverse.take count).reverse := by
  rw [List.take_reverse, List.reverse_reverse]
  exact isEnd_drop count whole

theorem picks_filterMap {tell? : α → Option β} (h : ∀ a b, tells a b ↔ tell? a = some b)
    (as : List α) : Picks tells as (as.filterMap tell?) := by
  induction as with
  | nil => exact .nil
  | cons a as ih =>
    cases htell : tell? a with
    | none =>
      rw [List.filterMap_cons_none htell]
      refine .skip (fun b hb => ?_) ih
      rw [h, htell] at hb
      cases hb
    | some b =>
      rw [List.filterMap_cons_some htell]
      exact .take ((h a b).2 htell) ih

end

/-- The event is a line, and told as it is. -/
def HistoryEvent.TellsLine (event line : HistoryEvent) : Prop :=
  line = event ∧ ∃ speaker text timestamp, event = .line speaker text timestamp

/-- The event is that the scene was entered. -/
def HistoryEvent.TellsScene (event : HistoryEvent) (sceneId : String) : Prop :=
  ∃ timestamp, event = .sceneEntered sceneId timestamp

namespace History

/-! ## The window -/

variable {new : List HistoryEvent}

@[simp]
theorem limit_pushAll (history : History) (new : List HistoryEvent) :
    (history.pushAll new).limit = history.limit := by
  induction new generalizing history with
  | nil => rfl
  | cons event new ih => exact (ih (history.push event)).trans (history.limit_push event)

/-- What is kept after some events were added are the last events, as many as the limit allows. -/
theorem events_pushAll (history : History) (hne : new ≠ []) :
    (history.pushAll new).events
      = (history.events ++ new).drop (history.events.length + new.length - history.limit) := by
  induction new generalizing history with
  | nil => exact absurd rfl hne
  | cons event new ih =>
    cases new with
    | nil => exact history.events_push event
    | cons next new =>
      have hpush := history.events_push event
      have hdropped : history.events.length + 1 - history.limit
          ≤ (history.events ++ [event]).length := by
        simp only [List.length_append, List.length_singleton]
        omega
      have hrest := ih (history.push event) (by simp)
      rw [hpush, limit_push, ← List.drop_append_of_le_length hdropped, List.drop_drop,
        List.append_assoc, List.singleton_append] at hrest
      refine hrest.trans (congrArg (List.drop · _) ?_)
      simp only [List.length_drop, List.length_append, List.length_cons, List.length_nil]
      omega

/-- New events within the limit are all kept, behind the latest of the old ones. -/
theorem events_pushAll_of_le {history : History} (hne : new ≠ [])
    (hle : new.length ≤ history.limit) :
    ∃ kept, kept <:+ history.events ∧ (history.pushAll new).events = kept ++ new := by
  have hold : history.events.length + new.length - history.limit ≤ history.events.length := by
    omega
  exact ⟨_, List.drop_suffix _ _,
    (history.events_pushAll hne).trans (List.drop_append_of_le_length hold)⟩

/-! ## What is told of the window -/

theorem picks_filter_isLine (events : List HistoryEvent) :
    Picks HistoryEvent.TellsLine events (events.filter (·.isLine)) := by
  rw [← List.filterMap_eq_filter]
  refine picks_filterMap (fun event line => ?_) events
  rw [HistoryEvent.TellsLine, Option.guard_eq_some_iff]
  cases event <;> simp [HistoryEvent.isLine, eq_comm]

theorem picks_visitedScenes (history : History) :
    Picks HistoryEvent.TellsScene history.events history.visitedScenes := by
  refine picks_filterMap (fun event sceneId => ?_) history.events
  rw [HistoryEvent.TellsScene]
  cases event <;> simp [HistoryEvent.scene?]

/-- The last lines are found from the end, and told from the first to the last of them. -/
theorem isEnd_recentLines (history : History) (count : Nat) :
    IsEnd count (history.events.filter (·.isLine)) (history.recentLines count) := by
  rw [recentLines, List.filter_reverse]
  exact isEnd_reverse_take_reverse count _

/-- Whatever a history holds, when its limit is set and some events are added, it holds the last of
all of them, as many as the limit allows. Of these, every number of last lines, the count of the
lines and the scenes that were entered are told in the order in which they happened. -/
theorem slides (history : History) (limit : Nat) (hne : new ≠ []) :
    let later := (history.withLimit limit).pushAll new
    IsEnd limit (history.events ++ new) later.events ∧
    (∃ lines, Picks HistoryEvent.TellsLine later.events lines ∧ later.lineCount = lines.length ∧
      ∀ count, IsEnd count lines (later.recentLines count)) ∧
    Picks HistoryEvent.TellsScene later.events later.visitedScenes := by
  intro later
  refine ⟨?_, ⟨_, picks_filter_isLine _, List.countP_eq_length_filter, later.isEnd_recentLines⟩,
    later.picks_visitedScenes⟩
  have hevents := (history.withLimit limit).events_pushAll hne
  rw [← List.length_append] at hevents
  exact hevents ▸ isEnd_drop limit (history.events ++ new)

/-- A history from a file that holds more events than it may. -/
def overfull : History :=
  { limit := 1
    kept := #[.sceneEntered "hall" 0, .line none "Rain." 1, .line (some "ann") "Out?" 2] }

/-- An overfull history drops several events with the first one that is added. -/
theorem slides_overfull :
    let new : List HistoryEvent := [.choiceMade (some "Out?") "Out" 3, .line none "The road." 4]
    let later := (overfull.withLimit 3).pushAll new
    new ≠ [] ∧
    later.events = [.line (some "ann") "Out?" 2, .choiceMade (some "Out?") "Out" 3,
      .line none "The road." 4] ∧
    later.recentLines 1 = [.line none "The road." 4] ∧
    IsEnd 3 (overfull.events ++ new) later.events ∧
    (∃ lines, Picks HistoryEvent.TellsLine later.events lines ∧ later.lineCount = lines.length ∧
      ∀ count, IsEnd count lines (later.recentLines count)) ∧
    Picks HistoryEvent.TellsScene later.events later.visitedScenes := by
  intro new later
  have hne : new ≠ [] := List.cons_ne_nil _ _
  exact ⟨hne, by decide +kernel, by decide +kernel, slides overfull 3 hne⟩

end History
end VisualNovel

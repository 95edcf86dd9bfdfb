import VisualNovel.Proofs.Playback.Calls

/-!
# The past does not matter

No call looks at the history, nor at the time, except to note events (`Playback.outcome_forgetPast`).
So playbacks that differ in nothing else answer a request alike and go on differing only there
(`Playback.request_congr`), and by induction no requests tell them apart (`Playback.transcript_eq`).
-/

namespace VisualNovel

/-! ## Requests -/

/-- What can be asked of a playback: a call, or a save of where it is. -/
inductive Request where
  | call (call : Call)
  | save

/-- The answer to a request. Of a save it has everything but the time. -/
inductive Answer where
  | stepped (step : Step)
  | failed (e : PlaybackError)
  | saved (cursor : Cursor) (stage : Stage) (bgm : Option String)
deriving DecidableEq

/-- What can be seen of a playback besides its history. -/
structure View where
  cursor : Cursor
  shown : Performance
  waiting : Waiting
  isFinished : Bool
deriving DecidableEq

namespace Playback

/-- The view of a playback. -/
def view (playback : Playback) : View :=
  ⟨playback.cursor, playback.shown, playback.waiting, playback.isFinished⟩

/-- The answer to a request. -/
def answer (playback : Playback) : Request → Answer
  | .call call =>
    match playback.call call with
    | .ok (_, step) => .stepped step
    | .error e => .failed e
  | .save => .saved playback.save.cursor playback.save.stage playback.save.bgm

/-- The playback after a request. A save changes nothing. -/
def afterRequest (playback : Playback) : Request → Playback
  | .call call => playback.after call
  | .save => playback

/-- The answers to requests that are made at certain times, each with the view after it. -/
def transcript (playback : Playback) : List (Instant × Request) → List (Answer × View)
  | [] => []
  | (clock, request) :: requests =>
    let asked := { playback with clock }
    let next := asked.afterRequest request
    (asked.answer request, next.view) :: next.transcript requests

/-! ## Without the past -/

/-- The playback without its history, at the beginning of time. -/
def forgetPast (playback : Playback) : Playback :=
  { playback with history := .new, clock := .ofUnix 0 }

section
variable (playback : Playback)

/-- Only the past is forgotten, so the current node stays as well. -/
theorem forgetPast_spec :
    playback.forgetPast.novel = playback.novel ∧ playback.forgetPast.cursor = playback.cursor ∧
      playback.forgetPast.shown = playback.shown ∧
      playback.forgetPast.currentNode? = playback.currentNode? ∧
      playback.forgetPast.atChoice = playback.atChoice :=
  ⟨rfl, rfl, rfl, rfl, rfl⟩

/-- The outcome of a call, without the past of where it leads. -/
def outcome (call : Call) : Except PlaybackError (Playback × Step) :=
  (playback.call call).map fun (moved, step) => (moved.forgetPast, step)

/-- The past has no part in the outcome of a call. -/
theorem outcome_forgetPast (call : Call) :
    playback.forgetPast.outcome call = playback.outcome call := by
  -- Equations that hold by definition would not rewrite the conditions of branches.
  obtain ⟨hnovel, hcursor, hshown, hnode, hchoice⟩ := playback.forgetPast_spec
  cases call with
  | jump sceneId =>
    simp only [outcome, Playback.call, jump_eq, hnovel, hshown]
    cases playback.novel.enter sceneId playback.shown.bgm .none <;> rfl
  | restart =>
    simp only [outcome, Playback.call, restart_eq, hnovel, hshown]
    cases playback.novel.enter _ _ _ <;> rfl
  | choose branchId =>
    simp only [outcome, Playback.call, choose_eq, hnovel, hshown, hnode]
    split
    · split
      · rfl
      · cases playback.novel.enter _ _ _ <;> rfl
    · rfl
  | load save =>
    simp only [outcome, Playback.call, load_eq, hnovel]
    split
    · rfl
    · split <;> rfl
  | advance =>
    simp only [outcome, Playback.call, advance_eq, hnovel, hcursor, hshown, hchoice]
    cases playback.novel.scene? playback.cursor.sceneId with
    | none => rfl
    | some scene =>
      dsimp only
      by_cases hstay : (scene.lastIndex ≤ playback.cursor.nodeIndex || playback.atChoice) = true
      · rw [if_pos hstay, if_pos hstay]
        rfl
      · rw [if_neg hstay, if_neg hstay]
        generalize playback.novel.walk _ _ _ _ = walk
        cases walk.ending with
        | halted nodeIndex => rfl
        | ranOut => rfl
        | left target =>
          dsimp only
          cases playback.novel.enter target walk.shown.bgm walk.cues <;> rfl

/-- The answer to a call and where it leads can be told from its outcome. -/
theorem answer_call (call : Call) :
    playback.answer (.call call) = (match playback.outcome call with
      | .ok (_, step) => .stepped step
      | .error e => .failed e) ∧
    (playback.afterRequest (.call call)).forgetPast = (match playback.outcome call with
      | .ok (moved, _) => moved
      | .error _ => playback.forgetPast) := by
  simp only [answer, afterRequest, outcome]
  cases hcall : playback.call call with
  | error e => exact ⟨rfl, congrArg forgetPast (after_of_error hcall)⟩
  | ok moved => exact ⟨rfl, congrArg forgetPast (after_of_ok hcall)⟩

end

variable {a b : Playback}

/-- Playbacks that differ in their pasts only answer alike, and go on differing only there. -/
theorem request_congr (h : a.forgetPast = b.forgetPast) (request : Request) :
    a.answer request = b.answer request ∧
      (a.afterRequest request).forgetPast = (b.afterRequest request).forgetPast := by
  cases request with
  | call call =>
    have houtcome : a.outcome call = b.outcome call := by
      rw [← a.outcome_forgetPast, h, b.outcome_forgetPast]
    obtain ⟨ha, ha'⟩ := a.answer_call call
    obtain ⟨hb, hb'⟩ := b.answer_call call
    rw [ha, hb, ha', hb', houtcome, h]
    exact ⟨rfl, rfl⟩
  | save =>
    refine ⟨?_, h⟩
    change a.forgetPast.answer .save = b.forgetPast.answer .save
    rw [h]

theorem view_congr (h : a.forgetPast = b.forgetPast) : a.view = b.view := by
  change a.forgetPast.view = b.forgetPast.view
  rw [h]

/-- Playbacks that differ in their pasts only cannot be told apart by any requests, be they made
at different times. -/
theorem transcript_eq (h : a.forgetPast = b.forgetPast)
    (requests : List (Instant × Instant × Request)) :
    a.transcript (requests.map fun (first, _, request) => (first, request))
      = b.transcript (requests.map fun (_, second, request) => (second, request)) := by
  induction requests generalizing a b with
  | nil => rfl
  | cons asked requests ih =>
    obtain ⟨first, second, request⟩ := asked
    have hasked : { a with clock := first }.forgetPast = { b with clock := second }.forgetPast := h
    obtain ⟨hanswer, hnext⟩ := request_congr hasked request
    simp only [List.map_cons, transcript, hanswer, view_congr hnext, ih hnext]

end Playback
end VisualNovel

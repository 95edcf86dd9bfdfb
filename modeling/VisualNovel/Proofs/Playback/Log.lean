import VisualNovel.Proofs.History.Window
import VisualNovel.Proofs.Playback.Past

/-!
# The history is the end of a log

A log that nobody cuts off says what a run of play has to tell: the scenes that were landed in, the
lines that were met there, and the choices that were made. `Playback.logAfter` writes it from
outside, from which calls succeed and where play then is, and from the nodes ahead of the cursor,
since a line belongs to the log without its scene only when no jump led to it. The history drops
events with each one that it notes. `Playback.history_eq_log` says that after any requests it holds
the latest entries of the log, as many as it may.
-/

namespace VisualNovel

/-! ## Entries -/

/-- Something that a run of play has to tell. -/
inductive LogEntry where
  /-- A line, with its speaker unless it is narrated. -/
  | line (speaker : Option String) (text : String)
  /-- A choice: the question and the text that was chosen. -/
  | choiceMade (prompt : Option String) (option : String)
  | sceneEntered (sceneId : String)
deriving DecidableEq

/-- What an event tells, without its time. -/
def HistoryEvent.entry : HistoryEvent → LogEntry
  | .line speaker text _ => .line speaker text
  | .choiceMade prompt option _ => .choiceMade prompt option
  | .sceneEntered sceneId _ => .sceneEntered sceneId

/-- The line that is met at a node. -/
def Node.logged : Node → List LogEntry
  | .dialogue line => [.line (some line.characterId) line.text]
  | .narration line => [.line none line.text]
  | .choice _ | .background _ | .character _ | .audio _ | .jump _ => []

/-- When a list goes on, the last elements are among those that were last and those that come. -/
theorem rtake_append_rtake {α : Type} (log new : List α) (n : Nat) :
    (log.rtake n ++ new).rtake n = (log ++ new).rtake n := by
  simp only [List.rtake_eq_reverse_take_reverse, List.reverse_append, List.reverse_reverse,
    List.take_append, List.take_take]
  congr 3
  omega

namespace History

/-- The history holds the end of the log. -/
structure Keeps (history : History) (log : List LogEntry) : Prop where
  limit : history.limit = 1000
  events : history.events.map (·.entry) = log.rtake 1000

variable {history : History} {log : List LogEntry}

theorem keeps_new : History.new.Keeps [] :=
  ⟨rfl, rfl⟩

/-- A history that is cleared holds the end of a new log. -/
theorem Keeps.clear (h : history.Keeps log) : history.clear.Keeps [] :=
  ⟨h.limit, rfl⟩

/-- What the history notes goes to the end of the log. -/
theorem Keeps.pushAll (h : history.Keeps log) (new : List HistoryEvent) :
    (history.pushAll new).Keeps (log ++ new.map (·.entry)) := by
  refine ⟨(history.limit_pushAll new).trans h.limit, ?_⟩
  by_cases hne : new = []
  · subst hne
    rw [List.map_nil, List.append_nil]
    exact h.events
  · have hend : (history.pushAll new).events = (history.events ++ new).rtake 1000 := by
      rw [events_pushAll history hne, List.rtake, List.length_append, h.limit]
    have hmap : ((history.events ++ new).rtake 1000).map (·.entry)
        = ((history.events ++ new).map (·.entry)).rtake 1000 := by
      rw [List.rtake, List.rtake, List.map_drop, List.length_map]
    rw [hend, hmap, List.map_append, h.events, rtake_append_rtake]

end History

namespace Playback

/-! ## The log of a run -/

section
variable (playback : Playback)

/-- The line that is met where play is. -/
def lineLog : List LogEntry :=
  match playback.currentNode? with
  | some node => node.logged
  | none => []

/-- What is to be told where play has landed in a scene. -/
def entryLog : List LogEntry :=
  .sceneEntered playback.cursor.sceneId :: playback.lineLog

/-- What is to be told when a branch of the current choice is taken. -/
def choiceLog (branchId : String) : List LogEntry :=
  match playback.currentNode? with
  | some (.choice menu) =>
    match menu.branch? branchId with
    | some branch => [.choiceMade menu.prompt branch.text]
    | none => []
  | _ => []

/-- The nodes of the scene behind the cursor. -/
def nodesAhead : List Node :=
  match playback.novel.scene? playback.cursor.sceneId with
  | some scene => scene.nodes.drop (playback.cursor.nodeIndex + 1)
  | none => []

/-- There is nothing to go on to. -/
def isAtRest : Bool :=
  playback.atChoice || playback.nodesAhead.isEmpty

/-- Going on meets a jump before anything that waits for the player. -/
def jumpsAhead : Bool :=
  match playback.nodesAhead.find? (!·.isCue) with
  | some (.jump _) => true
  | _ => false

/-- The log after a request. -/
def logAfter (log : List LogEntry) : Request → List LogEntry
  | .save => log
  | .call call =>
    match playback.call call with
    | .error _ => log
    | .ok (moved, _) =>
      match call with
      | .advance =>
        if playback.isAtRest then log
        else if playback.jumpsAhead then log ++ moved.entryLog
        else log ++ moved.lineLog
      | .choose branchId => log ++ playback.choiceLog branchId ++ moved.entryLog
      | .jump _ => log ++ moved.entryLog
      | .restart => moved.entryLog
      | .load _ => log

/-- The playback after requests that are made at certain times. -/
def afterRequests (playback : Playback) : List (Instant × Request) → Playback
  | [] => playback
  | (clock, request) :: requests =>
    ({ playback with clock }.afterRequest request).afterRequests requests

/-- The log after requests that are made at certain times. -/
def logAfterRequests (playback : Playback) (log : List LogEntry) :
    List (Instant × Request) → List LogEntry
  | [] => log
  | (clock, request) :: requests =>
    let asked := { playback with clock }
    (asked.afterRequest request).logAfterRequests (asked.logAfter log request) requests

end

/-! ## Single calls -/

section
variable {playback : Playback} {log : List LogEntry} {call : Call} {moved : Playback × Step}
  {novel : Novel} {nodes : List Node} {shown : Performance} {cues : Cues} {i : Nat}

/-- A walk leaves a scene when the first node on it that is no cue is a jump. -/
theorem walk_left_iff_find? :
    (∃ target, (novel.walk i shown cues nodes).ending = .left target)
      ↔ ∃ link, nodes.find? (!·.isCue) = some (.jump link) := by
  induction nodes generalizing i shown cues with
  | nil => simp [Novel.walk]
  | cons node nodes ih =>
    rcases node.kinds with ⟨link, rfl⟩ | hint | hcue
    · simp [Novel.walk, Node.isCue]
    · have hstop : (∀ link, node ≠ .jump link) ∧ node.isCue = false := by
        cases node with
        | dialogue | narration | choice => simp [Node.isCue]
        | background | character | audio | jump => cases hint
      simp [Novel.walk_interactive hint, hstop]
    · rw [Novel.walk_cue hcue, ih]
      simp [hcue]

theorem jumpsAhead_iff :
    playback.jumpsAhead = true
      ↔ ∃ link, playback.nodesAhead.find? (!·.isCue) = some (.jump link) := by
  simp only [jumpsAhead]
  split
  · next link hfind => simp [hfind]
  · next hother =>
    constructor
    · nofun
    · rintro ⟨link, hlink⟩
      exact absurd hlink (hother link)

/-- Going on does nothing where play is at rest, and lands where the nodes ahead lead to, in a scene
that it enters just when they lead out of this one. -/
theorem advance_cases (h : playback.advance = .ok moved) :
    (playback.isAtRest = true ∧ moved = (playback, playback.idle)) ∨
      (playback.isAtRest = false ∧
        ∃ landing, moved = playback.land landing playback.jumpsAhead) := by
  simp only [advance_eq] at h
  split at h
  · cases h
  · next scene hscene =>
    have hahead : playback.nodesAhead = scene.nodes.drop (playback.cursor.nodeIndex + 1) := by
      simp only [nodesAhead, hscene]
    have hrest : playback.isAtRest
        = (scene.lastIndex ≤ playback.cursor.nodeIndex || playback.atChoice) := by
      have hlast : (scene.nodes.drop (playback.cursor.nodeIndex + 1)).isEmpty
          = decide (scene.lastIndex ≤ playback.cursor.nodeIndex) := by
        rw [Bool.eq_iff_iff, List.isEmpty_iff, List.drop_eq_nil_iff, decide_eq_true_iff,
          Scene.lastIndex, Nat.sub_le_iff_le_add]
      rw [isAtRest, hahead, hlast, Bool.or_comm]
    rw [hrest]
    split at h
    · next hstay =>
      cases h
      exact .inl ⟨hstay, rfl⟩
    · next hmove =>
      refine .inr ⟨Bool.eq_false_iff.2 hmove, ?_⟩
      have hwalk : (∃ target, (playback.novel.walk (playback.cursor.nodeIndex + 1) playback.shown
          .none playback.nodesAhead).ending = .left target) ↔ playback.jumpsAhead = true :=
        walk_left_iff_find?.trans jumpsAhead_iff.symm
      rw [hahead] at hwalk
      generalize playback.novel.walk _ _ _ _ = walk at h hwalk
      split at h
      · next i hend =>
        cases h
        have hstays : playback.jumpsAhead = false := by
          simpa [hend] using hwalk
        exact ⟨_, by rw [hstays]⟩
      · next hend =>
        cases h
        have hstays : playback.jumpsAhead = false := by
          simpa [hend] using hwalk
        exact ⟨_, by rw [hstays]⟩
      · next target hend =>
        have hleaves : playback.jumpsAhead = true := hwalk.1 ⟨target, hend⟩
        rw [hleaves]
        cases henter : playback.novel.enter target walk.shown.bgm walk.cues with
        | error e =>
          rw [henter] at h
          cases h
        | ok landing =>
          rw [henter] at h
          cases h
          exact ⟨landing, rfl⟩

/-- The event that the history has of a node tells what the log does. -/
theorem map_entry_lineOf (timestamp : Int) (node? : Option Node) :
    (node?.bind (lineOf timestamp)).toList.map (·.entry)
      = match node? with
        | some node => node.logged
        | none => [] := by
  cases node? with
  | none => rfl
  | some node => cases node <;> rfl

/-- Where play lands, the history notes what is to be told. -/
theorem keeps_land (playback : Playback) (h : playback.history.Keeps log) (landing : Landing)
    (entered : Bool) :
    (playback.land landing entered).1.history.Keeps
      (log ++ if entered then (playback.land landing entered).1.entryLog
        else (playback.land landing entered).1.lineLog) := by
  have hline := map_entry_lineOf playback.clock.unix (playback.land landing entered).1.currentNode?
  cases entered with
  | false =>
    have hpush := h.pushAll
      ((playback.land landing false).1.currentNode?.bind (lineOf playback.clock.unix)).toList
    rw [hline] at hpush
    exact hpush
  | true =>
    have hpush := h.pushAll (.sceneEntered landing.cursor.sceneId playback.clock.unix
      :: ((playback.land landing true).1.currentNode?.bind (lineOf playback.clock.unix)).toList)
    rw [List.map_cons, hline] at hpush
    exact hpush

/-- A call that goes to a scene has noted before what belongs in front of the landing. -/
theorem keeps_noted (h : playback.history.Keeps log) (call : Call) :
    (playback.noted call).Keeps (match call with
      | .choose branchId => log ++ playback.choiceLog branchId
      | .restart => []
      | .advance | .jump _ | .load _ => log) := by
  cases call with
  | advance | jump | load => exact h
  | restart => exact h.clear
  | choose branchId =>
    simp only [noted, choiceLog]
    cases playback.currentNode? with
    | none =>
      rw [List.append_nil]
      exact h
    | some node =>
      cases node with
      | choice menu =>
        dsimp only
        cases menu.branch? branchId with
        | none =>
          rw [List.append_nil]
          exact h
        | some branch => exact h.pushAll [_]
      | dialogue | narration | background | character | audio | jump =>
        rw [List.append_nil]
        exact h

/-- A call that goes to a scene lands there, and by then it has noted what belongs in front. -/
theorem Moves.exists_land (hmoves : playback.Moves call moved) (hadvance : call ≠ .advance)
    (hload : ∀ save, call ≠ .load save) :
    ∃ landing, moved = { playback with history := playback.noted call }.land landing true := by
  cases hmoves with
  | stays => exact absurd rfl hadvance
  | loads => exact absurd rfl (hload _)
  | lands _ _ hentered =>
    rw [hentered hadvance]
    exact ⟨_, rfl⟩

/-- What a call notes goes to the end of the log. -/
theorem keeps_after (h : playback.history.Keeps log) (call : Call) :
    (playback.after call).history.Keeps (playback.logAfter log (.call call)) := by
  cases hcall : playback.call call with
  | error e =>
    rw [after_of_error hcall]
    simpa only [logAfter, hcall] using h
  | ok moved =>
    rw [after_of_ok hcall]
    simp only [logAfter, hcall]
    have hmoves := moves_of_call hcall
    cases call with
    | advance =>
      rcases advance_cases hcall with ⟨hrest, rfl⟩ | ⟨hrest, landing, rfl⟩
      · rw [if_pos hrest]
        exact h
      · rw [hrest, if_neg Bool.false_ne_true, ← apply_ite]
        exact keeps_land playback h landing playback.jumpsAhead
    | load save =>
      cases hmoves with
      | lands hdep => cases hdep
      | loads => exact h
    | choose branchId =>
      obtain ⟨landing, rfl⟩ := hmoves.exists_land (by simp) (by simp)
      exact keeps_land _ (keeps_noted h (.choose branchId)) landing true
    | jump sceneId =>
      obtain ⟨landing, rfl⟩ := hmoves.exists_land (by simp) (by simp)
      exact keeps_land _ (keeps_noted h (.jump sceneId)) landing true
    | restart =>
      obtain ⟨landing, rfl⟩ := hmoves.exists_land (by simp) (by simp)
      exact keeps_land { playback with history := playback.noted .restart }
        (keeps_noted h .restart) landing true

/-! ## Runs -/

/-- After any requests the history holds the end of the log. -/
theorem keeps_afterRequests (h : playback.history.Keeps log)
    (requests : List (Instant × Request)) :
    (playback.afterRequests requests).history.Keeps
      (playback.logAfterRequests log requests) := by
  induction requests generalizing playback log with
  | nil => exact h
  | cons asked requests ih =>
    obtain ⟨clock, request⟩ := asked
    have hasked : { playback with clock }.history.Keeps log := h
    cases request with
    | save => exact ih hasked
    | call call => exact ih (keeps_after hasked call)

end

/-- A start notes the scene that it lands in, and the line there. From then on, after any requests
at any times, with any saves, the history holds the last thousand entries of the log that began with
them. -/
theorem history_eq_log {novel : Novel} {clock : Instant} {moved : Playback × Step}
    (h : start novel clock = .ok moved) (requests : List (Instant × Request)) :
    (moved.1.afterRequests requests).history.events.map (·.entry)
      = (moved.1.logAfterRequests moved.1.entryLog requests).rtake 1000 := by
  obtain ⟨landing, rfl⟩ := exists_land_of_start h
  have hstart := keeps_land (blank novel clock) History.keeps_new landing true
  exact (keeps_afterRequests hstart requests).events

/-- A walk from the hall and back: nothing is told of the choice before a branch is taken, of the
gate that is only passed through, and of a jump that fails. -/
theorem history_eq_log_stroll :
    start .stroll (.ofUnix 0) = .ok strollStart ∧
    (strollStart.1.afterRequests [(.ofUnix 1, .call .advance), (.ofUnix 2, .save),
      (.ofUnix 3, .call (.choose "out")), (.ofUnix 4, .call (.jump "park")),
      (.ofUnix 5, .call .advance)]).history.events.map (·.entry)
      = [.sceneEntered "hall", .line (some "ann") "Out?", .choiceMade none "Out",
        .sceneEntered "road", .line none "Rain.", .sceneEntered "hall",
        .line (some "ann") "Out?"] := by
  refine ⟨start_stroll, (history_eq_log start_stroll _).trans ?_⟩
  cbv

end Playback
end VisualNovel

import VisualNovel.Session
import VisualNovel.Proofs.Player.Words

/-!
# Lines that come to nothing

A line of input comes to nothing when it asks for nothing that there is, when the operation that it
asks for fails, or when it asks for a load and there is no save that can be read. An operation that
fails keeps the story as the failing movement has left it, and every movement is atomic
(`Playback.Action.Atomic`): it finds out whether it fails before it changes the place, the stage,
the music or the history. Nor has the session taken a step by then (`Player.follow_of_fails`). So
the whole session stays as it was, from the story to what the deck has noted and what the store
holds (`Session.answer_of_refuses`), and such lines may be left out (`Session.afterLines_accepted`).
No line but the command to quit ends a session (`Session.answerAll_append`).
`Session.refused_unchanged` puts this together.
-/

namespace VisualNovel

/-! ## Operations that fail -/

namespace Player

variable {σ : Type} {player : Player σ}

/-- A movement that fails without a trace in the story leaves none in the session. -/
theorem follow_of_fails {α : Type} {action : Playback.Action Step} {outcome : Step → α}
    (hatomic : action.Atomic) (h : (!(player.follow action outcome).1.isOk) = true) :
    (player.follow action outcome).2 = player := by
  have hsame := hatomic player.playback
  simp only [follow] at h ⊢
  rcases hrun : action.run player.playback with ⟨_ | step, playback⟩ <;> rw [hrun] at h hsame
  · cases hsame rfl
    rfl
  · cases h

/-- What a session answers to a movement comes from its step. -/
theorem exists_step_of_follow {α : Type} {action : Playback.Action Step} {outcome : Step → α}
    {result : α} (h : (player.follow action outcome).1 = .ok result) :
    ∃ step, result = outcome step := by
  simp only [follow] at h
  rcases hrun : action.run player.playback with ⟨_ | step, playback⟩ <;> rw [hrun] at h
  · cases h
  · cases h
    exact ⟨step, rfl⟩

/-- A click that fails leaves the session as it was. -/
theorem click_of_fails (h : (!player.click.1.isOk) = true) : player.click.2 = player := by
  simp only [click] at h ⊢
  split at h
  · cases h
  · next hshown =>
    rw [if_neg hshown]
    exact follow_of_fails Playback.Action.advance_atomic h

/-- A choice that fails leaves the session as it was, whatever it fails for. -/
theorem choose_of_fails {index : Nat} (h : (!(player.choose index).1.isOk) = true) :
    (player.choose index).2 = player := by
  simp only [choose] at h ⊢
  split at h
  · split at h
    · next hhidden => rw [if_pos hhidden]
    · next hvisible =>
      rw [if_neg hvisible]
      split at h
      · rfl
      · exact follow_of_fails (Playback.Action.choose_atomic _) h
  · rfl

/-- A jump that fails leaves the session as it was. -/
theorem jump_of_fails {sceneId : String} (h : (!(player.jump sceneId).1.isOk) = true) :
    (player.jump sceneId).2 = player :=
  follow_of_fails (Playback.Action.jump_atomic sceneId) h

/-- A restart that fails leaves the session as it was. -/
theorem restart_of_fails (h : (!player.restart.1.isOk) = true) : player.restart.2 = player :=
  follow_of_fails Playback.Action.restart_atomic h

section
variable [SaveStore σ]

/-- There is nothing to load: the load fails, or no save can be read. -/
def findsNoSave (player : Player σ) : Bool :=
  match player.load.1 with
  | .ok .loaded => false
  | .ok .noSave | .error _ => true

/-- A load that finds no save, or one that leads nowhere, leaves the session as it was. -/
theorem load_of_findsNoSave (h : player.findsNoSave = true) : player.load.2 = player := by
  simp only [findsNoSave, load] at h ⊢
  cases hread : Slots.read player.store player.playback.novel.id with
  | error e => cases e <;> rfl
  | ok save? =>
    cases save? with
    | none => rfl
    | some save =>
      simp only [hread] at h ⊢
      refine follow_of_fails (Playback.Action.load_atomic save) ?_
      cases hresult : (player.follow (Playback.Action.load save) fun _ => LoadOutcome.loaded).1 with
      | error e => rfl
      | ok result =>
        obtain ⟨_, rfl⟩ := exists_step_of_follow hresult
        rw [hresult] at h
        cases h

/-- What is asked for comes to nothing. -/
def refuses (player : Player σ) : Prompt → Bool
  | .click => !player.click.1.isOk
  | .choose index => !(player.choose index).1.isOk
  | .jump sceneId => !(player.jump sceneId).1.isOk
  | .restart => !player.restart.1.isOk
  | .save => !player.save.1.isOk
  | .load => player.findsNoSave
  | .log | .quit => false

end
end Player

/-! ## Lines -/

namespace Session

section
variable {σ : Type} [SaveStore σ]

/-- The line comes to nothing. -/
def refuses (player : Player σ) (input : String) : Bool :=
  match Prompt.parse input with
  | .error _ => true
  | .ok prompt => player.refuses prompt

/-- The session after lines that are answered at certain times of day, with nothing else in
between. -/
def afterLines (player : Player σ) : List (Instant × String) → Player σ
  | [] => player
  | (clock, input) :: lines => afterLines (answer (player.setClock clock) input).2 lines

/-- Those of the lines that do not come to nothing when it is their turn. -/
def accepted (player : Player σ) : List (Instant × String) → List (Instant × String)
  | [] => []
  | (clock, input) :: lines =>
    let rest := accepted (answer (player.setClock clock) input).2 lines
    if refuses (player.setClock clock) input then rest else (clock, input) :: rest

/-- What is written after all answers to lines, each of which comes after some seconds, and the
session then. -/
def answerLines (written : String) (player : Player σ) :
    List (Float32 × String) → String × Player σ
  | [] => (written, player)
  | (seconds, input) :: lines =>
    let (response, player) := answer (player.tick seconds) input
    answerLines (written ++ response.text) player lines

variable {player : Player σ} {input : String} {lines : List (Instant × String)}

/-- The time of day at which a session begins does not matter before its first line. -/
theorem afterLines_setClock (clock other : Instant) :
    (afterLines (player.setClock clock) lines).setClock other
      = (afterLines player lines).setClock other := by
  cases lines with
  | nil => rfl
  | cons line lines => rfl

/-- A session ends at the command to quit and at no other line. -/
theorem quits_answer_iff :
    (answer player input).1.quits = true ↔ Prompt.parse input = .ok .quit := by
  simp only [answer]
  cases Prompt.parse input with
  | error e => simp
  | ok prompt => cases prompt <;> simp [handle, report]

/-- A session answers all lines before the first command to quit, and goes on with what is behind
them. -/
theorem answerAll_append {lines : List (Float32 × String)}
    (hlines : ∀ line ∈ lines, Prompt.parse line.2 ≠ .ok .quit) (written : String)
    (player : Player σ) (rest : List (Float32 × Option String)) :
    answerAll written player (lines.map (fun line => (line.1, some line.2)) ++ rest)
      = answerAll (answerLines written player lines).1 (answerLines written player lines).2
          rest := by
  induction lines generalizing written player with
  | nil => rfl
  | cons line lines ih =>
    obtain ⟨seconds, input⟩ := line
    obtain ⟨hfirst, hlater⟩ := List.forall_mem_cons.1 hlines
    have hquits : ¬(answer (player.tick seconds) input).1.quits = true :=
      mt quits_answer_iff.1 hfirst
    simp only [List.map_cons, List.cons_append, answerAll, answerLines, if_neg hquits]
    exact ih hlater _ _

end

/-! ## Sessions with a store in memory -/

variable {player : Player MemoryStore} {prompt : Prompt} {input : String}

/-- What comes to nothing leaves the session as it is. -/
theorem handle_of_refuses (h : player.refuses prompt = true) :
    (handle player prompt).2 = player := by
  cases prompt with
  | click => exact Player.click_of_fails h
  | choose index => exact Player.choose_of_fails h
  | jump sceneId => exact Player.jump_of_fails h
  | restart => exact Player.restart_of_fails h
  | load => exact Player.load_of_findsNoSave h
  | save => cases h
  | log | quit => cases h

/-- A line that comes to nothing leaves the session as it is. -/
theorem answer_of_refuses (h : refuses player input = true) : (answer player input).2 = player := by
  simp only [refuses] at h
  simp only [answer]
  cases hparse : Prompt.parse input with
  | error e => rfl
  | ok prompt =>
    rw [hparse] at h
    exact handle_of_refuses h

/-- Lines that come to nothing may be left out. -/
theorem afterLines_accepted (player : Player MemoryStore) (lines : List (Instant × String))
    (clock : Instant) :
    (afterLines player (accepted player lines)).setClock clock
      = (afterLines player lines).setClock clock := by
  induction lines generalizing player with
  | nil => rfl
  | cons line lines ih =>
    obtain ⟨time, input⟩ := line
    simp only [accepted, afterLines]
    split
    · next hrefused =>
      rw [answer_of_refuses hrefused]
      exact (afterLines_setClock time clock).symm.trans (ih (player.setClock time))
    · exact ih _

/-- A line that comes to nothing changes nothing in a session, and does not end it. Hence a session
is, after any lines at any times of day, what it is after those of them that do not come to nothing.
However long the lines of a whole session take to come, those before the first command to quit are
all answered. -/
theorem refused_unchanged (player : Player MemoryStore) :
    (∀ input, refuses player input = true →
      (answer player input).2 = player ∧ (answer player input).1.quits = false) ∧
    (∀ lines clock, (afterLines player (accepted player lines)).setClock clock
      = (afterLines player lines).setClock clock) ∧
    ∀ lines : List (Float32 × String), (∀ line ∈ lines, Prompt.parse line.2 ≠ .ok .quit) →
      ∀ rest, run player (lines.map (fun line => (line.1, some line.2)) ++ rest)
        = answerAll (answerLines (opening player) player lines).1
            (answerLines (opening player) player lines).2 rest := by
  refine ⟨fun input h => ⟨answer_of_refuses h, ?_⟩, afterLines_accepted player,
    fun lines hlines rest => answerAll_append hlines _ _ rest⟩
  rw [← Bool.not_eq_true, quits_answer_iff]
  intro hquit
  simp only [refuses, hquit] at h
  cases h

/-- The stroll has no park. Nor has its choice a second branch, so of three lines that are typed
there one does something. -/
theorem refused_unchanged_stroll : ∃ player : Player MemoryStore, player.Reachable .stroll ∧
    player.playback = Playback.strollChoice ∧
    refuses player "2" = true ∧ (answer player "2").2 = player ∧
    (answer player "2").1.quits = false ∧
    accepted player [(.ofUnix 1, "2"), (.ofUnix 2, ":restart"), (.ofUnix 3, ":jump park")]
      = [(.ofUnix 2, ":restart")] ∧
    (afterLines player [(.ofUnix 2, ":restart")]).setClock (.ofUnix 3)
      = (afterLines player [(.ofUnix 1, "2"), (.ofUnix 2, ":restart"),
          (.ofUnix 3, ":jump park")]).setClock (.ofUnix 3) ∧
    (run player [(0, some ":jump park"), (0, none)]).2.1 = .unreadable := by
  obtain ⟨first, hstart, hleads, -, hvisible, hplayback⟩ := Player.exists_strollChoice
  have hreach : (first.after .click).Reachable .stroll :=
    (hleads AnySave).reachable (.start hstart)
  generalize first.after .click = player at hreach hvisible hplayback
  have htwo : Prompt.parse "2" = .ok (.choose 1) := by cbv
  have hagain : Prompt.parse ":restart" = .ok .restart := by cbv
  have hpark : Prompt.parse ":jump park" = .ok (.jump "park") := by cbv
  have htwoRefused (clock : Instant) : refuses (player.setClock clock) "2" = true := by
    have hnode : (player.setClock clock).playback.currentNode?
        = some (.choice ⟨"h3", none, [⟨"out", "Out", "gate", none⟩]⟩) := by
      rw [Player.setClock, hplayback]
      cbv
    have hshown : (player.setClock clock).choicesVisible = true := hvisible
    simp only [refuses, htwo, Player.refuses, Player.choose_eq, hnode, hshown]
    rfl
  obtain ⟨moved, hmoved⟩ : ∃ moved,
      (player.setClock (.ofUnix 2)).playback.call .restart = .ok moved := by
    rw [Player.setClock, hplayback]
    exact ⟨_, by cbv⟩
  have hagainAccepted : refuses (player.setClock (.ofUnix 2)) ":restart" = false := by
    simp only [refuses, hagain, Player.refuses, Player.restart_eq]
    rw [Playback.call] at hmoved
    rw [hmoved]
    rfl
  have hparkRefused (player : Player MemoryStore) (hnovel : player.playback.novel = .stroll) :
      refuses player ":jump park" = true := by
    have henter (bgm : Option String) :
        Novel.stroll.enter "park" bgm .none = .error (.sceneNotFound "park") := by
      cbv
    simp only [refuses, hpark, Player.refuses, Player.jump_eq, Playback.jump_eq, hnovel, henter]
    rfl
  have hnext : (answer (player.setClock (.ofUnix 2)) ":restart").2
      = (player.setClock (.ofUnix 2)).take moved := by
    rw [Playback.call] at hmoved
    simp only [answer, hagain, handle, Player.restart_eq, hmoved]
    rfl
  have hmovedNovel : moved.1.novel = .stroll := by
    rw [(Playback.moves_of_call hmoved).novel_eq, Player.setClock, hplayback]
    cbv
  have haccepted : accepted player [(.ofUnix 1, "2"), (.ofUnix 2, ":restart"),
      (.ofUnix 3, ":jump park")] = [(.ofUnix 2, ":restart")] := by
    have hlast : refuses ((answer (player.setClock (.ofUnix 2)) ":restart").2.setClock (.ofUnix 3))
        ":jump park" = true := by
      refine hparkRefused _ ?_
      rw [hnext, Player.setClock, Player.take_playback]
      exact hmovedNovel
    have hrestarted : refuses ((player.setClock (.ofUnix 1)).setClock (.ofUnix 2)) ":restart"
        = false :=
      hagainAccepted
    simp only [accepted, htwoRefused, answer_of_refuses, hrestarted, if_true, Bool.false_eq_true,
      if_false]
    exact congrArg _ (if_pos hlast)
  obtain ⟨hrefused, hlines, hrun⟩ := refused_unchanged player
  have hkept := hlines [(.ofUnix 1, "2"), (.ofUnix 2, ":restart"), (.ofUnix 3, ":jump park")]
    (.ofUnix 3)
  rw [haccepted] at hkept
  have hnow : refuses player "2" = true := htwoRefused player.playback.clock
  have hend : run player [(0, some ":jump park"), (0, none)] = _ :=
    hrun [(0, ":jump park")] (by simp [hpark]) [(0, none)]
  refine ⟨player, hreach, hplayback, hnow, (hrefused "2" hnow).1, (hrefused "2" hnow).2, haccepted,
    hkept, ?_⟩
  rw [hend]
  rfl

end Session
end VisualNovel

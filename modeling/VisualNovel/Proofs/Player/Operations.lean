import VisualNovel.Player
import VisualNovel.Proofs.Playback.Calls
import VisualNovel.Proofs.Reveal.Growth

/-!
# Operations of a session

What a player and the passing of time do to a session is an `Operation`. Most operations take the
step of a call of the playback, and the others leave the story and the music alone or let time pass
(`Player.turns_after`). Which call that is can be told beforehand (`Player.call?`), and without a
successful call the story and its text stay (`Player.after_cases`).

`Player.Reachable` holds of the sessions that come from a start by any operations, failed ones
included, where the store may be changed by others at any time. `Player.LeadsTo` starts from a given
session, and may restrict the saves that are loaded.
-/

namespace VisualNovel
namespace Player

variable {σ : Type} {player : Player σ}

/-! ## Taking a step -/

section
variable (player) (moved : Playback × Step)

/-- A step moves the story to where it leads. -/
@[simp]
theorem take_playback : (player.take moved).playback = moved.1 := by
  simp only [take]
  split <;> rfl

/-- A step lets the music follow its commands. -/
@[simp]
theorem take_music :
    (player.take moved).music = player.music.executeAll moved.2.cues.commands := by
  simp only [take]
  split <;> rfl

/-- A step leaves the store alone. -/
@[simp]
theorem take_store : (player.take moved).store = player.store := by
  simp only [take]
  split <;> rfl

/-- A step does not change whether text is animated. -/
@[simp]
theorem take_animate : (player.take moved).animate = player.animate := by
  simp only [take]
  split <;> rfl

end

/-- A session starts with the step of the playback's start, on a silent deck. -/
theorem start_cases {novel : Novel} {options : PlayerOptions} {store : σ} {clock : Instant}
    (h : start novel options store clock = .ok player) :
    ∃ moved, Playback.start novel clock = .ok moved ∧ player.playback = moved.1 ∧
      player.music = Music.executeAll { fadeMilliseconds := options.fadeMilliseconds }
        moved.2.cues.commands := by
  simp only [start] at h
  split at h
  · cases h
  · next playback step hstart =>
    cases h
    exact ⟨(playback, step), hstart, take_playback _ _, take_music _ _⟩

/-- A session starts when its playback does. -/
theorem exists_start {novel : Novel} {clock : Instant} {moved : Playback × Step}
    (h : Playback.start novel clock = .ok moved) (options : PlayerOptions) (store : σ) :
    ∃ player, start novel options store clock = .ok player ∧ player.playback = moved.1 ∧
      player.store = store := by
  simp only [start, h]
  exact ⟨_, rfl, take_playback _ _, take_store _ _⟩

/-! ## Operations that move the story

A movement that fails leaves the story as it was, so an operation that follows it can be told by
what the movement leads to. -/

/-- Takes a step if there is one. -/
def takeIfOk {α : Type} (player : Player σ) (moved : Except PlaybackError (Playback × Step))
    (outcome : Step → α) : Except PlayerError α × Player σ :=
  match moved with
  | .error e => (.error (.playback e), player)
  | .ok moved => (.ok (outcome moved.2), player.take moved)

/-- The session afterwards does not depend on what is told of the step. -/
theorem snd_takeIfOk {α : Type} (player : Player σ)
    (moved : Except PlaybackError (Playback × Step)) (outcome : Step → α) :
    (player.takeIfOk moved outcome).2 = (match moved with
      | .ok moved => player.take moved
      | .error _ => player) := by
  cases moved <;> rfl

/-- A session that follows an atomic movement takes a step or stays as it was. -/
theorem follow_eq {α : Type} {action : Playback.Action Step} (h : action.Atomic)
    (player : Player σ) (outcome : Step → α) :
    player.follow action outcome = player.takeIfOk (action.on player.playback) outcome := by
  simp only [follow, h.run_eq]
  cases action.on player.playback <;> rfl

/-- A click shows the rest of the text, or goes on if the story does. -/
theorem click_eq (player : Player σ) : player.click =
    if player.isRevealing then
      (.ok .revealedAll, { player with reveal := player.reveal.skipToEnd })
    else
      player.takeIfOk player.playback.advance fun step =>
        if step.nodeChanged then .advanced else .stayed := by
  rw [click, follow_eq Playback.Action.advance_atomic]
  rfl

/-- A choice is refused for what the session shows, or made if the playback takes the branch. -/
theorem choose_eq (player : Player σ) (index : Nat) : player.choose index =
    match player.playback.currentNode? with
    | some (.choice choice) =>
      if !player.choicesVisible then (.error .choicesHidden, player)
      else
        match choice.branches[index]? with
        | none => (.error (.invalidChoice index choice.branches.length), player)
        | some branch => player.takeIfOk (player.playback.choose branch.id) fun _ => ()
    | _ => (.error .notChoosing, player) := by
  simp only [choose, follow_eq (Playback.Action.choose_atomic _)]
  rfl

/-- A session jumps if its playback does. -/
theorem jump_eq (player : Player σ) (sceneId : String) :
    player.jump sceneId = player.takeIfOk (player.playback.jump sceneId) fun _ => () :=
  follow_eq (Playback.Action.jump_atomic sceneId) player _

/-- A session starts again if its playback does. -/
theorem restart_eq (player : Player σ) :
    player.restart = player.takeIfOk player.playback.restart fun _ => () :=
  follow_eq Playback.Action.restart_atomic player _

/-- A session finds no save, fails, or goes back to a save if its playback does. -/
theorem load_eq [SaveStore σ] (player : Player σ) : player.load =
    match Slots.read player.store player.playback.novel.id with
    | .ok none => (.ok .noSave, player)
    | .error (.malformed _) => (.ok .noSave, player)
    | .error e => (.error (.save e), player)
    | .ok (some save) => player.takeIfOk (player.playback.load save) fun _ => .loaded := by
  simp only [load, follow_eq (Playback.Action.load_atomic _)]
  rfl

/-! ## What an operation does -/

/-- What an operation can lead to. -/
inductive Turns (player : Player σ) : Player σ → Prop
  /-- The session takes the step of a call. -/
  | takes (call : Call) {moved : Playback × Step} (h : player.playback.call call = .ok moved) :
      Turns player (player.take moved)
  /-- The story and the music stay. -/
  | stays (reveal : Reveal) (store : σ) : Turns player { player with reveal, store }
  | ticks (seconds : Float32) : Turns player (player.tick seconds)
  | setsClock (clock : Instant) : Turns player (player.setClock clock)

/-- What fails leaves the session as it is. -/
theorem turns_self : player.Turns player :=
  .stays player.reveal player.store

/-- To take the step of a call if there is one is a turn of the session. -/
theorem turns_takeIfOk {α : Type} (call : Call) (outcome : Step → α) :
    player.Turns (player.takeIfOk (player.playback.call call) outcome).2 := by
  cases h : player.playback.call call with
  | error e => exact turns_self
  | ok moved => exact .takes call h

/-- A click makes one turn at most. -/
theorem turns_click : player.Turns player.click.2 := by
  rw [click_eq]
  split
  · exact .stays player.reveal.skipToEnd player.store
  · exact turns_takeIfOk .advance _

/-- A choice makes one turn at most. -/
theorem turns_choose (index : Nat) : player.Turns (player.choose index).2 := by
  rw [choose_eq]
  split
  · split
    · exact turns_self
    · split
      · exact turns_self
      · next branch _ => exact turns_takeIfOk (.choose branch.id) _
  · exact turns_self

section
variable [SaveStore σ]

/-- A load makes one turn at most. -/
theorem turns_load : player.Turns player.load.2 := by
  rw [load_eq]
  split
  · exact turns_self
  · exact turns_self
  · exact turns_self
  · next save _ => exact turns_takeIfOk (.load save) _

/-- What can happen to a session. -/
inductive Operation where
  | click
  | choose (index : Nat)
  | jump (sceneId : String)
  | restart
  | save
  | load
  | deleteSave
  | tick (seconds : Float32)
  | setClock (clock : Instant)

/-- The session after an operation, be it successful or not. -/
def after (player : Player σ) : Operation → Player σ
  | .click => player.click.2
  | .choose index => (player.choose index).2
  | .jump sceneId => (player.jump sceneId).2
  | .restart => player.restart.2
  | .save => player.save.2
  | .load => player.load.2
  | .deleteSave => player.deleteSave.2
  | .tick seconds => player.tick seconds
  | .setClock clock => player.setClock clock

/-- Every operation makes a turn that `Player.Turns` tells of. -/
theorem turns_after (operation : Operation) : player.Turns (player.after operation) := by
  cases operation with
  | click => exact turns_click
  | choose index => exact turns_choose index
  | jump sceneId =>
    rw [after, jump_eq]
    exact turns_takeIfOk (.jump sceneId) _
  | restart =>
    rw [after, restart_eq]
    exact turns_takeIfOk .restart _
  | save => exact .stays player.reveal _
  | load => exact turns_load
  | deleteSave => exact .stays player.reveal _
  | tick seconds => exact .ticks seconds
  | setClock clock => exact .setsClock clock

/-- The states of sessions with a novel. -/
inductive Reachable (novel : Novel) : Player σ → Prop
  | start {options : PlayerOptions} {store : σ} {clock : Instant} {player : Player σ}
      (h : Player.start novel options store clock = .ok player) : Reachable novel player
  | after {player : Player σ} (h : Reachable novel player) (operation : Operation) :
      Reachable novel (player.after operation)
  /-- Somebody else changes the store. -/
  | restock {player : Player σ} (h : Reachable novel player) (store : σ) :
      Reachable novel { player with store }

/-! ## The call of an operation -/

/-- The call that an operation makes of the playback, if it makes one. -/
def call? (player : Player σ) : Operation → Option Call
  | .click => if player.isRevealing then none else some .advance
  | .choose index =>
    match player.playback.currentNode? with
    | some (.choice menu) =>
      if player.choicesVisible then (menu.branches[index]?).map fun branch => .choose branch.id
      else none
    | _ => none
  | .jump sceneId => some (.jump sceneId)
  | .restart => some .restart
  | .load =>
    match Slots.read player.store player.playback.novel.id with
    | .ok (some save) => some (.load save)
    | _ => none
  | .save | .deleteSave | .tick _ | .setClock _ => none

/-- The story stays, apart from the time of day, and of its text no less is visible. -/
structure Lingers (player later : Player σ) : Prop where
  playback : later.playback = { player.playback with clock := later.playback.clock }
  animate : later.animate = player.animate
  text : later.reveal.text = player.reveal.text
  complete : player.reveal.isComplete = true → later.reveal.isComplete = true

omit [SaveStore σ] in
/-- A session that stays as it is lingers. -/
theorem Lingers.refl (player : Player σ) : player.Lingers player :=
  ⟨rfl, rfl, rfl, id⟩

/-- A call that an operation makes is all that it does. -/
theorem after_of_call {operation : Operation} {call : Call}
    (hcall : player.call? operation = some call) :
    player.after operation = (match player.playback.call call with
      | .ok moved => player.take moved
      | .error _ => player) := by
  cases operation with
  | click =>
    simp only [call?] at hcall
    split at hcall
    · cases hcall
    · next hrevealing =>
      cases hcall
      simp only [after, click_eq, if_neg hrevealing, snd_takeIfOk, Playback.call]
  | choose index =>
    simp only [call?] at hcall
    split at hcall
    · next menu hnode =>
      split at hcall
      · next hvisible =>
        obtain ⟨branch, hbranch, rfl⟩ := Option.map_eq_some_iff.1 hcall
        simp only [after, choose_eq, hnode, hvisible, hbranch, Bool.not_true, Bool.false_eq_true,
          if_false, snd_takeIfOk, Playback.call]
      · cases hcall
    · cases hcall
  | jump sceneId =>
    cases hcall
    simp only [after, jump_eq, snd_takeIfOk, Playback.call]
  | restart =>
    cases hcall
    simp only [after, restart_eq, snd_takeIfOk, Playback.call]
  | load =>
    simp only [call?] at hcall
    split at hcall
    · next save hread =>
      cases hcall
      simp only [after, load_eq, hread, snd_takeIfOk, Playback.call]
    · cases hcall
  | save | deleteSave | tick | setClock => cases hcall

/-- An operation that makes a call leaves the playback as the call leaves it. -/
theorem playback_after_of_call {operation : Operation} {call : Call}
    (hcall : player.call? operation = some call) :
    (player.after operation).playback = player.playback.after call := by
  rw [after_of_call hcall]
  cases hmoved : player.playback.call call with
  | ok moved => exact (take_playback _ _).trans (Playback.after_of_ok hmoved).symm
  | error e => exact (Playback.after_of_error hmoved).symm

/-- An operation that makes no call leaves the story. -/
theorem lingers_of_no_call {operation : Operation} (hcall : player.call? operation = none) :
    player.Lingers (player.after operation) := by
  cases operation with
  | click =>
    simp only [call?] at hcall
    split at hcall
    · next hrevealing =>
      simp only [after, click_eq, if_pos hrevealing]
      exact ⟨rfl, rfl, rfl, fun _ => Reveal.isComplete_skipToEnd _⟩
    · cases hcall
  | choose index =>
    simp only [call?] at hcall
    simp only [after, choose_eq]
    split
    · next menu hnode =>
      simp only [hnode] at hcall
      split
      · exact .refl player
      · next hvisible =>
        rw [Bool.not_eq_true', Bool.not_eq_false] at hvisible
        rw [if_pos hvisible, Option.map_eq_none_iff] at hcall
        rw [hcall]
        exact .refl player
    · exact .refl player
  | load =>
    simp only [call?] at hcall
    simp only [after, load_eq]
    split
    · exact .refl player
    · exact .refl player
    · exact .refl player
    · next save hread =>
      simp only [hread] at hcall
      cases hcall
  | jump | restart => cases hcall
  | save | deleteSave | setClock => exact ⟨rfl, rfl, rfl, id⟩
  | tick seconds =>
    refine ⟨rfl, rfl, Reveal.text_advance _ _, fun hcomplete => ?_⟩
    change (player.reveal.advance seconds).isComplete = true
    rw [Reveal.advance_of_isComplete hcomplete]
    exact hcomplete

/-- An operation takes the step of its call, or the story stays. -/
theorem after_cases (player : Player σ) (operation : Operation) :
    (∃ call moved, player.call? operation = some call ∧ player.playback.call call = .ok moved ∧
      player.after operation = player.take moved) ∨ player.Lingers (player.after operation) := by
  cases hcall : player.call? operation with
  | none => exact .inr (lingers_of_no_call hcall)
  | some call =>
    have hafter := after_of_call hcall
    cases hmoved : player.playback.call call with
    | ok moved =>
      rw [hmoved] at hafter
      exact .inl ⟨call, moved, rfl, hmoved, hafter⟩
    | error e =>
      rw [hmoved] at hafter
      rw [hafter]
      exact .inr (.refl player)

/-! ## Sessions that come from a session -/

/-- The sessions that come from the first one by operations that load no saves but the allowed
ones. -/
inductive LeadsTo (allowed : Save → Prop) (first : Player σ) : Player σ → Prop
  | refl : LeadsTo allowed first first
  | after {player : Player σ} (h : LeadsTo allowed first player) (operation : Operation)
      (hload : ∀ save, player.call? operation = some (.load save) → allowed save) :
      LeadsTo allowed first (player.after operation)
  /-- Somebody else changes the store. -/
  | restock {player : Player σ} (h : LeadsTo allowed first player) (store : σ) :
      LeadsTo allowed first { player with store }

/-- What a session leads to is reachable when the session is. -/
theorem LeadsTo.reachable {novel : Novel} {allowed : Save → Prop} {first : Player σ}
    (hfirst : first.Reachable novel) (h : first.LeadsTo allowed player) :
    player.Reachable novel := by
  induction h with
  | refl => exact hfirst
  | after _ operation _ ih => exact .after ih operation
  | restock _ store ih => exact .restock ih store

end
end Player
end VisualNovel

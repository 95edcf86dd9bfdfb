import VisualNovel.Proofs.Playback.Resume
import VisualNovel.Proofs.Player.Operations

/-!
# The text on show is that of the story

A session keeps a copy of the words of the current node, and takes a new one only when a step says
that a node was reached. `Player.ShowsWords` says that the copy is right, and that it is wholly
visible when text is not animated. A step that reaches no node stays where it is, so the copy is
right after every operation (`Player.ShowsWords.after`). `Player.reveal_inStep` adds what holds
while the words are being shown: a click shows the rest of them and no branch can be taken.
-/

namespace VisualNovel

/-- The words of a node: what is said or asked there, and nothing where nobody speaks. -/
def Node.words : Node → String
  | .dialogue line => line.text
  | .narration line => line.text
  | .choice menu => menu.prompt.getD ""
  | .background _ | .character _ | .audio _ | .jump _ => ""

/-- The words of the story where it is. -/
def Playback.words (playback : Playback) : String :=
  match playback.currentNode? with
  | some node => node.words
  | none => ""

/-- A successful call reaches a node, or nothing happens. -/
theorem Playback.Moves.nodeChanged_or {playback : Playback} {call : Call}
    {moved : Playback × Step} (h : playback.Moves call moved) :
    moved.2.nodeChanged = true ∨ call = .advance ∧ moved = (playback, playback.idle) := by
  cases h with
  | stays => exact .inr ⟨rfl, rfl⟩
  | lands | loads => exact .inl rfl

namespace Player

variable {σ : Type} {player : Player σ} {moved : Playback × Step}

theorem nodeText_eq_words (playback : Playback) : nodeText playback = playback.words := by
  simp only [nodeText, Playback.shownNode?, Playback.words]
  cases playback.currentNode? with
  | none => rfl
  | some node => cases node <;> rfl

/-! ## Taking a step -/

/-- When a node is reached, its words are shown from their start. -/
theorem take_reveal (hchanged : moved.2.nodeChanged = true) :
    (player.take moved).reveal =
      if player.animate then player.reveal.restart moved.1.words
      else (player.reveal.restart moved.1.words).skipToEnd := by
  simp only [take, hchanged, if_true, showText, nodeText_eq_words]

/-- To take the step that stays is to do nothing. -/
theorem take_idle (player : Player σ) :
    player.take (player.playback, player.playback.idle) = player :=
  rfl

/-! ## The words on show -/

/-- The text on show is what the story says where it is, and when text is not animated all of it is
visible. -/
structure ShowsWords (player : Player σ) : Prop where
  text : player.reveal.text = player.playback.words
  still : player.animate = false → player.reveal.isComplete = true

/-- Words that are shown from their start are on show, whatever was before. -/
theorem showsWords_take (hchanged : moved.2.nodeChanged = true) :
    (player.take moved).ShowsWords := by
  refine ⟨?_, fun hstill => ?_⟩ <;> rw [take_reveal hchanged]
  · rw [take_playback]
    split <;> rfl
  · rw [take_animate] at hstill
    rw [hstill]
    exact Reveal.isComplete_skipToEnd _

theorem ShowsWords.lingers {later : Player σ} (h : player.ShowsWords)
    (hlingers : player.Lingers later) : later.ShowsWords where
  text := by
    rw [hlingers.text, h.text, hlingers.playback]
    rfl
  still hstill := hlingers.complete (h.still (hlingers.animate ▸ hstill))

theorem showsWords_start {novel : Novel} {options : PlayerOptions} {store : σ} {clock : Instant}
    (h : start novel options store clock = .ok player) :
    player.ShowsWords ∧ player.animate = options.animate ∧
      (options.animate = true → player.reveal.visible = 0) := by
  simp only [start] at h
  split at h
  · cases h
  · next playback step hstart =>
    cases h
    have hchanged : (playback, step).2.nodeChanged = true := by
      obtain ⟨landing, hland⟩ := Playback.exists_land_of_start hstart
      rw [hland]
      rfl
    refine ⟨showsWords_take hchanged, take_animate _ _, fun hanimate => ?_⟩
    rw [take_reveal hchanged]
    exact congrArg Reveal.visible (if_pos hanimate)

section
variable [SaveStore σ] {novel : Novel} {first : Player σ} {allowed : Save → Prop}
  {operation : Operation}

/-- Every operation leaves the words of the story on show. -/
theorem ShowsWords.after (h : player.ShowsWords) (operation : Operation) :
    (player.after operation).ShowsWords := by
  rcases player.after_cases operation with ⟨call, moved, -, hcall, hafter⟩ | hlingers
  · rw [hafter]
    rcases (Playback.moves_of_call hcall).nodeChanged_or with hchanged | ⟨-, rfl⟩
    · exact showsWords_take hchanged
    · rw [take_idle]
      exact h
  · exact h.lingers hlingers

/-- The session after a start or an operation shows the words of the story. -/
theorem Reachable.showsWords (h : player.Reachable novel) : player.ShowsWords := by
  induction h with
  | start hstart => exact (showsWords_start hstart).1
  | after _ operation ih => exact ih.after operation
  | restock _ _ ih => exact ⟨ih.text, ih.still⟩

/-- Whether text is animated is settled at the start. -/
theorem LeadsTo.animate_eq (h : first.LeadsTo allowed player) : player.animate = first.animate := by
  induction h with
  | refl => rfl
  | @after player _ operation _ ih =>
    rcases player.after_cases operation with ⟨call, moved, -, -, hafter⟩ | hlingers
    · rw [hafter, take_animate]
      exact ih
    · exact hlingers.animate.trans ih
  | restock _ _ ih => exact ih

/-- Nothing is ever left to be shown in a session without animation. -/
theorem LeadsTo.isRevealing_eq_false {options : PlayerOptions} {store : σ} {clock : Instant}
    (h : first.LeadsTo allowed player) (hstart : start novel options store clock = .ok first)
    (hstill : options.animate = false) : player.isRevealing = false := by
  obtain ⟨-, hanimate, -⟩ := showsWords_start hstart
  have hcomplete : player.reveal.isComplete = true :=
    (h.reachable (.start hstart)).showsWords.still (h.animate_eq.trans (hanimate.trans hstill))
  rw [isRevealing, hcomplete]
  rfl

/-- Without animation, one click leads the stroll from its question to its choice, where branches
are shown. -/
theorem exists_strollChoice : ∃ first : Player MemoryStore,
    start .stroll { animate := false } MemoryStore.empty (.ofUnix 0) = .ok first ∧
    (∀ allowed, first.LeadsTo allowed (first.after .click)) ∧
    (first.after .click).isRevealing = false ∧ (first.after .click).choicesVisible = true ∧
    (first.after .click).playback = Playback.strollChoice := by
  obtain ⟨first, hstart, hplayback, -⟩ :=
    exists_start Playback.start_stroll { animate := false } MemoryStore.empty
  have hrefl : first.LeadsTo AnySave first := .refl
  have hcall : first.call? .click = some .advance := by
    simp only [call?, hrefl.isRevealing_eq_false hstart rfl]
    rfl
  have hleads (allowed) : first.LeadsTo allowed (first.after .click) := by
    refine .after .refl .click fun save hsave => ?_
    rw [hcall] at hsave
    cases hsave
  have hshown : (first.after .click).isRevealing = false :=
    (hleads AnySave).isRevealing_eq_false hstart rfl
  have hchoice : (first.after .click).playback = Playback.strollChoice := by
    rw [playback_after_of_call hcall, hplayback]
    rfl
  refine ⟨first, hstart, hleads, hshown, ?_, hchoice⟩
  rw [choicesVisible, hshown, hchoice]
  cbv

/-! ## Operations that reach a node -/

/-- The operation succeeds and reaches a node, be it the same as before. -/
def Arrives (player : Player σ) : Operation → Prop
  | .click => player.click.1 = .ok .advanced
  | .choose index => (player.choose index).1 = .ok ()
  | .jump sceneId => (player.jump sceneId).1 = .ok ()
  | .restart => player.restart.1 = .ok ()
  | .load => player.load.1 = .ok .loaded
  | .save | .deleteSave | .tick _ | .setClock _ => False

omit [SaveStore σ] in
/-- A call that succeeds has a step to take, which reaches a node unless it only goes on. -/
theorem takeIfOk_ok {α : Type} {call : Call} {outcome : Step → α} {result : α}
    (hcall : call ≠ .advance)
    (h : (player.takeIfOk (player.playback.call call) outcome).1 = .ok result) :
    ∃ moved : Playback × Step, moved.2.nodeChanged = true ∧
      (player.takeIfOk (player.playback.call call) outcome).2 = player.take moved := by
  cases hresult : player.playback.call call with
  | error e =>
    rw [hresult] at h
    cases h
  | ok moved =>
    rcases (Playback.moves_of_call hresult).nodeChanged_or with hchanged | ⟨heq, -⟩
    · exact ⟨moved, hchanged, rfl⟩
    · exact absurd heq hcall

/-- An operation that reaches a node takes a step that does. -/
theorem Arrives.exists_take (h : player.Arrives operation) :
    ∃ moved : Playback × Step, moved.2.nodeChanged = true ∧
      player.after operation = player.take moved := by
  cases operation with
  | click =>
    simp only [Arrives, click_eq] at h
    simp only [after, click_eq]
    split at h
    · cases h
    · next hrevealing =>
      rw [if_neg hrevealing]
      cases hadvance : player.playback.advance with
      | error e =>
        rw [hadvance] at h
        cases h
      | ok moved =>
        cases hchanged : moved.2.nodeChanged with
        | false =>
          simp only [hadvance, takeIfOk, hchanged] at h
          cases h
        | true => exact ⟨moved, hchanged, rfl⟩
  | choose index =>
    simp only [Arrives, choose_eq] at h
    simp only [after, choose_eq]
    split at h
    · next menu hnode =>
      split at h
      · cases h
      · next hvisible =>
        rw [if_neg hvisible]
        split at h
        · cases h
        · next branch hbranch =>
          have hcall : Call.choose branch.id ≠ .advance := by simp
          exact takeIfOk_ok hcall h
    · cases h
  | jump sceneId =>
    have hcall : Call.jump sceneId ≠ .advance := by simp
    rw [Arrives, jump_eq] at h
    rw [after, jump_eq]
    exact takeIfOk_ok hcall h
  | restart =>
    have hcall : Call.restart ≠ .advance := by simp
    rw [Arrives, restart_eq] at h
    rw [after, restart_eq]
    exact takeIfOk_ok hcall h
  | load =>
    simp only [Arrives, load_eq] at h
    simp only [after, load_eq]
    split at h
    · cases h
    · cases h
    · cases h
    · next save hread =>
      have hcall : Call.load save ≠ .advance := by simp
      exact takeIfOk_ok hcall h
  | save | deleteSave | tick | setClock => exact h.elim

/-- A node that an animated session reaches shows no character of its words at first. -/
theorem Arrives.visible_eq_zero (h : player.Arrives operation) (hanimate : player.animate = true) :
    (player.after operation).reveal.visible = 0 := by
  obtain ⟨moved, hchanged, hafter⟩ := h.exists_take
  rw [hafter, take_reveal hchanged, if_pos hanimate]
  rfl

end

/-! ## While words are being shown -/

theorem click_of_isRevealing (h : player.isRevealing = true) :
    player.click = (.ok .revealedAll, { player with reveal := player.reveal.skipToEnd }) := by
  rw [click, if_pos h]

/-- A click that finds nothing to go on to does nothing. -/
theorem click_stayed (h : player.click.1 = .ok .stayed) : player.click.2 = player := by
  simp only [click_eq] at h ⊢
  split at h
  · cases h
  · next hrevealing =>
    rw [if_neg hrevealing]
    cases hadvance : player.playback.advance with
    | error e => rfl
    | ok moved =>
      have hcall : player.playback.call .advance = .ok moved := hadvance
      rcases (Playback.moves_of_call hcall).nodeChanged_or with hchanged | ⟨-, heq⟩
      · simp only [hadvance, takeIfOk, if_pos hchanged] at h
        cases h
      · rw [heq]
        exact player.take_idle

/-- No branch can be taken while words are being shown, nor where there is no choice. -/
theorem choose_of_isRevealing (h : player.isRevealing = true) (index : Nat) :
    player.choose index
      = (.error (if player.playback.atChoice then .choicesHidden else .notChoosing), player) := by
  have hhidden : (!player.choicesVisible) = true := by
    rw [choicesVisible, h]
    rfl
  rw [choose_eq]
  split
  · next menu hnode => rw [if_pos hhidden, if_pos (Playback.atChoice_iff.2 ⟨menu, hnode⟩)]
  · next hother =>
    have hchoice : ¬player.playback.atChoice = true := by
      intro hat
      obtain ⟨menu, hnode⟩ := Playback.atChoice_iff.1 hat
      exact hother menu hnode
    rw [if_neg hchoice]

/-- In every state of a session, with any saves in a store that anybody may change, the text on show
is what the story says where it is, and all of it is visible when text is not animated. While it is
being shown, a click makes the rest of it visible and does nothing else, and no branch can be taken.
When text is animated, nothing of it is visible at first wherever the session has got to: by its
start, or by any operation that reaches a node. -/
theorem reveal_inStep [SaveStore σ] {novel : Novel} {options : PlayerOptions} {store : σ}
    {clock : Instant} {first : Player σ} (hstart : start novel options store clock = .ok first)
    (h : first.LeadsTo AnySave player) :
    player.reveal.text = player.playback.words ∧
    (options.animate = false → player.reveal.isComplete = true) ∧
    (player.isRevealing = true →
      player.click = (.ok .revealedAll, { player with reveal := player.reveal.skipToEnd }) ∧
      player.reveal.skipToEnd.isComplete = true ∧
      player.reveal.skipToEnd.visibleText = player.reveal.text ∧
      ∀ index, player.choose index
        = (.error (if player.playback.atChoice then .choicesHidden else .notChoosing), player)) ∧
    (player.click.1 = .ok .stayed → player.click.2 = player) ∧
    (options.animate = true → first.reveal.visible = 0 ∧
      ∀ operation, player.Arrives operation → (player.after operation).reveal.visible = 0) := by
  obtain ⟨-, hanimate, hfirst⟩ := showsWords_start hstart
  have hwords : player.ShowsWords := (h.reachable (.start hstart)).showsWords
  have hsame : player.animate = options.animate := h.animate_eq.trans hanimate
  refine ⟨hwords.text, fun hstill => hwords.still (hsame.trans hstill), fun hrevealing => ?_,
    click_stayed, fun hmoving => ⟨hfirst hmoving, fun operation harrives => ?_⟩⟩
  · have hcomplete := Reveal.isComplete_skipToEnd player.reveal
    exact ⟨click_of_isRevealing hrevealing, hcomplete, Reveal.visibleText_of_isComplete hcomplete,
      choose_of_isRevealing hrevealing⟩
  · exact harrives.visible_eq_zero (hsame.trans hmoving)

/-- The stroll begins with a question, of which nothing is visible at first. A click shows it, and
a jump to the gate brings up other words. -/
theorem reveal_inStep_stroll :
    ∃ first : Player MemoryStore,
      start .stroll {} MemoryStore.empty (.ofUnix 0) = .ok first ∧ first.LeadsTo AnySave first ∧
      first.reveal.text = "Out?" ∧ first.isRevealing = true ∧
      first.click = (.ok .revealedAll, { first with reveal := first.reveal.skipToEnd }) ∧
      first.choose 0 = (.error .notChoosing, first) ∧
      first.Arrives (.jump "gate") ∧ (first.after (.jump "gate")).reveal.visible = 0 := by
  obtain ⟨first, hstart, hplayback, -⟩ :=
    exists_start Playback.start_stroll {} MemoryStore.empty
  obtain ⟨htext, -, hshowing, -, hmoving⟩ := reveal_inStep hstart .refl
  obtain ⟨hvisible, harrived⟩ := hmoving rfl
  have hwords : first.playback.words = "Out?" := by
    rw [hplayback]
    cbv
  rw [hwords] at htext
  have hrevealing : first.isRevealing = true := by
    rw [isRevealing, Reveal.isComplete, first.reveal.total_eq, htext, hvisible]
    rfl
  have hchoice : first.playback.atChoice = false := by
    rw [hplayback]
    cbv
  have harrives : first.Arrives (.jump "gate") := by
    have hjump : (first.playback.jump "gate").isOk = true := by
      rw [hplayback]
      cbv
    simp only [Arrives, jump_eq, takeIfOk]
    cases hgate : first.playback.jump "gate" with
    | ok moved => rfl
    | error e =>
      rw [hgate] at hjump
      cases hjump
  obtain ⟨hclick, -, -, hchoose⟩ := hshowing hrevealing
  have hnone := hchoose 0
  rw [hchoice] at hnone
  exact ⟨first, hstart, .refl, htext, hrevealing, hclick, hnone, harrives, harrived _ harrives⟩

end Player
end VisualNovel

import VisualNovel.Reveal

/-!
# What is visible of a text

The counter of visible characters is turned into a place in bytes, where the text is cut, so what is
visible are the first characters and no part of another one (`Reveal.toList_visibleText`). Time and
skipping make more of a text visible and leave the text itself. Once all of it is visible, nothing
changes any more. So what is visible grows from nothing to the whole text, whatever the speed is and
however time passes (`Reveal.shows_growing`).
-/

namespace VisualNovel.Reveal

variable {reveal : Reveal}

/-! ## Where the text is cut -/

/-- A character starts behind the bytes of those before it. -/
theorem size_of_startOf? {chars : List Char} {number start : Nat}
    (h : startOf? chars number = some start) : start = (chars.take number).utf8Encode.size := by
  induction chars generalizing number start with
  | nil => cases h
  | cons c chars ih =>
    cases number with
    | zero =>
      cases h
      rfl
    | succ number =>
      obtain ⟨rest, hrest, rfl⟩ := Option.map_eq_some_iff.1 h
      have hfirst : [c].utf8Encode.size = c.utf8Size := by
        rw [List.utf8Encode_singleton, List.size_toByteArray, String.length_utf8EncodeChar]
      rw [List.take_succ_cons, List.utf8Encode_cons, ByteArray.size_append, hfirst, ← ih hrest]

/-- A text without such a character has no more than so many. -/
theorem length_le_of_startOf? {chars : List Char} {number : Nat}
    (h : startOf? chars number = none) : chars.length ≤ number := by
  induction chars generalizing number with
  | nil => exact Nat.zero_le number
  | cons c chars ih =>
    cases number with
    | zero => cases h
    | succ number => exact Nat.succ_le_succ (ih (Option.map_eq_none_iff.1 h))

/-- The first bytes of a text are a text when they are those of its first characters. -/
theorem fromUTF8?_extract (chars : List Char) (number : Nat) :
    String.fromUTF8? (chars.utf8Encode.extract 0 (chars.take number).utf8Encode.size)
      = some (String.ofList (chars.take number)) := by
  have hcut : chars.utf8Encode.extract 0 (chars.take number).utf8Encode.size
      = (String.ofList (chars.take number)).toByteArray := by
    rw [String.toByteArray_ofList]
    conv => lhs; arg 1; rw [← List.take_append_drop number chars]
    rw [List.utf8Encode_append, ByteArray.extract_append_eq_left rfl]
  have hvalid : (chars.utf8Encode.extract 0 (chars.take number).utf8Encode.size).IsValidUTF8 :=
    hcut ▸ (String.ofList (chars.take number)).isValidUTF8
  rw [String.fromUTF8?, dif_pos hvalid]
  exact congrArg some (String.toByteArray_inj.1 hcut)

/-- Visible are the first characters, as many as are counted. -/
theorem toList_visibleText (reveal : Reveal) :
    reveal.visibleText.toList = reveal.text.toList.take reveal.visible := by
  have hbytes : reveal.text.toUTF8 = reveal.text.toList.utf8Encode :=
    String.utf8Encode_toList.symm
  rw [visibleText, hbytes]
  cases hstart : startOf? reveal.text.toList reveal.visible with
  | none => exact (List.take_of_length_le (length_le_of_startOf? hstart)).symm
  | some start =>
    rw [size_of_startOf? hstart]
    dsimp only
    rw [fromUTF8?_extract, Option.getD_some, String.toList_ofList]

/-! ## When all of it is visible -/

/-- A text is complete when all its characters are counted. -/
theorem isComplete_iff : reveal.isComplete = true ↔ reveal.total ≤ reveal.visible := by
  simp only [isComplete, decide_eq_true_eq]

/-- All is visible of a text that is complete. -/
theorem visibleText_of_isComplete (h : reveal.isComplete = true) :
    reveal.visibleText = reveal.text := by
  have hall : reveal.text.toList.length ≤ reveal.visible := by
    rw [String.length_toList, ← reveal.total_eq]
    exact isComplete_iff.1 h
  apply String.toList_injective
  rw [toList_visibleText, List.take_of_length_le hall]

/-- A text is complete when all of it is visible. -/
theorem isComplete_iff_visibleText : reveal.isComplete = true ↔ reveal.visibleText = reveal.text := by
  refine ⟨visibleText_of_isComplete, fun h => ?_⟩
  have hlength : (reveal.text.toList.take reveal.visible).length = reveal.text.toList.length := by
    rw [← toList_visibleText, h]
  rw [List.length_take, String.length_toList, ← reveal.total_eq] at hlength
  exact isComplete_iff.2 (by omega)

/-- Skipping to the end completes the text. -/
theorem isComplete_skipToEnd (reveal : Reveal) : reveal.skipToEnd.isComplete = true :=
  isComplete_iff.2 (Nat.le_refl _)

/-! ## Time and skipping -/

/-- However much is due, no hidden character more is shown than there are. -/
theorem takeDue_bounds (visible hidden : Nat) (timer : Float32) :
    visible ≤ (takeDue visible hidden timer).1 ∧
      (takeDue visible hidden timer).1 ≤ visible + hidden := by
  induction hidden generalizing visible timer with
  | zero => exact ⟨Nat.le_refl _, Nat.le_refl _⟩
  | succ hidden ih =>
    rw [takeDue]
    split
    · obtain ⟨hlow, hhigh⟩ := ih (visible + 1) (timer - 1)
      omega
    · show visible ≤ visible ∧ visible ≤ visible + (hidden + 1)
      omega

/-- Time does nothing to a text that is complete. -/
theorem advance_of_isComplete (h : reveal.isComplete = true) (seconds : Float32) :
    reveal.advance seconds = reveal := by
  rw [advance, elapse, if_pos h]

/-- Time does not change the text. -/
theorem text_advance (reveal : Reveal) (seconds : Float32) :
    (reveal.advance seconds).text = reveal.text := by
  simp only [advance, elapse]
  split
  · rfl
  · split <;> rfl

/-- What is told when time has passed is whether the text is complete then. -/
theorem fst_elapse (reveal : Reveal) (seconds : Float32) :
    (reveal.elapse seconds).1 = (reveal.elapse seconds).2.isComplete := by
  simp only [elapse]
  split
  · next h => exact h.symm
  · split
    · exact (isComplete_skipToEnd reveal).symm
    · rfl

/-- What can happen to a text while it is shown. -/
inductive Progress where
  /-- Time passes, in seconds. -/
  | elapse (seconds : Float32)
  | skipToEnd

/-- What it makes of the text. -/
def after (reveal : Reveal) : Progress → Reveal
  | .elapse seconds => (reveal.elapse seconds).2
  | .skipToEnd => reveal.skipToEnd

/-- What some progress makes of the text, one after the other. -/
def afterAll (reveal : Reveal) (progress : List Progress) : Reveal :=
  progress.foldl after reveal

/-- Of the same text, at the same speed, no less is visible later. -/
structure GrowsTo (reveal later : Reveal) : Prop where
  text_eq : later.text = reveal.text
  speed_eq : later.speed = reveal.speed
  visible_le : reveal.visible ≤ later.visible
  /-- No character is counted that is not there. -/
  le_total : reveal.visible ≤ reveal.total → later.visible ≤ later.total
  complete : reveal.isComplete = true → later.isComplete = true

/-- A text that stays as it is shows no less. -/
theorem GrowsTo.refl (reveal : Reveal) : reveal.GrowsTo reveal :=
  ⟨rfl, rfl, Nat.le_refl _, id, id⟩

/-- A text that grows twice has grown. -/
theorem GrowsTo.trans {later last : Reveal} (h : reveal.GrowsTo later) (h' : later.GrowsTo last) :
    reveal.GrowsTo last where
  text_eq := h'.text_eq.trans h.text_eq
  speed_eq := h'.speed_eq.trans h.speed_eq
  visible_le := Nat.le_trans h.visible_le h'.visible_le
  le_total hle := h'.le_total (h.le_total hle)
  complete hcomplete := h'.complete (h.complete hcomplete)

/-- Skipping to the end shows no less. -/
theorem growsTo_skipToEnd (hle : reveal.visible ≤ reveal.total) :
    reveal.GrowsTo reveal.skipToEnd where
  text_eq := rfl
  speed_eq := rfl
  visible_le := hle
  le_total _ := Nat.le_refl _
  complete _ := isComplete_skipToEnd reveal

/-- Passing time shows no less, whatever number the seconds are. -/
theorem growsTo_elapse (hle : reveal.visible ≤ reveal.total) (seconds : Float32) :
    reveal.GrowsTo (reveal.elapse seconds).2 := by
  simp only [elapse]
  split
  · exact .refl reveal
  · next hhidden =>
    split
    · exact growsTo_skipToEnd hle
    · obtain ⟨hlow, hhigh⟩ := takeDue_bounds reveal.visible (reveal.total - reveal.visible)
        (reveal.timer + seconds * reveal.speed)
      rw [Nat.add_sub_cancel' hle] at hhigh
      exact ⟨rfl, rfl, hlow, fun _ => hhigh, fun hcomplete => absurd hcomplete hhidden⟩

/-- All progress shows no less. -/
theorem growsTo_after (hle : reveal.visible ≤ reveal.total) (progress : Progress) :
    reveal.GrowsTo (reveal.after progress) := by
  cases progress with
  | elapse seconds => exact growsTo_elapse hle seconds
  | skipToEnd => exact growsTo_skipToEnd hle

/-- Any progress, one after the other, shows no less. -/
theorem growsTo_afterAll (hle : reveal.visible ≤ reveal.total) (progress : List Progress) :
    reveal.GrowsTo (reveal.afterAll progress) := by
  induction progress generalizing reveal with
  | nil => exact .refl reveal
  | cons first progress ih =>
    have hfirst := growsTo_after hle first
    exact hfirst.trans (ih (hfirst.le_total hle))

/-! ## From nothing to the whole text -/

/-- The first characters of the text are visible, as many as are counted. -/
structure Shows (reveal : Reveal) (text : String) : Prop where
  text_eq : reveal.text = text
  visible_le : reveal.visible ≤ text.length
  toList_visibleText : reveal.visibleText.toList = text.toList.take reveal.visible
  isComplete_iff : reveal.isComplete = true ↔ reveal.visibleText = text

/-- A text is shown from its start as the speed and the text say, and nothing of it is visible then.
However time passes and whether it is skipped or not, its first characters are visible, no fewer
later on, and it is told whether it is complete. -/
theorem shows_growing (reveal : Reveal) (text : String) (progress : List Progress) :
    let first := reveal.restart text
    let later := first.afterAll progress
    (first.visibleText = "" ∧
      ∀ other : Reveal, { other with speed := reveal.speed }.restart text = first) ∧
    later.Shows text ∧
    (∀ further, later.GrowsTo (later.afterAll further)) ∧
    (∀ seconds, (later.elapse seconds).1 = (later.elapse seconds).2.isComplete) ∧
    ∀ next, later.restart next = reveal.restart next := by
  intro first later
  have hgrows : first.GrowsTo later := growsTo_afterAll (Nat.zero_le _) progress
  have htext : later.text = text := hgrows.text_eq
  have hle : later.visible ≤ later.total := hgrows.le_total (Nat.zero_le _)
  refine ⟨⟨?_, fun _ => rfl⟩, ?_, fun further => growsTo_afterAll hle further, later.fst_elapse,
    fun next => ?_⟩
  · apply String.toList_injective
    exact first.toList_visibleText
  · rw [later.total_eq, htext] at hle
    refine ⟨htext, hle, ?_, ?_⟩
    · rw [← htext]
      exact later.toList_visibleText
    · rw [← htext]
      exact isComplete_iff_visibleText
  · rw [restart, restart, hgrows.speed_eq]
    rfl

end VisualNovel.Reveal

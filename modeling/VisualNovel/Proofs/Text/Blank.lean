import VisualNovel.Text.Blank

/-!
# What is not white space

Digits are no white space, and a text that does not start with white space, or does not end with it,
has nothing taken off there. So a text is trimmed to just that part between white space whose own
ends are none (`Text.strips_iff`), and cut at its first white space, if it has any
(`Text.cuts_iff`).
-/

namespace VisualNovel.Text

/-- The code points of the digits. -/
theorem toNat_of_isDigit {c : Char} (h : c.isDigit = true) : 48 ≤ c.toNat ∧ c.toNat ≤ 57 := by
  simpa [Char.isDigit, UInt32.le_iff_toNat_le] using h

/-- A digit is no white space. -/
theorem isBlank_of_isDigit {c : Char} (h : c.isDigit = true) : isBlank c = false := by
  have hrange := toNat_of_isDigit h
  simp [isBlank, blankRanges, Ranges.contains]
  omega

/-- Nothing is taken off the start of a text that does not start with white space. -/
theorem trimStart_of_head? {cs : List Char} (h : ∀ c ∈ cs.head?, isBlank c = false) :
    trimStart cs = cs := by
  cases cs with
  | nil => rfl
  | cons c cs => simp [trimStart, h c rfl]

/-- Nothing is taken off the end of a text that does not end with white space. -/
theorem trimEnd_of_getLast? {cs : List Char} (h : ∀ c ∈ cs.getLast?, isBlank c = false) :
    trimEnd cs = cs := by
  have hstart : trimStart cs.reverse = cs.reverse :=
    trimStart_of_head? fun c hc => h c (List.head?_reverse ▸ hc)
  rw [trimEnd, ← trimStart, hstart, List.reverse_reverse]

/-! ## Trimming -/

/-- All characters are white space. -/
def AllBlank (cs : List Char) : Prop :=
  ∀ c ∈ cs, isBlank c = true

/-- Neither the first nor the last character is white space. -/
def IsTrimmed (cs : List Char) : Prop :=
  (∀ c ∈ cs.head?, isBlank c = false) ∧ ∀ c ∈ cs.getLast?, isBlank c = false

instance (cs : List Char) : Decidable (AllBlank cs) :=
  List.decidableBAll _ cs

instance (cs : List Char) : Decidable (IsTrimmed cs) :=
  @instDecidableAnd _ _ (Option.decidableForallMem _) (Option.decidableForallMem _)

/-- The second text is what is left of the first without the white space at its ends. -/
def Strips (cs trimmed : List Char) : Prop :=
  ∃ before after, cs = before ++ trimmed ++ after ∧ AllBlank before ∧ AllBlank after ∧
    IsTrimmed trimmed

section
variable {cs trimmed before after : List Char}

/-- What stands in front of a trimmed text may start with any character but white space. -/
theorem IsTrimmed.cons_append {c : Char} (h : IsTrimmed trimmed) (hc : isBlank c = false)
    (hne : trimmed ≠ []) (cs : List Char) : IsTrimmed (c :: cs ++ trimmed) := by
  constructor
  · rintro _ ⟨⟩
    exact hc
  · intro last hlast
    refine h.2 last ?_
    have hsome : trimmed.getLast?.isSome = true := List.getLast?_isSome.2 hne
    rwa [List.getLast?_append, Option.or_of_isSome hsome] at hlast

/-- There is nothing but white space in an empty text. -/
theorem AllBlank.nil : AllBlank [] := by
  intro c hc
  cases hc

/-- What is left at the start is the rest from the first character that is no white space. -/
theorem exists_trimStart (cs : List Char) : ∃ before, AllBlank before ∧
    cs = before ++ trimStart cs ∧ ∀ c ∈ (trimStart cs).head?, isBlank c = false := by
  refine ⟨cs.takeWhile isBlank, ?_, List.takeWhile_append_dropWhile.symm, ?_⟩
  · exact List.all_eq_true.1 List.all_takeWhile
  · intro c hc
    have hnot := cs.head?_dropWhile_not isBlank
    rw [Option.mem_def, trimStart] at hc
    rw [hc] at hnot
    exact hnot

/-- The same at the end. -/
theorem exists_trimEnd (cs : List Char) : ∃ after, AllBlank after ∧
    cs = trimEnd cs ++ after ∧ ∀ c ∈ (trimEnd cs).getLast?, isBlank c = false := by
  obtain ⟨before, hbefore, hcs, hhead⟩ := exists_trimStart cs.reverse
  refine ⟨before.reverse, fun c hc => hbefore c (List.mem_reverse.1 hc), ?_, ?_⟩
  · rw [trimEnd, ← trimStart, ← List.reverse_append, ← hcs, List.reverse_reverse]
  · intro c hc
    rw [trimEnd, ← trimStart, List.getLast?_reverse] at hc
    exact hhead c hc

/-- White space in front is trimmed with what it stands before. -/
theorem trimStart_append (h : AllBlank before) (cs : List Char) :
    trimStart (before ++ cs) = trimStart cs :=
  List.dropWhile_append_of_pos h

/-- White space behind is trimmed with what it stands behind. -/
theorem trimEnd_append (h : AllBlank after) (cs : List Char) :
    trimEnd (cs ++ after) = trimEnd cs := by
  have hreverse : AllBlank after.reverse := fun c hc => h c (List.mem_reverse.1 hc)
  rw [trimEnd, List.reverse_append, ← trimStart, trimStart_append hreverse, trimStart, ← trimEnd]

/-- Trimming takes off the white space at both ends and nothing else. -/
theorem strips_iff : Strips cs trimmed ↔ trim cs = trimmed := by
  constructor
  · rintro ⟨before, after, rfl, hbefore, hafter, hhead, hlast⟩
    rw [trim, List.append_assoc, trimStart_append hbefore]
    cases trimmed with
    | nil =>
      have hnone : trimStart after = [] := by
        rw [← List.append_nil after, trimStart_append hafter]
        rfl
      rw [List.nil_append, hnone]
      rfl
    | cons c trimmed =>
      have hstart : trimStart (c :: trimmed ++ after) = c :: trimmed ++ after :=
        trimStart_of_head? hhead
      rw [hstart, trimEnd_append hafter, trimEnd_of_getLast? hlast]
  · rintro rfl
    obtain ⟨before, hbefore, hcs, hhead⟩ := exists_trimStart cs
    obtain ⟨after, hafter, hstart, hlast⟩ := exists_trimEnd (trimStart cs)
    refine ⟨before, after, ?_, hbefore, hafter, ?_, hlast⟩
    · rw [trim, List.append_assoc, ← hstart, ← hcs]
    · intro c hc
      refine hhead c ?_
      -- the first character stays when the end is cut off
      rw [trim, Option.mem_def] at hc
      rw [hstart, List.head?_append, hc]
      rfl

end

/-! ## Cutting at white space -/

/-- The text is a word without white space, or such a word, a white space character and the rest. -/
inductive Cuts : List Char → List Char → List Char → Prop
  | whole {word : List Char} (h : ∀ c ∈ word, isBlank c = false) : Cuts word word []
  | blank {word rest : List Char} {c : Char} (h : ∀ c ∈ word, isBlank c = false)
      (hc : isBlank c = true) : Cuts (word ++ c :: rest) word rest

/-- A word is cut off at the first white space behind it. -/
theorem cutAtBlank_append {word cs : List Char} (hword : ∀ c ∈ word, isBlank c = false)
    (hcs : ∀ c ∈ cs.head?, isBlank c = true) : cutAtBlank (word ++ cs) = (word, cs.drop 1) := by
  have hkept : ∀ c ∈ word, (!isBlank c) = true := by
    intro c hc
    rw [hword c hc, Bool.not_false]
  rw [cutAtBlank, List.takeWhile_append_of_pos hkept, List.dropWhile_append_of_pos hkept]
  cases cs with
  | nil => simp
  | cons c cs => simp [hcs c rfl]

/-- The cut of a text at its first white space is the one that is made. -/
theorem cuts_iff {cs word rest : List Char} : Cuts cs word rest ↔ cutAtBlank cs = (word, rest) := by
  constructor
  · intro h
    cases h with
    | whole hword =>
      have hcut : cutAtBlank (cs ++ []) = (cs, [].drop 1) := cutAtBlank_append hword nofun
      rwa [List.append_nil] at hcut
    | blank hword hc =>
      refine cutAtBlank_append hword ?_
      rintro _ ⟨⟩
      exact hc
  · intro h
    obtain ⟨hword, hrest⟩ := Prod.mk.inj h
    have hblank := cs.head?_dropWhile_not (!isBlank ·)
    have hcs := List.takeWhile_append_dropWhile (p := (!isBlank ·)) (l := cs)
    have hkept : ∀ c ∈ word, isBlank c = false := by
      intro c hc
      rw [← hword] at hc
      simpa using List.all_eq_true.1 List.all_takeWhile c hc
    rw [hword] at hcs
    cases hdrop : cs.dropWhile (!isBlank ·) with
    | nil =>
      rw [hdrop, List.append_nil] at hcs
      rw [hdrop] at hrest
      subst hcs hrest
      exact .whole hkept
    | cons c others =>
      rw [hdrop] at hcs hrest hblank
      subst hcs hrest
      exact .blank hkept (by simpa using hblank)

end VisualNovel.Text

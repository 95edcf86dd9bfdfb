/-!
# Computations that may fail, and lists of entries

A few facts that do not belong to any one part of the library.
-/

namespace VisualNovel

/-- A computation that succeeds has succeeded in its first part. -/
theorem exists_of_bind_eq_ok {ε α β : Type} {first : Except ε α} {rest : α → Except ε β} {b : β}
    (h : first >>= rest = .ok b) : ∃ a, first = .ok a ∧ rest a = .ok b := by
  cases first with
  | error e => cases h
  | ok a => exact ⟨a, rfl, h⟩

/-- A result that can be compared where the errors cannot. -/
theorem eq_ok_of_toOption {ε α : Type} {result : Except ε α} {a : α}
    (h : result.toOption = some a) : result = .ok a := by
  cases result with
  | error e => cases h
  | ok b => exact congrArg _ (Option.some.inj h)

/-- What is found under another key stays when the entries of a key are taken out. -/
theorem lookup_filter_of_ne {α β : Type} [BEq α] [LawfulBEq α] {key other : α} (hne : other ≠ key)
    (entries : List (α × β)) :
    (entries.filter (·.1 != key)).lookup other = entries.lookup other := by
  induction entries with
  | nil => rfl
  | cons entry entries ih =>
    obtain ⟨entryKey, value⟩ := entry
    by_cases hentry : entryKey = key
    · -- the entry goes, and the other key would not have found it
      subst hentry
      simp [List.lookup_cons, beq_eq_false_iff_ne.2 hne, ih]
    · simp [List.lookup_cons, hentry, ih]

end VisualNovel

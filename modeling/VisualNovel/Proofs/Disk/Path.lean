import VisualNovel.Disk.Path

/-!
# The names of a path, and one name more

A path is cut at its slashes and at nothing else (`Path.names_append`), so joining a name to a path
adds that name at the end, and nothing of what the name consists of is taken for more than one name
(`Path.steps_join`). The path of the directory is then found again as the parent, up to idle names
and slashes (`Path.parent?_join`), and two names in one directory have two paths
(`Path.sameAs_join_iff`).
-/

namespace VisualNovel.Path

/-- The text names something in a directory: it is one name, which neither stays in the directory
nor leaves it. -/
structure IsName (name : String) : Prop where
  noSlash : '/' ∉ name.toList
  notIdle : isIdle name = false
  notOuter : name ≠ ".."

/-! ## Cutting at slashes -/

/-- There is at least one name between slashes, be it empty. -/
theorem splitNames_ne_nil (cs : List Char) : splitNames cs ≠ [] := by
  cases cs with
  | nil => exact List.cons_ne_nil _ _
  | cons c cs =>
    rw [splitNames]
    split
    · exact List.cons_ne_nil _ _
    · split <;> exact List.cons_ne_nil _ _

/-- A character that is no slash belongs to the first name. -/
theorem splitNames_cons {c : Char} {cs name : List Char} {others : List (List Char)} (hc : c ≠ '/')
    (h : splitNames cs = name :: others) : splitNames (c :: cs) = (c :: name) :: others := by
  rw [splitNames, if_neg hc, h]

/-- A slash parts the names before it from those after it. -/
theorem splitNames_append (cs ds : List Char) :
    splitNames (cs ++ '/' :: ds) = splitNames cs ++ splitNames ds := by
  induction cs with
  | nil => rfl
  | cons c cs ih =>
    rw [List.cons_append]
    by_cases hc : c = '/'
    · rw [splitNames, splitNames, if_pos hc, if_pos hc, ih, List.cons_append]
    · obtain ⟨name, others, hnames⟩ := List.exists_cons_of_ne_nil (splitNames_ne_nil cs)
      rw [hnames, List.cons_append] at ih
      rw [splitNames_cons hc ih, splitNames_cons hc hnames, List.cons_append]

/-- Without a slash there is one name. -/
theorem splitNames_of_notMem {cs : List Char} (h : '/' ∉ cs) : splitNames cs = [cs] := by
  induction cs with
  | nil => rfl
  | cons c cs ih =>
    rw [List.mem_cons, not_or] at h
    exact splitNames_cons (Ne.symm h.1) (ih h.2)

/-- There is no slash in a name. -/
theorem notMem_of_mem_splitNames {cs name : List Char} (h : name ∈ splitNames cs) : '/' ∉ name := by
  induction cs generalizing name with
  | nil =>
    rw [List.mem_singleton.1 h]
    exact List.not_mem_nil
  | cons c cs ih =>
    obtain ⟨first, others, hnames⟩ := List.exists_cons_of_ne_nil (splitNames_ne_nil cs)
    rw [hnames] at ih
    by_cases hc : c = '/'
    · rw [splitNames, if_pos hc, hnames] at h
      rcases List.mem_cons.1 h with rfl | h
      · exact List.not_mem_nil
      · exact ih h
    · rw [splitNames_cons hc hnames] at h
      rcases List.mem_cons.1 h with rfl | h
      · exact List.not_mem_cons_of_ne_of_not_mem (Ne.symm hc) (ih List.mem_cons_self)
      · exact ih (List.mem_cons_of_mem _ h)

/-! ## Names -/

section
variable {path other directory name : String} {absolute : Bool} {ss : List String}

/-- A path has at least one name, be it empty. -/
theorem names_ne_nil (path : String) : names path ≠ [] := by
  intro h
  exact splitNames_ne_nil _ (List.map_eq_nil_iff.1 h)

/-- The names of two paths with a slash between them are those of the first and of the second. -/
theorem names_append (path other : String) :
    names (path ++ "/" ++ other) = names path ++ names other := by
  have hchars : (path ++ "/" ++ other).toList = path.toList ++ '/' :: other.toList := by
    simp [String.toList_append]
  rw [names, hchars, splitNames_append, List.map_append, ← names, ← names]

/-- A path without a slash is its only name. -/
theorem names_of_notMem (h : '/' ∉ name.toList) : names name = [name] := by
  rw [names, splitNames_of_notMem h, List.map_singleton, String.ofList_toList]

/-- There is no slash in a name of a path. -/
theorem notMem_of_mem_names (h : name ∈ names path) : '/' ∉ name.toList := by
  obtain ⟨cs, hcs, rfl⟩ := List.mem_map.1 h
  rw [String.toList_ofList]
  exact notMem_of_mem_splitNames hcs

/-- The names are found again in a text that has slashes between them. -/
theorem names_intercalate (hne : ss ≠ []) (h : ∀ s ∈ ss, '/' ∉ s.toList) :
    names ("/".intercalate ss) = ss := by
  induction ss with
  | nil => exact absurd rfl hne
  | cons s ss ih =>
    have hs : names s = [s] := names_of_notMem (h s List.mem_cons_self)
    cases ss with
    | nil => rw [String.intercalate_singleton, hs]
    | cons t ss =>
      have hothers := ih (List.cons_ne_nil _ _) fun s hs => h s (List.mem_cons_of_mem _ hs)
      rw [String.intercalate_cons_cons, names_append, hs, hothers, List.singleton_append]

/-- Where a path starts is told by its beginning. -/
theorem isAbsolute_append (h : path ≠ "") (other : String) :
    isAbsolute (path ++ other) = isAbsolute path := by
  obtain ⟨c, cs, hcs⟩ := List.exists_cons_of_ne_nil (mt String.toList_eq_nil_iff.1 h)
  rw [isAbsolute, isAbsolute, String.toList_append, hcs]
  rfl

/-- A name leads somewhere unless it is empty or a dot. -/
theorem isIdle_eq_false_iff : isIdle name = false ↔ name ≠ "" ∧ name ≠ "." := by
  rw [isIdle, Bool.or_eq_false_iff, beq_eq_false_iff_ne, ← Bool.not_eq_true, String.isEmpty_iff]

/-- Names that lead somewhere are all kept as steps. -/
theorem filter_not_isIdle (h : ∀ s ∈ ss, isIdle s = false) : ss.filter (!isIdle ·) = ss := by
  refine List.filter_eq_self.2 fun s hs => ?_
  rw [h s hs]
  rfl

/-- A path without a slash does not start at the root. -/
theorem isAbsolute_of_notMem (h : '/' ∉ name.toList) : isAbsolute name = false := by
  rw [isAbsolute, beq_eq_false_iff_ne]
  intro hslash
  exact h (List.mem_of_mem_head? hslash)

/-! ## A name in a directory -/

/-- The path of a name in a directory has the names of the directory's path and then the name. Where
the directory's path ends with a slash, or is empty, the empty name at its end is gone. -/
theorem names_join (h : IsName name) (directory : String) :
    ∃ outer last, (last = [] ∨ last = [""]) ∧
      names directory = outer ++ last ∧ names (join directory name) = outer ++ [name] := by
  have hname : names name = [name] := names_of_notMem h.noSlash
  simp only [join, isAbsolute_of_notMem h.noSlash, Bool.false_or]
  split
  · next hempty =>
    rw [String.isEmpty_iff.1 hempty, hname]
    exact ⟨[], [""], .inr rfl, rfl, rfl⟩
  · split
    · next hslash =>
      obtain ⟨cs, hcs⟩ := List.getLast?_eq_some_iff.1 (beq_iff_eq.1 hslash)
      have hdirectory : directory = String.ofList cs ++ "/" ++ "" := by
        apply String.toList_injective
        simp [String.toList_append, hcs]
      refine ⟨names (String.ofList cs), [""], .inr rfl, ?_, ?_⟩
      · rw [hdirectory, names_append]
        rfl
      · rw [hdirectory, String.append_empty, names_append, hname]
    · refine ⟨names directory, [], .inl rfl, (List.append_nil _).symm, ?_⟩
      rw [names_append, hname]

/-- A name at the end does not change whether a path starts at the root. -/
theorem isAbsolute_join (h : IsName name) :
    isAbsolute (join directory name) = isAbsolute directory := by
  have habsolute : isAbsolute name = false := isAbsolute_of_notMem h.noSlash
  simp only [join, habsolute, Bool.false_or]
  split
  · next hempty =>
    rw [String.isEmpty_iff.1 hempty, habsolute]
    rfl
  · next hne =>
    have hdirectory : directory ≠ "" := mt String.isEmpty_iff.2 hne
    split
    · exact isAbsolute_append hdirectory name
    · rw [String.append_assoc, isAbsolute_append hdirectory]

/-- Joining a name adds one step. -/
theorem steps_join (h : IsName name) : steps (join directory name) = steps directory ++ [name] := by
  obtain ⟨outer, last, hlast, hnames, hjoin⟩ := names_join h directory
  have hidle : last.filter (!isIdle ·) = [] := by
    rcases hlast with rfl | rfl <;> rfl
  have hkept : [name].filter (!isIdle ·) = [name] :=
    filter_not_isIdle (List.forall_mem_singleton.2 h.notIdle)
  cases outer with
  | nil =>
    have hdirectory : steps directory = [] := by
      rcases hlast with rfl | rfl
      · exact absurd hnames (names_ne_nil directory)
      · rw [steps, hnames]
        rfl
    have hne : name ≠ "" := (isIdle_eq_false_iff.1 h.notIdle).1
    rw [hdirectory, steps, hjoin, List.nil_append]
    simp [hne]
  | cons first others =>
    simp only [steps, hnames, hjoin, List.cons_append, List.filter_append, hidle, hkept,
      List.append_nil, List.append_assoc]

/-! ## Steps and the path with them -/

/-- The texts are the steps of a path, of one that starts at the root or of another. -/
structure AreSteps (absolute : Bool) (ss : List String) : Prop where
  noSlash : ∀ s ∈ ss, '/' ∉ s.toList
  ne_empty : ∀ s ∈ ss, s ≠ ""
  notIdle : ∀ s ∈ if absolute then ss else ss.tail, isIdle s = false

/-- A path from the root has an empty name first. -/
theorem names_root (path : String) : names ("/" ++ path) = "" :: names path :=
  names_append "" path

/-- A path that starts at the root has an empty name in front. -/
theorem names_of_isAbsolute (h : isAbsolute path = true) : ∃ others, names path = "" :: others := by
  obtain ⟨cs, hcs⟩ := List.head?_eq_some_iff.1 (beq_iff_eq.1 h)
  have hpath : path = "/" ++ String.ofList cs := by
    apply String.toList_injective
    simp [String.toList_append, hcs]
  exact ⟨names (String.ofList cs), hpath ▸ names_root _⟩

/-- A path whose first name is not empty does not start at the root. -/
theorem isAbsolute_of_names {first : String} {others : List String}
    (h : names path = first :: others) (hfirst : first ≠ "") : isAbsolute path = false := by
  rw [← Bool.not_eq_true]
  intro habsolute
  obtain ⟨_, hroot⟩ := names_of_isAbsolute habsolute
  rw [h] at hroot
  exact hfirst (List.cons.inj hroot).1

/-- The steps of a path are such as can be made. -/
theorem areSteps_steps (path : String) : AreSteps (isAbsolute path) (steps path) := by
  obtain ⟨first, others, hnames⟩ := List.exists_cons_of_ne_nil (names_ne_nil path)
  have hslash : ∀ s ∈ first :: others, '/' ∉ s.toList := by
    intro s hs
    rw [← hnames] at hs
    exact notMem_of_mem_names hs
  have hothers : ∀ s ∈ others.filter (!isIdle ·), '/' ∉ s.toList ∧ isIdle s = false := by
    intro s hs
    obtain ⟨hmem, hidle⟩ := List.mem_filter.1 hs
    exact ⟨hslash s (List.mem_cons_of_mem _ hmem), by simpa using hidle⟩
  rw [steps, hnames]
  dsimp only
  by_cases hfirst : first.isEmpty = true
  · rw [if_pos hfirst, List.nil_append]
    refine ⟨fun s hs => (hothers s hs).1, ?_, ?_⟩
    · intro s hs
      exact (isIdle_eq_false_iff.1 (hothers s hs).2).1
    · intro s hs
      refine (hothers s ?_).2
      split at hs
      · exact hs
      · exact List.mem_of_mem_tail hs
  · -- only a path that does not start at the root has a first step of its own
    have hne : first ≠ "" := mt String.isEmpty_iff.2 hfirst
    rw [if_neg hfirst, List.singleton_append, isAbsolute_of_names hnames hne]
    refine ⟨?_, ?_, fun s hs => (hothers s hs).2⟩
    · intro s hs
      rcases List.mem_cons.1 hs with rfl | hs
      · exact hslash s List.mem_cons_self
      · exact (hothers s hs).1
    · intro s hs
      rcases List.mem_cons.1 hs with rfl | hs
      · exact hne
      · exact (isIdle_eq_false_iff.1 (hothers s hs).2).1

/-- The path with the steps has these steps. -/
theorem steps_ofSteps (h : AreSteps absolute ss) :
    isAbsolute (ofSteps absolute ss) = absolute ∧ steps (ofSteps absolute ss) = ss := by
  have hnames : ss ≠ [] → names ("/".intercalate ss) = ss := fun hne =>
    names_intercalate hne h.noSlash
  cases absolute with
  | true =>
    have hroot : steps (ofSteps true ss) = (names ("/".intercalate ss)).filter (!isIdle ·) := by
      rw [steps, ofSteps, if_pos rfl, names_root]
      rfl
    refine ⟨isAbsolute_append (by decide) _, ?_⟩
    rw [hroot]
    by_cases hne : ss = []
    · subst hne
      rfl
    · rw [hnames hne]
      exact filter_not_isIdle h.notIdle
  | false =>
    have hbare : ofSteps false ss = "/".intercalate ss := String.empty_append
    rw [hbare]
    cases ss with
    | nil => exact ⟨rfl, rfl⟩
    | cons first others =>
      have hne : first ≠ "" := h.ne_empty first List.mem_cons_self
      have hkept : others.filter (!isIdle ·) = others := filter_not_isIdle h.notIdle
      have hrelative : isAbsolute first = false :=
        isAbsolute_of_notMem (h.noSlash first List.mem_cons_self)
      constructor
      · cases others with
        | nil => rw [String.intercalate_singleton, hrelative]
        | cons second others =>
          rw [String.intercalate_cons_cons, String.append_assoc, isAbsolute_append hne, hrelative]
      · rw [steps, hnames (List.cons_ne_nil _ _)]
        simp [hne, hkept]

/-! ## The directory of a name -/

/-- Paths are the same when they start alike and make the same steps. -/
theorem sameAs_iff : sameAs path other = true ↔
    isAbsolute path = isAbsolute other ∧ steps path = steps other := by
  rw [sameAs, Bool.and_eq_true, beq_iff_eq, beq_iff_eq]

/-- The parent of a name in a directory is that directory. -/
theorem parent?_join (h : IsName name) (directory : String) :
    ∃ parent, parent? (join directory name) = some parent ∧ sameAs parent directory = true := by
  refine ⟨ofSteps (isAbsolute directory) (steps directory), ?_, ?_⟩
  · rw [parent?, steps_join h, isAbsolute_join h]
    split
    · next hnil => exact absurd hnil (List.append_ne_nil_of_right_ne_nil _ (List.cons_ne_nil _ _))
    · rw [List.dropLast_concat]
  · exact sameAs_iff.2 (steps_ofSteps (areSteps_steps directory))

/-- Two names in a directory have the same path only if they are the same. -/
theorem sameAs_join_iff (hname : IsName name) (hother : IsName other) :
    sameAs (join directory name) (join directory other) = true ↔ name = other := by
  rw [sameAs_iff, isAbsolute_join hname, isAbsolute_join hother, steps_join hname,
    steps_join hother]
  simp

end

end VisualNovel.Path

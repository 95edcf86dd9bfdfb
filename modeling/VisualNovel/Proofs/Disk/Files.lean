import VisualNovel.Proofs.Disk.Changes

/-!
# Files that have been written

A file is never written over a directory, so what was a directory still is one
(`Disk.Keeps.put_file`), and the way to the file leads there afterwards as it did before. So what
has been written is found again under the same path (`Disk.find_of_write`). Whether a file can be
written there depends on the path alone, and not on what is written (`Disk.exists_write`).
-/

namespace VisualNovel.Disk

variable {disk later : Disk} {place other : Place} {name path : String} {names : List String}
  {bytes : ByteArray}

/-! ## Directories that stay -/

/-- What is a directory on the one disk is one on the later disk as well. -/
structure Keeps (disk later : Disk) : Prop where
  home : later.home = disk.home
  directory : ∀ place, disk.entry? place = some .directory → later.entry? place = some .directory

theorem Keeps.put_file (h : disk.entry? place ≠ some .directory) (bytes : ByteArray) :
    Keeps disk (disk.put place (.file bytes)) where
  home := rfl
  directory other hother := by
    have hne : other ≠ place := by
      rintro rfl
      exact h hother
    rw [entry?_put_of_ne disk _ hne]
    exact hother

theorem expectDirectory_eq_ok_iff :
    disk.expectDirectory place = .ok () ↔ disk.entry? place = some .directory := by
  rw [expectDirectory]
  split <;> simp_all

theorem Keeps.step (h : Keeps disk later) (hstep : disk.step place name = .ok other) :
    later.step place name = .ok other := by
  obtain ⟨⟨⟩, hdirectory, hrest⟩ := exists_of_bind_eq_ok hstep
  rw [expectDirectory_eq_ok_iff] at hdirectory
  rw [Disk.step, expectDirectory_eq_ok_iff.2 (h.directory place hdirectory)]
  exact hrest

theorem Keeps.startOf (h : Keeps disk later) (path : String) :
    later.startOf path = disk.startOf path := by
  rw [Disk.startOf, Disk.startOf, h.home]

/-- Names lead where they did. -/
theorem Keeps.follow (h : Keeps disk later) (hfollow : disk.follow place names = .ok other) :
    later.follow place names = .ok other := by
  induction names generalizing place with
  | nil => exact hfollow
  | cons name names ih =>
    rw [Disk.follow, List.foldlM_cons] at hfollow ⊢
    obtain ⟨next, hstep, hfollow⟩ := exists_of_bind_eq_ok hfollow
    rw [h.step hstep]
    exact ih hfollow

/-! ## Writing -/

/-- The path leads to the directory of the site and then on to its name. -/
structure Site.IsAt (site : Site) (disk : Disk) (path : String) : Prop where
  checkPath : checkPath path = .ok ()
  isName : Path.IsName site.name
  isDirectory : disk.entry? site.directory = some .directory
  way : ∃ outer, Path.names path = outer ++ [site.name] ∧
    disk.follow (disk.startOf path) outer = .ok site.directory

theorem isAt_of_site {site : Site} (h : disk.site path = .ok (some site))
    (hfile : site.directoryOnly = false) : site.IsAt disk path := by
  obtain ⟨⟨⟩, hpath, h⟩ := exists_of_bind_eq_ok h
  rw [List.span_eq_takeWhile_dropWhile] at h
  dsimp only at h
  split at h
  · cases h
  · next name directories hnames =>
    obtain ⟨directory, hfollow, h⟩ := exists_of_bind_eq_ok h
    obtain ⟨⟨⟩, hdirectory, h⟩ := exists_of_bind_eq_ok h
    split at h
    · cases h
    · next hdots =>
      cases h
      -- no slashes follow the name, so it is the last one
      have hlast : (Path.names path).reverse.takeWhile (·.isEmpty) = [] := by simpa using hfile
      have hreverse : (Path.names path).reverse = name :: directories := by
        rw [← List.takeWhile_append_dropWhile (p := (·.isEmpty)) (l := (Path.names path).reverse),
          hlast, hnames, List.nil_append]
      have hall : Path.names path = directories.reverse ++ [name] := by
        rw [← List.reverse_reverse (Path.names path), hreverse, List.reverse_cons]
      have hempty : name ≠ "" := by
        rintro rfl
        rw [hreverse] at hlast
        cases hlast
      rw [Bool.or_eq_true, beq_iff_eq, beq_iff_eq, not_or] at hdots
      have hmem : name ∈ Path.names path := by
        rw [hall]
        exact List.mem_append_right _ List.mem_cons_self
      refine ⟨hpath, ⟨Path.notMem_of_mem_names hmem, ?_, hdots.2⟩,
        expectDirectory_eq_ok_iff.1 hdirectory, directories.reverse, hall, hfollow⟩
      exact Path.isIdle_eq_false_iff.2 ⟨hempty, hdots.1⟩

/-- What it takes to write a file has nothing to do with what is written. -/
theorem write_eq_ok_iff : disk.write path bytes = .ok later ↔
    ∃ site : Site, (disk.site path = .ok (some site) ∧ site.directoryOnly = false ∧
      site.checkName = .ok () ∧ disk.entry? site.place ≠ some .directory) ∧
        later = disk.put site.place (.file bytes) := by
  constructor
  · intro h
    obtain ⟨site?, hsite, h⟩ := exists_of_bind_eq_ok h
    cases site? with
    | none => cases h
    | some site =>
      dsimp only at h
      split at h
      · cases h
      · next hfile =>
        obtain ⟨⟨⟩, hname, h⟩ := exists_of_bind_eq_ok h
        split at h
        · cases h
        · next hfree =>
          refine ⟨site, ⟨hsite, Bool.eq_false_iff.2 hfile, hname, fun hdirectory => ?_⟩,
            (Except.ok.inj h).symm⟩
          rw [hdirectory] at hfree
          exact hfree rfl
  · rintro ⟨site, ⟨hsite, hfile, hname, hfree⟩, rfl⟩
    have hfree : (disk.entry? site.place).any (·.isDirectory) = false := by
      match hentry : disk.entry? site.place with
      | none | some (.file _) => rfl
      | some .directory => exact absurd hentry hfree
    rw [write, hsite]
    simp only [bind, Except.bind, hfile, hname, hfree, Bool.false_eq_true, if_false]

/-- A file that can be written can be written with other bytes. -/
theorem exists_write (h : disk.write path bytes = .ok later) (others : ByteArray) :
    ∃ later, disk.write path others = .ok later := by
  obtain ⟨site, hsite, -⟩ := write_eq_ok_iff.1 h
  exact ⟨_, write_eq_ok_iff.2 ⟨site, hsite, rfl⟩⟩

/-- What has been written is found under its path. -/
theorem find_of_write (h : disk.write path bytes = .ok later) :
    ∃ place, later.find path = .ok (place, .file bytes) := by
  obtain ⟨site, ⟨hsite, hfile, hname, hfree⟩, rfl⟩ := write_eq_ok_iff.1 h
  obtain ⟨hpath, hisName, hdirectory, outer, hnames, hfollow⟩ := isAt_of_site hsite hfile
  have hkeeps := Keeps.put_file hfree bytes
  have hstep : disk.step site.directory site.name = .ok site.place := by
    rw [step_of_isName hisName, expectDirectory_eq_ok_iff.2 hdirectory]
    rw [Site.checkName] at hname
    split at hname
    · cases hname
    · next hshort => exact if_neg hshort
  have hleads : disk.leads path = .ok site.place := by
    rw [leads, hnames, follow_append, hfollow]
    exact (follow_singleton ..).trans hstep
  have hne : site.place ≠ [] := List.append_ne_nil_of_right_ne_nil _ (List.cons_ne_nil _ _)
  refine ⟨site.place, ?_⟩
  rw [find, hpath, hkeeps.startOf]
  simp only [bind, Except.bind, hkeeps.follow hleads, disk.entry?_put_self _ hne]

/-! ## Texts -/

/-- A text in a file is read as that text. -/
theorem readText_of_find {text : String} (h : disk.find path = .ok (place, .file text.toUTF8)) :
    disk.readText path = .ok text := by
  have htext : String.fromUTF8? text.toUTF8 = some text := dif_pos text.isValidUTF8
  simp only [readText, read, h, bind, Except.bind, htext]

/-- A text that has been written is there and can be read. -/
theorem readText_of_write {text : String} (h : disk.write path text.toUTF8 = .ok later) :
    later.contains path = true ∧ later.readText path = .ok text := by
  obtain ⟨place, hfind⟩ := find_of_write h
  refine ⟨?_, readText_of_find hfind⟩
  rw [contains, hfind]
  rfl

end VisualNovel.Disk

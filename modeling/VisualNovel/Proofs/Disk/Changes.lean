import Mathlib.Data.List.TakeDrop
import VisualNovel.Disk.Basic
import VisualNovel.Proofs.Basic
import VisualNovel.Proofs.Disk.Path

/-!
# What changes on a disk

Making a directory with those around it adds directories where there was nothing, and changes
nothing else (`Disk.makeDirectories_grows`); that is so also when it fails on the way. The path of a
name in a directory leads to that name at the place of the directory (`Disk.leads_join`), so writing
or removing a file there changes this one place (`Disk.write_join`, `Disk.remove_join`).
-/

namespace VisualNovel

namespace Disk

variable {disk later last : Disk} {place other : Place} {entry : Entry} {path : String}

/-! ## Entries -/

/-- What is erased at one place is still there at the others. -/
theorem entry?_erase_of_ne (disk : Disk) (hne : other ≠ place) :
    Disk.entry? (disk.erase place) other = disk.entry? other := by
  simp only [erase, entry?, lookup_filter_of_ne hne]

/-- What is put at one place does not change the others. -/
theorem entry?_put_of_ne (disk : Disk) (entry : Entry) (hne : other ≠ place) :
    Disk.entry? (disk.put place entry) other = disk.entry? other := by
  rw [← disk.entry?_erase_of_ne hne]
  simp only [put, entry?, List.lookup_cons, beq_eq_false_iff_ne.2 hne]

/-- What is put at a place is found there. -/
theorem entry?_put_self (disk : Disk) (entry : Entry) (hne : place ≠ []) :
    Disk.entry? (disk.put place entry) place = some entry := by
  have hplace : place.isEmpty = false := List.isEmpty_eq_false_iff.2 hne
  simp only [put, entry?, hplace, List.lookup_cons, beq_self_eq_true, Bool.false_eq_true, if_false]

/-! ## Directories that are made -/

/-- The later disk has what is on the first one, and besides that only directories. -/
structure Grows (disk later : Disk) : Prop where
  home : later.home = disk.home
  entry : ∀ place, later.entry? place = disk.entry? place ∨
    disk.entry? place = none ∧ later.entry? place = some .directory

/-- A disk that stays as it is loses nothing. -/
theorem Grows.refl (disk : Disk) : Grows disk disk where
  home := rfl
  entry _ := .inl rfl

/-- A disk that grows twice has grown. -/
theorem Grows.trans (h : Grows disk later) (hlast : Grows later last) : Grows disk last where
  home := hlast.home.trans h.home
  entry place := by
    rcases h.entry place with hsame | ⟨hnone, hmade⟩
    · rw [← hsame]
      exact hlast.entry place
    · -- a directory that has been made stays
      rcases hlast.entry place with hkept | ⟨hgone, -⟩
      · exact .inr ⟨hnone, hkept.trans hmade⟩
      · rw [hmade] at hgone
        cases hgone

/-- A directory at a free place takes nothing away. -/
theorem Grows.put_directory (h : disk.entry? place = none) :
    Grows disk (disk.put place .directory) where
  home := rfl
  entry other := by
    by_cases hother : other = place
    · subst hother
      have hne : other ≠ [] := by
        rintro rfl
        cases h
      exact .inr ⟨h, disk.entry?_put_self _ hne⟩
    · exact .inl (disk.entry?_put_of_ne _ hother)

/-- Making a directory takes nothing away. -/
theorem makeDirectory_grows (h : disk.makeDirectory path = .ok later) : Grows disk later := by
  obtain ⟨site?, -, h⟩ := exists_of_bind_eq_ok h
  cases site? with
  | none => cases h
  | some site =>
    obtain ⟨-, -, h⟩ := exists_of_bind_eq_ok h
    split at h
    · cases h
    · next hnone =>
      cases h
      exact .put_directory (Option.not_isSome_iff_eq_none.1 hnone)

/-- Making a directory or keeping what is there takes nothing away. -/
theorem makeOrKeep_grows (disk : Disk) (path : String) : Grows disk (disk.makeOrKeep path).2 := by
  rw [makeOrKeep]
  split
  · next hmade => exact makeDirectory_grows hmade
  · exact .refl disk

/-- The directories around are made first, so the one inside is made on a disk that has grown. -/
theorem makeFromInside_grows (disk : Disk) (paths : List String) :
    Grows disk (disk.makeFromInside paths).2 := by
  induction paths with
  | nil => exact .refl disk
  | cons path around ih =>
    rw [makeFromInside]
    split
    · split
      · next hmade =>
        rw [hmade] at ih
        exact ih.trans (makeOrKeep_grows _ path)
      · exact ih
    · exact makeOrKeep_grows disk path

/-- Making directories takes nothing away, not even when it fails on the way. -/
theorem makeDirectories_grows (disk : Disk) (path : String) :
    Grows disk (disk.makeDirectories path).2 :=
  makeFromInside_grows disk (pathsAround path)

/-! ## Names in a directory -/

/-- The place that a path leads to. -/
def leads (disk : Disk) (path : String) : Except FileError Place :=
  disk.follow (disk.startOf path) (Path.names path)

section
variable {directory name : String}

/-- An empty name only looks whether there is a directory. -/
theorem step_empty (disk : Disk) (place : Place) :
    disk.step place "" = disk.expectDirectory place >>= fun _ => .ok place :=
  rfl

/-- A name leads from a directory into it, unless it is too long. -/
theorem step_of_isName (h : Path.IsName name) (disk : Disk) (place : Place) :
    disk.step place name = disk.expectDirectory place >>= fun _ =>
      if greatestName < name.utf8ByteSize then .error .nameTooLong else .ok (place ++ [name]) := by
  rw [step, h.notIdle, beq_eq_false_iff_ne.2 h.notOuter]
  rfl

/-- A name leads to the place that has it at the end. -/
theorem step_eq_ok (h : Path.IsName name) (hstep : disk.step place name = .ok other) :
    other = place ++ [name] := by
  rw [step_of_isName h] at hstep
  obtain ⟨-, -, hstep⟩ := exists_of_bind_eq_ok hstep
  split at hstep
  · cases hstep
  · exact (Except.ok.inj hstep).symm

/-- To follow names and then others is to follow them all. -/
theorem follow_append (disk : Disk) (place : Place) (ns ms : List String) :
    disk.follow place (ns ++ ms) = disk.follow place ns >>= (disk.follow · ms) :=
  List.foldlM_append

/-- To follow one name is one step. -/
theorem follow_singleton (disk : Disk) (place : Place) (name : String) :
    disk.follow place [name] = disk.step place name := by
  rw [follow, List.foldlM_cons]
  exact bind_pure _

/-- A way that goes on in the directory may end with an empty name. -/
theorem follow_bind_step (disk : Disk) (place : Place) {last : List String}
    (hlast : last = [] ∨ last = [""]) :
    disk.follow place last >>= (disk.step · name) = disk.step place name := by
  rcases hlast with rfl | rfl
  · rfl
  · rw [follow_singleton, step_empty]
    cases hplace : disk.expectDirectory place with
    | error e =>
      rw [step, hplace]
      rfl
    | ok _ => rfl

/-- A name at the end does not change where a path starts. -/
theorem startOf_join (h : Path.IsName name) (disk : Disk) (directory : String) :
    disk.startOf (Path.join directory name) = disk.startOf directory := by
  rw [startOf, startOf, Path.isAbsolute_join h]

/-- A name at the end of a path is the last step. -/
theorem leads_join (h : Path.IsName name) (disk : Disk) (directory : String) :
    disk.leads (Path.join directory name) = disk.leads directory >>= (disk.step · name) := by
  obtain ⟨outer, last, hlast, hnames, hjoin⟩ := Path.names_join h directory
  rw [leads, leads, startOf_join h, hnames, hjoin, follow_append, follow_append, bind_assoc]
  congr 1
  funext place
  rw [follow_singleton, follow_bind_step disk place hlast]

/-- The site of a name in a directory is in the place of that directory. -/
theorem site_join (h : Path.IsName name) {site? : Option Site}
    (hsite : disk.site (Path.join directory name) = .ok site?) :
    ∃ outer, disk.leads directory = .ok outer ∧ site? = some ⟨outer, name, false⟩ := by
  obtain ⟨outer, last, hlast, hnames, hjoin⟩ := Path.names_join h directory
  obtain ⟨hne, hdot⟩ := Path.isIdle_eq_false_iff.1 h.notIdle
  obtain ⟨-, -, hsite⟩ := exists_of_bind_eq_ok hsite
  rw [hjoin, List.reverse_append, startOf_join h] at hsite
  have hspan : ([name].reverse ++ outer.reverse).span (·.isEmpty)
      = ([], name :: outer.reverse) := by
    simp [List.span_eq_takeWhile_dropWhile, hne]
  rw [hspan] at hsite
  obtain ⟨place, hplace, hsite⟩ := exists_of_bind_eq_ok hsite
  obtain ⟨⟨⟩, hdirectory, hsite⟩ := exists_of_bind_eq_ok hsite
  rw [List.reverse_reverse] at hplace
  have hkept : disk.follow place last = .ok place := by
    rcases hlast with rfl | rfl
    · rfl
    · rw [follow_singleton, step_empty, hdirectory]
      rfl
  refine ⟨place, ?_, ?_⟩
  · rw [leads, hnames, follow_append, hplace]
    exact hkept
  · have hidle : (name == "." || name == "..") = false := by
      rw [Bool.or_eq_false_iff]
      exact ⟨beq_eq_false_iff_ne.2 hdot, beq_eq_false_iff_ne.2 h.notOuter⟩
    rw [hidle] at hsite
    cases hsite
    rfl

/-! ## Files in a directory -/

/-- What a path leads to is at the place where it leads. -/
theorem leads_of_find (h : disk.find path = .ok (place, entry)) :
    disk.leads path = .ok place ∧ disk.entry? place = some entry := by
  obtain ⟨-, -, h⟩ := exists_of_bind_eq_ok h
  obtain ⟨found, hfound, h⟩ := exists_of_bind_eq_ok h
  split at h
  · next hentry =>
    cases h
    exact ⟨hfound, hentry⟩
  · cases h

/-- The path of a name in a directory leads to that name at the place of the directory. -/
theorem exists_outer_of_leads (h : Path.IsName name)
    (hleads : disk.leads (Path.join directory name) = .ok place) :
    ∃ outer, disk.leads directory = .ok outer ∧ place = outer ++ [name] := by
  rw [leads_join h] at hleads
  obtain ⟨outer, houter, hstep⟩ := exists_of_bind_eq_ok hleads
  exact ⟨outer, houter, step_eq_ok h hstep⟩

/-- A file that is written in a directory changes one place below it. -/
theorem write_join (h : Path.IsName name) {bytes : ByteArray}
    (hwrite : disk.write (Path.join directory name) bytes = .ok later) :
    ∃ outer, disk.leads directory = .ok outer ∧
      later = disk.put (outer ++ [name]) (.file bytes) := by
  obtain ⟨site?, hsite, hwrite⟩ := exists_of_bind_eq_ok hwrite
  obtain ⟨outer, houter, rfl⟩ := site_join h hsite
  obtain ⟨-, -, hwrite⟩ := exists_of_bind_eq_ok hwrite
  refine ⟨outer, houter, ?_⟩
  split at hwrite
  · cases hwrite
  · exact (Except.ok.inj hwrite).symm

/-- A file that is removed from a directory changes one place below it. -/
theorem remove_join (h : Path.IsName name)
    (hremove : disk.remove (Path.join directory name) = .ok later) :
    ∃ outer, disk.leads directory = .ok outer ∧ later = disk.erase (outer ++ [name]) := by
  obtain ⟨⟨place, entry⟩, hfind, hremove⟩ := exists_of_bind_eq_ok hremove
  obtain ⟨outer, houter, rfl⟩ := exists_outer_of_leads h (leads_of_find hfind).1
  refine ⟨outer, houter, ?_⟩
  cases entry with
  | directory => cases hremove
  | file bytes => exact (Except.ok.inj hremove).symm

end

end Disk
end VisualNovel

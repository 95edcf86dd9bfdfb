import VisualNovel.Proofs.Disk.Changes
import VisualNovel.Proofs.Save.Slots
import VisualNovel.Save.Folder

/-!
# Saves stay in their folder

A key has no slash among its characters and does not begin with a dot, so the name of its file is
one name (`Folder.isName_fileName`), and the file is directly in the folder whatever the path of the
folder is. Different keys have different files. A key that is refused is refused by every operation
before the disk is touched, and with any other key an operation changes the file of that key, and
otherwise only makes the folder (`Folder.stays_inside`).
-/

namespace VisualNovel.Folder

/-! ## The names of files -/

variable {folder : Folder} {key other path otherPath : String}

/-- What parts the names of a path is not allowed in a key. -/
theorem isKeyChar_separator : ∀ c ∈ ['/', '\\', '\x00'], isKeyChar c = false := by
  simp [isKeyChar, Text.isAlphanumeric_of_lt, Text.Ranges.contains]

/-- The ending of a save is allowed in a name. -/
theorem isKeyChar_ending : ∀ c ∈ ".json".toList, isKeyChar c = true := by
  simp [isKeyChar, Text.isAlphanumeric_of_lt, Text.Ranges.contains]

/-- A key begins with something other than a dot, and its characters are allowed. -/
theorem exists_cons_of_isKey (h : isKey key = true) : ∃ first others,
    key.toList = first :: others ∧ first ≠ '.' ∧ ∀ c ∈ first :: others, isKeyChar c = true := by
  rw [isKey] at h
  split at h
  · cases h
  · next first others hchars =>
    obtain ⟨hfirst, hall⟩ := Bool.and_eq_true_iff.1 h
    exact ⟨first, others, hchars, bne_iff_ne.1 hfirst, List.all_eq_true.1 hall⟩

/-- No separator of names, on whatever system, and no zero character stands in the name of a file.
-/
theorem notMem_fileName (h : isKey key = true) {c : Char} (hc : isKeyChar c = false) :
    c ∉ (fileName key).toList := by
  obtain ⟨first, others, hchars, -, hall⟩ := exists_cons_of_isKey h
  rw [fileName, String.toList_append, hchars, List.mem_append]
  rintro (hmem | hmem)
  · rw [hall c hmem] at hc
    cases hc
  · rw [isKeyChar_ending c hmem] at hc
    cases hc

/-- The file of a key is not hidden. -/
theorem head?_fileName_ne (h : isKey key = true) : (fileName key).toList.head? ≠ some '.' := by
  obtain ⟨first, others, hchars, hfirst, -⟩ := exists_cons_of_isKey h
  rw [fileName, String.toList_append, hchars, List.cons_append, List.head?_cons]
  intro hdot
  exact hfirst (Option.some.inj hdot)

/-- The name of a file with a save is one that leads from a directory into it. -/
theorem isName_fileName (h : isKey key = true) : Path.IsName (fileName key) := by
  have hhead := head?_fileName_ne h
  refine ⟨notMem_fileName h (isKeyChar_separator _ List.mem_cons_self),
    Path.isIdle_eq_false_iff.2 ⟨?_, ?_⟩, ?_⟩
  · intro hempty
    rw [fileName, String.append_eq_empty_iff] at hempty
    exact absurd hempty.2 (by decide)
  · intro hdot
    rw [hdot] at hhead
    exact hhead rfl
  · intro hdots
    rw [hdots] at hhead
    exact hhead rfl

/-- Different keys have files of different names. -/
theorem fileName_inj : fileName key = fileName other ↔ key = other :=
  String.append_left_inj _

/-! ## Paths -/

/-- Just the keys have a path, which is that of their file in the folder. -/
theorem pathFor_eq_ok_iff : folder.pathFor key = .ok path ↔
    isKey key = true ∧ path = Path.join folder.path (fileName key) := by
  rw [pathFor]
  split
  · next h => simp [h, eq_comm]
  · next h => simp [h]

/-- The place is that of the key's file in the directory to which the path of the folder leads. -/
def HasFileAt (folder : Folder) (key : String) (place : Place) : Prop :=
  ∃ directory, folder.disk.leads folder.path = .ok directory ∧ place = directory ++ [fileName key]

/-- The path is that of a file directly in the folder, named for the key, and what it leads to on
the disk is there as well. -/
structure Holds (folder : Folder) (key path : String) : Prop where
  path_eq : path = Path.join folder.path (key ++ ".json")
  noSeparator : ∀ c ∈ ['/', '\\', '\x00'], c ∉ (key ++ ".json").toList
  notDots : key ++ ".json" ≠ "." ∧ key ++ ".json" ≠ ".."
  notHidden : (key ++ ".json").toList.head? ≠ some '.'
  parent : ∃ parent, Path.parent? path = some parent ∧ Path.sameAs parent folder.path = true
  found : ∀ place entry, folder.disk.find path = .ok (place, entry) → HasFileAt folder key place

/-- The path that a key has is that of its file. -/
theorem holds_of_pathFor (h : folder.pathFor key = .ok path) : Holds folder key path := by
  obtain ⟨hkey, rfl⟩ := pathFor_eq_ok_iff.1 h
  have hname := isName_fileName hkey
  have hdot : key ++ ".json" ≠ "." := (Path.isIdle_eq_false_iff.1 hname.notIdle).2
  refine ⟨rfl, ?_, ⟨hdot, hname.notOuter⟩, head?_fileName_ne hkey, Path.parent?_join hname _, ?_⟩
  · intro c hc
    exact notMem_fileName hkey (isKeyChar_separator c hc)
  · intro place entry hfind
    exact Disk.exists_outer_of_leads hname (Disk.leads_of_find hfind).1

/-- Paths that are the same up to idle names and slashes are those of one key. -/
theorem eq_of_sameAs (h : folder.pathFor key = .ok path)
    (hother : folder.pathFor other = .ok otherPath) (hsame : Path.sameAs path otherPath = true) :
    key = other := by
  obtain ⟨hkey, rfl⟩ := pathFor_eq_ok_iff.1 h
  obtain ⟨hotherKey, rfl⟩ := pathFor_eq_ok_iff.1 hother
  have hnames := (Path.sameAs_join_iff (isName_fileName hkey) (isName_fileName hotherKey)).1 hsame
  exact fileName_inj.1 hnames

/-! ## Keys that are refused -/

/-- Every operation refuses the key, and none of them touches the folder or anything else on the
disk. -/
structure Refuses (folder : Folder) (key : String) : Prop where
  get : SaveStore.get folder key = .error (.invalidKey key)
  set : ∀ text, SaveStore.set folder key text = (.error (.invalidKey key), folder)
  remove : SaveStore.remove folder key = (.error (.invalidKey key), folder)
  has : SaveStore.has folder key = false

/-- What has no path is refused by every operation. -/
theorem refuses_of_pathFor (h : ∀ path, folder.pathFor key ≠ .ok path) : Refuses folder key := by
  have hrefused : folder.pathFor key = .error (.invalidKey key) := by
    rw [pathFor] at h ⊢
    split
    · next hkey => exact absurd (if_pos hkey) (h _)
    · rfl
  constructor
  · change folder.get key = _
    rw [Folder.get, hrefused]
    rfl
  · intro text
    change folder.set key text = _
    rw [Folder.set, hrefused]
  · change folder.remove key = _
    rw [Folder.remove, hrefused]
  · change folder.has key = _
    rw [Folder.has, hrefused]

/-! ## What is changed on the disk -/

/-- Making sure of the folder takes nothing away from the disk. -/
theorem ensure_grows (folder : Folder) :
    folder.ensure.2.path = folder.path ∧ folder.disk.Grows folder.ensure.2.disk := by
  rw [ensure]
  split
  · exact ⟨rfl, .refl _⟩
  · exact ⟨rfl, Disk.makeDirectories_grows _ _⟩

/-- Writing the file of a key touches nothing else. -/
theorem writeFile_touches (hkey : isKey key = true) (text : String) (place : Place) :
    Disk.entry? (folder.writeFile (Path.join folder.path (fileName key)) text).2.disk place =
      folder.disk.entry? place ∨ HasFileAt folder key place := by
  rw [writeFile]
  split
  · next hwrite =>
    obtain ⟨outer, houter, rfl⟩ := Disk.write_join (isName_fileName hkey) hwrite
    by_cases hplace : place = outer ++ [fileName key]
    · exact .inr ⟨outer, houter, hplace⟩
    · exact .inl (Disk.entry?_put_of_ne _ _ hplace)
  · exact .inl rfl

/-- What putting and removing change on the disk is the file of the key, in the directory to which
the path of the folder leads; and putting may make directories where there was nothing. -/
structure Confines (folder : Folder) (key : String) : Prop where
  set : ∀ text place, let later := (SaveStore.set folder key text).2
    later.disk.entry? place = folder.disk.entry? place ∨
      (folder.disk.entry? place = none ∧ later.disk.entry? place = some .directory) ∨
      HasFileAt folder.ensure.2 key place
  remove : ∀ place, let later := (SaveStore.remove folder key).2
    later.disk.entry? place = folder.disk.entry? place ∨ HasFileAt folder key place

/-- Every operation on a key keeps to what the folder allows. -/
theorem confines (folder : Folder) (key : String) : Confines folder key where
  set text place := by
    change Disk.entry? (folder.set key text).2.disk place = _ ∨
      _ ∧ Disk.entry? (folder.set key text).2.disk place = _ ∨ _
    rw [Folder.set]
    split
    · exact .inl rfl
    · next hfor =>
      obtain ⟨hkey, rfl⟩ := pathFor_eq_ok_iff.1 hfor
      obtain ⟨hpath, hgrows⟩ := folder.ensure_grows
      have hmade := hgrows.entry place
      split
      · next made hensure =>
        rw [hensure] at hpath hmade ⊢
        rw [← hpath]
        rcases writeFile_touches hkey text place with hkept | hfile
        · rw [hkept, ← or_assoc]
          exact .inl hmade
        · exact .inr (.inr hfile)
      · -- the folder could not be made, and the file is not written
        rw [← or_assoc]
        exact .inl hmade
  remove place := by
    change Disk.entry? (folder.remove key).2.disk place = _ ∨ _
    rw [Folder.remove]
    split
    · exact .inl rfl
    · next hfor =>
      obtain ⟨hkey, rfl⟩ := pathFor_eq_ok_iff.1 hfor
      split
      · split
        · next hremove =>
          obtain ⟨outer, houter, rfl⟩ := Disk.remove_join (isName_fileName hkey) hremove
          by_cases hplace : place = outer ++ [fileName key]
          · exact .inr ⟨outer, houter, hplace⟩
          · exact .inl (Disk.entry?_erase_of_ne _ hplace)
        · exact .inl rfl
      · exact .inl rfl

/-! ## Everything stays inside -/

/-- Whatever the path of the folder is, the path for a key is that of a file directly in it, and
keys of different texts, or of different novels, have different paths, also up to idle names and
slashes. A key without a path is refused by every operation, and the folder and its disk stay as
they are. With any key, what an operation changes on the disk is in the folder. -/
theorem stays_inside (folder : Folder) :
    (∀ key path, folder.pathFor key = .ok path → Holds folder key path) ∧
    (∀ key other path otherPath, folder.pathFor key = .ok path →
      folder.pathFor other = .ok otherPath → Path.sameAs path otherPath = true → key = other) ∧
    (∀ novelId other path otherPath, folder.pathFor (Slots.key novelId) = .ok path →
      folder.pathFor (Slots.key other) = .ok otherPath → Path.sameAs path otherPath = true →
      novelId = other) ∧
    (∀ key, (∀ path, folder.pathFor key ≠ .ok path) → Refuses folder key) ∧
    ∀ key, Confines folder key := by
  refine ⟨fun _ _ => holds_of_pathFor, fun _ _ _ _ => eq_of_sameAs, ?_,
    fun _ => refuses_of_pathFor, folder.confines⟩
  intro novelId other path otherPath hpath hother hsame
  exact Slots.key_inj.1 (eq_of_sameAs hpath hother hsame)

/-- Two novels of which one's id begins the other's have a file each in a folder, and a key that
would lead out of it is refused. -/
theorem stays_inside_sea :
    let folder : Folder := ⟨Disk.blank ["home", "reader"], "saves/"⟩
    folder.pathFor (Slots.key "sea") = .ok "saves/novel_save_sea.json" ∧
    folder.pathFor (Slots.key "sea.v2") = .ok "saves/novel_save_sea.v2.json" ∧
    Holds folder (Slots.key "sea") "saves/novel_save_sea.json" ∧
    Path.sameAs "saves/novel_save_sea.json" "saves/novel_save_sea.v2.json" = false ∧
    (∀ path, folder.pathFor "../escape" ≠ .ok path) ∧ Refuses folder "../escape" := by
  intro folder
  have hsea : folder.pathFor (Slots.key "sea") = .ok "saves/novel_save_sea.json" :=
    pathFor_eq_ok_iff.2 ⟨by decide +kernel, by decide⟩
  have hsecond : folder.pathFor (Slots.key "sea.v2") = .ok "saves/novel_save_sea.v2.json" :=
    pathFor_eq_ok_iff.2 ⟨by decide +kernel, by decide⟩
  have hescape : ∀ path, folder.pathFor "../escape" ≠ .ok path := by
    intro path hpath
    exact absurd (pathFor_eq_ok_iff.1 hpath).1 (by decide)
  obtain ⟨hholds, -, hnovels, hrefuses, -⟩ := stays_inside folder
  refine ⟨hsea, hsecond, hholds _ _ hsea, ?_, hescape, hrefuses _ hescape⟩
  rw [← Bool.not_eq_true]
  intro hsame
  exact absurd (hnovels _ _ _ _ hsea hsecond hsame) (by decide)

end VisualNovel.Folder

import VisualNovel.Proofs.Basic
import VisualNovel.Proofs.Save.RoundTrip
import VisualNovel.Save.Slots

/-!
# Slots are cells of their own

Novels have different keys (`Slots.key_inj`), so in a store in memory an operation touches the slot
of its own novel only. What it does there is its change (`SlotOperation.change?`): it puts in the
text of a save, or it leaves nothing. After a run of operations a slot holds what the last change
left, or what it held before the run (`Slots.get?_afterAll`). With the round trip of saves,
`Slots.independent_cells` says what every query then answers.
-/

namespace VisualNovel

/-! ## Texts under keys -/

namespace MemoryStore

/-- What was put under a key is found there. -/
theorem get?_insert (store : MemoryStore) (key text : String) :
    (store.insert key text).get? key = some text := by
  simp only [get?, insert, List.lookup_cons, beq_self_eq_true]

/-- Nothing is left under a key that was erased. -/
theorem get?_erase (store : MemoryStore) (key : String) : (store.erase key).get? key = none := by
  simp only [get?, erase, List.lookup_eq_none_iff, List.mem_filter, bne_iff_ne]
  rintro entry ⟨-, hne⟩
  exact Ne.symm hne

variable {key other : String}

/-- What is under another key stays when a key is erased. -/
theorem get?_erase_of_ne (store : MemoryStore) (hne : other ≠ key) :
    (store.erase key).get? other = store.get? other :=
  lookup_filter_of_ne hne store.entries

/-- What is under another key stays when something is put under a key. -/
theorem get?_insert_of_ne (store : MemoryStore) (text : String) (hne : other ≠ key) :
    (store.insert key text).get? other = store.get? other := by
  rw [← store.get?_erase_of_ne hne]
  simp only [get?, insert, List.lookup_cons, beq_eq_false_iff_ne.2 hne]

end MemoryStore

/-! ## Operations on slots -/

/-- The node index of a save has 64 bits, and the save was made in a year of four digits. -/
structure Save.Fits (save : Save) : Prop where
  nodeIndex : save.nodeIndex < Json.naturalBound
  year : 0 ≤ save.savedAt.date.year ∧ save.savedAt.date.year ≤ 9999

/-- Something that is done with the slot of a novel. -/
inductive SlotOperation where
  | write (novelId : String) (save : Save)
  | delete (novelId : String)
  | read (novelId : String)
  | has (novelId : String)
  | savedAt (novelId : String)

namespace SlotOperation

/-- The novel whose slot it is about. -/
def novelId : SlotOperation → String
  | write novelId _ | delete novelId | read novelId | has novelId | savedAt novelId => novelId

/-- What is in the slot of its novel after it: a save or nothing. A query leaves there what was. -/
def content? : SlotOperation → Option (Option Save)
  | write _ save => some (some save)
  | delete _ => some none
  | read _ | has _ | savedAt _ => none

/-- What it leaves in the slot of the given novel, if it changes that. -/
def change? (operation : SlotOperation) (novelId : String) : Option (Option Save) :=
  if operation.novelId = novelId then operation.content? else none

variable {operation : SlotOperation} {novelId : String} {save : Save}

/-- Only writing a save leaves it in a slot. -/
theorem eq_write_of_change? (h : operation.change? novelId = some (some save)) :
    operation = .write novelId save := by
  simp only [change?] at h
  split at h
  · next hid =>
    subst hid
    cases operation <;> cases h
    rfl
  · cases h

end SlotOperation

namespace Slots

/-- The store after an operation. -/
def after {σ : Type} [SaveStore σ] (store : σ) : SlotOperation → σ
  | .write novelId save => (write store novelId save).2
  | .delete novelId => (delete store novelId).2
  | .read _ | .has _ | .savedAt _ => store

/-- The store after operations. -/
def afterAll {σ : Type} [SaveStore σ] (store : σ) (operations : List SlotOperation) : σ :=
  operations.foldl after store

/-- What the last of the operations that change the slot of the novel leaves there. -/
def lastChange? (novelId : String) (operations : List SlotOperation) : Option (Option Save) :=
  operations.reverse.findSome? (·.change? novelId)

variable {store store' : MemoryStore} {operations : List SlotOperation}
  {operation : SlotOperation} {novelId other : String} {save : Save}

/-- Novels have different keys, also where one id begins another. -/
theorem key_inj : key novelId = key other ↔ novelId = other :=
  String.append_right_inj _

theorem lastChange?_cons (novelId : String) (operation : SlotOperation)
    (operations : List SlotOperation) :
    lastChange? novelId (operation :: operations)
      = (lastChange? novelId operations).or (operation.change? novelId) := by
  simp only [lastChange?, List.reverse_cons, List.findSome?_append, List.findSome?_cons,
    List.findSome?_nil]
  cases operation.change? novelId <;> rfl

/-- A save that the last change leaves was written. -/
theorem write_mem_of_lastChange? (h : lastChange? novelId operations = some (some save)) :
    .write novelId save ∈ operations := by
  obtain ⟨operation, hmem, hchange⟩ := List.exists_of_findSome?_eq_some h
  rw [← SlotOperation.eq_write_of_change? hchange]
  exact List.mem_reverse.1 hmem

/-- The text in a slot after an operation. -/
theorem get?_after (store : MemoryStore) (operation : SlotOperation) (novelId : String) :
    (after store operation).get? (key novelId)
      = (operation.change? novelId).elim (store.get? (key novelId)) (·.map Save.toText) := by
  simp only [SlotOperation.change?]
  split
  · next hid =>
    subst hid
    cases operation with
    | write id save => exact store.get?_insert _ _
    | delete id => exact store.get?_erase _
    | read | has | savedAt => rfl
  · next hid =>
    have hkey : key novelId ≠ key operation.novelId := fun h => hid (key_inj.1 h).symm
    cases operation with
    | write id save => exact store.get?_insert_of_ne _ hkey
    | delete id => exact store.get?_erase_of_ne hkey
    | read | has | savedAt => rfl

/-- The text in a slot after operations is of what the last change left, or that from before. -/
theorem get?_afterAll (store : MemoryStore) (operations : List SlotOperation) (novelId : String) :
    (afterAll store operations).get? (key novelId)
      = (lastChange? novelId operations).elim (store.get? (key novelId)) (·.map Save.toText) := by
  induction operations generalizing store with
  | nil => rfl
  | cons operation operations ih =>
    refine (ih (after store operation)).trans ?_
    rw [get?_after, lastChange?_cons]
    cases lastChange? novelId operations <;> rfl

/-- What is read from a slot depends on the text in it. -/
theorem read_eq (store : MemoryStore) (novelId : String) :
    read store novelId =
      match store.get? (key novelId) with
      | some text => (Save.ofText text).map some
      | none => .ok none := by
  cases hget : store.get? (key novelId) with
  | none =>
    have hstored : SaveStore.get store (key novelId) = .ok none := congrArg Except.ok hget
    rw [read, hstored]
  | some text =>
    have hstored : SaveStore.get store (key novelId) = .ok (some text) := congrArg Except.ok hget
    rw [read, hstored]

/-- Queries of a slot depend on the text in it only. -/
theorem queries_congr (h : store'.get? (key novelId) = store.get? (key novelId)) :
    read store' novelId = read store novelId ∧ has store' novelId = has store novelId ∧
      savedAt? store' novelId = savedAt? store novelId := by
  have hread : read store' novelId = read store novelId := by rw [read_eq, read_eq, h]
  refine ⟨hread, ?_, ?_⟩
  · exact congrArg Option.isSome h
  · rw [savedAt?, savedAt?, hread]

/-- There is something in a slot just when reading it gives a save or fails. -/
theorem has_iff_read_ne : has store novelId = true ↔ read store novelId ≠ .ok none := by
  change (store.get? (key novelId)).isSome = true ↔ _
  rw [read_eq]
  cases store.get? (key novelId) with
  | none => simp
  | some text =>
    dsimp only
    cases Save.ofText text <;> simp [Except.map]

theorem savedAt?_eq_some_iff {time : Instant} :
    savedAt? store novelId = some time ↔
      ∃ save, read store novelId = .ok (some save) ∧ save.savedAt = time := by
  rw [savedAt?]
  rcases read store novelId with _ | (_ | _) <;> simp

/-- A save that can be read back from its text is read back from the slot it is written to. -/
theorem read_write {save : Save} (h : Save.ofText save.toText = .ok save)
    (store : MemoryStore) (novelId : String) :
    ∃ stored : MemoryStore, write store novelId save = (.ok (), stored) ∧
      read stored novelId = .ok (some save) := by
  refine ⟨store.insert (key novelId) save.toText, rfl, ?_⟩
  rw [read_eq, store.get?_insert]
  dsimp only
  rw [h]
  rfl

/-- After any operations on the slots of a store with any content, a slot holds what the last
change to it left: the save that was written, or nothing once it was deleted. A slot that was not
changed is read from the text that the store held at first, or is empty when it held none. The slot
counts as taken just when reading it does not find it empty, and tells the time of the save that is
read. An operation on the slot of another novel changes none of these answers. -/
theorem independent_cells (hfits : ∀ id save, .write id save ∈ operations → save.Fits)
    (store : MemoryStore) (novelId : String) :
    let later := afterAll store operations
    (read later novelId =
      match lastChange? novelId operations with
      | some content => .ok content
      | none =>
        match store.get? (key novelId) with
        | some text => (Save.ofText text).map some
        | none => .ok none) ∧
    (has later novelId = true ↔ read later novelId ≠ .ok none) ∧
    (∀ time, savedAt? later novelId = some time ↔
      ∃ save, read later novelId = .ok (some save) ∧ save.savedAt = time) ∧
    ∀ operation : SlotOperation, operation.novelId ≠ novelId →
      read (after later operation) novelId = read later novelId ∧
      has (after later operation) novelId = has later novelId ∧
      savedAt? (after later operation) novelId = savedAt? later novelId := by
  intro later
  refine ⟨?_, has_iff_read_ne, fun time => savedAt?_eq_some_iff, fun operation hother => ?_⟩
  · rw [read_eq, get?_afterAll]
    cases hlast : lastChange? novelId operations with
    | none => rfl
    | some content =>
      cases content with
      | none => rfl
      | some save =>
        have hsave := hfits _ _ (write_mem_of_lastChange? hlast)
        simp only [Option.elim, Option.map, Save.ofText_toText hsave.nodeIndex hsave.year]
        rfl
  · refine queries_congr ?_
    rw [get?_after, SlotOperation.change?, if_neg hother]
    rfl

/-- A novel whose slot holds no readable save keeps that text while longer and shorter ids are
written and deleted. -/
theorem independent_cells_sea :
    let store := MemoryStore.empty.insert (key "sea") "no save"
    let operations : List SlotOperation :=
      [.write "seaside" .newYear, .write "se" .leapDay, .delete "se", .read "sea"]
    (∀ id save, .write id save ∈ operations → save.Fits) ∧
    let later := afterAll store operations
    read later "seaside" = .ok (some .newYear) ∧ read later "se" = .ok none ∧
    (∃ message, read later "sea" = .error (.malformed message)) ∧ has later "sea" = true := by
  intro store operations
  have hfits : ∀ id save, .write id save ∈ operations → save.Fits := by
    intro id save hmem
    simp only [operations, List.mem_cons, SlotOperation.write.injEq, List.not_mem_nil, or_false,
      reduceCtorEq] at hmem
    rcases hmem with ⟨-, rfl⟩ | ⟨-, rfl⟩
    · exact ⟨by decide, by decide⟩
    · exact ⟨by decide, by decide⟩
  have hmalformed : ∃ message, Save.ofText "no save" = .error (.malformed message) := by
    have hnone : (Save.ofText "no save").toOption = none := by decide +kernel
    simp only [Save.ofText] at hnone ⊢
    split at hnone
    · cases hnone
    · exact ⟨_, rfl⟩
  have hwritten : lastChange? "seaside" operations = some (some .newYear) := by
    simp [lastChange?, operations, SlotOperation.change?, SlotOperation.novelId,
      SlotOperation.content?]
  have hdeleted : lastChange? "se" operations = some none := by
    simp [lastChange?, operations, SlotOperation.change?, SlotOperation.novelId,
      SlotOperation.content?]
  have hkept : lastChange? "sea" operations = none := by
    simp [lastChange?, operations, SlotOperation.change?, SlotOperation.novelId,
      SlotOperation.content?]
  obtain ⟨message, hmessage⟩ := hmalformed
  obtain ⟨hseaside, -⟩ := independent_cells hfits store "seaside"
  obtain ⟨hse, -⟩ := independent_cells hfits store "se"
  obtain ⟨hsea, htaken, -⟩ := independent_cells hfits store "sea"
  rw [hwritten] at hseaside
  rw [hdeleted] at hse
  rw [hkept, MemoryStore.get?_insert] at hsea
  dsimp only at hsea
  rw [hmessage] at hsea
  refine ⟨hfits, hseaside, hse, ⟨message, hsea⟩, htaken.2 ?_⟩
  rw [hsea]
  intro hempty
  cases hempty

end Slots
end VisualNovel

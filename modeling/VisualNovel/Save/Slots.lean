import VisualNovel.Save.Basic

/-!
# Save slots

A store keeps texts under keys. Each novel has one slot in it, under a key of its own, and a new
save replaces the old one.
-/

namespace VisualNovel

/-- A store of texts under keys. A change that fails may still leave traces in the store. -/
class SaveStore (σ : Type) where
  /-- The text under a key, if there is one. -/
  get : σ → String → Except SaveError (Option String)
  /-- Puts a text under a key in place of what was there. -/
  set : σ → String → String → Except SaveError Unit × σ
  /-- Whether there is something under the key. -/
  has : σ → String → Bool
  /-- Removes what is under a key, if there is anything. -/
  remove : σ → String → Except SaveError Unit × σ

/-! ## A store in memory -/

/-- Texts under keys, the latest in front. -/
structure MemoryStore where
  entries : List (String × String) := []
deriving DecidableEq, Repr

namespace MemoryStore

/-- A store without texts. -/
def empty : MemoryStore := {}

/-- The text under a key. -/
def get? (store : MemoryStore) (key : String) : Option String :=
  store.entries.lookup key

/-- The store without what is under the key. -/
def erase (store : MemoryStore) (key : String) : MemoryStore :=
  ⟨store.entries.filter (·.1 != key)⟩

/-- The store with the text under the key. -/
def insert (store : MemoryStore) (key text : String) : MemoryStore :=
  ⟨(key, text) :: (store.erase key).entries⟩

instance : SaveStore MemoryStore where
  get store key := .ok (store.get? key)
  set store key text := (.ok (), store.insert key text)
  has store key := (store.get? key).isSome
  remove store key := (.ok (), store.erase key)

end MemoryStore

/-! ## One slot per novel -/

namespace Slots

variable {σ : Type} [SaveStore σ]

/-- The key of a novel's slot. -/
def key (novelId : String) : String :=
  "novel_save_" ++ novelId

/-- Writes a save into the slot of a novel. -/
def write (store : σ) (novelId : String) (save : Save) : Except SaveError Unit × σ :=
  SaveStore.set store (key novelId) save.toText

/-- The save in the slot of a novel, if there is one. -/
def read (store : σ) (novelId : String) : Except SaveError (Option Save) :=
  match SaveStore.get store (key novelId) with
  | .ok (some text) => (Save.ofText text).map some
  | .ok none => .ok none
  | .error e => .error e

/-- Whether there is anything in the slot of a novel. -/
def has (store : σ) (novelId : String) : Bool :=
  SaveStore.has store (key novelId)

/-- Empties the slot of a novel. -/
def delete (store : σ) (novelId : String) : Except SaveError Unit × σ :=
  SaveStore.remove store (key novelId)

/-- When the save in the slot of a novel was made; none when there is no readable save. -/
def savedAt? (store : σ) (novelId : String) : Option Instant :=
  match read store novelId with
  | .ok (some save) => some save.savedAt
  | _ => none

end Slots
end VisualNovel

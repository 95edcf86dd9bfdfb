import Mathlib.Data.List.Basic
import VisualNovel.Stage.Basic

/-!
# The cast

The cast is a list of entries under the ids of characters. Where no id stands twice
(`Stage.castIds`), the order of the ids and the look-up of each (`Stage.placement?`) determine the
stage (`Stage.eq_of_placement?`). So a change of the stage is told by what it does to the order, to
the entry of one character, and to the entries of all others (`Stage.others`).
-/

namespace VisualNovel.Stage

/-- The characters on screen, in order. -/
def castIds (stage : Stage) : List String :=
  stage.cast.map (·.characterId)

/-- Somebody is on the screen when they are in the cast. -/
theorem isOnScreen_iff {stage : Stage} {id : String} :
    stage.isOnScreen id = true ↔ id ∈ stage.castIds := by
  simp only [isOnScreen, placement?, castIds, List.find?_isSome, List.mem_map, beq_iff_eq]

/-- A change of one placement does not change who is in the cast. -/
theorem map_characterId_updateFirst {f : Placement → Placement}
    (hf : ∀ entry, (f entry).characterId = entry.characterId) (id : String)
    (cast : List Placement) :
    (updateFirst id f cast).map (·.characterId) = cast.map (·.characterId) := by
  induction cast with
  | nil => rfl
  | cons entry cast ih =>
    simp only [updateFirst]
    split
    · rw [List.map_cons, List.map_cons, hf]
    · rw [List.map_cons, List.map_cons, ih]

/-- A change of one entry that leaves its character leaves the cast. -/
theorem castIds_update {f : Placement → Placement}
    (hf : ∀ entry, (f entry).characterId = entry.characterId) (stage : Stage) (id : String) :
    (stage.update id f).castIds = stage.castIds :=
  map_characterId_updateFirst hf id stage.cast

/-- Who is taken off leaves the others in their order. -/
theorem castIds_remove (stage : Stage) (id : String) :
    (stage.remove id).castIds = stage.castIds.filter (· != id) := by
  simp only [castIds, remove, List.filter_map]
  rfl

/-- Whoever comes stands behind the others in the cast. -/
theorem castIds_add (stage : Stage) (entry : Placement) :
    (stage.add entry).castIds = stage.castIds ++ [entry.characterId] :=
  List.map_append

/-- Who is not on screen can come without standing there twice. -/
theorem nodup_castIds_add {stage : Stage} {entry : Placement} (h : stage.castIds.Nodup)
    (hnew : entry.characterId ∉ stage.castIds) : (stage.add entry).castIds.Nodup := by
  rw [castIds_add, List.nodup_append]
  refine ⟨h, by simp, ?_⟩
  rintro id hid _ hlast rfl
  rw [List.mem_singleton.1 hlast] at hid
  exact hnew hid

/-! ## Look-ups -/

section
variable {stage : Stage} {entry : Placement} {id other : String} {f : Placement → Placement}

/-- Nobody is found who is not in the cast. -/
theorem placement?_eq_none_iff : stage.placement? id = none ↔ id ∉ stage.castIds := by
  simp only [placement?, castIds, List.find?_eq_none, List.mem_map, beq_iff_eq, not_exists, not_and]

/-- An entry is found under its character when that stands there once. -/
theorem placement?_of_mem (h : stage.castIds.Nodup) (hmem : entry ∈ stage.cast) :
    stage.placement? entry.characterId = some entry := by
  obtain ⟨before, after, hcast⟩ := List.append_of_mem hmem
  rw [castIds, hcast, List.map_append, List.map_cons, List.nodup_append] at h
  obtain ⟨-, -, hapart⟩ := h
  rw [placement?, hcast, List.find?_append, List.find?_eq_none.2, Option.none_or]
  · exact List.find?_cons_of_pos (beq_self_eq_true entry.characterId)
  · intro earlier hearlier hsame
    exact hapart _ (List.mem_map_of_mem hearlier) _ List.mem_cons_self (beq_iff_eq.1 hsame)

/-- Stages that show the same characters once each, in the same order and with the same entries, are
the same before one background. -/
theorem eq_of_placement? {stage stage' : Stage} (h : stage.castIds.Nodup)
    (hids : stage'.castIds = stage.castIds)
    (hentries : ∀ id, stage'.placement? id = stage.placement? id)
    (hbackground : stage'.backgroundId = stage.backgroundId) : stage' = stage := by
  have hcast : ∀ stage : Stage, stage.castIds.Nodup →
      stage.castIds.filterMap stage.placement? = stage.cast := by
    intro stage h
    rw [castIds, List.filterMap_map, List.filterMap_congr, List.filterMap_some]
    intro entry hentry
    exact placement?_of_mem h hentry
  have hlookup : stage'.placement? = stage.placement? := funext hentries
  obtain ⟨cast, backgroundId⟩ := stage
  obtain ⟨cast', backgroundId'⟩ := stage'
  cases hbackground
  have hcast' := hcast ⟨cast', backgroundId⟩ (hids ▸ h)
  rw [hids, hlookup, hcast ⟨cast, backgroundId⟩ h] at hcast'
  cases hcast'
  rfl

/-- The changed entry of a character is found where the old one was. -/
theorem placement?_update (hf : ∀ entry, (f entry).characterId = entry.characterId)
    (stage : Stage) (id : String) :
    (stage.update id f).placement? id = (stage.placement? id).map f := by
  simp only [placement?, update]
  induction stage.cast with
  | nil => rfl
  | cons entry cast ih =>
    by_cases hid : entry.characterId = id
    · simp [updateFirst, hf, hid]
    · simp [updateFirst, hid, ih]

/-- Who comes on screen is found there. -/
theorem placement?_add (hnew : entry.characterId ∉ stage.castIds) :
    (stage.add entry).placement? entry.characterId = some entry := by
  have hnone := placement?_eq_none_iff.2 hnew
  rw [placement?] at hnone
  rw [placement?, add, List.find?_append, hnone, Option.none_or]
  exact List.find?_cons_of_pos (beq_self_eq_true entry.characterId)

/-- Whoever is taken off the stage is not found there. -/
theorem placement?_remove (stage : Stage) (id : String) :
    (stage.remove id).placement? id = none := by
  rw [placement?_eq_none_iff, castIds_remove, List.mem_filter]
  simp

end

/-! ## The other characters -/

/-- The entries of all characters but one, in order. -/
def others (stage : Stage) (id : String) : List Placement :=
  stage.cast.filter (·.characterId != id)

section
variable {stage stage' : Stage} {entry : Placement} {id other : String} {f : Placement → Placement}

/-- The other characters are found among the others. -/
theorem placement?_eq_find?_others (hne : other ≠ id) :
    stage.placement? other = (stage.others id).find? (·.characterId == other) := by
  rw [placement?, others, List.find?_filter]
  congr 1
  funext entry
  by_cases hentry : entry.characterId = other
  · simp [hentry, hne]
  · simp [hentry]

/-- Without somebody on the stage, everybody there is another. -/
theorem others_of_notMem (hoff : id ∉ stage.castIds) : stage.others id = stage.cast := by
  refine List.filter_eq_self.2 fun entry hentry => bne_iff_ne.2 ?_
  rintro rfl
  exact hoff (List.mem_map_of_mem hentry)

/-- A change of one placement leaves the others. -/
theorem others_update (hf : ∀ entry, (f entry).characterId = entry.characterId) (stage : Stage)
    (id : String) : (stage.update id f).others id = stage.others id := by
  simp only [others, update]
  induction stage.cast with
  | nil => rfl
  | cons entry cast ih =>
    by_cases hid : entry.characterId = id
    · simp [updateFirst, hf, hid]
    · simp [updateFirst, hid, ih]

/-- Whoever comes leaves the others as they are. -/
theorem others_add (stage : Stage) (entry : Placement) :
    (stage.add entry).others entry.characterId = stage.others entry.characterId := by
  simp [others, add, List.filter_append]

/-- Whoever goes leaves the others as they are. -/
theorem others_remove (stage : Stage) (id : String) :
    (stage.remove id).others id = stage.others id := by
  simp only [others, remove, List.filter_filter, Bool.and_self]

/-- What is left of the others does not matter when more are left out. -/
theorem filter_of_others (h : stage'.others id = stage.others id) {p : String → Bool}
    (hp : p id = false) :
    stage'.cast.filter (p ·.characterId) = stage.cast.filter (p ·.characterId) := by
  have hkept : ∀ stage : Stage,
      (stage.others id).filter (p ·.characterId) = stage.cast.filter (p ·.characterId) := by
    intro stage
    rw [others, List.filter_filter]
    refine List.filter_congr fun entry _ => ?_
    by_cases hentry : entry.characterId = id
    · rw [hentry, hp, Bool.false_and]
    · rw [bne_iff_ne.2 hentry, Bool.and_true]
  rw [← hkept, h, hkept]

end

end VisualNovel.Stage

import VisualNovel.Proofs.Calendar.RoundTrip
import VisualNovel.Proofs.Novel.RoundTrip
import VisualNovel.Save.Basic

/-!
# Saves are read back

The record of a save is faithful to every save whose node index has 64 bits and whose time is of a
year of four digits (`Save.faithful`). A save that was read from a text, in whatever form, has such
an index (`Save.nodeIndex_lt_of_read`), so it is read back from its own text as well.
-/

namespace VisualNovel

open Codec VisualNovel.Field

/-- An instant of a year of four digits is read back. -/
theorem Instant.faithful_codec (n : Nat) {t : Instant}
    (hyear : 0 ≤ t.date.year ∧ t.date.year ≤ 9999) : Instant.codec.Faithful n t where
  read_write _ := by simp only [Instant.codec, Json.ofString, Instant.ofText?_toText hyear]
  isPlain := .string n _

theorem Placement.faithful (n : Nat) (placement : Placement) :
    Placement.record.Faithful n placement where
  names := by decide
  build := rfl
  fields := ⟨faithful_requiredText, faithful_requiredWord, faithful_omittableText, trivial⟩

theorem faithful_nullableText {name : String} {n : Nat} {text? : Option String} :
    (nullable name .text).Faithful n text? :=
  faithful_nullable name nofun fun text _ => faithful_text n text

namespace Save

theorem faithful {save : Save} (hindex : save.nodeIndex < Json.naturalBound)
    (hyear : 0 ≤ save.savedAt.date.year ∧ save.savedAt.date.year ≤ 9999) :
    record.Faithful 2 save where
  names := by decide
  build := rfl
  fields := ⟨faithful_requiredText, faithful_required _ (faithful_natural _ hindex 2),
    faithful_required _ (faithful_list fun placement _ => (placement.faithful 0).codec),
    faithful_nullableText, faithful_nullableText,
    faithful_required _ (Instant.faithful_codec 2 hyear), trivial⟩

theorem ofText_toText {save : Save} (hindex : save.nodeIndex < Json.naturalBound)
    (hyear : 0 ≤ save.savedAt.date.year ∧ save.savedAt.date.year ≤ 9999) :
    ofText save.toText = .ok save := by
  have hread := (faithful hindex hyear).codec.parse_compact
  rw [ofText, toText, hread]

theorem nodeIndex_lt_of_read {text : String} {save : Save} (h : ofText text = .ok save) :
    save.nodeIndex < Json.naturalBound := by
  rw [ofText] at h
  split at h
  · next save' hparse =>
    cases h
    obtain ⟨json, hread⟩ := exists_read_of_parse hparse
    obtain ⟨parts, ⟨-, hindex, -⟩, rfl⟩ := Record.takes_of_read hread
    rcases hindex with ⟨source, json, hread⟩ | habsent | hshort
    · exact lt_of_read_natural hread
    · cases habsent
    · cases hshort
  · cases h

/-- A save of a year of four digits is read back from its own text, whatever its texts, its node
index of 64 bits, its cast and its time are, within a leap second too. So is a save that was itself
read from any text. -/
theorem stored_readsBack :
    (∀ save : Save, save.nodeIndex < Json.naturalBound →
      0 ≤ save.savedAt.date.year ∧ save.savedAt.date.year ≤ 9999 →
        ofText save.toText = .ok save) ∧
    ∀ (text : String) (save : Save), ofText text = .ok save →
      0 ≤ save.savedAt.date.year ∧ save.savedAt.date.year ≤ 9999 →
        ofText save.toText = .ok save := by
  constructor
  · intro save hindex hyear
    exact ofText_toText hindex hyear
  · intro text save hread hyear
    have hindex := nodeIndex_lt_of_read hread
    exact ofText_toText hindex hyear

/-- A save made within the leap second that ended 2016, in a scene whose name has to be escaped. -/
def newYear : Save :=
  { sceneId := "\"海\"\n", nodeIndex := Json.naturalBound - 1
    cast := [⟨"ann", .left, some "joy"⟩, ⟨"bob", .right, none⟩], backgroundId := none
    bgm := some "song", savedAt := ⟨1483228799, 1500000000, .inr (by decide)⟩ }

/-- A save made west of Greenwich late on a leap day, when it was already March in UTC. -/
def leapDay : Save :=
  { sceneId := "hall", nodeIndex := 2, cast := [], backgroundId := some "sea", bgm := none
    savedAt := ⟨1709254800, 500000000, .inl (by decide)⟩ }

/-- The text of the leap day's save as an array, with a time that is not in UTC. -/
def leapDayText : String :=
  "[\"hall\", 2, [], \"sea\", null, \"2024-02-29t23:30:00.5-01:30\"]"

theorem ofText_leapDayText : ofText leapDayText = .ok leapDay :=
  eq_ok_of_toOption (by decide +kernel)

/-- Both saves are read back from their own texts. -/
theorem stored_readsBack_newYear :
    newYear.nodeIndex < Json.naturalBound ∧
      (0 ≤ newYear.savedAt.date.year ∧ newYear.savedAt.date.year ≤ 9999) ∧
      ofText newYear.toText = .ok newYear ∧
    ofText leapDayText = .ok leapDay ∧
      (0 ≤ leapDay.savedAt.date.year ∧ leapDay.savedAt.date.year ≤ 9999) ∧
      ofText leapDay.toText = .ok leapDay := by
  have hindex : newYear.nodeIndex < Json.naturalBound := by decide
  have hyear : 0 ≤ newYear.savedAt.date.year ∧ newYear.savedAt.date.year ≤ 9999 := by decide
  have hyear' : 0 ≤ leapDay.savedAt.date.year ∧ leapDay.savedAt.date.year ≤ 9999 := by decide
  exact ⟨hindex, hyear, stored_readsBack.1 newYear hindex hyear, ofText_leapDayText, hyear',
    stored_readsBack.2 leapDayText leapDay ofText_leapDayText hyear'⟩

end Save
end VisualNovel

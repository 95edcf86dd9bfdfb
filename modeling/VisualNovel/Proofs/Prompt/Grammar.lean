import Mathlib
import VisualNovel.Prompt
import VisualNovel.Proofs.Text.Blank

/-!
# The grammar of what the player types

What a line means is told by its text between white space: nothing is a click, a colon starts a
command, and all else is a number, counted from one, or no input at all (`Prompt.Means`). A command
is a word, with an argument behind white space (`Prompt.Orders`), and a number is decimal digits
with an optional plus sign (`Prompt.Spells`). `Prompt.parse_grammar` says that a line is read as it
means and in no other way, whatever characters it consists of.
-/

namespace VisualNovel.Prompt

open Text (isBlank trim AllBlank IsTrimmed Strips Cuts cutAtBlank cuts_iff strips_iff)

/-! ## Numbers -/

/-- The text is an optional plus sign and decimal digits with the value. -/
def Spells (cs : List Char) (n : Nat) : Prop :=
  ∃ digits, (cs = digits ∨ cs = '+' :: digits) ∧ digits ≠ [] ∧
    (∀ c ∈ digits, c.isDigit = true) ∧ Nat.ofDigitChars 10 digits 0 = n

theorem isDigit_of_mem_toDigits {n : Nat} {c : Char} (h : c ∈ Nat.toDigits 10 n) :
    c.isDigit = true :=
  Nat.isDigit_of_mem_toDigits (by decide) (by decide) h

/-- The decimal digits of a number spell it. -/
theorem spells_toDigits (n : Nat) : Spells (Nat.toDigits 10 n) n :=
  ⟨_, .inl rfl, Nat.toDigits_ne_nil, fun _ => isDigit_of_mem_toDigits,
    Nat.ofDigitChars_ten_toDigits⟩

section
variable {cs : List Char} {n index : Nat}

/-- What spells a number starts with a sign or a digit. -/
theorem Spells.head (h : Spells cs n) :
    ∃ c others, cs = c :: others ∧ (c = '+' ∨ c.isDigit = true) := by
  obtain ⟨digits, hcs, hne, hdigits, -⟩ := h
  rcases hcs with rfl | rfl
  · obtain ⟨c, others, rfl⟩ := List.exists_cons_of_ne_nil hne
    exact ⟨c, others, rfl, .inr (hdigits c List.mem_cons_self)⟩
  · exact ⟨'+', digits, rfl, .inl rfl⟩

theorem number?_eq_some_iff : number? cs = some n ↔ Spells cs n := by
  have hread : ∀ digits : List Char,
      (if (!digits.isEmpty && digits.all Char.isDigit) = true then
        some (Nat.ofDigitChars 10 digits 0) else none) = some n ↔
      digits ≠ [] ∧ (∀ c ∈ digits, c.isDigit = true) ∧ Nat.ofDigitChars 10 digits 0 = n := by
    intro digits
    simp [and_assoc]
  simp only [number?]
  split
  · next rest =>
    rw [hread]
    constructor
    · intro h
      exact ⟨rest, .inr rfl, h⟩
    · rintro ⟨digits, hdigits | hdigits, h⟩
      · -- a sign is no digit
        rw [← hdigits] at h
        cases h.2.1 '+' List.mem_cons_self
      · cases hdigits
        exact h
  · next hsign =>
    rw [hread]
    constructor
    · intro h
      exact ⟨cs, .inl rfl, h⟩
    · rintro ⟨digits, rfl | hdigits, h⟩
      · exact h
      · exact absurd hdigits (hsign digits)

theorem parseNumber_of_spells (h : Spells cs (index + 1)) (hle : index + 1 < 2 ^ 64) :
    parseNumber cs = .ok (.choose index) := by
  have hgreatest : index + 1 ≤ greatestNumber := Nat.le_of_lt_succ hle
  simp only [parseNumber, number?_eq_some_iff.2 h, if_pos hgreatest]

theorem parseNumber_of_not_spells (h : ∀ index, Spells cs (index + 1) → ¬index + 1 < 2 ^ 64) :
    parseNumber cs = .error (.invalidNumber (String.ofList cs)) := by
  simp only [parseNumber]
  split
  · next n hnumber =>
    have hgreat : ¬n + 1 ≤ greatestNumber := by
      intro hle
      exact h n (number?_eq_some_iff.1 hnumber) (Nat.lt_succ_of_le hle)
    rw [if_neg hgreat]
  · rfl

end

/-! ## Commands -/

/-- The words of the commands. -/
def words : List String :=
  ["save", "load", "log", "restart", "quit", "q", "jump"]

/-- What a word and an argument order. A line with another word is told back. -/
inductive Orders (line : String) : String → List Char → Except PromptError Prompt → Prop
  | save (argument : List Char) : Orders line "save" argument (.ok .save)
  | load (argument : List Char) : Orders line "load" argument (.ok .load)
  | log (argument : List Char) : Orders line "log" argument (.ok .log)
  | restart (argument : List Char) : Orders line "restart" argument (.ok .restart)
  | quit (argument : List Char) : Orders line "quit" argument (.ok .quit)
  | q (argument : List Char) : Orders line "q" argument (.ok .quit)
  | jump {argument : List Char} (h : argument ≠ []) :
      Orders line "jump" argument (.ok (.jump (String.ofList argument)))
  | jumpNowhere : Orders line "jump" [] (.error (.missingArgument "jump"))
  | unknown {word : String} (argument : List Char) (h : word ∉ words) :
      Orders line word argument (.error (.unknownCommand line))

theorem parseCommand_eq_iff {command : List Char} {answer : Except PromptError Prompt} :
    parseCommand command = answer ↔ ∃ word rest argument, Cuts command word rest ∧
      Strips rest argument ∧
      Orders (String.ofList (':' :: command)) (String.ofList word) argument answer := by
  constructor
  · rintro rfl
    refine ⟨(cutAtBlank command).1, (cutAtBlank command).2, trim (cutAtBlank command).2,
      cuts_iff.2 rfl, strips_iff.2 rfl, ?_⟩
    simp only [parseCommand]
    generalize String.ofList (cutAtBlank command).1 = word
    generalize trim (cutAtBlank command).2 = argument
    split
    · exact .save _
    · exact .load _
    · exact .log _
    · exact .restart _
    · exact .quit _
    · exact .q _
    · split
      · next hempty =>
        rw [List.isEmpty_iff.1 hempty]
        exact .jumpNowhere
      · next hempty => exact .jump (mt List.isEmpty_iff.2 hempty)
    · next hsave hload hlog hrestart hquit hq hjump =>
      refine .unknown _ ?_
      simp only [words, List.mem_cons, List.not_mem_nil, or_false, not_or]
      exact ⟨hsave, hload, hlog, hrestart, hquit, hq, hjump⟩
  · rintro ⟨word, rest, argument, hcut, hstrips, horders⟩
    rw [cuts_iff] at hcut
    rw [strips_iff] at hstrips
    simp only [parseCommand, hcut, hstrips]
    generalize String.ofList word = w at horders
    cases horders with
    | save | load | log | restart | quit | q => rfl
    | jump hargument => exact if_neg (mt List.isEmpty_iff.1 hargument)
    | jumpNowhere => rfl
    | unknown _ hword =>
      simp only [words, List.mem_cons, not_or] at hword
      obtain ⟨hsave, hload, hlog, hrestart, hquit, hq, hjump, -⟩ := hword
      split <;> first | rfl | contradiction

/-! ## Lines -/

/-- What a trimmed text means. -/
inductive Means : List Char → Except PromptError Prompt → Prop
  | click : Means [] (.ok .click)
  | command {command word rest argument : List Char} {answer : Except PromptError Prompt}
      (hcut : Cuts command word rest) (hstrips : Strips rest argument)
      (horders : Orders (String.ofList (':' :: command)) (String.ofList word) argument answer) :
      Means (':' :: command) answer
  | branch {text : List Char} {index : Nat} (hspells : Spells text (index + 1))
      (hle : index + 1 < 2 ^ 64) : Means text (.ok (.choose index))
  | other {text : List Char} (hne : text ≠ []) (hcolon : text.head? ≠ some ':')
      (hnumber : ∀ index, Spells text (index + 1) → ¬index + 1 < 2 ^ 64) :
      Means text (.error (.invalidNumber (String.ofList text)))

section
variable {line : String} {text : List Char} {answer : Except PromptError Prompt}

theorem parse_of_strips (h : Strips line.toList text) :
    parse line = answer ↔ Means text answer := by
  simp only [parse, strips_iff.1 h]
  constructor
  · rintro rfl
    split
    · exact .click
    · next command =>
      obtain ⟨word, rest, argument, hcut, hstrips, horders⟩ :=
        parseCommand_eq_iff.1 (Eq.refl (parseCommand command))
      exact .command hcut hstrips horders
    · next hne hcolon =>
      by_cases hnumber : ∃ index, Spells text (index + 1) ∧ index + 1 < 2 ^ 64
      · obtain ⟨index, hspells, hle⟩ := hnumber
        rw [parseNumber_of_spells hspells hle]
        exact .branch hspells hle
      · have hnone : ∀ index, Spells text (index + 1) → ¬index + 1 < 2 ^ 64 :=
          fun index hspells hle => hnumber ⟨index, hspells, hle⟩
        rw [parseNumber_of_not_spells hnone]
        refine .other hne ?_ hnone
        intro hhead
        obtain ⟨others, hothers⟩ := List.head?_eq_some_iff.1 hhead
        exact hcolon others hothers
  · intro hmeans
    cases hmeans with
    | click => rfl
    | command hcut hstrips horders =>
      exact parseCommand_eq_iff.2 ⟨_, _, _, hcut, hstrips, horders⟩
    | branch hspells hle =>
      -- no sign and no digit is a colon
      obtain ⟨c, others, rfl, hc⟩ := hspells.head
      split
      · next hnil => cases hnil
      · next hcolon =>
        cases hcolon
        rcases hc with hc | hc <;> cases hc
      · exact parseNumber_of_spells hspells hle
    | other hne hcolon hnumber =>
      split
      · contradiction
      · exact absurd rfl hcolon
      · exact parseNumber_of_not_spells hnumber

/-- A line is read as the text between its white space means, and that text means one thing. -/
theorem parse_eq_iff :
    parse line = answer ↔ ∃ text, Strips line.toList text ∧ Means text answer := by
  constructor
  · intro h
    have hstrips : Strips line.toList (trim line.toList) := strips_iff.2 rfl
    exact ⟨_, hstrips, (parse_of_strips hstrips).1 h⟩
  · rintro ⟨text, hstrips, hmeans⟩
    exact (parse_of_strips hstrips).2 hmeans

end

/-! ## Lines in a surrounding of white space -/

section
variable {before gap id after : String} {index : Nat}

/-- An order to jump names the scene exactly. -/
theorem parse_jump (hbefore : AllBlank before.toList) (hgap : AllBlank gap.toList)
    (hafter : AllBlank after.toList) (hne : gap ≠ "") (hid : id ≠ "")
    (htrimmed : IsTrimmed id.toList) :
    parse (before ++ ":jump" ++ gap ++ id ++ after) = .ok (.jump id) := by
  have hidList : id.toList ≠ [] := mt String.toList_eq_nil_iff.1 hid
  obtain ⟨c, blanks, hblanks⟩ : ∃ c blanks, gap.toList = c :: blanks :=
    List.exists_cons_of_ne_nil (mt String.toList_eq_nil_iff.1 hne)
  rw [hblanks] at hgap
  have hword : ∀ c ∈ "jump".toList, isBlank c = false := by
    simp [isBlank, Text.blankRanges, Text.Ranges.contains]
  -- the first blank of the gap ends the word, the others are trimmed off
  have hcut : Cuts ("jump".toList ++ c :: (blanks ++ id.toList)) "jump".toList
      (blanks ++ id.toList) :=
    .blank hword (hgap c List.mem_cons_self)
  have hstrips : Strips (blanks ++ id.toList) id.toList :=
    ⟨blanks, [], (List.append_nil _).symm, fun c hc => hgap c (List.mem_cons_of_mem _ hc), .nil,
      htrimmed⟩
  have horders : ∀ line, Orders line (String.ofList "jump".toList) id.toList (.ok (.jump id)) := by
    intro line
    have hjump : Orders line "jump" id.toList (.ok (.jump (String.ofList id.toList))) :=
      .jump hidList
    rwa [String.ofList_toList] at hjump ⊢
  refine parse_eq_iff.2 ⟨_, ⟨before.toList, after.toList, ?_, hbefore, hafter, ?_⟩,
    .command hcut hstrips (horders _)⟩
  · simp [String.toList_append, hblanks]
  · have hends := htrimmed.cons_append (c := ':') (by decide) hidList ("jump".toList ++ c :: blanks)
    simpa using hends

/-- A line with the number of a branch, as the menu shows it, takes that branch. -/
theorem parse_number (hbefore : AllBlank before.toList) (hafter : AllBlank after.toList)
    (hle : index + 1 < 2 ^ 64) :
    parse (before ++ toString (index + 1) ++ after) = .ok (.choose index) := by
  have hchars : (toString (index + 1)).toList = Nat.toDigits 10 (index + 1) := by
    rw [Nat.toString_eq_repr, Nat.toList_repr]
  have hblank : ∀ c ∈ Nat.toDigits 10 (index + 1), isBlank c = false :=
    fun c hc => Text.isBlank_of_isDigit (isDigit_of_mem_toDigits hc)
  refine parse_eq_iff.2 ⟨_, ⟨before.toList, after.toList, ?_, hbefore, hafter, ?_⟩,
    .branch (spells_toDigits (index + 1)) hle⟩
  · rw [String.toList_append, String.toList_append, hchars]
  · exact ⟨fun c hc => hblank c (List.mem_of_mem_head? hc),
      fun c hc => hblank c (List.mem_of_getLast? hc)⟩

/-- The number of a branch takes that branch. -/
theorem parse_toString (h : index < greatestNumber) :
    parse (toString (index + 1)) = .ok (.choose index) := by
  have hle : index + 1 < 2 ^ 64 := Nat.add_lt_of_lt_sub h
  have hbare : parse ("" ++ toString (index + 1) ++ "") = .ok (.choose index) :=
    parse_number .nil .nil hle
  rwa [String.empty_append, String.append_empty] at hbare

end

/-! ## The grammar -/

/-- Every line is read as the text between its white space means, which is one answer. So an order
to jump gives the scene just as it was typed, and the decimal text of a number takes the branch with
that number, whatever white space is around them. -/
theorem parse_grammar :
    (∀ line answer, parse line = answer ↔ ∃ text, Strips line.toList text ∧ Means text answer) ∧
    (∀ before gap id after : String, AllBlank before.toList → AllBlank gap.toList →
      AllBlank after.toList → gap ≠ "" → id ≠ "" → IsTrimmed id.toList →
      parse (before ++ ":jump" ++ gap ++ id ++ after) = .ok (.jump id)) ∧
    ∀ (before after : String) (index : Nat), AllBlank before.toList → AllBlank after.toList →
      index < 2 ^ 64 - 1 →
      parse (before ++ toString (index + 1) ++ after) = .ok (.choose index) := by
  refine ⟨fun _ _ => parse_eq_iff, ?_, ?_⟩
  · intro before gap id after hbefore hgap hafter hne hid htrimmed
    exact parse_jump hbefore hgap hafter hne hid htrimmed
  · intro before after index hbefore hafter hlt
    have hle : index + 1 < 2 ^ 64 := Nat.add_lt_of_lt_sub hlt
    exact parse_number hbefore hafter hle

/-- The harbour is jumped to and the second branch taken, each from a line with white space. -/
theorem parse_grammar_harbour :
    parse ("\u3000" ++ ":jump" ++ " \t" ++ "the harbour" ++ "\n") = .ok (.jump "the harbour") ∧
      parse (" " ++ toString (1 + 1) ++ "\n") = .ok (.choose 1) := by
  obtain ⟨-, hjump, hnumber⟩ := parse_grammar
  constructor
  · exact hjump "\u3000" " \t" "the harbour" "\n" (by decide) (by decide) (by decide) (by decide)
      (by decide) (by decide)
  · exact hnumber " " "\n" 1 (by decide) (by decide) (by decide)

end VisualNovel.Prompt

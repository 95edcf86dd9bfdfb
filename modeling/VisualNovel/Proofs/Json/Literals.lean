import VisualNovel.Json.Printer
import VisualNovel.Json.Token

/-!
# Written literals are read back

A character inside a written string is read as a piece that spells it (`Json.Piece.Spells`), be it
escaped or not, so a whole string is read as itself (`Json.scanString_escape`). A number literal
whose parts are made of digits (`Json.Number.IsLiteral`) is read part by part
(`Json.Number.ofChars?_chars`).
-/

namespace VisualNovel.Json

/-! ## Strings -/

/-- A hexadecimal digit is read back. -/
theorem hexDigit?_hexChar : ∀ n < 16, hexDigit? (hexChar n) = some n := by
  decide

/-- Four hexadecimal digits give back the unit. -/
theorem unit?_hexChar {n : Nat} (h : n < 65536) :
    unit? (hexChar (n / 4096 % 16)) (hexChar (n / 256 % 16)) (hexChar (n / 16 % 16))
      (hexChar (n % 16)) = some n := by
  have hdigit (m : Nat) : hexDigit? (hexChar (m % 16)) = some (m % 16) :=
    hexDigit?_hexChar _ (Nat.mod_lt m (by decide))
  simp only [unit?, hdigit, Option.bind_eq_bind, Option.bind_some, Option.some.injEq]
  omega

/-- The piece stands for the character, whatever follows. -/
def Piece.Spells (piece : Piece) (c : Char) : Prop :=
  ∀ pieces, joinPieces (piece :: pieces) = (joinPieces pieces).map (c :: ·)

/-- A character that is a piece by itself spells that character. -/
theorem Piece.spells_char (c : Char) : (Piece.char c).Spells c :=
  fun _ => rfl

/-- A unit that is not half of a surrogate pair stands for a character by itself. -/
theorem Piece.spells_unit {n : Nat} (hhigh : isHighUnit n = false) (hlow : isLowUnit n = false) :
    (Piece.unit n).Spells (Char.ofNat n) := by
  intro pieces
  cases pieces with
  | nil => simp [joinPieces, hhigh, hlow]
  | cons piece pieces => cases piece <;> simp [joinPieces, hhigh, hlow]

/-- Puts a piece in front of what was scanned. -/
def addPiece (piece : Piece) (scanned : List Piece × List Char) : List Piece × List Char :=
  (piece :: scanned.1, scanned.2)

/-- An escaped unit is read as that unit. -/
theorem scanString_unitEscape {n : Nat} (h : n < 65536) (rest : List Char) :
    scanString (unitEscape n ++ rest) = (scanString rest).map (addPiece (.unit n)) := by
  simp only [unitEscape, List.cons_append, List.nil_append, scanString, unit?_hexChar h]
  cases scanString rest <;> rfl

/-- An escape by a letter is scanned as the character that it stands for. -/
theorem scanString_letter {e c : Char} (h : escaped? e = some c) (rest : List Char) :
    scanString ('\\' :: e :: rest) = (scanString rest).map (addPiece (.char c)) := by
  have hunit : e ≠ 'u' := by
    rintro rfl
    cases h
  rw [scanString]
  · simp only [h, Option.bind_eq_bind, Option.bind_some]
    cases scanString rest <;> rfl
  · exact fun _ _ _ _ _ hu _ => hunit hu

/-- A character that needs no escape is scanned as itself. -/
theorem scanString_plain {c : Char} (hquote : c ≠ '"') (hslash : c ≠ '\\') (hcontrol : 0x20 ≤ c.toNat)
    (rest : List Char) : scanString (c :: rest) = (scanString rest).map (addPiece (.char c)) := by
  rw [scanString]
  · simp only [beq_iff_eq, hslash, Nat.not_lt.2 hcontrol, decide_false, Bool.or_false, if_false]
    cases scanString rest <;> rfl
  all_goals simp [hquote, hslash]

/-- A written character is scanned as one piece, which spells it. -/
theorem scanString_escapeChar (c : Char) :
    ∃ piece : Piece, piece.Spells c ∧
      ∀ rest, scanString (escapeChar c ++ rest) = (scanString rest).map (addPiece piece) := by
  unfold escapeChar
  split
  case h_8 hquote hslash _ _ _ _ _ =>
    split
    · next hcontrol =>
      refine ⟨.unit c.toNat, ?_, scanString_unitEscape (by omega)⟩
      have hspells : (Piece.unit c.toNat).Spells (Char.ofNat c.toNat) := by
        apply Piece.spells_unit <;> simp [isHighUnit, isLowUnit] <;> omega
      rwa [Char.ofNat_toNat] at hspells
    · next hplain =>
      exact ⟨.char c, Piece.spells_char c,
        scanString_plain hquote hslash (Nat.not_lt.1 hplain)⟩
  all_goals
    exact ⟨.char _, Piece.spells_char _, scanString_letter rfl⟩

/-- A written text is scanned to its closing quote, and the pieces spell it. -/
theorem scanString_escape (cs rest : List Char) :
    ∃ pieces, joinPieces pieces = some cs ∧
      scanString (cs.flatMap escapeChar ++ '"' :: rest) = some (pieces, rest) := by
  induction cs with
  | nil => exact ⟨[], rfl, by simp [scanString]⟩
  | cons c cs ih =>
    obtain ⟨pieces, hjoin, hscan⟩ := ih
    obtain ⟨piece, hspells, hpiece⟩ := scanString_escapeChar c
    refine ⟨piece :: pieces, ?_, ?_⟩
    · rw [hspells, hjoin, Option.map_some]
    · rw [List.flatMap_cons, List.append_assoc, hpiece, hscan]
      rfl

/-- A written string is one token: its text, or that it has none. -/
theorem next?_writeText (text : Json.Text) (rest : List Char) :
    ∃ body, writeText text ++ rest = '"' :: body ∧
      Token.next? '"' body = some (.string text, rest) := by
  cases text with
  | none =>
    refine ⟨unitEscape 0xD800 ++ '"' :: rest, ?_, ?_⟩
    · simp [writeText]
    · simp only [Token.next?, scanString_unitEscape (n := 0xD800) (by decide)]
      simp [scanString, addPiece, joinPieces, isHighUnit]
  | some text =>
    obtain ⟨pieces, hjoin, hscan⟩ := scanString_escape text.toList rest
    refine ⟨text.toList.flatMap escapeChar ++ '"' :: rest, ?_, ?_⟩
    · simp [writeText]
    · simp [Token.next?, hscan, hjoin]

/-! ## Numbers -/

/-- Characters of a kind are read up to the next one of another kind. -/
theorem span_append {p : Char → Bool} {cs rest : List Char} (hcs : ∀ c ∈ cs, p c = true)
    (hrest : ∀ c ∈ rest.head?, p c = false) :
    (cs ++ rest).takeWhile p = cs ∧ (cs ++ rest).dropWhile p = rest := by
  rw [List.takeWhile_append_of_pos hcs, List.dropWhile_append_of_pos hcs]
  cases rest with
  | nil => simp
  | cons c rest => simp [hrest c rfl]

/-- Digits, at least one, are read up to something else. -/
theorem digits?_append {ds rest : List Char} (hne : ds ≠ []) (hds : ∀ c ∈ ds, c.isDigit = true)
    (hrest : ∀ c ∈ rest.head?, c.isDigit = false) : digits? (ds ++ rest) = some (ds, rest) := by
  obtain ⟨htake, hdrop⟩ := span_append hds hrest
  simp only [digits?, htake, hdrop, List.isEmpty_iff, hne, if_false]

namespace Number

/-- The parts of the literal are digits where there have to be some, and no zero stands in front. -/
structure IsLiteral (n : Number) : Prop where
  whole_ne_nil : n.whole ≠ []
  whole : ∀ c ∈ n.whole, c.isDigit = true
  leading : n.whole.head? = some '0' → n.whole = ['0']
  fraction : ∀ c ∈ n.fraction, c.isDigit = true
  exponent : ∀ e ∈ n.exponent, e.digits ≠ [] ∧ ∀ c ∈ e.digits, c.isDigit = true

/-- The written exponent. -/
def exponentChars (n : Number) : List Char :=
  match n.exponent with
  | none => []
  | some e => ['e', if e.negative then '-' else '+'] ++ e.digits

/-- What is written behind the digits before the point. -/
def tailChars (n : Number) : List Char :=
  (if n.fraction.isEmpty then [] else '.' :: n.fraction) ++ n.exponentChars

/-- A number is written as its sign, its whole part and the rest. -/
theorem chars_eq (n : Number) :
    n.chars = (if n.negative then ['-'] else []) ++ (n.whole ++ n.tailChars) := by
  simp only [chars, tailChars, List.append_assoc]
  rfl

variable {n : Number}

/-- Behind the digits of a part something else follows. -/
theorem head?_exponentChars (n : Number) : ∀ c ∈ n.exponentChars.head?, c.isDigit = false := by
  unfold exponentChars
  split
  · nofun
  · simp

/-- What follows the whole part begins with no digit. -/
theorem head?_tailChars (n : Number) : ∀ c ∈ n.tailChars.head?, c.isDigit = false := by
  unfold tailChars
  split
  · exact n.head?_exponentChars
  · simp

/-- The exponent of a literal is read back. -/
theorem exponent?_digits (h : n.IsLiteral) {e : Exponent} (he : n.exponent = some e) :
    exponent? ((if e.negative then '-' else '+') :: e.digits) = some e := by
  obtain ⟨hne, hds⟩ := h.exponent e he
  have hread : digits? e.digits = some (e.digits, []) := by
    have happend : digits? (e.digits ++ []) = some (e.digits, []) := digits?_append hne hds nofun
    rwa [List.append_nil] at happend
  obtain ⟨negative, digits⟩ := e
  cases negative <;> simp only [exponent?, hread, if_true, if_false, Bool.false_eq_true]

/-- The parts behind the digits before the point are read back. -/
theorem tail?_tailChars (h : n.IsLiteral) : tail? n.tailChars = some (n.fraction, n.exponent) := by
  unfold tailChars
  split
  · next hnil =>
    rw [List.nil_append, List.isEmpty_iff.1 hnil]
    cases he : n.exponent with
    | none => simp [tail?, exponentChars, he]
    | some e => simp [tail?, exponentChars, he, exponent?_digits h he]
  · next hne =>
    have hread := digits?_append (mt List.isEmpty_iff.2 hne) h.fraction n.head?_exponentChars
    cases he : n.exponent with
    | none =>
      simp only [exponentChars, he, List.append_nil] at hread
      simp [tail?, exponentChars, he, hread]
    | some e =>
      simp only [exponentChars, he, List.cons_append, List.nil_append] at hread
      simp [tail?, exponentChars, he, hread, exponent?_digits h he]

/-- A literal is read as itself. -/
theorem ofChars?_chars (h : n.IsLiteral) : ofChars? n.chars = some n := by
  have hread := digits?_append h.whole_ne_nil h.whole n.head?_tailChars
  have hleading := h.leading
  have htail := tail?_tailChars h
  have hsign : ∀ rest, n.whole ++ n.tailChars ≠ '-' :: rest := by
    intro rest heq
    cases hwhole : n.whole with
    | nil => exact h.whole_ne_nil hwhole
    | cons d ds =>
      rw [hwhole] at heq
      cases heq
      have hdigit := h.whole '-' (hwhole ▸ List.mem_cons_self)
      cases hdigit
  rw [chars_eq]
  generalize n.tailChars = tail at *
  obtain ⟨negative, whole, fraction, exponent⟩ := n
  cases negative with
  | true => simpa [ofChars?, hread, htail] using hleading
  | false =>
    rw [if_neg Bool.false_ne_true, List.nil_append, ofChars?]
    · simpa [hread, htail] using hleading
    · exact hsign

/-- All characters of a literal are those of numbers. -/
theorem isNumberChar_of_mem_chars (h : n.IsLiteral) : ∀ c ∈ n.chars, isNumberChar c = true := by
  have hdigit {ds : List Char} (hds : ∀ c ∈ ds, c.isDigit = true) :
      ∀ c ∈ ds, isNumberChar c = true := by
    intro c hc
    simp [isNumberChar, hds c hc]
  rw [chars_eq, tailChars, exponentChars]
  simp only [List.forall_mem_append]
  refine ⟨?_, hdigit h.whole, ?_, ?_⟩
  · split <;> simp [isNumberChar]
  · split
    · nofun
    · exact List.forall_mem_cons.2 ⟨rfl, hdigit h.fraction⟩
  · split
    · nofun
    · next e he =>
      refine List.forall_mem_append.2 ⟨?_, hdigit (h.exponent e he).2⟩
      cases e.negative <;> simp [isNumberChar]

end Number

/-! ### Natural numbers -/

/-- A number other than zero has no leading zero. -/
theorem head?_toDigits {n : Nat} (h : n ≠ 0) : (Nat.toDigits 10 n).head? ≠ some '0' := by
  induction n using Nat.strongRecOn with
  | ind n ih =>
    rcases Nat.lt_or_ge n 10 with hlt | hge
    · simp [Nat.toDigits_of_lt_base hlt, h]
    · have hhigh := ih (n / 10) (Nat.div_lt_self (by omega) (by decide)) (by omega)
      rw [Nat.toDigits_of_base_le (by decide) hge, List.head?_append]
      intro hzero
      rcases Option.or_eq_some_iff.1 hzero with hzero | ⟨hnil, -⟩
      · exact hhigh hzero
      · exact Nat.toDigits_ne_nil (List.head?_eq_none_iff.1 hnil)

/-- The digits of a natural number are a literal. -/
theorem Number.isLiteral_ofNat (n : Nat) : (Number.ofNat n).IsLiteral where
  whole_ne_nil := Nat.toDigits_ne_nil
  whole _ hc := Nat.isDigit_of_mem_toDigits (by decide) (by decide) hc
  leading h := by
    by_cases hzero : n = 0
    · subst hzero
      rfl
    · exact absurd h (head?_toDigits hzero)
  fraction := nofun
  exponent := nofun

/-- A natural number of 64 bits counts as itself. -/
theorem Number.numeric?_ofNat {n : Nat} (h : n < naturalBound) :
    (Number.ofNat n).numeric? = some (.natural n) := by
  simp [numeric?, ofNat, isInteger, Nat.ofDigitChars_ten_toDigits, h]

/-- A literal counts as a natural number only when that has 64 bits. -/
theorem Number.lt_of_numeric? {n : Number} {k : Nat} (h : n.numeric? = some (.natural k)) :
    k < naturalBound := by
  simp only [numeric?] at h
  split at h
  · next hnat =>
    cases h
    simp only [Bool.and_eq_true, decide_eq_true_eq] at hnat
    exact hnat.2
  · split at h
    · cases h
    · obtain ⟨x, -, hx⟩ := Option.map_eq_some_iff.1 h
      cases hx

end VisualNovel.Json

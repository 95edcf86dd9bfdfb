import VisualNovel.Json.Basic

/-!
# JSON tokens

`Token.scan` splits a text into tokens. A string token keeps its pieces' meaning: `\u` escapes
are units of 16 bits, two of which may form one character, and an escape that is half of such a
pair alone gives the string no text.
-/

namespace VisualNovel.Json

/-- A lexical element of a JSON text. -/
inductive Token where
  | openObject
  | closeObject
  | openArray
  | closeArray
  | colon
  | comma
  | null
  | bool (value : Bool)
  | number (literal : Number)
  | string (text : Json.Text)

/-- Whether the character may stand between tokens. -/
def isSpace (c : Char) : Bool :=
  c == ' ' || c == '\n' || c == '\t' || c == '\r'

/-! ## Strings -/

/-- A piece of a string body: a character, or a 16-bit unit given by a `\u` escape. -/
inductive Piece where
  | char (c : Char)
  | unit (n : Nat)

/-- The value of a hexadecimal digit. -/
def hexDigit? (c : Char) : Option Nat :=
  if '0' ≤ c ∧ c ≤ '9' then some (c.toNat - '0'.toNat)
  else if 'a' ≤ c ∧ c ≤ 'f' then some (c.toNat - 'a'.toNat + 10)
  else if 'A' ≤ c ∧ c ≤ 'F' then some (c.toNat - 'A'.toNat + 10)
  else none

/-- The unit given by four hexadecimal digits. -/
def unit? (a b c d : Char) : Option Nat := do
  let a ← hexDigit? a
  let b ← hexDigit? b
  let c ← hexDigit? c
  let d ← hexDigit? d
  some (4096 * a + 256 * b + 16 * c + d)

/-- The character that a one-letter escape stands for. -/
def escaped? (c : Char) : Option Char :=
  match c with
  | '"' => some '"'
  | '\\' => some '\\'
  | '/' => some '/'
  | 'b' => some '\x08'
  | 'f' => some '\x0c'
  | 'n' => some '\n'
  | 'r' => some '\r'
  | 't' => some '\t'
  | _ => none

/-- The pieces up to the closing quote, and what follows it. Controls need an escape. -/
def scanString : List Char → Option (List Piece × List Char)
  | [] => none
  | '"' :: rest => some ([], rest)
  | '\\' :: 'u' :: a :: b :: c :: d :: rest => do
    let n ← unit? a b c d
    let (pieces, rest) ← scanString rest
    some (.unit n :: pieces, rest)
  | '\\' :: e :: rest => do
    let c ← escaped? e
    let (pieces, rest) ← scanString rest
    some (.char c :: pieces, rest)
  | c :: rest =>
    if c == '\\' || c.toNat < 0x20 then none
    else do
      let (pieces, rest) ← scanString rest
      some (.char c :: pieces, rest)

/-- Whether the unit is the first half of a surrogate pair. -/
def isHighUnit (n : Nat) : Bool :=
  0xD800 ≤ n && n ≤ 0xDBFF

/-- Whether the unit is the second half of a surrogate pair. -/
def isLowUnit (n : Nat) : Bool :=
  0xDC00 ≤ n && n ≤ 0xDFFF

/-- The characters that pieces stand for; none when a unit is half of a pair alone. -/
def joinPieces : List Piece → Option (List Char)
  | [] => some []
  | .char c :: pieces => (joinPieces pieces).map (c :: ·)
  | .unit n :: .unit m :: pieces =>
    if isHighUnit n then
      if isLowUnit m then
        (joinPieces pieces).map (Char.ofNat (0x10000 + 0x400 * (n - 0xD800) + (m - 0xDC00)) :: ·)
      else none
    else if isLowUnit n then none
    else (joinPieces (.unit m :: pieces)).map (Char.ofNat n :: ·)
  | .unit n :: pieces =>
    if isHighUnit n || isLowUnit n then none
    else (joinPieces pieces).map (Char.ofNat n :: ·)

/-- A string token's end leaves a shorter text. -/
theorem scanString_length {cs : List Char} {pieces : List Piece} {rest : List Char}
    (h : scanString cs = some (pieces, rest)) : rest.length < cs.length := by
  fun_induction scanString cs generalizing pieces rest with
  | case1 => simp at h
  | case2 => simp at h; simp [h]
  | case3 a b c d r ih =>
    simp only [Option.bind_eq_bind, Option.bind_eq_some_iff] at h
    obtain ⟨n, -, ⟨ps, r'⟩, hr, h⟩ := h
    have := ih hr
    simp at h
    simp [← h.2]
    omega
  | case4 e r _ ih =>
    simp only [Option.bind_eq_bind, Option.bind_eq_some_iff] at h
    obtain ⟨c, -, ⟨ps, r'⟩, hr, h⟩ := h
    have := ih hr
    simp at h
    simp [← h.2]
    omega
  | case5 => simp at h
  | case6 c r _ _ _ _ ih =>
    simp only [Option.bind_eq_bind, Option.bind_eq_some_iff] at h
    obtain ⟨⟨ps, r'⟩, hr, h⟩ := h
    have := ih hr
    simp at h
    simp [← h.2]
    omega

/-! ## The other tokens -/

/-- Whether the character may stand in a number literal. -/
def isNumberChar (c : Char) : Bool :=
  c.isDigit || c == '-' || c == '+' || c == '.' || c == 'e' || c == 'E'

/-- The literal that a word of lower-case letters stands for. -/
def word? (cs : List Char) : Option Token :=
  if cs = ['t', 'r', 'u', 'e'] then some (.bool true)
  else if cs = ['f', 'a', 'l', 's', 'e'] then some (.bool false)
  else if cs = ['n', 'u', 'l', 'l'] then some .null
  else none

/-- The token that starts with the character, and the text after the token. -/
def Token.next? (c : Char) (rest : List Char) : Option (Token × List Char) :=
  match c with
  | '{' => some (.openObject, rest)
  | '}' => some (.closeObject, rest)
  | '[' => some (.openArray, rest)
  | ']' => some (.closeArray, rest)
  | ':' => some (.colon, rest)
  | ',' => some (.comma, rest)
  | '"' => do
    let (pieces, rest) ← scanString rest
    some (.string ((joinPieces pieces).map String.ofList), rest)
  | c =>
    if isNumberChar c then do
      let n ← Number.ofChars? (c :: rest.takeWhile isNumberChar)
      some (.number n, rest.dropWhile isNumberChar)
    else do
      let t ← word? (c :: rest.takeWhile Char.isLower)
      some (t, rest.dropWhile Char.isLower)

/-- What is left by `dropWhile` is no longer than the text. -/
theorem length_dropWhile_le (p : Char → Bool) (cs : List Char) :
    (cs.dropWhile p).length ≤ cs.length :=
  (List.dropWhile_suffix p).length_le

/-- A token leaves a text that is no longer than what followed its first character. -/
theorem Token.next?_length {c : Char} {rest left : List Char} {t : Token}
    (h : Token.next? c rest = some (t, left)) : left.length ≤ rest.length := by
  unfold Token.next? at h
  split at h
  all_goals first
    | (simp at h; simp [h])
    | skip
  · simp only [Option.bind_eq_bind, Option.bind_eq_some_iff] at h
    obtain ⟨⟨ps, r'⟩, hr, h⟩ := h
    simp at h
    have := scanString_length hr
    rw [← h.2]
    omega
  · split at h
    · simp only [Option.bind_eq_bind, Option.bind_eq_some_iff] at h
      obtain ⟨n, -, h⟩ := h
      simp at h
      rw [← h.2]
      exact length_dropWhile_le _ _
    · simp only [Option.bind_eq_bind, Option.bind_eq_some_iff] at h
      obtain ⟨n, -, h⟩ := h
      simp at h
      rw [← h.2]
      exact length_dropWhile_le _ _

/-- What follows the first token of a text is shorter than the text. -/
theorem Token.next?_length_lt {cs rest left : List Char} {c : Char} {t : Token}
    (hcs : cs.dropWhile isSpace = c :: rest) (ht : Token.next? c rest = some (t, left)) :
    left.length < cs.length := by
  have h₁ := length_dropWhile_le isSpace cs
  have h₂ := Token.next?_length ht
  rw [hcs, List.length_cons] at h₁
  omega

/-- The tokens of a text; none when some of it is no token. -/
def Token.scan (cs : List Char) : Option (List Token) :=
  match hcs : cs.dropWhile isSpace with
  | [] => some []
  | c :: rest =>
    match ht : Token.next? c rest with
    | none => none
    | some (t, left) =>
      have : left.length < cs.length := Token.next?_length_lt hcs ht
      (Token.scan left).map (t :: ·)
termination_by cs.length

end VisualNovel.Json

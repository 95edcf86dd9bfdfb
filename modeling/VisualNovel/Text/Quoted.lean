import VisualNovel.Text.Printable

/-!
# Quoted text

`quoted` writes a text between double quotes so that every character of it can be seen: quotes
and backslashes are escaped, common controls have letters, and every other character that is
not printable is given by its scalar value in hexadecimal.
-/

namespace VisualNovel.Text

/-- The spelling of one character inside quotes. -/
def quotedChar (c : Char) : List Char :=
  match c with
  | '"' => ['\\', '"']
  | '\\' => ['\\', '\\']
  | '\t' => ['\\', 't']
  | '\r' => ['\\', 'r']
  | '\n' => ['\\', 'n']
  | '\x00' => ['\\', '0']
  | c =>
    if isPrintable c then [c]
    else ['\\', 'u', '{'] ++ Nat.toDigits 16 c.toNat ++ ['}']

/-- The text between double quotes, with every character visible. -/
def quoted (text : String) : String :=
  String.ofList ('"' :: text.toList.flatMap quotedChar ++ ['"'])

end VisualNovel.Text

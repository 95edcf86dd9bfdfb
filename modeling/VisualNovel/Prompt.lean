import VisualNovel.Text.Blank

/-!
# What the player types

An empty line is a click, a number takes a branch of a choice, and a colon starts a command. White
space around the line and around the argument of a command does not count.
-/

namespace VisualNovel

/-- What a line asks for. -/
inductive Prompt where
  | click
  /-- The branch with the index, counted from zero. -/
  | choose (index : Nat)
  | save
  | load
  | jump (sceneId : String)
  | log
  | restart
  | quit
deriving DecidableEq, Repr

/-- Why a line asks for nothing. -/
inductive PromptError where
  | unknownCommand (line : String)
  | missingArgument (command : String)
  | invalidNumber (line : String)
deriving DecidableEq, Repr

/-- The wording of a prompt error. -/
def PromptError.message : PromptError → String
  | .unknownCommand line => s!"未知命令: {line}"
  | .missingArgument command => s!"命令 :{command} 缺少参数"
  | .invalidNumber line => s!"无效的选项序号: {line}（从 1 开始）"

namespace Prompt

open Text (trim cutAtBlank)

/-- The greatest number that a line may give. -/
def greatestNumber : Nat := 18446744073709551615

/-- The value of decimal digits with an optional plus sign in front. -/
def number? (cs : List Char) : Option Nat :=
  let digits := match cs with
    | '+' :: rest => rest
    | _ => cs
  if !digits.isEmpty && digits.all Char.isDigit then some (Nat.ofDigitChars 10 digits 0) else none

/-- Reads a command, without its colon. -/
def parseCommand (command : List Char) : Except PromptError Prompt :=
  let (name, rest) := cutAtBlank command
  let argument := trim rest
  match String.ofList name with
  | "save" => .ok .save
  | "load" => .ok .load
  | "log" => .ok .log
  | "restart" => .ok .restart
  | "quit" => .ok .quit
  | "q" => .ok .quit
  | "jump" =>
    if argument.isEmpty then .error (.missingArgument "jump")
    else .ok (.jump (String.ofList argument))
  | _ => .error (.unknownCommand (String.ofList (':' :: command)))

/-- Reads the number of a branch, counted from one. -/
def parseNumber (cs : List Char) : Except PromptError Prompt :=
  match number? cs with
  | some (n + 1) =>
    if n + 1 ≤ greatestNumber then .ok (.choose n)
    else .error (.invalidNumber (String.ofList cs))
  | _ => .error (.invalidNumber (String.ofList cs))

/-- Reads a line. -/
def parse (line : String) : Except PromptError Prompt :=
  match trim line.toList with
  | [] => .ok .click
  | ':' :: command => parseCommand command
  | cs => parseNumber cs

end Prompt
end VisualNovel

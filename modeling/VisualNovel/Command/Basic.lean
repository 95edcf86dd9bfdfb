import VisualNovel.Disk.Basic
import VisualNovel.Lint.Analysis
import VisualNovel.Novel.Loading
import VisualNovel.Player
import VisualNovel.Text.Lines

/-!
# Commands

A command ends with an `Outcome`: an exit code and what it wrote. This module has what commands
share, and the command that checks a novel.
-/

namespace VisualNovel

/-- How a command ends. -/
structure Outcome where
  /-- Zero when all went well. -/
  code : UInt32 := 0
  /-- What is written to the standard output. -/
  output : String := ""
  /-- What is written to the standard error output. -/
  complaints : String := ""
deriving DecidableEq, Repr

/-- Why a command cannot go on. -/
inductive CommandError where
  /-- The file of the novel cannot be read. -/
  | novelFile (path : String) (error : FileError)
  | novel (error : LoadError)
  /-- The story cannot start. -/
  | start (error : PlayerError)
  /-- The file with the input cannot be opened. -/
  | inputsFile (path : String) (error : FileError)
  /-- A line of the input cannot be read. -/
  | input (error : FileError)
deriving DecidableEq, Repr

/-- The wording of a command error. -/
def CommandError.message : CommandError → String
  | .novelFile path error => s!"无法读取作品文件 {Text.quoted path}: {error.message}"
  | .novel error => error.message
  | .start error => s!"无法开始播放: {error.message}"
  | .inputsFile path error => s!"无法打开输入文件 {Text.quoted path}: {error.message}"
  | .input error => error.message

/-- The outcome of a command that cannot go on, after what it has written. -/
def CommandError.outcome (error : CommandError) (output : String) : Outcome :=
  { code := 1, output, complaints := Text.line error.message }

/-- Reads a novel to play from a file. -/
def Novel.ofFile (disk : Disk) (path : String) : Except CommandError Novel :=
  match disk.readText path with
  | .error e => .error (.novelFile path e)
  | .ok text => (Novel.load text).mapError .novel

/-! ## Checking -/

namespace Novel

/-- The line that sums up a report. -/
def summary (novel : Novel) (report : Report) : String :=
  s!"{novel.title}: {report.errorCount} 个错误, {report.warnCount} 个警告"

/-- Writes what is wrong with a novel. Errors count as a failure. -/
def check (novel : Novel) : Outcome :=
  let report := novel.analyze
  { code := if report.hasErrors then 1 else 0
    output := Text.lines (report.map (·.toText) ++ [novel.summary report]) }

end Novel

/-- Checks the novel in a file. -/
def Command.runCheck (disk : Disk) (path : String) : Outcome :=
  match Novel.ofFile disk path with
  | .error e => e.outcome ""
  | .ok novel => novel.check

end VisualNovel

/-!
# Diagnostics

A diagnostic tells of something in a novel that its author may want to change. A `Report` is a
list of them in the order in which they were found.
-/

namespace VisualNovel

/-- How much a diagnostic matters. -/
inductive Severity where
  | info
  | warn
  | error
deriving DecidableEq, Repr

namespace Severity

/-- The severities in ascending order. -/
def rank : Severity → Nat
  | info => 0
  | warn => 1
  | error => 2

/-- The wording of a severity. -/
def label : Severity → String
  | info => "INFO"
  | warn => "WARN"
  | error => "ERROR"

end Severity

/-- Something that was found in a novel. -/
structure Diagnostic where
  severity : Severity
  /-- The scene that it concerns, or the novel. -/
  location : String
  /-- The node that it concerns. -/
  nodeId : Option String := none
  message : String
  detail : Option String := none
deriving DecidableEq, Repr

/-- The text of a diagnostic: one line, and one more for the detail. -/
def Diagnostic.toText (diagnostic : Diagnostic) : String :=
  s!"[{diagnostic.severity.label}] " ++ diagnostic.location
    ++ (match diagnostic.nodeId with
      | some nodeId => "#" ++ nodeId
      | none => "")
    ++ ": " ++ diagnostic.message
    ++ (match diagnostic.detail with
      | some detail => "\n  | " ++ detail
      | none => "")

/-- Diagnostics in the order in which they were found. -/
abbrev Report := List Diagnostic

namespace Report

/-- How many diagnostics have the severity. -/
def count (report : Report) (severity : Severity) : Nat :=
  report.countP (·.severity == severity)

/-- How many errors there are. -/
def errorCount (report : Report) : Nat :=
  report.count .error

/-- How many warnings there are. -/
def warnCount (report : Report) : Nat :=
  report.count .warn

/-- Whether there are errors. -/
def hasErrors (report : Report) : Bool :=
  0 < report.errorCount

/-- The diagnostics that matter at least so much. -/
def atLeast (report : Report) (severity : Severity) : Report :=
  report.filter (severity.rank ≤ ·.severity.rank)

end Report
end VisualNovel

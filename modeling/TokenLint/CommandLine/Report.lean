import TokenLint.Diff.Unified
import TokenLint.Output.BoxTable
import TokenLint.Output.Console
import TokenLint.Output.Json
import TokenLint.Run.Batch

/-!
# Reports

What the commands print: for people, in one line a problem, or as JSON.
-/

namespace TokenLint.CommandLine

open Output

/-- The name of a style around a text. -/
def styled (style content : String) : String :=
  "[" ++ style ++ "]" ++ content ++ "[/" ++ style ++ "]"

/-- One line for a problem, with everything about it that fits. -/
def shortLine (path : String) (diagnostic : Diagnostic) : String :=
  plainOutput (path ++ ":" ++ toString diagnostic.position.line ++ ":" ++
    toString diagnostic.position.column ++ ": " ++ diagnostic.severity.label ++ ": " ++
    diagnostic.message ++ " [" ++ diagnostic.code ++ "]") ++ "\n"

/-- The lines for a problem below the path of its file. -/
def diagnosticLines (diagnostic : Diagnostic) : String :=
  let fixable := if diagnostic.fixable then " " ++ styled "muted" "(fixable)" else ""
  let note := match diagnostic.note with
    | some text =>
      if text.isEmpty then "" else consoleLine ("      " ++ styled "muted" (escapeMarkup text))
    | none => ""
  consoleLine ("  " ++ toString diagnostic.position.line ++ ":" ++
    toString diagnostic.position.column ++ "  " ++
    styled diagnostic.severity.label diagnostic.severity.label ++ "  " ++
    escapeMarkup diagnostic.message ++ "  " ++ styled "code" (escapeMarkup diagnostic.code) ++
    fixable) ++ note

/-- The lines about one file. Nothing is said about a file without problems; a quiet report has one
short line for each problem. -/
def fileLines (quiet : Bool) (file : FileResult) : String :=
  let path := styled "path" (escapeMarkup file.path)
  if file.state = .cancelled then
    if quiet then "" else consoleLine (path ++ " " ++ styled "muted" "cancelled")
  else if file.diagnostics.isEmpty then ""
  else if quiet then String.join (file.diagnostics.map (shortLine file.path))
  else consoleLine path ++ String.join (file.diagnostics.map diagnosticLines)

/-- The lines about the problems of all files. -/
def problemLines (quiet : Bool) (result : BatchResult) : String :=
  String.join (result.results.map (fileLines quiet))

/-- The closing line with the counts, which a quiet report leaves out. -/
def summaryLines (quiet : Bool) (result : BatchResult) : String :=
  if quiet then ""
  else
    let fixed :=
      if result.fixedCount = 0 then "" else ", " ++ toString result.fixedCount ++ " fixed"
    consoleLine "" ++ consoleLine (styled (if result.failed then "error" else "fixed")
      (toString result.filesChecked ++ " file(s) checked: " ++ toString result.errorCount ++
        " error(s), " ++ toString result.warningCount ++ " warning(s)" ++ fixed))

/-- The line about a file that was fixed. -/
def fixedLine (file : FileResult) : String :=
  consoleLine (styled "fixed" "Fixed" ++ " " ++ toString file.fixed.length ++ " problem(s) in " ++
    styled "path" (escapeMarkup file.path))

/-- The changes that fixes would make to a file. -/
def changeText (file : FileResult) : String :=
  plainOutput (Diff.unified ("a/" ++ file.path) ("b/" ++ file.path) file.source file.fixedSource)

/-- A problem as JSON. -/
def recordValue (record : BatchRecord) : Value :=
  .table [
    ("file", .text record.file),
    ("line", .int record.diagnostic.position.line),
    ("column", .int record.diagnostic.position.column),
    ("severity", .text record.diagnostic.severity.label),
    ("code", .text record.diagnostic.code),
    ("message", .text record.diagnostic.message)]

/-- The entries of a machine-readable report that both commands make. -/
def resultEntries (result : BatchResult) : Table := [
  ("status", .text result.status),
  ("summary", .table [
    ("files_checked", .int result.filesChecked),
    ("errors", .int result.errorCount),
    ("warnings", .int result.warningCount),
    ("fixed", .int result.fixedCount)]),
  ("diagnostics", .list (result.records.map recordValue))]

/-- The entry that lists the files whose fixed source differs from what was read. -/
def changedEntry (result : BatchResult) : String × Value :=
  ("changed_files", .list (result.changedFiles.map fun file => .text file.path))

/-- What the command that reports prints. -/
def checkReport (json quiet : Bool) (result : BatchResult) : String :=
  if json then Json.document (.table (resultEntries result))
  else problemLines quiet result ++ summaryLines quiet result

/-- What the command that fixes prints: the changes themselves where nothing is to be written, else
a line for each file that changed, and then what a report says. -/
def fixReport (json dryRun quiet : Bool) (result : BatchResult) : String :=
  if json then Json.document (.table (resultEntries result ++ [changedEntry result]))
  else
    let changes :=
      if dryRun then result.changedFiles.map changeText
      else if quiet then []
      else result.changedFiles.map fixedLine
    String.join changes ++ problemLines quiet result ++ summaryLines quiet result

/-- A rule in a machine-readable list. -/
def ruleValue (rule : Rule) : Value :=
  .table [
    ("id", .text rule.id),
    ("category", .text rule.category),
    ("description", .text rule.description)]

/-- What the command that lists the rules prints. -/
def rulesReport (json quiet : Bool) (rules : List Rule) : String :=
  if json then Json.document (.table [("rules", .list (rules.map ruleValue))])
  else if quiet then String.join (rules.map fun rule => rule.id ++ "\n")
  else
    renderTable "Available Rules" ["Rule", "Category", "Description"]
      (rules.map fun rule => [rule.id, rule.category, rule.description])

end TokenLint.CommandLine

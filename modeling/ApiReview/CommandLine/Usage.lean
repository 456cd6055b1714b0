import ApiReview.CommandLine.Option
import ApiReview.Lint.Severity

/-!
Command lines that cannot be understood.
-/
namespace ApiReview.CommandLine

inductive UsageError where
  | missingFile
  | unknownArgument (shown : String)
  | missingValue (s : Slot)
  | unknownFormat (text : String)
  | unknownSeverity (text : String)
  | repeated (n : Named)
  | unneededValue (s : Switch) (text : String)
  deriving DecidableEq

namespace UsageError

def quoted (s : String) : String := "'" ++ s ++ "'"

def message : UsageError → String
  | missingFile => "the following required arguments were not provided:\n  " ++ Slot.file.shown
  | unknownArgument shown => "unexpected argument " ++ quoted shown ++ " found"
  | missingValue s => "a value is required for " ++ quoted s.shown ++ " but none was supplied"
  | unknownFormat text =>
    "invalid value " ++ quoted text ++ " for " ++ quoted Slot.format.shown
  | unknownSeverity text =>
    "invalid value " ++ quoted text ++ " for " ++ quoted Slot.failOn.shown ++ ": " ++
      Severity.unknownMessage text
  | repeated n => "the argument " ++ quoted n.shown ++ " cannot be used multiple times"
  | unneededValue s text =>
    "unexpected value " ++ quoted text ++ " for " ++ quoted s.shown ++
      " found; no more were expected"

end UsageError
end ApiReview.CommandLine

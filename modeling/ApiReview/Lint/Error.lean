import ApiReview.Config.Reader
import ApiReview.Document.Reader
import ApiReview.Files.Error

/-!
Why a run does not come to a report.
-/
namespace ApiReview

inductive LintError where
  | malformedDocument (e : DocumentError)
  /-- A configuration that cannot be read, and the path it has in messages. -/
  | unreadableConfig (path : String) (e : Yaml.Error)
  | unknownRule (id : String)
  | configNotFound (path : String)
  /-- A configuration file that is there and cannot be read. -/
  | configFile (e : FileError)
  | documentFile (path : String) (e : FileError)

def LintError.message : LintError → String
  | malformedDocument e => "Malformed document: " ++ e.message
  | unreadableConfig path e => "Invalid configuration: " ++ path ++ ": " ++ e.message
  | unknownRule id => "Invalid configuration: unknown rule '" ++ id ++ "'"
  | configNotFound path => "Configuration not found: " ++ path
  | configFile e => "IO error: " ++ e.message
  | documentFile path e => "IO error: " ++ path ++ ": " ++ e.message

/-- Reads settings that have a path in messages. -/
def Config.read (path text : String) : Except LintError Config :=
  (Config.ofText text).mapError (.unreadableConfig path)

end ApiReview

import ApiReview.CommandLine.Run

/-!
The program. It has no way to reach a server, so descriptions are held against the bundled
schemas.
-/
namespace ApiReview.CommandLine

def helpText : String :=
  "Check API specifications against design conventions

Usage: apilint [OPTIONS] <FILE>

Arguments:
  <FILE>  Specification document (YAML or JSON)

Options:
  -c, --config <CONFIG>    Path to a lint configuration file
      --format <FORMAT>    Output format [default: human] [possible values: human, json]
      --fail-on <FAIL_ON>  Exit non-zero when a violation reaches this severity: must, should, may, hint [default: must]
      --no-color           Disable colored output
      --debug              Enable debug logging
  -h, --help               Print help
  -V, --version            Print version
"

def versionText : String := "apilint 0.1.0\n"

def fileError : IO.Error → FileError
  | .noFileOrDirectory .. => .notFound
  | .inappropriateType _ 21 _ => .isDirectory
  | .inappropriateType .. => .notDirectory
  | e => .other (toString e)

def readFile (path : String) : IO (Except FileError ByteArray) := do
  try
    return .ok (← IO.FS.readBinFile path)
  catch e =>
    return .error (fileError e)

/-- The exit code of a request. A report goes to the output, all else that is said of a failed
run to the errors. -/
def execute : Request → IO UInt32
  | .help => do
    IO.print helpText
    return 0
  | .version => do
    IO.print versionText
    return 0
  | .lint a => do
    let isTerminal ← (← IO.getStdout).isTty
    let outcome ← a.run readFile (fun _ => .unreachable) (isTerminal && !a.noColor)
    IO.print outcome.output
    if let .failed e := outcome then IO.eprintln ("Error: " ++ e.message)
    return outcome.exitCode.toUInt32

end ApiReview.CommandLine

def main (arguments : List String) : IO UInt32 :=
  match ApiReview.CommandLine.Request.ofArguments arguments with
  | .ok request => ApiReview.CommandLine.execute request
  | .error e => do
    IO.eprintln ("error: " ++ e.message ++ "\n\nFor more information, try '--help'.")
    return 2

/-!
What can stand on the command line: a file, options with a value, and switches.
-/
namespace ApiReview.CommandLine

/-- What takes a value. -/
inductive Slot where
  | file
  | config
  | format
  | failOn
  deriving DecidableEq

def Slot.shown : Slot → String
  | .file => "<FILE>"
  | .config => "--config <CONFIG>"
  | .format => "--format <FORMAT>"
  | .failOn => "--fail-on <FAIL_ON>"

inductive Switch where
  | noColor
  | debug
  | help
  | version
  deriving DecidableEq

def Switch.shown : Switch → String
  | .noColor => "--no-color"
  | .debug => "--debug"
  | .help => "--help"
  | .version => "--version"

/-- What an argument can name. -/
inductive Named where
  | slot (s : Slot)
  | switch (s : Switch)
  deriving DecidableEq

namespace Named

def shown : Named → String
  | .slot s => s.shown
  | .switch s => s.shown

/-- Names are written in full. -/
def ofLong? : String → Option Named
  | "config" => some (.slot .config)
  | "format" => some (.slot .format)
  | "fail-on" => some (.slot .failOn)
  | "no-color" => some (.switch .noColor)
  | "debug" => some (.switch .debug)
  | "help" => some (.switch .help)
  | "version" => some (.switch .version)
  | _ => none

def ofShort? : Char → Option Named
  | 'c' => some (.slot .config)
  | 'h' => some (.switch .help)
  | 'V' => some (.switch .version)
  | _ => none

end Named

/-- What a single argument is, as far as that does not hang on the ones before it. -/
inductive Word where
  /-- The two dashes after which every argument is a file. -/
  | dashes
  /-- A named option, and the value that is written into the same argument. -/
  | named (n : Named) (value : Option String)
  | unknown (shown : String)
  | plain (text : String)

namespace Word

/-- A name and, after an equals sign, a value. -/
def ofLong (cs : List Char) : Word :=
  let (name, rest) := cs.span (· ≠ '=')
  let name := String.ofList name
  let value := match rest with
    | [] => none
    | _ :: value => some (String.ofList value)
  match Named.ofLong? name with
  | some n => .named n value
  | none => .unknown ("--" ++ name)

/-- A letter and, for a slot, a value that follows at once or after an equals sign. -/
def ofShort (c : Char) (rest : List Char) : Word :=
  match Named.ofShort? c with
  | some (.slot s) =>
    .named (.slot s) (match rest with
      | [] => none
      | '=' :: value => some (String.ofList value)
      | value => some (String.ofList value))
  | some (.switch s) => .named (.switch s) none
  | none => .unknown (String.ofList ['-', c])

def ofText (text : String) : Word :=
  match text.toList with
  | ['-', '-'] => .dashes
  | '-' :: '-' :: name => ofLong name
  | '-' :: c :: rest => ofShort c rest
  | _ => .plain text

end Word
end ApiReview.CommandLine

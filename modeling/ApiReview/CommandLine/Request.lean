import ApiReview.CommandLine.Usage

/-!
What a command line asks for. A value in an argument of its own is looked at only when the next
slot or switch is met or the arguments end; one in the same argument as its option at once. So
an argument that nothing knows is found before a bad value in front of it.
-/
namespace ApiReview.CommandLine

/-- The forms of a report. -/
inductive Format where
  | human
  | json
  deriving DecidableEq

def Format.ofName? : String → Option Format
  | "human" => some .human
  | "json" => some .json
  | _ => none

structure Arguments where
  file : String
  config : Option String := none
  format : Format := .human
  /-- A violation of this severity or a graver one makes the run fail. -/
  failOn : Severity := .must
  noColor : Bool := false
  debug : Bool := false
  deriving DecidableEq

inductive Request where
  | lint (a : Arguments)
  | help
  | version
  deriving DecidableEq

/-- Arguments as far as they have been read. -/
structure Draft where
  file : Option String := none
  config : Option String := none
  format : Option Format := none
  failOn : Option Severity := none
  noColor : Bool := false
  debug : Bool := false
  /-- A slot that has been met, and its value if that was met too. -/
  pending : Option (Slot × Option String) := none
  deriving DecidableEq

namespace Draft

def isSet (d : Draft) : Slot → Bool
  | .file => d.file.isSome
  | .config => d.config.isSome
  | .format => d.format.isSome
  | .failOn => d.failOn.isSome

/-- Puts a value into a slot that has none. Only a severity may be empty, and then it is unknown. -/
def put (d : Draft) (s : Slot) (text : String) : Except UsageError Draft :=
  if d.isSet s then .error (.repeated (.slot s))
  else if text = "" && s ≠ .failOn then .error (.missingValue s)
  else
    match s with
    | .file => .ok { d with file := some text }
    | .config => .ok { d with config := some text }
    | .format =>
      match Format.ofName? text with
      | some f => .ok { d with format := some f }
      | none => .error (.unknownFormat text)
    | .failOn =>
      match Severity.parse? text with
      | some severity => .ok { d with failOn := some severity }
      | none => .error (.unknownSeverity text)

/-- Puts the value that is pending into its slot. -/
def settle (d : Draft) : Except UsageError Draft :=
  match d.pending with
  | none => .ok d
  | some (s, none) => .error (.missingValue s)
  | some (s, some text) => { d with pending := none }.put s text

/-- Meets a slot, with or without a value in the same argument. -/
def meet (d : Draft) (s : Slot) (value : Option String) : Except UsageError Draft := do
  let d ← d.settle
  match value with
  | some text => d.put s text
  | none => .ok { d with pending := some (s, none) }

/-- There is one file at most. -/
def hasFile (d : Draft) : Bool := d.file.isSome || d.pending.any (·.1 = .file)

/-- Meets an argument that is no option. -/
def plain (d : Draft) (text : String) : Except UsageError Draft :=
  if d.hasFile then .error (.unknownArgument text)
  else do
    let d ← d.settle
    .ok { d with pending := some (.file, some text) }

/-- Meets an argument that is the value of a slot if one waits for it. -/
def plainOrValue (d : Draft) (text : String) : Except UsageError Draft :=
  match d.pending with
  | some (s, none) => .ok { d with pending := some (s, some text) }
  | _ => d.plain text

def setNoColor (d : Draft) : Except UsageError Draft :=
  if d.noColor then .error (.repeated (.switch .noColor)) else .ok { d with noColor := true }

def setDebug (d : Draft) : Except UsageError Draft :=
  if d.debug then .error (.repeated (.switch .debug)) else .ok { d with debug := true }

/-- What is asked for when the arguments end. -/
def request (d : Draft) : Except UsageError Request := do
  let d ← d.settle
  match d.file with
  | none => .error .missingFile
  | some file =>
    let defaults : Arguments := { file }
    .ok (.lint { defaults with
      config := d.config
      format := d.format.getD defaults.format
      failOn := d.failOn.getD defaults.failOn
      noColor := d.noColor
      debug := d.debug })

/-- Reads arguments of which none is an option. -/
def readFiles (d : Draft) : List String → Except UsageError Request
  | [] => d.request
  | text :: rest => do (← d.plain text).readFiles rest

/-- Reads the rest of the arguments. Help and version are given as soon as they are met. -/
def read (d : Draft) : List String → Except UsageError Request
  | [] => d.request
  | text :: rest =>
    match Word.ofText text with
    | .dashes => d.readFiles rest
    | .unknown shown => .error (.unknownArgument shown)
    | .plain text => do (← d.plainOrValue text).read rest
    | .named (.slot s) value => do (← d.meet s value).read rest
    | .named (.switch s) (some value) => .error (.unneededValue s value)
    | .named (.switch s) none => do
      let d ← d.settle
      match s with
      | .help => .ok .help
      | .version => .ok .version
      | .noColor => (← d.setNoColor).read rest
      | .debug => (← d.setDebug).read rest

end Draft

def Request.ofArguments (l : List String) : Except UsageError Request := ({} : Draft).read l

end ApiReview.CommandLine

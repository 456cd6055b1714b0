import ApiReview.Files.Error

/-!
Files held in memory, and how a path leads to one of them.
-/
namespace ApiReview.Files

inductive Entry where
  | directory
  | file (bytes : ByteArray)

/-- The names that lead from a folder to a place. The name `..` in front leads out of the
folder, and the name `/` to the top of all folders. -/
abbrev Place := List String

/-- The folder holds these entries and the directories on the way to them. Outside of it
nothing is known but that the directories around it are there. -/
structure Folder where
  entries : List (Place × Entry)

/-- A directory outside of the folder. -/
def isAround (p : Place) : Bool := p = ["/"] || p.all (· = "..")

def Folder.entry? (f : Folder) (p : Place) : Option Entry :=
  match f.entries.lookup p with
  | some e => some e
  | none =>
    if isAround p || f.entries.any fun (q, _) => p.isPrefixOf q then some .directory else none

/-- The directory that holds a place. -/
def parent (p : Place) : Place :=
  match p.getLast? with
  | none | some ".." => p ++ [".."]
  | some "/" => p
  | some _ => p.dropLast

/-- The most bytes of a name, and of a path. -/
def maxNameSize : Nat := 255
def maxPathSize : Nat := 4095

/-- Follows names one after the other, each of them from a directory. -/
def Folder.walk (f : Folder) : Place → List String → Except FileError Place
  | p, [] => .ok p
  | p, name :: rest =>
    match f.entry? p with
    | none => .error .notFound
    | some (.file _) => .error .notDirectory
    | some .directory =>
      if name = "" || name = "." then f.walk p rest
      else if name = ".." then f.walk (parent p) rest
      else if maxNameSize < name.utf8ByteSize then .error .nameTooLong
      else f.walk (p ++ [name]) rest

/-- The names in a path, which slashes divide. -/
def names (path : String) : List String := (path.toList.splitOn '/').map String.ofList

/-- The place inside the folder that a plain path names. -/
def placeOf (path : String) : Place := (names path).filter fun name => name ≠ "" && name ≠ "."

def start (path : String) : Place := if path.startsWith "/" then ["/"] else []

/-- The bytes of the file that a path leads to. -/
def Folder.read (f : Folder) (path : String) : Except FileError ByteArray :=
  if path.toList.contains '\x00' then .error .nulInPath
  else if maxPathSize < path.utf8ByteSize then .error .nameTooLong
  else
    match f.walk (start path) (names path) with
    | .error e => .error e
    | .ok p =>
      match f.entry? p with
      | none => .error .notFound
      | some .directory => .error .isDirectory
      | some (.file bytes) => .ok bytes

end ApiReview.Files

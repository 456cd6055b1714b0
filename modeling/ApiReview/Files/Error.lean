/-!
Why a file cannot be read as text.
-/
namespace ApiReview

inductive FileError where
  | notFound
  | isDirectory
  | notDirectory
  | nameTooLong
  /-- A path with a NUL character, which leads to no file. -/
  | nulInPath
  /-- Bytes that are not UTF-8. -/
  | notText
  | other (text : String)
  deriving DecidableEq

def FileError.message : FileError → String
  | .notFound => "No such file or directory (os error 2)"
  | .isDirectory => "Is a directory (os error 21)"
  | .notDirectory => "Not a directory (os error 20)"
  | .nameTooLong => "File name too long (os error 36)"
  | .nulInPath => "file name contained an unexpected NUL byte"
  | .notText => "stream did not contain valid UTF-8"
  | .other text => text

namespace Files

/-- What a file says, if it could be read and is text. -/
def decode (content : Except FileError ByteArray) : Except FileError String :=
  match content with
  | .error e => .error e
  | .ok bytes =>
    match String.fromUTF8? bytes with
    | some text => .ok text
    | none => .error .notText

end Files
end ApiReview

/-
FrontEnd/Files/Basic.lean

Reading files, seen from the reader: a path gives text or a reason why not.
-/

namespace FrontEnd

/-- Why a file cannot be read as text. -/
inductive ReadFailure
  | notFound
  | permissionDenied
  /-- The bytes are no UTF-8. -/
  | invalidUtf8
  /-- Any other reason, in the words of the system. -/
  | other (reason : String)
deriving DecidableEq, Repr

namespace ReadFailure

/-- A directory is no file. -/
def isDirectory : ReadFailure := .other "Is a directory (os error 21)"

/-- A file on the way to another one. -/
def notDirectory : ReadFailure := .other "Not a directory (os error 20)"

/-- A name or a path that no file can have. -/
def nameTooLong : ReadFailure := .other "File name too long (os error 36)"

/-- A NUL character ends a path for the system. -/
def nulInPath : ReadFailure := .other "file name contained an unexpected NUL byte"

end ReadFailure

/-- The files that a program can read. -/
structure Files where
  read : String → Except ReadFailure String

/-- No files at all. -/
def Files.none : Files := ⟨fun _ => .error .notFound⟩

end FrontEnd

/-
FrontEnd/Diagnostic/Code.lean

How problems are classified.  A catalogued problem has a code, its code belongs
to one phase of compilation, and the phase fixes the category; a problem without
a code names its category itself.
-/
import FrontEnd.Text.Trim

namespace FrontEnd

/-- The phase of compilation that finds a catalogued problem. -/
inductive Phase
  | lexical
  | syntactic
  | semantic
deriving DecidableEq, Repr

/-- The phase as report headers show it. -/
def Phase.label : Phase → String
  | .lexical => "Lexical"
  | .syntactic => "Syntax"
  | .semantic => "Semantic"

/-- What kind of problem a diagnostic describes. -/
inductive Category
  | lexical
  | syntactic
  | semantic
  | typing
  | warning
  | info
deriving DecidableEq, Repr

namespace Category

/-- Every category. -/
def all : List Category := [.lexical, .syntactic, .semantic, .typing, .warning, .info]

/-- The category as reports show it. -/
def label : Category → String
  | .lexical => "LEXICAL"
  | .syntactic => "SYNTAX"
  | .semantic => "SEMANTIC"
  | .typing => "TYPE"
  | .warning => "WARNING"
  | .info => "INFO"

/-- Whether a problem of this kind stops compilation; warnings and infos never do. -/
def isError : Category → Bool
  | .lexical | .syntactic | .semantic | .typing => true
  | .warning | .info => false

end Category

/-- The category of the problems that a phase finds. -/
def Phase.category : Phase → Category
  | .lexical => .lexical
  | .syntactic => .syntactic
  | .semantic => .semantic

/-- The catalogue of coded problems.  The first digit of a code tells its phase. -/
inductive Code
  /-- A character that cannot stand in a source text. -/
  | e001
  /-- A string literal without its closing quote. -/
  | e002
  /-- An unknown escape in a string or character literal. -/
  | e003
  /-- A character literal that is empty or never closed. -/
  | e004
  /-- A block comment that is never closed. -/
  | e005
  /-- A number directly followed by letters. -/
  | e101
  /-- A statement without its semicolon. -/
  | e102
  /-- A character literal with more than one character. -/
  | e103
  /-- A name where a type is expected. -/
  | e201
deriving DecidableEq, Repr

namespace Code

/-- Every code, in catalogue order. -/
def all : List Code := [.e001, .e002, .e003, .e004, .e005, .e101, .e102, .e103, .e201]

/-- The code as it is written. -/
def label : Code → String
  | .e001 => "E001"
  | .e002 => "E002"
  | .e003 => "E003"
  | .e004 => "E004"
  | .e005 => "E005"
  | .e101 => "E101"
  | .e102 => "E102"
  | .e103 => "E103"
  | .e201 => "E201"

/-- The name shown beside the code. -/
def name : Code → String
  | .e001 | .e003 | .e004 => "InvalidCharacter"
  | .e002 => "UnterminatedStringLiteral"
  | .e005 => "UnterminatedBlockComment"
  | .e101 => "InvalidNumber"
  | .e102 => "MissingStatementTerminator"
  | .e103 => "MultiCharacterOfTypeCharacter"
  | .e201 => "UnknownTypeIdentifier"

/-- The phase that finds the problem. -/
def phase : Code → Phase
  | .e001 | .e002 | .e003 | .e004 | .e005 => .lexical
  | .e101 | .e102 | .e103 => .syntactic
  | .e201 => .semantic

/-- The code that a text names.  Blanks around it and the case of its letter do not matter. -/
def parse? (text : String) : Option Code :=
  let wanted := upperAscii (trimBlanks text)
  all.find? (·.label == wanted)

end Code

end FrontEnd

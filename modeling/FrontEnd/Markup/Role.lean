/-
FrontEnd/Markup/Role.lean

What a piece of a report is there for.  A role decides the colour; the four plain
colours belong to categories.
-/
import FrontEnd.Diagnostic.Code

namespace FrontEnd

/-- What a piece of text does in a report. -/
inductive Role
  /-- Source text and other content. -/
  | neutral
  /-- Brackets, headings, line numbers. -/
  | framing
  /-- Bars and colons between columns. -/
  | separator
  /-- The name of an error, and its carets. -/
  | error
  /-- What belongs to an error but should not stand out. -/
  | errorDim
  /-- How to mend it. -/
  | help
  /-- The text of a sample. -/
  | helpAccent
  | red
  | yellow
  | magenta
  | cyan
deriving DecidableEq, Repr

namespace Role

/-- Every role. -/
def all : List Role :=
  [.neutral, .framing, .separator, .error, .errorDim, .help, .helpAccent, .red, .yellow,
   .magenta, .cyan]

/-- The name of the role in a marked-up report. -/
def name : Role → String
  | .neutral => "neutral"
  | .framing => "structure"
  | .separator => "separator"
  | .error => "error"
  | .errorDim => "error_dim"
  | .help => "help"
  | .helpAccent => "help_accent"
  | .red => "red"
  | .yellow => "yellow"
  | .magenta => "magenta"
  | .cyan => "cyan"

/-- The parameters of the terminal sequence that switches the colour on. -/
def colour : Role → String
  | .neutral => "38;2;220;220;220"
  | .framing => "38;2;150;150;150"
  | .separator => "38;2;100;100;100"
  | .error => "38;2;220;50;47"
  | .errorDim => "38;2;180;80;77"
  | .help => "38;2;100;150;200"
  | .helpAccent => "38;2;120;180;220"
  | .red => "1;31"
  | .yellow => "1;33"
  | .magenta => "1;35"
  | .cyan => "1;36"

end Role

/-- The colour that stands for a category. -/
def Category.role : Category → Role
  | .lexical => .red
  | .syntactic | .warning => .yellow
  | .semantic => .magenta
  | .typing | .info => .cyan

end FrontEnd

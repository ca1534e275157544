/-
FrontEnd/Diagnostic/Location.lean

Where a problem is.  A location is the point under which the first caret is
drawn; its column counts from zero.  A span is a stretch of text; its columns
count from one and both ends belong to it.
-/
import FrontEnd.Source.Position

namespace FrontEnd

/-- The largest line or column number that a location or span holds. -/
def maxColumn : Nat := 4294967295

/-- A file as messages name it: a text without a file is the input. -/
def fileLabel (file : String) : String := if file.isEmpty then "<input>" else file

/-- A point in a file. -/
structure Location where
  file : String
  /-- Counts from one. -/
  line : Nat
  /-- Counts from zero. -/
  column : Nat
deriving DecidableEq, Repr

namespace Location

/-- The point of a position in a file. -/
def ofPosition (file : String) (p : Position) : Location := ⟨file, p.line, p.column⟩

/-- The location as messages show it. -/
def label (place : Location) : String :=
  s!"{fileLabel place.file}:{place.line}:{place.column}"

end Location

/-- A stretch of text in a file. -/
structure Span where
  file : String
  startLine : Nat
  startColumn : Nat
  endLine : Nat
  endColumn : Nat
deriving DecidableEq, Repr

namespace Span

/-- The span of one character. -/
def point (file : String) (line column : Nat) : Span := ⟨file, line, column, line, column⟩

/-- Whether the span starts and ends on one line. -/
def isSingleLine (span : Span) : Bool := span.startLine == span.endLine

/-- The location of the first character. -/
def startLocation (span : Span) : Location := ⟨span.file, span.startLine, span.startColumn - 1⟩

/-- The number of characters of a span on one line, and one for any other span. -/
def width (span : Span) : Nat :=
  if span.isSingleLine && span.startColumn ≤ span.endColumn then
    span.endColumn - span.startColumn + 1
  else 1

/-- The span as messages show it: by its first character. -/
def label (span : Span) : String :=
  s!"{fileLabel span.file}:{span.startLine}:{span.startColumn}"

end Span

end FrontEnd

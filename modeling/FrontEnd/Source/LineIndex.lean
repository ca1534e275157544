/-
FrontEnd/Source/LineIndex.lean

The lines of a source text by number, and the window of lines that a report shows
around an error.  A text has at least one line, so a window is never empty.
-/
import FrontEnd.Text.Lines

namespace FrontEnd

/-- The lines of a source text, in order. -/
structure LineIndex where
  lines : List String
deriving DecidableEq, Repr

namespace LineIndex

/-- The index of a text: its pieces between newlines, carriage returns included. -/
def ofText (text : String) : LineIndex := ⟨(splitLines text.toList).map String.ofList⟩

/-- The number of lines. -/
def count (index : LineIndex) : Nat := index.lines.length

/-- The line with number `n`; lines count from one. -/
def line? (index : LineIndex) : Nat → Option String
  | 0 => none
  | n + 1 => index.lines[n]?

/-- The line number nearest to `n` that the text has. -/
def clamp (index : LineIndex) (n : Nat) : Nat := min (max n 1) index.count

/-- The line `n`, last, behind up to `before` lines that precede it. -/
def window (index : LineIndex) (n before : Nat) : List String :=
  let last := index.clamp n
  (index.lines.take last).drop (last - (before + 1))

/-! ### A text has a line -/

theorem count_ofText_pos (text : String) : 0 < (ofText text).count := by
  have h := List.length_pos_iff.2 (splitAtEach_ne_nil '\n' text.toList)
  simpa [count, ofText, splitLines] using h

end LineIndex

end FrontEnd

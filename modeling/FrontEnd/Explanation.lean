/-
FrontEnd/Explanation.lean

The longer explanations of the catalogued problems.  Each has the same parts, and
`Explanation.markdown` writes the parts as a Markdown page.
-/
import FrontEnd.Diagnostic.Code

namespace FrontEnd

/-- The explanation of a catalogued problem.  Texts are given by lines. -/
structure Explanation where
  code : Code
  title : String
  /-- What the problem is. -/
  summary : List String
  /-- A program that has it. -/
  faulty : List String
  /-- Why it is a problem. -/
  background : List String
  /-- What to do about it. -/
  remedy : List String
  /-- The program without it. -/
  mended : List String
deriving DecidableEq, Repr

namespace Explanation

/-! ### The page -/

/-- A program in a Markdown page. -/
def codeBlock (program : List String) : List String := ["```klang"] ++ program ++ ["```"]

/-- The lines of the page. -/
def pageLines (e : Explanation) : List String :=
  [s!"# {e.code.label}: {e.title}", ""] ++ e.summary ++
    ["", "## Example", ""] ++ codeBlock e.faulty ++
    ["", "## Explanation", ""] ++ e.background ++
    ["", "## Solution", ""] ++ e.remedy ++ [""] ++ codeBlock e.mended

/-- The page, each line ended by a newline. -/
def markdown (e : Explanation) : String := String.join (e.pageLines.map (· ++ "\n"))

/-! ### The texts -/

/-- The explanation of E001. -/
def e001 : Explanation where
  code := .e001
  title := "Invalid Character"
  summary := [
    "A character appeared that cannot start any token."]
  faulty := [
    "integer total = a & b;",
    "integer price = 10 # 2;"]
  background := [
    "Klang has no bitwise operators, so a lone `&` or `|` (or a run of three or",
    "more) is rejected. Characters outside the language's punctuation set, such",
    "as `#` or a backtick, are rejected as well. Identifiers may start with `$`, but",
    "a `$` must be followed by a letter or `_`."]
  remedy := [
    "Use the logical operators `&&` and `||`, remove the stray character, or",
    "rename the identifier:"]
  mended := [
    "boolean both = a && b;",
    "integer $count = 0;"]

/-- The explanation of E002. -/
def e002 : Explanation where
  code := .e002
  title := "Unterminated String Literal"
  summary := [
    "A string literal was opened with `\"` but never closed."]
  faulty := [
    "String name = \"Klang;"]
  background := [
    "String literals must begin and end on the same line. A raw line break",
    "inside a string, a backslash at the very end of the file, or reaching the",
    "end of the file before the closing quote all produce this error. The",
    "caret points at the opening quote."]
  remedy := [
    "Close the string, and write line breaks as the `\\n` escape:"]
  mended := [
    "String name = \"Klang\";",
    "String lines = \"first\\nsecond\";"]

/-- The explanation of E003. -/
def e003 : Explanation where
  code := .e003
  title := "Invalid Escape Sequence"
  summary := [
    "A backslash in a string or character literal was followed by a character",
    "that is not a recognized escape."]
  faulty := [
    "String path = \"C:\\temp\\data\";",
    "character c = '\\q';"]
  background := [
    "Only four escapes are supported: `\\n` (newline), `\\t` (tab), `\\\"` (double",
    "quote) and `\\\\` (backslash)."]
  remedy := [
    "Escape the backslash itself, or use one of the supported sequences:"]
  mended := [
    "String path = \"C:\\\\temp\\\\data\";",
    "character c = '\\t';"]

/-- The explanation of E004. -/
def e004 : Explanation where
  code := .e004
  title := "Invalid Character Literal"
  summary := [
    "A character literal was empty or never closed."]
  faulty := [
    "character empty = '';",
    "character open = 'a"]
  background := [
    "A character literal holds exactly one character (or one escape) between",
    "single quotes. An empty literal `''` and a literal that runs into the end",
    "of the line or file without a closing `'` are both rejected."]
  remedy := [
    "Put exactly one character between the quotes:"]
  mended := [
    "character letter = 'a';",
    "character newline = '\\n';"]

/-- The explanation of E005. -/
def e005 : Explanation where
  code := .e005
  title := "Unterminated Block Comment"
  summary := [
    "A block comment was opened with `/*` but the file ended before `*/`."]
  faulty := [
    "/* compute the total",
    "integer total = 0;"]
  background := [
    "Everything after an unclosed `/*` would silently be treated as comment",
    "text, hiding the rest of the program. The caret points at the `/*` that",
    "was never closed. Block comments do not nest."]
  remedy := [
    "Close the comment with `*/`:"]
  mended := [
    "/* compute the total */",
    "integer total = 0;"]

/-- The explanation of E101. -/
def e101 : Explanation where
  code := .e101
  title := "Invalid Number"
  summary := [
    "A numeric literal was immediately followed by letters."]
  faulty := [
    "integer count = 123abc;",
    "double rate = 1.5x;"]
  background := [
    "Klang numbers are a run of digits with an optional fractional part",
    "(`3.14`). There are no numeric suffixes, and identifiers cannot start with",
    "a digit. The caret points at the trailing letters."]
  remedy := [
    "Separate the number from the name, or rename the identifier so it starts",
    "with a letter:"]
  mended := [
    "integer count = 123;",
    "integer abc123 = 0;"]

/-- The explanation of E102. -/
def e102 : Explanation where
  code := .e102
  title := "Missing Statement Terminator"
  summary := [
    "A statement was not terminated by `;`."]
  faulty := [
    "integer x = 10",
    "integer y = 20;"]
  background := [
    "Every statement in Klang ends with a semicolon. Line breaks do not end",
    "statements."]
  remedy := [
    "Add the missing `;`:"]
  mended := [
    "integer x = 10;",
    "integer y = 20;"]

/-- The explanation of E103. -/
def e103 : Explanation where
  code := .e103
  title := "Multi-Character Character Literal"
  summary := [
    "A character literal contained more than one character."]
  faulty := [
    "character c = 'ab';"]
  background := [
    "Values of type `character` hold a single character. Text of any other",
    "length belongs in a `String`, written with double quotes."]
  remedy := [
    "Keep one character, or switch to a `String`:"]
  mended := [
    "character c = 'a';",
    "String s = \"ab\";"]

/-- The explanation of E201. -/
def e201 : Explanation where
  code := .e201
  title := "Unknown Type Identifier"
  summary := [
    "A name was used where a type is expected, but it is not a known type."]
  faulty := [
    "Integer count = 0;",
    "string name = \"Klang\";"]
  background := [
    "The built-in types are `integer`, `double`, `boolean`, `character`,",
    "`String` and `void`, each optionally followed by `[]` for arrays. Type",
    "names are case-sensitive."]
  remedy := [
    "Use one of the built-in type names:"]
  mended := [
    "integer count = 0;",
    "String name = \"Klang\";"]

/-- Every explanation, in catalogue order. -/
def all : List Explanation := [e001, e002, e003, e004, e005, e101, e102, e103, e201]

/-- The explanation of a code. -/
def find? (code : Code) : Option Explanation := all.find? (·.code == code)

end Explanation

end FrontEnd

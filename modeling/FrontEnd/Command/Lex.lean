/-
FrontEnd/Command/Lex.lean

Listing the tokens of a source file, one token on a line.
-/
import FrontEnd.Command.Failure
import FrontEnd.Files.Path
import FrontEnd.Lexer.Tokenize

namespace FrontEnd

/-- The extension of source files. -/
def sourceExtension : String := "k"

/-- The text of a source file.  Only files with the extension of source files are read. -/
def readSource (files : Files) (path command : String) : Except Failure String :=
  if hasExtension path sourceExtension then (files.read path).mapError (Failure.ofRead path)
  else .error (.invalidFileType path command)

/-- The tokens of a source file. -/
def lexFile (files : Files) (path : String) : Except Failure TokenList := do
  let source ← readSource files path "lex"
  (tokenize source path defaultContext).mapError .diagnostic

/-- The listing of tokens. -/
def TokenList.listing (tokens : TokenList) : String :=
  String.join (tokens.map fun token => token.label ++ "\n")

end FrontEnd

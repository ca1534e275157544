/-
FrontEnd/Token/Stream.lean

Reading a token list one token at a time.  The end token is never passed: at the
end, reading goes on giving it.  A stream is a value, so keeping an old one is all
that backtracking takes.
-/
import FrontEnd.Token.Basic
import FrontEnd.Diagnostic.Basic

namespace FrontEnd

/-! ### Unexpected tokens -/

/-- A token stands where another kind of token belongs. -/
structure Unexpected where
  /-- What belongs there. -/
  expected : Kind
  /-- What stands there. -/
  found : Kind
  /-- Where it belongs: just after the token before. -/
  position : Position
deriving DecidableEq, Repr

/-- A missing semicolon is in the catalogue; any other missing token is not. -/
def Unexpected.diagnostic (u : Unexpected) (file : String) : Diagnostic :=
  let location := Location.ofPosition file u.position
  if u.expected = .punctuator .semicolon then
    ((Diagnostic.coded .e102 location "Expected ';' after statement.").withFix
      "End the statement with a semicolon.").withSample "integer x = 10;"
  else
    let expected := u.expected.describe
    let found := u.found.describe
    (Diagnostic.general .syntactic location s!"Expected {expected}, found {found}.").withFix
      s!"Insert {expected} before {found}."

/-! ### Streams -/

/-- A reading position in a token list. -/
structure TokenStream where
  tokens : TokenList
  /-- The number of tokens that have been read. -/
  index : Nat
deriving DecidableEq, Repr

namespace TokenStream

/-- The stream at the start of a list. -/
def ofList (tokens : TokenList) : TokenStream := ⟨tokens, 0⟩

/-- The next token. -/
def peek (s : TokenStream) : Option Token := s.tokens[s.index]?

/-- The kind of the next token, the end if there is none. -/
def peekKind (s : TokenStream) : Kind :=
  match s.peek with
  | some token => token.kind
  | none => .eof

/-- The token `n` places after the next one, the last token if the list is shorter. -/
def peekNth (s : TokenStream) (n : Nat) : Option Token :=
  s.tokens[s.index + n]? <|> s.tokens.getLast?

/-- Whether the next token is of the given kind. -/
def check (s : TokenStream) (kind : Kind) : Bool := s.peekKind == kind

/-- Whether the next token is the end. -/
def atEnd (s : TokenStream) : Bool := s.check .eof

/-! ### Reading -/

/-- Reads one token; the end is given but not passed. -/
def advance (s : TokenStream) : Option Token × TokenStream :=
  (s.peek, if s.atEnd then s else { s with index := s.index + 1 })

/-- Reads the next token if it is of the given kind, and tells whether it was. -/
def eat (s : TokenStream) (kind : Kind) : Bool × TokenStream :=
  if s.check kind then (true, s.advance.2) else (false, s)

/-- Where a missing token belongs: after the token before, at the next one if nothing has been
read, at the start of an empty list. -/
def gap (s : TokenStream) : Position :=
  let before := if s.index = 0 then none else s.tokens[s.index - 1]?
  match before <|> s.peek with
  | some token => token.position
  | none => Position.start

/-- Reads a token of the given kind, or tells what stands there instead. -/
def expect (s : TokenStream) (kind : Kind) : Except Unexpected Token × TokenStream :=
  match s.peek with
  | some token =>
    if token.kind = kind then (.ok token, s.advance.2)
    else (.error ⟨kind, token.kind, s.gap⟩, s)
  | none => (.error ⟨kind, .eof, s.gap⟩, s)

end TokenStream

end FrontEnd

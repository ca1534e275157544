/-
FrontEnd/Token/Basic.lean

Tokens and lists of tokens.  The list that lexing gives holds the tokens of a
text in order and ends with the one token that marks the end.
-/
import FrontEnd.Source.Position
import FrontEnd.Token.Kind

namespace FrontEnd

/-- A token: its kind, its text where the kind does not fix it, and the place after it. -/
structure Token where
  kind : Kind
  value : Option String
  position : Position
deriving DecidableEq, Repr

namespace Token

/-- The text of the token's own, empty if it has none. -/
def text (token : Token) : String := token.value.getD ""

/-- The token as a listing shows it. -/
def label (token : Token) : String :=
  match token.value with
  | some value => s!"{token.kind.name}({value})"
  | none => token.kind.name

end Token

/-- The tokens of a text, in order. -/
abbrev TokenList := List Token

namespace TokenList

/-- The kinds of the tokens, in order. -/
def kinds (tokens : TokenList) : List Kind := tokens.map Token.kind

/-- A short description: how many tokens there are. -/
def describe (tokens : TokenList) : String := s!"TokenList({tokens.length} tokens)"

end TokenList

end FrontEnd

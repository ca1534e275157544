/-
FrontEnd/Typing/TypeName.lean

Type names in a token stream: a type keyword, and two brackets after it for an
array.  Names are no types, since there are only built-in ones.
-/
import FrontEnd.Text.Trim
import FrontEnd.Token.Stream
import FrontEnd.Typing.Symbol

namespace FrontEnd

/-- Why no type name stands somewhere. -/
inductive TypeFault
  /-- The token is a name. -/
  | unknown (token : Token)
  /-- The token is neither a type keyword nor a name. -/
  | notType (token : Token)
  /-- There is no token at all. -/
  | noToken
  /-- The bracket of an array type is not closed. -/
  | openArray (unexpected : Unexpected)
deriving DecidableEq, Repr

/-- The number of characters of a token, as far as the token tells. -/
def Token.width (token : Token) : Nat :=
  match token.kind.spelling? with
  | some text => text.length
  | none => max token.text.length 1

/-- Where a token starts, counted back from the place behind it. -/
def Token.startLocation (token : Token) (file : String) : Location :=
  ⟨file, token.position.line, token.position.column - token.width⟩

/-- The built-in type that a name means if the case of its letters is set right. -/
def Primitive.named? (name : String) : Option Primitive :=
  [.integer, .double, .boolean, .character, .string, .void].find? fun type =>
    lowerAscii type.name == lowerAscii name

/-- The advice to start with a type. -/
def startWithType : String := "Start the declaration with a type such as integer or String."

/-- The diagnostic of a type fault in a file. -/
def TypeFault.diagnostic (file : String) : TypeFault → Diagnostic
  | .unknown token =>
    let fix :=
      match Primitive.named? token.text with
      | some type => s!"Type names are case-sensitive: write '{type.name}'."
      | none => "Use a built-in type: integer, double, boolean, character, String or void."
    (((Diagnostic.coded .e201 (token.startLocation file)
      s!"Unknown type '{token.text}'.").withSpanLength token.width).withFix fix).withSample
        "integer count = 0;"
  | .notType token =>
    ((Diagnostic.general .syntactic (token.startLocation file)
      s!"Expected a type, found {token.kind.name}.").withSpanLength token.width).withFix
        startWithType
  | .noToken =>
    (Diagnostic.general .syntactic ⟨file, 1, 0⟩ "Expected a type, found end of input.").withFix
      startWithType
  | .openArray unexpected => unexpected.diagnostic file

/-- The type that one token names. -/
def Token.typeName (token : Token) : Except TypeFault Primitive :=
  match Primitive.ofKind? token.kind with
  | some type =>
    -- `null` has a type and names none
    if token.kind.isTypeKeyword then .ok type else .error (.notType token)
  | none =>
    if token.kind = .identifier then .error (.unknown token) else .error (.notType token)

/-- Reads a type name, with the brackets of an array if they follow. -/
def TokenStream.typeName (s : TokenStream) : Except TypeFault Symbol × TokenStream :=
  match s.peek with
  | none => (.error .noToken, s)
  | some token =>
    match token.typeName with
    | .error fault => (.error fault, s)
    | .ok type =>
      let behind := s.advance.2
      match behind.eat (.punctuator .lbracket) with
      | (false, _) => (.ok (.primitive type), behind)
      | (true, inside) =>
        match inside.expect (.punctuator .rbracket) with
        | (.ok _, closed) => (.ok (.array type), closed)
        | (.error unexpected, stuck) => (.error (.openArray unexpected), stuck)

end FrontEnd

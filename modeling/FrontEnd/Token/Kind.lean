/-
FrontEnd/Token/Kind.lean

The kinds of tokens.  Keywords and punctuators have one spelling each.  They are
read by three tables of their own, one for words, one for single characters and
one for pairs of characters, which are written apart from the spellings; that all
of these agree is a theorem (`FrontEnd.Proofs.Spelling`).
-/

namespace FrontEnd

/-! ### Keywords -/

/-- A reserved word. -/
inductive Keyword
  | returnKw | ifKw | otherwiseKw | afterallKw | forKw | whileKw | breakKw | continueKw
  | publicKw | internalKw | protectedKw | staticKw
  | trueKw | falseKw | tryKw | catchKw | nullKw | newKw | useKw
  | integerKw | doubleKw | booleanKw | characterKw | stringKw | voidKw
deriving DecidableEq, Repr

namespace Keyword

/-- Every keyword. -/
def all : List Keyword :=
  [.returnKw, .ifKw, .otherwiseKw, .afterallKw, .forKw, .whileKw, .breakKw, .continueKw,
   .publicKw, .internalKw, .protectedKw, .staticKw, .trueKw, .falseKw, .tryKw, .catchKw,
   .nullKw, .newKw, .useKw, .integerKw, .doubleKw, .booleanKw, .characterKw, .stringKw,
   .voidKw]

/-- The keyword as it is written in a source text. -/
def spelling : Keyword → String
  | .returnKw => "return"
  | .ifKw => "if"
  | .otherwiseKw => "otherwise"
  | .afterallKw => "afterall"
  | .forKw => "for"
  | .whileKw => "while"
  | .breakKw => "break"
  | .continueKw => "continue"
  | .publicKw => "public"
  | .internalKw => "internal"
  | .protectedKw => "protected"
  | .staticKw => "static"
  | .trueKw => "true"
  | .falseKw => "false"
  | .tryKw => "try"
  | .catchKw => "catch"
  | .nullKw => "null"
  | .newKw => "new"
  | .useKw => "Use"
  | .integerKw => "integer"
  | .doubleKw => "double"
  | .booleanKw => "boolean"
  | .characterKw => "character"
  | .stringKw => "String"
  | .voidKw => "void"

/-- The name of the token kind. -/
def name : Keyword → String
  | .returnKw => "RETURN"
  | .ifKw => "IF"
  | .otherwiseKw => "OTHERWISE"
  | .afterallKw => "AFTERALL"
  | .forKw => "FOR"
  | .whileKw => "WHILE"
  | .breakKw => "BREAK"
  | .continueKw => "CONTINUE"
  | .publicKw => "PUBLIC"
  | .internalKw => "INTERNAL"
  | .protectedKw => "PROTECTED"
  | .staticKw => "STATIC"
  | .trueKw => "TRUE"
  | .falseKw => "FALSE"
  | .tryKw => "TRY"
  | .catchKw => "CATCH"
  | .nullKw => "NULL"
  | .newKw => "NEW"
  | .useKw => "USE"
  | .integerKw => "INTEGER"
  | .doubleKw => "DOUBLE"
  | .booleanKw => "BOOLEAN"
  | .characterKw => "CHARACTER_TYPE"
  | .stringKw => "STRING_TYPE"
  | .voidKw => "VOID"

/-- Whether the keyword names a built-in type. -/
def isTypeName : Keyword → Bool
  | .integerKw | .doubleKw | .booleanKw | .characterKw | .stringKw | .voidKw => true
  | _ => false

/-- The keyword that a word is.  A word is compared only with the keywords that take up as many
bytes. -/
def ofWord? (word : List Char) : Option Keyword :=
  let text := String.ofList word
  match text.utf8ByteSize with
  | 2 =>
    match text with
    | "if" => some .ifKw
    | _ => none
  | 3 =>
    match text with
    | "for" => some .forKw
    | "try" => some .tryKw
    | "new" => some .newKw
    | "Use" => some .useKw
    | _ => none
  | 4 =>
    match text with
    | "true" => some .trueKw
    | "null" => some .nullKw
    | "void" => some .voidKw
    | _ => none
  | 5 =>
    match text with
    | "while" => some .whileKw
    | "break" => some .breakKw
    | "false" => some .falseKw
    | "catch" => some .catchKw
    | _ => none
  | 6 =>
    match text with
    | "return" => some .returnKw
    | "public" => some .publicKw
    | "static" => some .staticKw
    | "double" => some .doubleKw
    | "String" => some .stringKw
    | _ => none
  | 7 =>
    match text with
    | "integer" => some .integerKw
    | "boolean" => some .booleanKw
    | _ => none
  | 8 =>
    match text with
    | "afterall" => some .afterallKw
    | "continue" => some .continueKw
    | "internal" => some .internalKw
    | _ => none
  | 9 =>
    match text with
    | "otherwise" => some .otherwiseKw
    | "protected" => some .protectedKw
    | "character" => some .characterKw
    | _ => none
  | _ => none

end Keyword

/-! ### Punctuators -/

/-- An operator, bracket or separator. -/
inductive Punctuator
  | lparen | rparen | lbrace | rbrace | lbracket | rbracket
  | comma | semicolon | colon | dot | at
  | plus | minus | multiply | division | remainder | assignment | lt | gt | bang
  | doubleEqual | notEqual | gte | lte | increment | decrement | arrow | power | and | or
deriving DecidableEq, Repr

namespace Punctuator

/-- Every punctuator. -/
def all : List Punctuator :=
  [.lparen, .rparen, .lbrace, .rbrace, .lbracket, .rbracket, .comma, .semicolon, .colon, .dot,
   .at, .plus, .minus, .multiply, .division, .remainder, .assignment, .lt, .gt, .bang,
   .doubleEqual, .notEqual, .gte, .lte, .increment, .decrement, .arrow, .power, .and, .or]

/-- The punctuator as it is written in a source text: one or two characters. -/
def spelling : Punctuator → String
  | .lparen => "("
  | .rparen => ")"
  | .lbrace => "\x7b"
  | .rbrace => "\x7d"
  | .lbracket => "["
  | .rbracket => "]"
  | .comma => ","
  | .semicolon => ";"
  | .colon => ":"
  | .dot => "."
  | .at => "@"
  | .plus => "+"
  | .minus => "-"
  | .multiply => "*"
  | .division => "/"
  | .remainder => "%"
  | .assignment => "="
  | .lt => "<"
  | .gt => ">"
  | .bang => "!"
  | .doubleEqual => "=="
  | .notEqual => "!="
  | .gte => ">="
  | .lte => "<="
  | .increment => "++"
  | .decrement => "--"
  | .arrow => "->"
  | .power => "**"
  | .and => "&&"
  | .or => "||"

/-- The name of the token kind. -/
def name : Punctuator → String
  | .lparen => "LPAREN"
  | .rparen => "RPAREN"
  | .lbrace => "LBRACE"
  | .rbrace => "RBRACE"
  | .lbracket => "LBRACKET"
  | .rbracket => "RBRACKET"
  | .comma => "COMMA"
  | .semicolon => "SEMICOLON"
  | .colon => "COLON"
  | .dot => "DOT"
  | .at => "AT"
  | .plus => "PLUS"
  | .minus => "MINUS"
  | .multiply => "MULTIPLY"
  | .division => "DIVISION"
  | .remainder => "REMAINDER"
  | .assignment => "ASSIGNMENT"
  | .lt => "LT"
  | .gt => "GT"
  | .bang => "BANG"
  | .doubleEqual => "DOUBLEEQUAL"
  | .notEqual => "NOTEQUAL"
  | .gte => "GTE"
  | .lte => "LTE"
  | .increment => "INCREMENT"
  | .decrement => "DECREMENT"
  | .arrow => "ARROW"
  | .power => "POWER"
  | .and => "AND"
  | .or => "OR"

/-- The punctuator that is written with one character. -/
def single? : Char → Option Punctuator
  | '(' => some .lparen
  | ')' => some .rparen
  | '\x7b' => some .lbrace
  | '\x7d' => some .rbrace
  | '[' => some .lbracket
  | ']' => some .rbracket
  | ',' => some .comma
  | ';' => some .semicolon
  | ':' => some .colon
  | '.' => some .dot
  | '+' => some .plus
  | '-' => some .minus
  | '*' => some .multiply
  | '/' => some .division
  | '%' => some .remainder
  | '=' => some .assignment
  | '<' => some .lt
  | '>' => some .gt
  | '!' => some .bang
  | '@' => some .at
  | _ => none

/-- The punctuator that is written with two characters.  A logical operator is one, whatever
stands around it. -/
def pair? : Char → Char → Option Punctuator
  | '=', '=' => some .doubleEqual
  | '+', '+' => some .increment
  | '-', '-' => some .decrement
  | '-', '>' => some .arrow
  | '*', '*' => some .power
  | '>', '=' => some .gte
  | '<', '=' => some .lte
  | '!', '=' => some .notEqual
  | '&', '&' => some .and
  | '|', '|' => some .or
  | _, _ => none

end Punctuator

/-! ### Kinds -/

/-- What a token is. -/
inductive Kind
  | number
  | stringLiteral
  | characterLiteral
  | identifier
  | keyword (word : Keyword)
  | punctuator (mark : Punctuator)
  | eof
deriving DecidableEq, Repr

namespace Kind

/-- Every kind. -/
def all : List Kind :=
  [.number, .stringLiteral, .characterLiteral, .identifier] ++ Keyword.all.map .keyword ++
    Punctuator.all.map .punctuator ++ [.eof]

/-- The name of the kind, in capitals. -/
def name : Kind → String
  | .number => "NUMBER"
  | .stringLiteral => "STRING_LITERAL"
  | .characterLiteral => "CHARACTER_LITERAL"
  | .identifier => "IDENTIFIER"
  | .keyword word => word.name
  | .punctuator mark => mark.name
  | .eof => "EOF"

/-- The text that all tokens of the kind are written with.  Literals, identifiers and the end
have no such text. -/
def spelling? : Kind → Option String
  | .keyword word => some word.spelling
  | .punctuator mark => some mark.spelling
  | _ => none

/-- Whether tokens of the kind are reserved words. -/
def isKeyword : Kind → Bool
  | .keyword _ => true
  | _ => false

/-- Whether tokens of the kind name built-in types. -/
def isTypeKeyword : Kind → Bool
  | .keyword word => word.isTypeName
  | _ => false

/-- Whether tokens of the kind carry a text of their own. -/
def isLiteral : Kind → Bool
  | .number | .stringLiteral | .characterLiteral | .identifier => true
  | _ => false

/-- The kind as messages describe it: its spelling in quotes, else its name. -/
def describe (kind : Kind) : String :=
  match kind.spelling? with
  | some text => s!"'{text}'"
  | none => kind.name

end Kind

end FrontEnd

/-! The tokens of a document and the ways in which a text fails to be one. A
position is the number of characters before a place; it becomes a line and a
column only when it is reported. -/
namespace GraphCache
namespace Document

inductive TokenKind where
  | bang
  | dollar
  | amp
  | parenL
  | parenR
  | spread
  | colon
  | equals
  | atSign
  | bracketL
  | bracketR
  | braceL
  | pipe
  | braceR
  | name
  | int
  | float
  | string
  | blockString
  | endOfText
deriving DecidableEq, Repr

/-- How messages name a kind: punctuation by its spelling between quotes. -/
def TokenKind.description : TokenKind → String
  | bang => "'!'"
  | dollar => "'$'"
  | amp => "'&'"
  | parenL => "'('"
  | parenR => "')'"
  | spread => "'...'"
  | colon => "':'"
  | equals => "'='"
  | atSign => "'@'"
  | bracketL => "'['"
  | bracketR => "']'"
  | braceL => "'\x7b'"
  | pipe => "'|'"
  | braceR => "'\x7d'"
  | name => "Name"
  | int => "Int"
  | float => "Float"
  | string => "String"
  | blockString => "BlockString"
  | endOfText => "<EOF>"

/-- A token; names, numbers and strings have a text. -/
structure Token where
  kind : TokenKind
  position : Nat
  text : Option String
deriving DecidableEq, Repr

/-- A token as messages show it: its kind, and its text if it has one. -/
def Token.description (token : Token) : String :=
  match token.text with
  | none => token.kind.description
  | some text => token.kind.description ++ " '" ++ text ++ "'"

/-- Why a text is no document. A character that is reported may be missing, at
the end of the text. -/
inductive SyntaxFault where
  | unexpectedCharacter (found : Option Char)
  | singleQuote
  | twoPoints
  | leadingPoint (digits : String)
  | digitAfterZero (found : Option Char)
  | expectedDigit (found : Option Char)
  | unterminatedString
  | characterEscape (text : String)
  | unicodeEscape (text : String)
  | expected (wanted : String) (found : Token)
  | unexpected (found : Token)
  | strayDescription
  | describedShorthand
  | parameterInConstant (name : String)
  | reservedEnumValue (found : Token)
  | tooDeep
deriving DecidableEq, Repr

structure SyntaxError where
  fault : SyntaxFault
  position : Nat
deriving DecidableEq, Repr

/-- A number in upper-case hexadecimal digits, at least four of them. -/
def codePoint (code : Nat) : String :=
  let digits := (Nat.toDigits 16 code).map Char.toUpper
  String.ofList (List.replicate (4 - digits.length) '0' ++ digits)

/-- A character as messages show it: printable ASCII between quotes, anything else
by its code point. -/
def characterDescription : Option Char → String
  | none => "<EOF>"
  | some c =>
    if 32 ≤ c.toNat ∧ c.toNat ≤ 126 then "'" ++ String.singleton c ++ "'"
    else "U+" ++ codePoint c.toNat

def SyntaxFault.message : SyntaxFault → String
  | unexpectedCharacter found => "Unexpected character: " ++ characterDescription found ++ "."
  | singleQuote =>
    "Unexpected single quote character ('), did you mean to use a double quote (\")?"
  | twoPoints => "Unexpected '..', did you mean '...'?"
  | leadingPoint digits =>
    "Invalid number, expected digit before '.', did you mean '0." ++ digits ++ "'?"
  | digitAfterZero found =>
    "Invalid number, unexpected digit after 0: " ++ characterDescription found ++ "."
  | expectedDigit found =>
    "Invalid number, expected digit but got: " ++ characterDescription found ++ "."
  | unterminatedString => "Unterminated string."
  | characterEscape text => "Invalid character escape sequence: '" ++ text ++ "'."
  | unicodeEscape text => "Invalid Unicode escape sequence: '" ++ text ++ "'."
  | expected wanted found => "Expected " ++ wanted ++ ", found " ++ found.description ++ "."
  | unexpected found => "Unexpected " ++ found.description ++ "."
  | strayDescription =>
    "Unexpected description, only GraphQL definitions support descriptions."
  | describedShorthand =>
    "Unexpected description, descriptions are not supported on shorthand queries."
  | parameterInConstant name => "Unexpected variable '$" ++ name ++ "' in constant value."
  | reservedEnumValue found =>
    found.description ++ " is reserved and cannot be used for an enum value."
  | tooDeep => "Document is nested too deeply. Parsing aborted."

def SyntaxError.message (error : SyntaxError) : String := "Syntax Error: " ++ error.fault.message

/-- Line and column of a position, both counted from one, when reading on from
`offset` on the line that began at `lineStart`. A carriage return and the line
feed after it end one line. -/
def locateFrom (position : Nat) : (line lineStart offset : Nat) → List Char → Nat × Nat
  | line, lineStart, offset, chars =>
    if position ≤ offset then (line, position + 1 - lineStart)
    else
      match chars with
      | [] => (line, position + 1 - lineStart)
      | '\r' :: '\n' :: rest => locateFrom position (line + 1) (offset + 2) (offset + 2) rest
      | '\r' :: rest => locateFrom position (line + 1) (offset + 1) (offset + 1) rest
      | '\n' :: rest => locateFrom position (line + 1) (offset + 1) (offset + 1) rest
      | _ :: rest => locateFrom position line lineStart (offset + 1) rest

def locate (source : List Char) (position : Nat) : Nat × Nat := locateFrom position 1 0 0 source

end Document
end GraphCache

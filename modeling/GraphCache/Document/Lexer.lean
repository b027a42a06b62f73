import GraphCache.Document.Token
import GraphCache.Json.Reader

/-! Splitting a text into tokens. The list ends with the end of the text or with
the first place that is no token; what stands before such a place can still be
read, so a reader may be stopped by an earlier mistake. -/
namespace GraphCache
namespace Document

/-- A token, or the fault that stands in its place. -/
inductive Lexeme where
  | token (token : Token)
  | fault (error : SyntaxError)
deriving Repr

def isDigit (c : Char) : Bool := decide ('0' ≤ c) && decide (c ≤ '9')

def isNameStart (c : Char) : Bool :=
  (decide ('a' ≤ c) && decide (c ≤ 'z')) || (decide ('A' ≤ c) && decide (c ≤ 'Z')) || c == '_'

def isNamePart (c : Char) : Bool := isNameStart c || isDigit c

/-- A piece of text that has been read: its value, and the text after it with its
position. -/
structure Piece (α : Type) where
  value : α
  position : Nat
  rest : List Char

def fail {α : Type} (fault : SyntaxFault) (position : Nat) : Except SyntaxError α :=
  .error ⟨fault, position⟩

/-! ## Numbers -/

/-- Reads one digit or more. -/
def scanDigits (position : Nat) (rest : List Char) : Except SyntaxError (Piece (List Char)) :=
  let digits := rest.takeWhile isDigit
  if digits.isEmpty then fail (.expectedDigit rest.head?) position
  else .ok ⟨digits, position + digits.length, rest.drop digits.length⟩

/-- Reads the digits before the point: a zero stands alone. -/
def scanWhole (position : Nat) (rest : List Char) : Except SyntaxError (Piece (List Char)) :=
  match rest with
  | '0' :: more =>
    match more with
    | c :: _ =>
      if isDigit c then fail (.digitAfterZero (some c)) (position + 1)
      else .ok ⟨['0'], position + 1, more⟩
    | [] => .ok ⟨['0'], position + 1, more⟩
  | _ => scanDigits position rest

/-- Reads a point and the digits after it, if there is a point. -/
def scanFraction (position : Nat) (rest : List Char) : Except SyntaxError (Piece (List Char)) :=
  match rest with
  | '.' :: more => do
    let digits ← scanDigits (position + 1) more
    .ok ⟨'.' :: digits.value, digits.position, digits.rest⟩
  | _ => .ok ⟨[], position, rest⟩

/-- Reads an exponent, if there is one. -/
def scanExponent (position : Nat) (rest : List Char) : Except SyntaxError (Piece (List Char)) :=
  match rest with
  | [] => .ok ⟨[], position, rest⟩
  | letter :: more =>
    if letter = 'e' ∨ letter = 'E' then
      match more with
      | sign :: after =>
        if sign = '+' ∨ sign = '-' then do
          let digits ← scanDigits (position + 2) after
          .ok ⟨letter :: sign :: digits.value, digits.position, digits.rest⟩
        else do
          let digits ← scanDigits (position + 1) more
          .ok ⟨letter :: digits.value, digits.position, digits.rest⟩
      | [] => fail (.expectedDigit none) (position + 1)
    else .ok ⟨[], position, rest⟩

/-- Reads a number. Neither a point nor the start of a name may follow it. -/
def scanNumber (start : Nat) (text : List Char) : Except SyntaxError (Piece Token) := do
  let sign : List Char := if text.head? == some '-' then ['-'] else []
  let whole ← scanWhole (start + sign.length) (text.drop sign.length)
  let fraction ← scanFraction whole.position whole.rest
  let exponent ← scanExponent fraction.position fraction.rest
  let kind : TokenKind :=
    if fraction.value.isEmpty && exponent.value.isEmpty then .int else .float
  let written := String.ofList (sign ++ whole.value ++ fraction.value ++ exponent.value)
  match exponent.rest with
  | c :: _ =>
    if c = '.' ∨ isNameStart c then fail (.expectedDigit (some c)) exponent.position
    else .ok ⟨⟨kind, start, some written⟩, exponent.position, exponent.rest⟩
  | [] => .ok ⟨⟨kind, start, some written⟩, exponent.position, exponent.rest⟩

/-! ## Strings -/

/-- An escape's character and its length. -/
structure Escape where
  value : Char
  length : Nat

/-- Whether a number is the code of a character: surrogates are not. -/
def isScalar (code : Nat) : Bool :=
  decide (code ≤ 0xD7FF) || (decide (0xE000 ≤ code) && decide (code ≤ 0x10FFFF))

/-- Reads the digits of an escape in braces. `length` counts the characters of the
escape so far, of which there may be twelve. -/
def braceDigits : (fuel : Nat) → (code length : Nat) → List Char → Except Nat Escape
  | 0, _, length, _ => .error length
  | _ + 1, _, length, [] => .error length
  | fuel + 1, code, length, c :: rest =>
    if c = '\x7d' then
      if length + 1 < 5 ∨ !isScalar code then .error (length + 1)
      else .ok ⟨Char.ofNat code, length + 1⟩
    else
      match Json.hexValue? c with
      | none => .error (length + 1)
      | some digit => braceDigits fuel (16 * code + digit) (length + 1) rest

/-- Reads an escape whose code stands between braces; `text` starts at the
backslash. -/
def braceEscape (position : Nat) (text : List Char) : Except SyntaxError Escape :=
  match braceDigits 9 0 3 (text.drop 3) with
  | .ok escape => .ok escape
  | .error length => fail (.unicodeEscape (String.ofList (text.take length))) position

/-- Four hexadecimal digits as a number. -/
def fourDigits? (text : List Char) : Option Nat :=
  let digits := text.take 4
  if digits.length = 4 then Json.hexNumber? digits else none

/-- Reads an escape of four digits; two that form a pair of surrogates are one
character. -/
def fixedEscape (position : Nat) (text : List Char) : Except SyntaxError Escape :=
  let refuse : Except SyntaxError Escape :=
    fail (.unicodeEscape (String.ofList (text.take 6))) position
  match fourDigits? (text.drop 2) with
  | none => refuse
  | some code =>
    if isScalar code then .ok ⟨Char.ofNat code, 6⟩
    else
      match text.drop 6 with
      | '\\' :: 'u' :: more =>
        match fourDigits? more with
        | some low =>
          if Json.isHighSurrogate code && Json.isLowSurrogate low then
            .ok ⟨Char.ofNat (0x10000 + (code - 0xD800) * 1024 + (low - 0xDC00)), 12⟩
          else refuse
        | none => refuse
      | _ => refuse

/-- Reads an escape; `text` starts at the backslash. -/
def scanEscape (position : Nat) (text : List Char) : Except SyntaxError Escape :=
  match text with
  | _ :: 'u' :: '\x7b' :: _ => braceEscape position text
  | _ :: 'u' :: _ => fixedEscape position text
  | _ :: letter :: _ =>
    match Json.simpleEscape? letter with
    | some c => .ok ⟨c, 2⟩
    | none => fail (.characterEscape (String.ofList (text.take 2))) position
  | _ => fail (.characterEscape (String.ofList (text.take 2))) position

def isLineEnd (c : Char) : Bool := c == '\n' || c == '\r'

/-- Reads the characters of a string up to its closing quote. Each step reads one
or more, so the length of the text is enough fuel. -/
def scanString : (fuel : Nat) → (read : List Char) → (position : Nat) → List Char →
    Except SyntaxError (Piece (List Char))
  | 0, _, position, _ => fail .unterminatedString position
  | _ + 1, _, position, [] => fail .unterminatedString position
  | fuel + 1, read, position, c :: rest =>
    if c = '"' then .ok ⟨read.reverse, position + 1, rest⟩
    else if c = '\\' then do
      let escape ← scanEscape position (c :: rest)
      scanString fuel (escape.value :: read) (position + escape.length)
        ((c :: rest).drop escape.length)
    else if isLineEnd c then fail .unterminatedString position
    else scanString fuel (c :: read) (position + 1) rest

/-! ## Block strings -/

/-- Reads the lines of a block string up to its closing quotes. `line` is the
current line in reverse and `lines` are those before it, the last one first. -/
def scanBlock : (fuel : Nat) → (line : List Char) → (lines : List (List Char)) →
    (position : Nat) → List Char → Except SyntaxError (Piece (List (List Char)))
  | 0, _, _, position, _ => fail .unterminatedString position
  | fuel + 1, line, lines, position, text =>
    match text with
    | [] => fail .unterminatedString position
    | '"' :: '"' :: '"' :: rest =>
      .ok ⟨(line.reverse :: lines).reverse, position + 3, rest⟩
    | '\\' :: '"' :: '"' :: '"' :: rest =>
      scanBlock fuel ('"' :: '"' :: '"' :: line) lines (position + 4) rest
    | '\r' :: '\n' :: rest => scanBlock fuel [] (line.reverse :: lines) (position + 2) rest
    | '\r' :: rest => scanBlock fuel [] (line.reverse :: lines) (position + 1) rest
    | '\n' :: rest => scanBlock fuel [] (line.reverse :: lines) (position + 1) rest
    | c :: rest => scanBlock fuel (c :: line) lines (position + 1) rest

def isIndent (c : Char) : Bool := c == ' ' || c == '\t'

def isBlankLine (line : List Char) : Bool := line.all isIndent

/-- The least indentation of the lines after the first that are not blank. -/
def commonIndent (lines : List (List Char)) : Nat :=
  let indents := ((lines.drop 1).filter (!isBlankLine ·)).map fun line =>
    (line.takeWhile isIndent).length
  match indents with
  | [] => 0
  | first :: others => others.foldl min first

/-- The value of a block string: the common indentation is removed from all lines
but the first, then blank lines at both ends go. -/
def dedent (lines : List (List Char)) : List (List Char) :=
  let indent := commonIndent lines
  let shifted := lines.zipIdx.map fun (line, index) =>
    (line, isBlankLine line, if index = 0 then line else line.drop indent)
  let trimmed := (shifted.dropWhile (·.2.1)).reverse.dropWhile (·.2.1)
  trimmed.reverse.map (·.2.2)

/-- Lines as one text. -/
def joinLines (lines : List (List Char)) : String :=
  "\n".intercalate (lines.map String.ofList)

/-! ## Tokens -/

def punctuation? : Char → Option TokenKind
  | '!' => some .bang
  | '$' => some .dollar
  | '&' => some .amp
  | '(' => some .parenL
  | ')' => some .parenR
  | ':' => some .colon
  | '=' => some .equals
  | '@' => some .atSign
  | '[' => some .bracketL
  | ']' => some .bracketR
  | '\x7b' => some .braceL
  | '|' => some .pipe
  | '\x7d' => some .braceR
  | _ => none

/-- Reads what a point begins: three of them are a token. -/
def scanPoints (position : Nat) (text : List Char) : Except SyntaxError (Piece Token) :=
  match text with
  | '.' :: '.' :: '.' :: rest => .ok ⟨⟨.spread, position, none⟩, position + 3, rest⟩
  | '.' :: '.' :: _ => fail .twoPoints position
  | '.' :: rest =>
    let digits := rest.takeWhile isDigit
    if digits.isEmpty then fail (.unexpectedCharacter (some '.')) position
    else fail (.leadingPoint (String.ofList digits)) position
  | _ => fail (.unexpectedCharacter text.head?) position

/-- Reads the token at the first character, which is neither blank nor part of a
comment. -/
def scanToken (position : Nat) (first : Char) (rest : List Char) :
    Except SyntaxError (Piece Token) :=
  match punctuation? first with
  | some kind => .ok ⟨⟨kind, position, none⟩, position + 1, rest⟩
  | none =>
    if first = '"' then
      match rest with
      | '"' :: '"' :: inside => do
        let lines ← scanBlock (inside.length + 1) [] [] (position + 3) inside
        .ok ⟨⟨.blockString, position, some (joinLines (dedent lines.value))⟩,
          lines.position, lines.rest⟩
      | _ => do
        let text ← scanString (rest.length + 1) [] (position + 1) rest
        .ok ⟨⟨.string, position, some (String.ofList text.value)⟩, text.position, text.rest⟩
    else if isDigit first || first == '-' then scanNumber position (first :: rest)
    else if isNameStart first then
      let name := (first :: rest).takeWhile isNamePart
      .ok ⟨⟨.name, position, some (String.ofList name)⟩, position + name.length,
        (first :: rest).drop name.length⟩
    else if first = '.' then scanPoints position (first :: rest)
    else if first = '\'' then fail .singleQuote position
    else fail (.unexpectedCharacter (some first)) position

def isIgnored (c : Char) : Bool :=
  c == '\ufeff' || c == '\t' || c == ' ' || c == ',' || isLineEnd c

/-- All tokens from `position` on. Each step reads a character or more, so the
length of the text is enough fuel. -/
def scanFrom : (fuel : Nat) → (position : Nat) → List Char → List Lexeme
  | 0, position, _ => [.token ⟨.endOfText, position, none⟩]
  | _ + 1, position, [] => [.token ⟨.endOfText, position, none⟩]
  | fuel + 1, position, c :: rest =>
    if isIgnored c then scanFrom fuel (position + 1) rest
    else if c = '#' then
      let comment := rest.takeWhile (!isLineEnd ·)
      scanFrom fuel (position + 1 + comment.length) (rest.drop comment.length)
    else
      match scanToken position c rest with
      | .ok piece => .token piece.value :: scanFrom fuel piece.position piece.rest
      | .error error => [.fault error]

def scan (source : List Char) : List Lexeme := scanFrom (source.length + 1) 0 source

end Document
end GraphCache

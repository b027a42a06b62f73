import GraphCache.Json.Basic
import GraphCache.Number.Written

/-! Reading a value from JSON text. Beside the standard's values the three
special numbers are accepted by name. Of a repeated field the last value counts.
A text that is no value is refused with what was expected and where. -/
namespace GraphCache
namespace Json

/-- Why a text is not a value. -/
inductive ReadFault where
  | value
  | fieldName
  | colon
  | comma
  | unterminated
  | escape
  | unicodeEscape
  | controlCharacter
  | extraData
deriving DecidableEq, Repr

/-- A fault and the number of characters before it. -/
structure ReadError where
  fault : ReadFault
  position : Nat
deriving DecidableEq, Repr

def ReadFault.message : ReadFault → String
  | value => "Expecting value"
  | fieldName => "Expecting property name enclosed in double quotes"
  | colon => "Expecting ':' delimiter"
  | comma => "Expecting ',' delimiter"
  | unterminated => "Unterminated string starting at"
  | escape => "Invalid \\escape"
  | unicodeEscape => "Invalid \\uXXXX escape"
  | controlCharacter => "Invalid control character at"
  | extraData => "Extra data"

/-- The text of an error in `source`: lines and columns count from one, and only
a line feed ends a line. -/
def ReadError.message (source : List Char) (error : ReadError) : String :=
  let before := source.take error.position
  let line := before.count '\n' + 1
  let column := (before.reverse.takeWhile (· != '\n')).length + 1
  error.fault.message ++ ": line " ++ toString line ++ " column " ++ toString column ++
    " (char " ++ toString error.position ++ ")"

/-- What is left of the text, and how much of it has been read. -/
structure Cursor where
  position : Nat
  rest : List Char

namespace Cursor

def advance (cursor : Cursor) (count : Nat) : Cursor :=
  ⟨cursor.position + count, cursor.rest.drop count⟩

def isBlank (c : Char) : Bool := c == ' ' || c == '\t' || c == '\n' || c == '\r'

def skipBlanks (cursor : Cursor) : Cursor :=
  cursor.advance (cursor.rest.takeWhile isBlank).length

def fail {α : Type} (cursor : Cursor) (fault : ReadFault) : Except ReadError α :=
  .error ⟨fault, cursor.position⟩

end Cursor

def hexValue? (c : Char) : Option Nat :=
  if '0' ≤ c ∧ c ≤ '9' then some (c.toNat - '0'.toNat)
  else if 'a' ≤ c ∧ c ≤ 'f' then some (c.toNat - 'a'.toNat + 10)
  else if 'A' ≤ c ∧ c ≤ 'F' then some (c.toNat - 'A'.toNat + 10)
  else none

/-- The number that hexadecimal digits write. -/
def hexNumber? (digits : List Char) : Option Nat :=
  digits.foldl (fun total c => do
    let sofar ← total
    let digit ← hexValue? c
    pure (16 * sofar + digit)) (some 0)

def isHighSurrogate (unit : Nat) : Bool := decide (0xD800 ≤ unit) && decide (unit ≤ 0xDBFF)

def isLowSurrogate (unit : Nat) : Bool := decide (0xDC00 ≤ unit) && decide (unit ≤ 0xDFFF)

/-- A code unit that stands alone; half a pair is no character. -/
def charOfUnit (unit : Nat) : Char :=
  if isHighSurrogate unit || isLowSurrogate unit then '\ufffd' else Char.ofNat unit

/-- Reads a `\u` escape; the cursor stands at the `u`. A pair of surrogates is one
character. The escape must not end the text. -/
def readUnicodeEscape (cursor : Cursor) : Except ReadError (Char × Cursor) :=
  let digits := (cursor.rest.drop 1).take 4
  match cursor.rest.drop 5, hexNumber? digits with
  | [], _ => cursor.fail .unicodeEscape
  | _, none => cursor.fail .unicodeEscape
  | '\\' :: 'u' :: more, some high =>
    if isHighSurrogate high && decide (4 < more.length) then
      match hexNumber? (more.take 4) with
      | none => (cursor.advance 6).fail .unicodeEscape
      | some low =>
        if isLowSurrogate low then
          .ok (Char.ofNat (0x10000 + (high - 0xD800) * 1024 + (low - 0xDC00)), cursor.advance 11)
        else .ok (charOfUnit high, cursor.advance 5)
    else .ok (charOfUnit high, cursor.advance 5)
  | _, some unit => .ok (charOfUnit unit, cursor.advance 5)

/-- The character that a one-letter escape stands for. -/
def simpleEscape? : Char → Option Char
  | '"' => some '"'
  | '\\' => some '\\'
  | '/' => some '/'
  | 'b' => some (Char.ofNat 8)
  | 'f' => some (Char.ofNat 12)
  | 'n' => some '\n'
  | 'r' => some '\r'
  | 't' => some '\t'
  | _ => none

/-- Reads the rest of a text that opened at `start`. Each step reads a character,
so the length of the text is enough fuel. -/
def readText (start : Nat) : Nat → List Char → Cursor → Except ReadError (String × Cursor)
  | 0, _, _ => .error ⟨.unterminated, start⟩
  | fuel + 1, read, cursor =>
    match cursor.rest with
    | [] => .error ⟨.unterminated, start⟩
    | '"' :: _ => .ok (String.ofList read.reverse, cursor.advance 1)
    | ['\\'] => .error ⟨.unterminated, start⟩
    | '\\' :: 'u' :: _ => do
      let (c, after) ← readUnicodeEscape (cursor.advance 1)
      readText start fuel (c :: read) after
    | '\\' :: letter :: _ =>
      match simpleEscape? letter with
      | some c => readText start fuel (c :: read) (cursor.advance 2)
      | none => cursor.fail .escape
    | c :: _ =>
      if c.toNat < 32 then cursor.fail .controlCharacter
      else readText start fuel (c :: read) (cursor.advance 1)

def isDigit (c : Char) : Bool := decide ('0' ≤ c) && decide (c ≤ '9')

/-- The parts of a written number. -/
structure Numeral where
  negative : Bool
  whole : List Char
  fraction : List Char
  exponent : Option (Bool × List Char)
  length : Nat

/-- Reads as much of a number as the text holds: a point or an exponent without
digits is not part of it, and nothing follows a leading zero. -/
def Numeral.read? (text : List Char) : Option Numeral :=
  let negative := text.head? == some '-'
  let unsigned := if negative then text.drop 1 else text
  let whole :=
    match unsigned with
    | '0' :: _ => ['0']
    | _ => unsigned.takeWhile isDigit
  if whole.isEmpty then none
  else
    let afterWhole := unsigned.drop whole.length
    let fraction :=
      match afterWhole with
      | '.' :: more => more.takeWhile isDigit
      | _ => []
    let pointLength := if fraction.isEmpty then 0 else fraction.length + 1
    let exponent : Option (Bool × List Char × Nat) :=
      match afterWhole.drop pointLength with
      | letter :: more =>
        if letter = 'e' ∨ letter = 'E' then
          let signed := more.head? == some '-' || more.head? == some '+'
          let digits := (if signed then more.drop 1 else more).takeWhile isDigit
          if digits.isEmpty then none
          else some (more.head? == some '-', digits, digits.length + (if signed then 2 else 1))
        else none
      | [] => none
    let exponentLength := (exponent.map (·.2.2)).getD 0
    some ⟨negative, whole, fraction, exponent.map fun part => (part.1, part.2.1),
      (if negative then 1 else 0) + whole.length + pointLength + exponentLength⟩

/-- The value of a written number: whole unless it has a point or an exponent. -/
def Numeral.value (numeral : Numeral) : Json :=
  if numeral.fraction.isEmpty && numeral.exponent.isNone then
    let magnitude : Int := Written.decimal numeral.whole
    .int (if numeral.negative then -magnitude else magnitude)
  else
    let power : Int :=
      match numeral.exponent with
      | none => 0
      | some (negative, digits) =>
        let magnitude : Int := Written.decimal digits
        if negative then -magnitude else magnitude
    .float (Binary64.ofDecimal numeral.negative (Written.decimal (numeral.whole ++ numeral.fraction))
      (power - numeral.fraction.length))

/-- The values that are written as a word. -/
def words : List (List Char × Json) :=
  [("null".toList, .null), ("true".toList, .bool true), ("false".toList, .bool false),
   ("NaN".toList, .float .notANumber), ("Infinity".toList, .float (.infinite false)),
   ("-Infinity".toList, .float (.infinite true))]

mutual

/-- Reads one value; the cursor stands at its first character. Of two nested calls
at least one reads a character, so twice the length of the text is enough fuel, and
what is left of it is more than enough for a text inside. -/
def readValue : Nat → Cursor → Except ReadError (Json × Cursor)
  | 0, cursor => cursor.fail .value
  | fuel + 1, cursor =>
    match cursor.rest with
    | '"' :: _ => do
      let (text, after) ← readText cursor.position fuel [] (cursor.advance 1)
      .ok (.string text, after)
    | '\x7b' :: _ =>
      let inside := (cursor.advance 1).skipBlanks
      match inside.rest with
      | '\x7d' :: _ => .ok (.object [], inside.advance 1)
      | _ => do
        let (fields, after) ← readFields fuel inside
        .ok (.object (OrderedMap.ofList fields), after)
    | '[' :: _ =>
      let inside := (cursor.advance 1).skipBlanks
      match inside.rest with
      | ']' :: _ => .ok (.array [], inside.advance 1)
      | _ => do
        let (items, after) ← readItems fuel inside
        .ok (.array items, after)
    | _ =>
      match words.find? fun word => word.1.isPrefixOf cursor.rest with
      | some (word, value) => .ok (value, cursor.advance word.length)
      | none =>
        match Numeral.read? cursor.rest with
        | some numeral => .ok (numeral.value, cursor.advance numeral.length)
        | none => cursor.fail .value

/-- Reads items up to the closing bracket; the cursor stands at the first one. -/
def readItems : Nat → Cursor → Except ReadError (List Json × Cursor)
  | 0, cursor => cursor.fail .value
  | fuel + 1, cursor => do
    let (item, after) ← readValue fuel cursor
    let after := after.skipBlanks
    match after.rest with
    | ']' :: _ => .ok ([item], after.advance 1)
    | ',' :: _ => do
      let (items, last) ← readItems fuel (after.advance 1).skipBlanks
      .ok (item :: items, last)
    | _ => after.fail .comma

/-- Reads fields up to the closing brace; the cursor stands at the first name. -/
def readFields : Nat → Cursor → Except ReadError (List (String × Json) × Cursor)
  | 0, cursor => cursor.fail .value
  | fuel + 1, cursor =>
    match cursor.rest with
    | '"' :: _ => do
      let (name, after) ← readText cursor.position fuel [] (cursor.advance 1)
      let after := after.skipBlanks
      match after.rest with
      | ':' :: _ => do
        let (value, after) ← readValue fuel (after.advance 1).skipBlanks
        let after := after.skipBlanks
        match after.rest with
        | '\x7d' :: _ => .ok ([(name, value)], after.advance 1)
        | ',' :: _ => do
          let (fields, last) ← readFields fuel (after.advance 1).skipBlanks
          .ok ((name, value) :: fields, last)
        | _ => after.fail .comma
      | _ => after.fail .colon
    | _ => cursor.fail .fieldName

end

/-- Reads a whole text as one value, with blanks around it. -/
def readChars (source : List Char) : Except ReadError Json := do
  let (value, after) ← readValue (2 * source.length + 2) (Cursor.mk 0 source).skipBlanks
  let last := after.skipBlanks
  if last.rest.isEmpty then .ok value else last.fail .extraData

/-- Reads a text; a refusal is given as its message. -/
def read (text : String) : Except String Json :=
  (readChars text.toList).mapError (ReadError.message text.toList)

end Json
end GraphCache

import GraphCache.Number.Binary64
import GraphCache.Text.DigitTable

/-! Numbers in writing. The digits of every script count, blanks may stand around a
number, and single underscores between its digits. A whole number may be written in
several bases and begin with a mark that names its base. -/
namespace GraphCache
namespace Written

/-- Whether a character is a blank or begins a new line. -/
def isSpace (c : Char) : Bool :=
  let code := c.toNat
  (decide (9 ≤ code) && decide (code ≤ 13)) || (decide (0x1C ≤ code) && decide (code ≤ 0x20)) ||
    code == 0x85 || code == 0xA0 || code == 0x1680 ||
    (decide (0x2000 ≤ code) && decide (code ≤ 0x200A)) || code == 0x2028 || code == 0x2029 ||
    code == 0x202F || code == 0x205F || code == 0x3000

/-- The ASCII digit of a digit of any script; other characters stay. -/
def plainDigit (c : Char) : Char :=
  if c.toNat < 128 then c
  else
    match Text.zeros.find? fun first => decide (first ≤ c.toNat) && decide (c.toNat < first + 10) with
    | some first => Char.ofNat ('0'.toNat + (c.toNat - first))
    | none => c

/-- A text without blanks around it, its digits those of ASCII. -/
def plain (text : List Char) : List Char :=
  (((text.dropWhile isSpace).reverse.dropWhile isSpace).reverse).map plainDigit

/-- A text without its sign, and whether that is a minus sign. -/
def splitSign : List Char → Bool × List Char
  | '+' :: rest => (false, rest)
  | '-' :: rest => (true, rest)
  | rest => (false, rest)

/-! ## Whole numbers -/

/-- The value of a digit below `base`. -/
def digitBelow? (base : Nat) (c : Char) : Option Nat :=
  let value :=
    if '0' ≤ c ∧ c ≤ '9' then c.toNat - '0'.toNat
    else if 'a' ≤ c ∧ c ≤ 'z' then c.toNat - 'a'.toNat + 10
    else if 'A' ≤ c ∧ c ≤ 'Z' then c.toNat - 'A'.toNat + 10
    else base
  if value < base then some value else none

/-- The letter of the mark that names a base. -/
def baseLetter? : Nat → Option Char
  | 2 => some 'b'
  | 8 => some 'o'
  | 16 => some 'x'
  | _ => none

/-- Drops the mark of the base, and an underscore behind it. -/
def dropBaseMark (base : Nat) (text : List Char) : List Char :=
  match text with
  | '0' :: letter :: rest =>
    if baseLetter? base = some letter.toLower then
      match rest with
      | '_' :: digits => digits
      | digits => digits
    else text
  | _ => text

/-- Reads digits behind `value`. An underscore stands between two digits: `after` tells
whether a digit stands before. -/
def digitsFrom (base value : Nat) (after : Bool) : List Char → Option Nat
  | [] => if after then some value else none
  | '_' :: rest => if after then digitsFrom base value false rest else none
  | c :: rest => do
    let digit ← digitBelow? base c
    digitsFrom base (value * base + digit) true rest

/-- The greatest number of decimal digits. -/
def greatestLength : Nat := 4300

/-- The whole number that a text writes in a base. -/
def whole? (base : Nat) (text : List Char) : Option Int := do
  let (negative, unsigned) := splitSign (plain text)
  let digits := dropBaseMark base unsigned
  let size ← digitsFrom base 0 false digits
  if base = 10 ∧ greatestLength < (digits.filter (· != '_')).length then none
  else some (if negative then -(size : Int) else size)

/-! ## Numbers of double precision -/

/-- The number that decimal digits write. -/
def decimal (digits : List Char) : Nat :=
  digits.foldl (fun total c => 10 * total + (c.toNat - '0'.toNat)) 0

/-- An exponent with its sign. -/
def exponent? (text : List Char) : Option Int :=
  let (negative, digits) := splitSign text
  if digits.isEmpty || !digits.all Char.isDigit then none
  else some (if negative then -(decimal digits : Int) else decimal digits)

/-- A number without a sign: digits with a point anywhere among them or none, and an
exponent or none. -/
def magnitude? (negative : Bool) (text : List Char) : Option Binary64 := do
  let whole := text.takeWhile Char.isDigit
  let afterWhole := text.dropWhile Char.isDigit
  let pointed := afterWhole.head? == some '.'
  let fractional := if pointed then afterWhole.drop 1 else []
  let fraction := fractional.takeWhile Char.isDigit
  let afterDigits := if pointed then fractional.dropWhile Char.isDigit else afterWhole
  if whole.isEmpty && fraction.isEmpty then none
  else
    let exponent ←
      match afterDigits with
      | [] => some 0
      | c :: rest => if c == 'e' || c == 'E' then exponent? rest else none
    some (.ofDecimal negative (decimal (whole ++ fraction)) (exponent - fraction.length))

/-- A number with its sign; the special ones go by name in any case. -/
def signed? (text : List Char) : Option Binary64 :=
  let (negative, unsigned) := splitSign text
  let word := String.ofList (unsigned.map Char.toLower)
  if word = "inf" || word = "infinity" then some (.infinite negative)
  else if word = "nan" then some .notANumber
  else magnitude? negative unsigned

/-- Drops underscores, each of which must stand between two digits. -/
def dropUnderscores (after : Bool) : List Char → Option (List Char)
  | [] => some []
  | '_' :: rest =>
    if after && (rest.head?.any Char.isDigit) then dropUnderscores false rest else none
  | c :: rest => (dropUnderscores c.isDigit rest).map (c :: ·)

/-- The number of double precision that a text writes. -/
def real? (text : List Char) : Option Binary64 :=
  (dropUnderscores false (plain text)).bind signed?

end Written
end GraphCache

import GraphCache.Number.Written

/-! Numbers in settings that are written as texts. Both kinds may have blanks around
them and single underscores between digits. A whole number may have a plus sign,
leading zeros, and a point that only zeros follow. -/
namespace GraphCache
namespace NumberText

def isBlank (c : Char) : Bool :=
  let code := c.toNat
  (decide (9 ≤ code) && decide (code ≤ 13)) || code == 0x20 || code == 0x85 || code == 0xA0 ||
    code == 0x1680 || (decide (0x2000 ≤ code) && decide (code ≤ 0x200A)) || code == 0x2028 ||
    code == 0x2029 || code == 0x202F || code == 0x205F || code == 0x3000

def trim (text : List Char) : List Char :=
  ((text.dropWhile isBlank).reverse.dropWhile isBlank).reverse

/-- Whether two underscores stand next to each other. -/
def hasDoubleUnderscore : List Char → Bool
  | '_' :: '_' :: _ => true
  | _ :: rest => hasDoubleUnderscore rest
  | [] => false

/-- Drops underscores, which must not begin or end the text nor stand in pairs. -/
def dropUnderscores (text : List Char) : Option (List Char) :=
  if text.head? = some '_' || text.getLast? = some '_' || hasDoubleUnderscore text then none
  else some (text.filter (· != '_'))

/-- Drops a point that zeros follow, and nothing else. -/
def dropZeroFraction (text : List Char) : List Char :=
  let whole := text.takeWhile (· != '.')
  let fraction := (text.dropWhile (· != '.')).drop 1
  if !fraction.isEmpty && fraction.all (· == '0') then whole else text

/-- Drops zeros, and underscores between them, before the first other digit. A minus
sign may stand behind such zeros. -/
def dropLeadingZeros (text : List Char) : Option (List Char) :=
  match text with
  | '0' :: rest =>
    match rest.dropWhile fun c => c == '0' || c == '_' with
    | [] => some [(text.getLast?).getD '0']
    | c :: more => if c.isDigit || c == '-' then some (c :: more) else none
  | c :: _ => if c.isDigit then some text else none
  | [] => none

/-- The digits of a whole number that a text writes, and whether it is negative. There is
one minus sign at most. -/
def digits? (text : List Char) : Option (Bool × List Char) := do
  let (negative, unsigned) := Written.splitSign (trim text)
  let digits ← dropUnderscores (← dropLeadingZeros (dropZeroFraction unsigned))
  match digits with
  | '-' :: rest => if negative then none else return (true, rest)
  | digits => return (negative, digits)

/-- What a text says about a whole number. -/
inductive Whole where
  | value (number : Int)
  /-- A number with more digits than are read. -/
  | tooLong
  | none
deriving DecidableEq, Repr

/-- The greatest length of a whole number, its minus sign included. -/
def greatestLength : Nat := 4300

/-- Reads the whole number that a text writes. -/
def whole (text : String) : Whole :=
  match digits? text.toList with
  | some (negative, digits) =>
    let leading := (digits.takeWhile Char.isDigit).length + if negative then 1 else 0
    if greatestLength < leading then .tooLong
    else if digits.isEmpty || !digits.all Char.isDigit then .none
    else
      let size : Int := Written.decimal digits
      .value (if negative then -size else size)
  | none => .none

/-- The number of double precision that a text writes. -/
def real? (text : String) : Option Binary64 :=
  (Written.signed? (trim text.toList)).or ((dropUnderscores text.toList).bind Written.signed?)

end NumberText
end GraphCache

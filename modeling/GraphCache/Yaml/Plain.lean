import GraphCache.Yaml.Cursor
import GraphCache.Json.Reader

/-! What a value is said to be. A tag says it outright; of a text without quotes its form
tells, and numbers have several: with underscores between digits, and in base two, eight,
sixteen or sixty. -/
namespace GraphCache
namespace Yaml

/-- What a value can be. -/
inductive Kind where
  | nothing
  | truth
  | whole
  | real
  | bytes
  | moment
  | text
  | list
  | mapping
  | set
  | pairs
  /-- The key under which other mappings are joined in. -/
  | merge
  /-- The key whose value stands for the whole mapping. -/
  | standsFor
  | unknown
deriving DecidableEq, Repr

/-- The beginning of the tags that every file may use. -/
def standardTags : String := "tag:yaml.org,2002:"

def Kind.named : List (String × Kind) :=
  [("null", .nothing), ("bool", .truth), ("int", .whole), ("float", .real), ("binary", .bytes),
   ("timestamp", .moment), ("str", .text), ("seq", .list), ("map", .mapping), ("set", .set),
   ("omap", .pairs), ("pairs", .pairs), ("merge", .merge), ("value", .standsFor)]

/-- What a tag says. -/
def Kind.ofTag (tag : String) : Kind :=
  ((named.find? fun entry => standardTags ++ entry.1 == tag).map Prod.snd).getD .unknown

/-! ## Forms of texts -/

def truthWords : List String :=
  ["yes", "Yes", "YES", "no", "No", "NO", "true", "True", "TRUE", "false", "False", "FALSE",
   "on", "On", "ON", "off", "Off", "OFF"]

def nothingWords : List String := ["~", "null", "Null", "NULL"]

/-- The texts between separators. -/
def splitOn (separator : Char) : List Char → List (List Char)
  | [] => [[]]
  | c :: rest =>
    match splitOn separator rest with
    | [] => [[c]]
    | first :: others =>
      if c = separator then [] :: first :: others else (c :: first) :: others

def dropSign : List Char → List Char
  | '-' :: rest => rest
  | '+' :: rest => rest
  | rest => rest

def isDigitOrUnderscore (c : Char) : Bool := c.isDigit || c == '_'

/-- Whether digits and underscores begin with a digit. -/
def isDigits (text : List Char) : Bool := text.head?.any Char.isDigit && text.all isDigitOrUnderscore

/-- Whether a part after a colon is a number below sixty. -/
def isSixtieth : List Char → Bool
  | [unit] => unit.isDigit
  | [ten, unit] => decide ('0' ≤ ten) && decide (ten ≤ '5') && unit.isDigit
  | _ => false

def isBinaryDigit (c : Char) : Bool := c == '0' || c == '1' || c == '_'

def isOctalDigit (c : Char) : Bool := (decide ('0' ≤ c) && decide (c ≤ '7')) || c == '_'

def isHexDigit (c : Char) : Bool := (Json.hexValue? c).isSome || c == '_'

/-- Whether a text has the form of a whole number. -/
def isWhole (text : List Char) : Bool :=
  match dropSign text with
  | ['0'] => true
  | '0' :: 'b' :: rest => !rest.isEmpty && rest.all isBinaryDigit
  | '0' :: 'x' :: rest => !rest.isEmpty && rest.all isHexDigit
  | '0' :: rest => rest.all isOctalDigit
  | digits =>
    match splitOn ':' digits with
    | first :: rest => isDigits first && rest.all isSixtieth
    | [] => false

/-- Whether nothing follows but an exponent, which always has a sign. -/
def isExponent : List Char → Bool
  | [] => true
  | e :: sign :: digits =>
    (e == 'e' || e == 'E') && (sign == '+' || sign == '-') && !digits.isEmpty &&
      digits.all Char.isDigit
  | _ => false

/-- Whether a text has the form of a number with a point. -/
def isReal (text : List Char) : Bool :=
  let unsigned := dropSign text
  let whole := unsigned.takeWhile (· != '.')
  match unsigned.drop whole.length with
  | [] => false
  | _ :: after =>
    let ending := after.dropWhile isDigitOrUnderscore
    if whole.isEmpty then
      let word := String.ofList after
      ["inf", "Inf", "INF"].contains word ||
        (unsigned == text && (["nan", "NaN", "NAN"].contains word ||
          (after.head?.any Char.isDigit && isExponent ending)))
    else
      match splitOn ':' whole with
      | [only] => isDigits only && isExponent ending
      | first :: rest => isDigits first && rest.all isSixtieth && ending.isEmpty
      | [] => false

/-! ## Moments -/

/-- A number of one or two digits, and what follows it. -/
def shortNumber? : List Char → Option (List Char × List Char)
  | a :: b :: rest =>
    if a.isDigit && b.isDigit then some ([a, b], rest)
    else if a.isDigit then some ([a], b :: rest) else none
  | [a] => if a.isDigit then some ([a], []) else none
  | [] => none

/-- A number of two digits, and what follows it. -/
def twoDigits? : List Char → Option (List Char × List Char)
  | a :: b :: rest => if a.isDigit && b.isDigit then some ([a, b], rest) else none
  | _ => none

def expect? (c : Char) : List Char → Option (List Char)
  | first :: rest => if first = c then some rest else none
  | [] => none

/-- A zone: its sign, and the digits of its hours and minutes; none of them for universal
time. -/
structure ZoneText where
  sign : Option Char
  hours : List Char
  minutes : List Char

/-- The parts of a time of day. -/
structure TimeText where
  hour : List Char
  minute : List Char
  second : List Char
  fraction : List Char
  zone : Option ZoneText

/-- The parts of a date, and of the time of day behind it. -/
structure MomentText where
  year : List Char
  month : List Char
  day : List Char
  time : Option TimeText

/-- What stands between a date and a time. -/
def dateEnd? : List Char → Option (List Char)
  | 'T' :: rest => some rest
  | 't' :: rest => some rest
  | c :: rest => if isSpaceOrTab c then some (rest.dropWhile isSpaceOrTab) else none
  | [] => none

/-- The zone after a time, if there is one. -/
def zoneText? (text : List Char) : Option (Option ZoneText) :=
  match text with
  | [] => some none
  | _ =>
    match text.dropWhile isSpaceOrTab with
    | ['Z'] => some (some ⟨none, [], []⟩)
    | sign :: rest =>
      if sign == '+' || sign == '-' then do
        let (hours, rest) ← shortNumber? rest
        match rest with
        | [] => some (some ⟨some sign, hours, []⟩)
        | ':' :: rest =>
          let (minutes, rest) ← twoDigits? rest
          if rest.isEmpty then some (some ⟨some sign, hours, minutes⟩) else none
        | _ => none
      else none
    | [] => none

def timeText? (text : List Char) : Option TimeText := do
  let (hour, rest) ← shortNumber? text
  let (minute, rest) ← twoDigits? (← expect? ':' rest)
  let (second, rest) ← twoDigits? (← expect? ':' rest)
  let pointed := rest.head? == some '.'
  let fraction := if pointed then (rest.drop 1).takeWhile Char.isDigit else []
  let rest := if pointed then (rest.drop 1).dropWhile Char.isDigit else rest
  return ⟨hour, minute, second, fraction, ← zoneText? rest⟩

/-- The parts of a date, or of a date and a time. -/
def momentText? (text : List Char) : Option MomentText := do
  let year := text.take 4
  if year.length ≠ 4 || !year.all Char.isDigit then none
  else
    let (month, rest) ← shortNumber? (← expect? '-' (text.drop 4))
    let (day, rest) ← shortNumber? (← expect? '-' rest)
    if rest.isEmpty then return ⟨year, month, day, none⟩
    else return ⟨year, month, day, some (← timeText? (← dateEnd? rest))⟩

/-- Whether a text has the form of a moment. Alone, a date has two digits for month and
day. -/
def isMoment (text : List Char) : Bool :=
  match momentText? text with
  | some moment => moment.time.isSome || text.length == 10
  | none => false

/-! ## Resolution -/

/-- A text without the end of its last line. -/
def dropLastBreak (text : List Char) : List Char :=
  if text.getLast? == some '\n' then text.dropLast else text

/-- What a text without quotes is. The end of a last line does not count, unless nothing
stands before it. -/
def Kind.ofPlain (text : String) : Kind :=
  if text.isEmpty then .nothing
  else
    let chars := dropLastBreak text.toList
    let word := String.ofList chars
    if truthWords.contains word then .truth
    else if nothingWords.contains word then .nothing
    else if isReal chars then .real
    else if isWhole chars then .whole
    else if isMoment chars then .moment
    else if word = "<<" then .merge
    else if word = "=" then .standsFor
    else if ["!", "&", "*"].contains word then .unknown
    else .text

end Yaml
end GraphCache

import GraphCache.Json.Basic
import GraphCache.Number.Shortest
import GraphCache.Text.Quoted

/-! Two ways to write a value as text. `print` writes it as JSON in a given
style; `display` is the reading form in which identifiers become text: a text
stands for itself, and only inside a list or an object it is quoted. -/
namespace GraphCache
namespace Json

/-- The decisions of one written form: what separates items and what separates a
name from its value, whether fields are sorted by name, and whether characters
beyond printable ASCII are escaped. -/
structure Style where
  itemSeparator : String
  nameSeparator : String
  sorted : Bool
  ascii : Bool

/-- The form of key filters: no spaces, names in code point order at every level,
so that the order of arguments does not show. -/
def keyStyle : Style := ⟨",", ":", true, true⟩

/-- The form of request bodies. -/
def bodyStyle : Style := ⟨", ", ": ", false, true⟩

/-- The form of single lines for other programs. -/
def lineStyle : Style := ⟨", ", ": ", false, false⟩

def unicodeEscape (unit : Nat) : List Char := '\\' :: 'u' :: Text.hexDigits 4 unit

/-- One character inside double quotes. Beyond the first plane an escape is a pair
of surrogates. -/
def escapeChar (ascii : Bool) (c : Char) : List Char :=
  if c = '"' then ['\\', '"']
  else if c = '\\' then ['\\', '\\']
  else if c = '\n' then ['\\', 'n']
  else if c = '\r' then ['\\', 'r']
  else if c = '\t' then ['\\', 't']
  else if c.toNat = 8 then ['\\', 'b']
  else if c.toNat = 12 then ['\\', 'f']
  else if c.toNat < 32 then unicodeEscape c.toNat
  else if !ascii || decide (c.toNat < 127) then [c]
  else if c.toNat < 0x10000 then unicodeEscape c.toNat
  else
    let offset := c.toNat - 0x10000
    unicodeEscape (0xD800 + offset / 1024) ++ unicodeEscape (0xDC00 + offset % 1024)

def printText (ascii : Bool) (text : String) : String :=
  String.ofList ('"' :: text.toList.flatMap (escapeChar ascii) ++ ['"'])

/-- Written fields in code point order of their names. -/
def sortByName (fields : List (String × String)) : List (String × String) :=
  fields.mergeSort fun left right => decide (left.1 ≤ right.1)

mutual

def print (style : Style) : Json → String
  | null => "null"
  | bool true => "true"
  | bool false => "false"
  | int value => toString value
  | float value => value.render Decimal.valueLayout
  | string value => printText style.ascii value
  | array items => "[" ++ style.itemSeparator.intercalate (printItems style items) ++ "]"
  | object fields =>
    let written := printFields style fields
    let ordered := if style.sorted then sortByName written else written
    "\x7b" ++ style.itemSeparator.intercalate (ordered.map fun entry =>
      printText style.ascii entry.1 ++ style.nameSeparator ++ entry.2) ++ "\x7d"

def printItems (style : Style) : List Json → List String
  | [] => []
  | item :: rest => print style item :: printItems style rest

def printFields (style : Style) : List (String × Json) → List (String × String)
  | [] => []
  | (name, value) :: rest => (name, print style value) :: printFields style rest

end

mutual

/-- The reading form of a value inside another one. -/
def literal : Json → String
  | null => "None"
  | bool true => "True"
  | bool false => "False"
  | int value => toString value
  | float value => value.render Decimal.textLayout
  | string value => Text.quoted value
  | array items => "[" ++ ", ".intercalate (literalItems items) ++ "]"
  | object fields => "\x7b" ++ ", ".intercalate (literalFields fields) ++ "\x7d"

def literalItems : List Json → List String
  | [] => []
  | item :: rest => literal item :: literalItems rest

def literalFields : List (String × Json) → List String
  | [] => []
  | (name, value) :: rest =>
    (Text.quoted name ++ ": " ++ literal value) :: literalFields rest

end

/-- The reading form of a value: a text as it is, anything else as inside a list. -/
def display : Json → String
  | string value => value
  | value => literal value

end Json
end GraphCache

import GraphCache.Text.Lowercase
import GraphCache.Text.PrintableTable

/-! Texts between quotes. Single quotes are used unless the text itself holds a
single quote and no double quote. Inside, a backslash and the quote in use are
escaped, and so is every character without a printed form. -/
namespace GraphCache
namespace Text

def isPrintable (c : Char) : Bool :=
  if c.toNat < 128 then decide (32 ≤ c.toNat) && decide (c.toNat < 127)
  else !inRanges unprintableRanges c.toNat

/-- The last `width` hexadecimal digits of a number, in lower case. -/
def hexDigits : Nat → Nat → List Char
  | 0, _ => []
  | width + 1, value => hexDigits width (value / 16) ++ [Nat.digitChar (value % 16)]

/-- One character between quotes. -/
def quoteChar (quote : Char) (c : Char) : List Char :=
  if c = quote ∨ c = '\\' then ['\\', c]
  else if c = '\n' then ['\\', 'n']
  else if c = '\r' then ['\\', 'r']
  else if c = '\t' then ['\\', 't']
  else if isPrintable c then [c]
  else if c.toNat < 0x100 then '\\' :: 'x' :: hexDigits 2 c.toNat
  else if c.toNat < 0x10000 then '\\' :: 'u' :: hexDigits 4 c.toNat
  else '\\' :: 'U' :: hexDigits 8 c.toNat

/-- The quote that a text is put between. -/
def quoteFor (text : List Char) : Char :=
  if text.contains '\'' && !text.contains '"' then '"' else '\''

def quoted (text : String) : String :=
  let chars := text.toList
  let quote := quoteFor chars
  String.ofList (quote :: chars.flatMap (quoteChar quote) ++ [quote])

/-- One byte between quotes. -/
def quoteByte (quote : Char) (byte : UInt8) : List Char :=
  if byte.toNat < 128 then quoteChar quote (Char.ofNat byte.toNat)
  else '\\' :: 'x' :: hexDigits 2 byte.toNat

/-- Bytes between quotes, behind a mark: those of ASCII as characters, the others by their
numbers. -/
def quotedBytes (bytes : List UInt8) : String :=
  let quote := quoteFor (bytes.map fun byte => Char.ofNat byte.toNat)
  String.ofList ('b' :: quote :: bytes.flatMap (quoteByte quote) ++ [quote])

/-- Half of a surrogate pair, which is no character. -/
def isSurrogate (code : Nat) : Bool := decide (0xD800 ≤ code) && decide (code ≤ 0xDFFF)

/-- A text of code points between quotes. Halves of surrogate pairs are escaped. -/
def quotedPoints (points : List Nat) : String :=
  let quote := quoteFor (points.map Char.ofNat)
  String.ofList (quote :: points.flatMap (fun code =>
    if isSurrogate code then '\\' :: 'u' :: hexDigits 4 code
    else quoteChar quote (Char.ofNat code)) ++ [quote])

end Text
end GraphCache

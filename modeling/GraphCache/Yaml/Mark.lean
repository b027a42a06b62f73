import GraphCache.Json.Reader
import GraphCache.Number.Written
import GraphCache.Text.Utf8
import GraphCache.Yaml.Cursor

/-! What is said about a value beside its text: the name under which it can be met again,
the tag that says what it is, and the directives before a document. -/
namespace GraphCache
namespace Yaml

def isNameChar (c : Char) : Bool := c.isAlphanum || c == '-' || c == '_'

/-- A name behind its indicator, at which the cursor stands. -/
def readName (cursor : Cursor) : Except Fault (String × Cursor) :=
  let start := cursor.step
  let name := start.rest.takeWhile isNameChar
  let after := start.skip name.length
  if name.isEmpty then .error .badName
  else if atBlank after.rest || after.rest.head?.any "?:,]\x7d%@\x60".toList.contains then
    .ok (String.ofList name, after)
  else .error .badName

/-! ## Tags -/

/-- A tag as it is written: a suffix behind a handle, if there is one. -/
structure Tag where
  handle : Option String
  suffix : String
deriving DecidableEq, Repr

/-- A handle: a single exclamation mark, or two with a name between them. -/
def readHandle (cursor : Cursor) : Except Fault (String × Cursor) :=
  match cursor.rest with
  | '!' :: rest =>
    if rest.head? == some ' ' then .ok ("!", cursor.step)
    else
      let name := rest.takeWhile isNameChar
      if (rest.drop name.length).head? == some '!' then
        .ok ("!" ++ String.ofList name ++ "!", cursor.skip (name.length + 2))
      else .error .badTag
  | _ => .error .badTag

def isAddressChar (c : Char) : Bool := c.isAlphanum || "-;/?:@&=+$,_.!~*'()[]".toList.contains c

/-- The bytes that are escaped in a row. -/
def readEscapes : Nat → List UInt8 → Cursor → Except Fault (List UInt8 × Cursor)
  | 0, _, _ => .error .badTag
  | rounds + 1, bytes, cursor =>
    match cursor.rest with
    | '%' :: rest =>
      match rest.take 2, Json.hexNumber? (rest.take 2) with
      | [_, _], some byte => readEscapes rounds (bytes ++ [UInt8.ofNat byte]) (cursor.skip 3)
      | _, _ => .error .badTag
    | _ => .ok (bytes, cursor)

/-- The characters of a tag; those beyond ASCII are escaped. -/
def readAddressWithin : Nat → List Char → Cursor → Except Fault (List Char × Cursor)
  | 0, _, _ => .error .badTag
  | rounds + 1, text, cursor =>
    match cursor.rest with
    | [] => .ok (text, cursor)
    | c :: rest =>
      if c = '%' then do
        let (bytes, next) ← readEscapes (rest.length + 2) [] cursor
        match Text.Utf8.decode? bytes with
        | some chars => readAddressWithin rounds (text ++ chars) next
        | none => throw .badTag
      else if isAddressChar c then readAddressWithin rounds (text ++ [c]) cursor.step
      else .ok (text, cursor)

def readAddress (cursor : Cursor) : Except Fault (String × Cursor) := do
  let (text, next) ← readAddressWithin (cursor.rest.length + 1) [] cursor
  if text.isEmpty then throw .badTag
  return (String.ofList text, next)

/-- A tag: an address between brackets, a mark alone, or a handle with a suffix. The
cursor stands at the mark. -/
def readTag (cursor : Cursor) : Except Fault (Tag × Cursor) := do
  let rest := cursor.rest.drop 1
  let (tag, next) ←
    if rest.head? == some '<' then do
      let (address, after) ← readAddress (cursor.skip 2)
      if after.rest.head? ≠ some '>' then throw .badTag
      pure (Tag.mk none address, after.step)
    else if atBlank rest then pure (Tag.mk none "!", cursor.step)
    else do
      let handled := (rest.takeWhile fun c => c != ' ' && !isBreak c).contains '!'
      let (handle, after) ← if handled then readHandle cursor else pure ("!", cursor.step)
      let (suffix, last) ← readAddress after
      pure (Tag.mk (some handle) suffix, last)
  if atSpace next.rest then return (tag, next) else throw .badTag

/-! ## Directives -/

/-- A line before a document. -/
inductive Directive where
  /-- The version of the rules that the document follows. -/
  | version (major : Nat)
  /-- What a handle stands for. -/
  | handle (name stands : String)
  /-- Any other line, which says nothing here. -/
  | other
deriving DecidableEq, Repr

/-- A number in a directive. -/
def readVersionNumber (cursor : Cursor) : Except Fault (Nat × Cursor) :=
  let digits := cursor.rest.takeWhile Char.isDigit
  if digits.isEmpty then .error .badDirective
  else .ok (Written.decimal digits, cursor.skip digits.length)

/-- A directive up to the end of its line; the cursor stands at its percent sign. -/
def readDirective (cursor : Cursor) : Except Fault (Directive × Cursor) := do
  let start := cursor.step
  let name := start.rest.takeWhile isNameChar
  let after := start.skip name.length
  if name.isEmpty || !atSpace after.rest then throw .badDirective
  let (directive, ended) ←
    if name == "YAML".toList then do
      let (major, next) ← readVersionNumber after.skipSpaces
      if next.rest.head? ≠ some '.' then throw .badDirective
      let (_, last) ← readVersionNumber next.step
      if !atSpace last.rest then throw .badDirective
      pure (Directive.version major, last)
    else if name == "TAG".toList then do
      let (handle, next) ← readHandle after.skipSpaces
      if next.rest.head? ≠ some ' ' then throw .badDirective
      let (stands, last) ← readAddress next.skipSpaces
      if !atSpace last.rest then throw .badDirective
      pure (Directive.handle handle stands, last)
    else pure (Directive.other, after.skipLine)
  return (directive, ← ended.closeLine .badDirective)

end Yaml
end GraphCache

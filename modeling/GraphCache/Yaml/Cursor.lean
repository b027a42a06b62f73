import GraphCache.Yaml.Fault

/-! Places in the text of a settings file. Indentation is counted in columns, so a
place knows its column; whether a text can be a key depends on its line and on how many
characters stand before it. -/
namespace GraphCache
namespace Yaml

/-- Characters that end a line. -/
def isBreak (c : Char) : Bool := c == '\n' || c == '\x85' || c == '\u2028' || c == '\u2029'

def isSpaceOrTab (c : Char) : Bool := c == ' ' || c == '\t'

/-- Whether a text is over or begins with the end of a line. -/
def atLineEnd : List Char → Bool
  | [] => true
  | c :: _ => isBreak c

/-- Whether a text is over or begins with a space or the end of a line. -/
def atSpace : List Char → Bool
  | [] => true
  | c :: _ => c == ' ' || isBreak c

/-- Whether a text is over or begins with any blank. -/
def atBlank : List Char → Bool
  | [] => true
  | c :: _ => isSpaceOrTab c || isBreak c

/-- What is left of a text, how many characters stand before it, and the line and column
where it starts. -/
structure Cursor where
  rest : List Char
  index : Nat
  line : Nat
  column : Nat

namespace Cursor

/-- Goes over one character. A byte order mark takes no column. -/
def step (cursor : Cursor) : Cursor :=
  match cursor.rest with
  | [] => cursor
  | c :: rest =>
    if isBreak c then ⟨rest, cursor.index + 1, cursor.line + 1, 0⟩
    else ⟨rest, cursor.index + 1, cursor.line, cursor.column + if c = '\ufeff' then 0 else 1⟩

def skip : Nat → Cursor → Cursor
  | 0, cursor => cursor
  | count + 1, cursor => skip count cursor.step

def skipWhile (test : Char → Bool) (cursor : Cursor) : Cursor :=
  skip (cursor.rest.takeWhile test).length cursor

/-- Goes over spaces. -/
def skipSpaces (cursor : Cursor) : Cursor := cursor.skipWhile (· == ' ')

/-- Goes to the end of the line. -/
def skipLine (cursor : Cursor) : Cursor := cursor.skipWhile (!isBreak ·)

/-- Goes over the end of a line, if it is one, and gives it as it counts in a text: only
the separators of lines and paragraphs stay what they are. -/
def takeBreak (cursor : Cursor) : List Char × Cursor :=
  match cursor.rest with
  | c :: _ =>
    if isBreak c then ([if c = '\x85' then '\n' else c], cursor.step) else ([], cursor)
  | [] => ([], cursor)

def isOver (cursor : Cursor) : Bool := cursor.rest.isEmpty

/-- Whether a mark of three characters stands alone. -/
def isMarked (mark : String) (cursor : Cursor) : Bool :=
  mark.toList.isPrefixOf cursor.rest && atBlank (cursor.rest.drop 3)

/-- Whether a line begins here that separates documents. -/
def isSeparator (cursor : Cursor) : Bool := cursor.isMarked "---" || cursor.isMarked "..."

/-- Goes over spaces and a comment up to the end of the line, where nothing else may
stand. -/
def closeLine (cursor : Cursor) (fault : Fault) : Except Fault Cursor :=
  let spaced := cursor.skipSpaces
  let ended := if spaced.rest.head? == some '#' then spaced.skipLine else spaced
  if atLineEnd ended.rest then .ok ended.takeBreak.2 else .error fault

end Cursor
end Yaml
end GraphCache

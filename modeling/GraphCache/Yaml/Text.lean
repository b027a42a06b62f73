import GraphCache.Json.Reader
import GraphCache.Yaml.Cursor

/-! The four ways to write a text: plain, between single or double quotes, and as a
block. Ends of lines inside a text are folded: a single one is a space, and of several
the first is dropped. -/
namespace GraphCache
namespace Yaml

/-- A text and the place after it. -/
abbrev Reading := List Char × Cursor

/-- The ends of lines after a first one, folded with it. Only a line feed becomes a space,
or nothing if others follow. -/
def folded (first others : List Char) : List Char :=
  (if first ≠ ['\n'] then first else if others.isEmpty then [' '] else []) ++ others

/-! ## Plain texts -/

def isFlowPunctuation (c : Char) : Bool :=
  c == ',' || c == '[' || c == ']' || c == '\x7b' || c == '\x7d'

/-- Whether a colon before this text ends a plain text. -/
def endsKey (flow : Bool) (rest : List Char) : Bool :=
  atBlank rest || (flow && rest.head?.any isFlowPunctuation)

/-- The number of characters up to the next blank or mark of punctuation. -/
def plainLength (flow : Bool) : List Char → Nat
  | [] => 0
  | c :: rest =>
    if isSpaceOrTab c || isBreak c || (c == ':' && endsKey flow rest) ||
        (flow && (isFlowPunctuation c || c == '?')) then 0
    else plainLength flow rest + 1

/-- Goes over spaces and ends of lines and gives the latter, unless a line comes that
separates documents. -/
def plainBreaks : Nat → List Char → Cursor → Option (List Char) × Cursor
  | 0, breaks, cursor => (some breaks, cursor)
  | rounds + 1, breaks, cursor =>
    match cursor.rest with
    | ' ' :: _ => plainBreaks rounds breaks cursor.step
    | c :: _ =>
      if isBreak c then
        let (ended, next) := cursor.takeBreak
        if next.isSeparator then (none, next) else plainBreaks rounds (breaks ++ ended) next
      else (some breaks, cursor)
    | [] => (some breaks, cursor)

/-- The white space after a part of a plain text, folded, and whether a line ends in it.
It is empty where the text cannot go on. -/
def plainSpace (cursor : Cursor) : List Char × Bool × Cursor :=
  let spaces := cursor.rest.takeWhile (· == ' ')
  let after := cursor.skip spaces.length
  if after.rest.head?.any isBreak then
    let (first, next) := after.takeBreak
    if next.isSeparator then ([], true, next)
    else
      match plainBreaks (next.rest.length + 1) [] next with
      | (some others, last) => (folded first others, true, last)
      | (none, last) => ([], true, last)
  else (spaces, false, after)

/-- A plain text, whether a line ends after its last part or between two, and the place
after it. -/
structure PlainReading where
  text : List Char
  broken : Bool
  cursor : Cursor

/-- Goes on with a plain text behind `text`, of which `space` is only part if more
follows. Outside brackets a line that is not indented more than its surroundings ends
it. -/
def plainParts (flow : Bool) (indent : Int) : Nat → List Char → List Char → Bool → Cursor → PlainReading
  | 0, text, _, broken, cursor => ⟨text, broken, cursor⟩
  | rounds + 1, text, space, broken, cursor =>
    let length := if cursor.rest.head? == some '#' then 0 else plainLength flow cursor.rest
    if length = 0 then ⟨text, broken, cursor⟩
    else
      let longer := text ++ space ++ cursor.rest.take length
      let (more, ended, next) := plainSpace (cursor.skip length)
      if more.isEmpty || next.rest.head? == some '#' ||
          (!flow && decide ((next.column : Int) ≤ indent)) then ⟨longer, ended, next⟩
      else plainParts flow indent rounds longer more ended next

def plainText (flow : Bool) (indent : Int) (cursor : Cursor) : PlainReading :=
  plainParts flow indent (cursor.rest.length + 1) [] [] false cursor

/-- Whether a plain text starts here. -/
def startsPlain (flow : Bool) : List Char → Bool
  | [] => false
  | c :: rest =>
    if isSpaceOrTab c || isBreak c then false
    else if c == '-' then !atBlank rest
    else if c == '?' || c == ':' then !flow && !atBlank rest
    else !(isFlowPunctuation c || "#&*!|>'\"%@\x60".toList.contains c)

/-! ## Quoted texts -/

def simpleEscape? : Char → Option Nat
  | '0' => some 0
  | 'a' => some 7
  | 'b' => some 8
  | 't' => some 9
  | '\t' => some 9
  | 'n' => some 10
  | 'v' => some 11
  | 'f' => some 12
  | 'r' => some 13
  | 'e' => some 27
  | ' ' => some 32
  | '"' => some 34
  | '/' => some 47
  | '\\' => some 92
  | 'N' => some 0x85
  | '_' => some 0xA0
  | 'L' => some 0x2028
  | 'P' => some 0x2029
  | _ => none

/-- The number of hexadecimal digits of an escape. -/
def escapeWidth? : Char → Option Nat
  | 'x' => some 2
  | 'u' => some 4
  | 'U' => some 8
  | _ => none

/-- Goes over the blanks at the beginnings of lines and gives the ends of the empty
ones. -/
def quotedBreaks : Nat → List Char → Cursor → Except Fault Reading
  | 0, breaks, cursor => .ok (breaks, cursor)
  | rounds + 1, breaks, cursor =>
    if cursor.isSeparator then .error .separatorInText
    else
      let next := cursor.skipWhile isSpaceOrTab
      if next.rest.head?.any isBreak then
        let (ended, last) := next.takeBreak
        quotedBreaks rounds (breaks ++ ended) last
      else .ok (breaks, next)

/-- White space inside quotes. -/
def quotedSpace (cursor : Cursor) : Except Fault Reading :=
  let spaces := cursor.rest.takeWhile isSpaceOrTab
  let after := cursor.skip spaces.length
  match after.rest with
  | [] => .error .unclosedText
  | c :: rest =>
    if isBreak c then do
      let (first, next) := after.takeBreak
      let (others, last) ← quotedBreaks (rest.length + 1) [] next
      return (folded first others, last)
    else .ok (spaces, after)

/-- An escape between double quotes; the cursor stands after the backslash. -/
def escaped (cursor : Cursor) : Except Fault Reading :=
  match cursor.rest with
  | [] => .error .badEscape
  | c :: rest =>
    match simpleEscape? c, escapeWidth? c with
    | some code, _ => .ok ([Char.ofNat code], cursor.step)
    | none, some width =>
      let digits := rest.take width
      match Json.hexNumber? digits with
      | some code =>
        if digits.length < width then .error .badEscape
        else if code < 0x110000 then .ok ([Json.charOfUnit code], cursor.skip (width + 1))
        else .error (.value (.codePoint code))
      | none => .error .badEscape
    | none, none =>
      if isBreak c then quotedBreaks (rest.length + 1) [] cursor.takeBreak.2 else .error .badEscape

/-- Goes on with a text between quotes behind `before`, which is kept in reverse. -/
def quotedParts (quote : Char) : Nat → List Char → Cursor → Except Fault Reading
  | 0, _, _ => .error .tooDeep
  | rounds + 1, before, cursor =>
    match cursor.rest with
    | [] => .error .unclosedText
    | c :: rest =>
      if isSpaceOrTab c || isBreak c then do
        let (space, next) ← quotedSpace cursor
        quotedParts quote rounds (space.reverse ++ before) next
      else if c == quote then
        if quote == '\'' && rest.head? == some '\'' then
          quotedParts quote rounds ('\'' :: before) (cursor.skip 2)
        else .ok (before.reverse, cursor.step)
      else if quote == '"' && c == '\\' then do
        let (text, next) ← escaped cursor.step
        quotedParts quote rounds (text.reverse ++ before) next
      else quotedParts quote rounds (c :: before) cursor.step

/-- A text between quotes; the cursor stands at the first one. -/
def quotedText (cursor : Cursor) : Except Fault Reading :=
  match cursor.rest with
  | [] => .error .unexpected
  | quote :: rest => quotedParts quote (rest.length + 1) [] cursor.step

/-! ## Blocks -/

/-- What becomes of the ends of lines after a block. -/
inductive Chomping where
  | clip
  | strip
  | keep
deriving DecidableEq, Repr

def chomping? : Char → Option Chomping
  | '-' => some .strip
  | '+' => some .keep
  | _ => none

/-- The indentation that a header gives. -/
def headerDigit? (c : Char) : Option Nat :=
  if c.isDigit then some (c.toNat - '0'.toNat) else none

/-- The chomping and the indentation of a block, in either order, and what follows
them. -/
def headerMarks (cursor : Cursor) : Option Chomping × Option Nat × Cursor :=
  match cursor.rest.head?.bind chomping?, cursor.rest.head?.bind headerDigit? with
  | some chomping, _ =>
    let next := cursor.step
    match next.rest.head?.bind headerDigit? with
    | some digit => (some chomping, some digit, next.step)
    | none => (some chomping, none, next)
  | none, some digit =>
    let next := cursor.step
    match next.rest.head?.bind chomping? with
    | some chomping => (some chomping, some digit, next.step)
    | none => (none, some digit, next)
  | none, none => (none, none, cursor)

/-- The header of a block, up to the end of its line. Behind its marks nothing but a space
may stand, and an indentation is not zero. -/
def blockHeader (cursor : Cursor) : Except Fault (Chomping × Option Nat × Cursor) := do
  let (chomping, digit, after) := headerMarks cursor
  if digit = some 0 || !atSpace after.rest then throw .badBlockHeader
  return (chomping.getD .clip, digit, ← after.closeLine .badBlockHeader)

/-- Goes over empty lines to find the indentation of a block: the ends of lines, and
the furthest column. -/
def blockIndent : Nat → List Char → Nat → Cursor → List Char × Nat × Cursor
  | 0, breaks, furthest, cursor => (breaks, furthest, cursor)
  | rounds + 1, breaks, furthest, cursor =>
    match cursor.rest with
    | ' ' :: _ =>
      let next := cursor.step
      blockIndent rounds breaks (max furthest next.column) next
    | c :: _ =>
      if isBreak c then
        let (ended, next) := cursor.takeBreak
        blockIndent rounds (breaks ++ ended) furthest next
      else (breaks, furthest, cursor)
    | [] => (breaks, furthest, cursor)

/-- Goes over the empty lines of a block with a known indentation. -/
def blockBreaks (indent : Nat) : Nat → List Char → Cursor → Reading
  | 0, breaks, cursor => (breaks, cursor)
  | rounds + 1, breaks, cursor =>
    let spaces := (cursor.rest.takeWhile (· == ' ')).length
    let next := cursor.skip (min spaces (indent - cursor.column))
    if next.rest.head?.any isBreak then
      let (ended, last) := next.takeBreak
      blockBreaks indent rounds (breaks ++ ended) last
    else (breaks, next)

/-- The lines of a block: its text without the end of the last line, that end, the ends of
the empty lines behind it, and the place after them. -/
structure BlockReading where
  text : List Char
  ended : List Char
  breaks : List Char
  cursor : Cursor

/-- Goes on with the lines of a block behind `text`, with the ends of the empty lines
before the next one. -/
def blockLines (folds : Bool) (indent : Nat) : Nat → List Char → List Char → Cursor → BlockReading
  | 0, text, breaks, cursor => ⟨text, [], breaks, cursor⟩
  | rounds + 1, text, breaks, cursor =>
    if cursor.column ≠ indent || cursor.isOver then ⟨text, [], breaks, cursor⟩
    else
      let line := cursor.rest.takeWhile (!isBreak ·)
      let longer := text ++ breaks ++ line
      let (ended, after) := (cursor.skip line.length).takeBreak
      let (more, next) := blockBreaks indent (after.rest.length + 1) [] after
      if next.column = indent && !next.isOver then
        let joint :=
          if folds && ended = ['\n'] && !cursor.rest.head?.any isSpaceOrTab &&
              !next.rest.head?.any isSpaceOrTab then
            if more.isEmpty then [' '] else []
          else ended
        blockLines folds indent rounds (longer ++ joint) more next
      else ⟨longer, ended, more, next⟩

/-- A block; the cursor stands at its indicator, and `indent` is the column of what
surrounds it. -/
def blockText (indent : Int) (cursor : Cursor) : Except Fault Reading := do
  let folds := cursor.rest.head? == some '>'
  let (chomping, digit, start) ← blockHeader cursor.step
  let least := (max 1 (indent + 1)).toNat
  let rounds := start.rest.length + 1
  let (breaks, column, first) : List Char × Nat × Cursor :=
    match digit with
    | some digit =>
      let column := least + digit - 1
      let (breaks, first) := blockBreaks column rounds [] start
      (breaks, column, first)
    | none =>
      let (breaks, furthest, first) := blockIndent rounds [] 0 start
      (breaks, max least furthest, first)
  let block := blockLines folds column rounds [] breaks first
  return match chomping with
    | .strip => (block.text, block.cursor)
    | .clip => (block.text ++ block.ended, block.cursor)
    | .keep => (block.text ++ block.ended ++ block.breaks, block.cursor)

end Yaml
end GraphCache

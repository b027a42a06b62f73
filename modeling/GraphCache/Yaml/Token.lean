import GraphCache.Yaml.Mark
import GraphCache.Yaml.Text

/-! The tokens of a settings file. Indentation becomes brackets: a token that stands
further right than its surroundings opens a nesting, and one further left closes all that
lie between. That a text is a key only shows at the colon behind it, so tokens wait until
it is settled whether they begin a key. -/
namespace GraphCache
namespace Yaml

inductive Token where
  | directive (line : Directive)
  | documentStart
  | documentEnd
  | blockList
  | blockMapping
  | blockEnd
  | flowList
  | flowListEnd
  | flowMapping
  | flowMappingEnd
  | comma
  | item
  | key
  | value
  | reference (name : String)
  | anchor (name : String)
  | tag (tag : Tag)
  | text (text : String) (plain : Bool)
deriving DecidableEq, Repr

/-- A token that may begin a key: how many tokens stand before it, whether it must begin
one, and where it stands. -/
structure PossibleKey where
  number : Nat
  required : Bool
  index : Nat
  line : Nat
  column : Nat

/-- A file that is read up to the cursor. Tokens are kept in reverse, possible keys with
the number of brackets around them, and the columns of open nestings innermost first. -/
structure Lexer where
  cursor : Cursor
  tokens : List Token
  keys : List (Nat × PossibleKey)
  brackets : Nat
  indent : Int
  indents : List Int
  keyAllowed : Bool

namespace Lexer

def start (text : List Char) : Lexer :=
  ⟨⟨text, 0, 0, 0⟩, [], [], 0, -1, [], true⟩

def push (lexer : Lexer) (token : Token) : Lexer := { lexer with tokens := token :: lexer.tokens }

/-- Puts a token before those from a number on. -/
def insert (lexer : Lexer) (number : Nat) (token : Token) : Lexer :=
  { lexer with tokens := lexer.tokens.insertIdx (lexer.tokens.length - number) token }

/-! ## Keys -/

/-- The greatest length of a key that is known by the colon behind it. -/
def greatestKeyLength : Nat := 1024

/-- Whether a key has ended without a colon. -/
def isStale (cursor : Cursor) (key : PossibleKey) : Bool :=
  key.line != cursor.line || decide (greatestKeyLength < cursor.index - key.index)

/-- Drops keys that have ended without a colon. -/
def dropStale (lexer : Lexer) : Except Fault Lexer :=
  if lexer.keys.any fun entry => isStale lexer.cursor entry.2 && entry.2.required then
    .error .colonExpected
  else .ok { lexer with keys := lexer.keys.filter fun entry => !isStale lexer.cursor entry.2 }

/-- The possible key between the innermost brackets. -/
def key? (lexer : Lexer) : Option PossibleKey :=
  (lexer.keys.find? (·.1 == lexer.brackets)).map Prod.snd

def withoutKey (lexer : Lexer) : Lexer :=
  { lexer with keys := lexer.keys.filter (·.1 != lexer.brackets) }

/-- Drops the possible key between the innermost brackets. -/
def dropKey (lexer : Lexer) : Except Fault Lexer :=
  if lexer.key?.any (·.required) then .error .colonExpected else .ok lexer.withoutKey

/-- Notes that the next token may begin a key. Where a nesting goes on it must. -/
def saveKey (lexer : Lexer) : Except Fault Lexer := do
  if !lexer.keyAllowed then return lexer
  let dropped ← lexer.dropKey
  let cursor := lexer.cursor
  let key : PossibleKey :=
    ⟨lexer.tokens.length, lexer.brackets == 0 && lexer.indent == cursor.column, cursor.index,
      cursor.line, cursor.column⟩
  return { dropped with keys := (lexer.brackets, key) :: dropped.keys }

/-- How many tokens do not wait for a key to be settled. -/
def settled (lexer : Lexer) : Nat :=
  lexer.keys.foldl (fun least entry => min least entry.2.number) lexer.tokens.length

/-! ## Nestings -/

/-- Closes nestings that begin to the right of a column. -/
def closeFrom (column : Int) : List Int → Int → List Token → Int × List Int × List Token
  | [], indent, tokens => (indent, [], tokens)
  | outer :: rest, indent, tokens =>
    if column < indent then closeFrom column rest outer (.blockEnd :: tokens)
    else (indent, outer :: rest, tokens)

/-- Closes nestings that begin to the right of a column; between brackets there are
none. -/
def close (lexer : Lexer) (column : Int) : Lexer :=
  if lexer.brackets ≠ 0 then lexer
  else
    let (indent, indents, tokens) := closeFrom column lexer.indents lexer.indent lexer.tokens
    { lexer with indent, indents, tokens }

/-- Opens a nesting at a column, if it lies further right; its token stands before those
from a number on. -/
def openAt (lexer : Lexer) (column number : Nat) (token : Token) : Lexer :=
  if lexer.indent < column then
    { lexer.insert number token with indent := column, indents := lexer.indent :: lexer.indents }
  else lexer

/-! ## Tokens -/

/-- Goes over spaces, comments and ends of lines; each round goes over one of them. Behind
the end of a line there may be a key, unless brackets are open. -/
def toTokenWithin : Nat → Lexer → Lexer
  | 0, lexer => lexer
  | rounds + 1, lexer =>
    match lexer.cursor.rest with
    | ' ' :: _ => toTokenWithin rounds { lexer with cursor := lexer.cursor.step }
    | '#' :: _ => toTokenWithin rounds { lexer with cursor := lexer.cursor.skipLine }
    | c :: _ =>
      if isBreak c then
        toTokenWithin rounds { lexer with
          cursor := lexer.cursor.step
          keyAllowed := lexer.keyAllowed || lexer.brackets == 0 }
      else lexer
    | [] => lexer

/-- Goes to the next token. A byte order mark at the front is none. -/
def toToken (lexer : Lexer) : Lexer :=
  let cursor := lexer.cursor
  let marked := cursor.index == 0 && cursor.rest.head? == some '\ufeff'
  let begun := if marked then { lexer with cursor := cursor.step } else lexer
  toTokenWithin (begun.cursor.rest.length + 1) begun

/-- A token of some characters. -/
def take (lexer : Lexer) (count : Nat) (token : Token) : Lexer :=
  { lexer.push token with cursor := lexer.cursor.skip count }

/-- A mark that separates documents, or the end of the file: everything open ends. -/
def endDocument (lexer : Lexer) : Except Fault Lexer := do
  return { ← (lexer.close (-1)).dropKey with keyAllowed := false }

def openBracket (lexer : Lexer) (token : Token) : Except Fault Lexer := do
  let saved ← lexer.saveKey
  return { saved.take 1 token with brackets := lexer.brackets + 1, keyAllowed := true }

def closeBracket (lexer : Lexer) (token : Token) : Except Fault Lexer := do
  let dropped ← lexer.dropKey
  return { dropped.take 1 token with brackets := lexer.brackets - 1, keyAllowed := false }

def takeComma (lexer : Lexer) : Except Fault Lexer := do
  return { (← lexer.dropKey).take 1 .comma with keyAllowed := true }

/-- A dash before an item of a list, which opens the list if it is the first one. -/
def takeItem (lexer : Lexer) : Except Fault Lexer := do
  if lexer.brackets = 0 && !lexer.keyAllowed then throw .itemNotAllowed
  let opened :=
    if lexer.brackets = 0 then lexer.openAt lexer.cursor.column lexer.tokens.length .blockList
    else lexer
  return { (← opened.dropKey).take 1 .item with keyAllowed := true }

/-- A question mark before a key, which opens the mapping if it is the first one. -/
def takeKey (lexer : Lexer) : Except Fault Lexer := do
  if lexer.brackets = 0 && !lexer.keyAllowed then throw .keyNotAllowed
  let opened :=
    if lexer.brackets = 0 then lexer.openAt lexer.cursor.column lexer.tokens.length .blockMapping
    else lexer
  return { (← opened.dropKey).take 1 .key with keyAllowed := lexer.brackets == 0 }

/-- A colon before a value. It settles that what stands before it is a key, which opens
the mapping if it is the first one. -/
def takeValue (lexer : Lexer) : Except Fault Lexer := do
  match lexer.key? with
  | some key =>
    let keyed := lexer.withoutKey.insert key.number .key
    let opened :=
      if lexer.brackets = 0 then keyed.openAt key.column key.number .blockMapping else keyed
    return { opened.take 1 .value with keyAllowed := false }
  | none =>
    if lexer.brackets = 0 && !lexer.keyAllowed then throw .valueNotAllowed
    let opened :=
      if lexer.brackets = 0 then lexer.openAt lexer.cursor.column lexer.tokens.length .blockMapping
      else lexer
    return { (← opened.dropKey).take 1 .value with keyAllowed := lexer.brackets == 0 }

/-- A token that may begin a key and behind which none begins. -/
def takeMark (lexer : Lexer) (read : Cursor → Except Fault (Token × Cursor)) : Except Fault Lexer := do
  let saved ← lexer.saveKey
  let (token, cursor) ← read lexer.cursor
  return { saved.push token with cursor, keyAllowed := false }

def takeBlock (lexer : Lexer) : Except Fault Lexer := do
  let dropped ← lexer.dropKey
  let (text, cursor) ← blockText lexer.indent lexer.cursor
  return { dropped.push (.text (String.ofList text) false) with cursor, keyAllowed := true }

def takePlain (lexer : Lexer) : Except Fault Lexer := do
  let saved ← lexer.saveKey
  let reading := plainText (lexer.brackets != 0) lexer.indent lexer.cursor
  return { saved.push (.text (String.ofList reading.text) true) with
    cursor := reading.cursor
    keyAllowed := reading.broken }

/-- The next token, at which the cursor stands. -/
def takeToken (lexer : Lexer) : Except Fault Lexer :=
  let cursor := lexer.cursor
  let flow := lexer.brackets != 0
  let lineStart := cursor.column == 0
  match cursor.rest with
  | [] => lexer.endDocument
  | c :: rest =>
    let alone := flow || atBlank rest
    if c == '%' && lineStart then do
      let ended ← lexer.endDocument
      let (directive, next) ← readDirective cursor
      return { ended.push (.directive directive) with cursor := next }
    else if lineStart && cursor.isMarked "---" then return (← lexer.endDocument).take 3 .documentStart
    else if lineStart && cursor.isMarked "..." then return (← lexer.endDocument).take 3 .documentEnd
    else if c == '[' then lexer.openBracket .flowList
    else if c == '\x7b' then lexer.openBracket .flowMapping
    else if c == ']' then lexer.closeBracket .flowListEnd
    else if c == '\x7d' then lexer.closeBracket .flowMappingEnd
    else if c == ',' then lexer.takeComma
    else if c == '-' && atBlank rest then lexer.takeItem
    else if c == '?' && alone then lexer.takeKey
    else if c == ':' && alone then lexer.takeValue
    else if c == '*' then
      lexer.takeMark fun cursor => do
        let (name, next) ← readName cursor
        return (.reference name, next)
    else if c == '&' then
      lexer.takeMark fun cursor => do
        let (name, next) ← readName cursor
        return (.anchor name, next)
    else if c == '!' then
      lexer.takeMark fun cursor => do
        let (tag, next) ← readTag cursor
        return (.tag tag, next)
    else if (c == '|' || c == '>') && !flow then lexer.takeBlock
    else if c == '\'' || c == '"' then
      lexer.takeMark fun cursor => do
        let (text, next) ← quotedText cursor
        return (.text (String.ofList text) false, next)
    else if startsPlain flow cursor.rest then lexer.takePlain
    else throw .unexpected

end Lexer

/-- The tokens of a file, and what stops them before its end. -/
structure Tokens where
  tokens : List Token
  fault : Option Fault

namespace Lexer

/-- Reads tokens to the end. Every round goes over a character at least. A fault does not
undo the tokens that do not wait for a key. -/
def run : Nat → Lexer → Tokens
  | 0, lexer => ⟨lexer.tokens.reverse, some .tooDeep⟩
  | rounds + 1, lexer =>
    match lexer.dropStale with
    | .error fault => ⟨lexer.tokens.reverse.take lexer.settled, some fault⟩
    | .ok lexer =>
      let round : Except Fault (Bool × Lexer) := do
        let found ← lexer.toToken.dropStale
        return (found.cursor.isOver, ← (found.close found.cursor.column).takeToken)
      match round with
      | .error fault => ⟨lexer.tokens.reverse.take lexer.settled, some fault⟩
      | .ok (true, ended) => ⟨ended.tokens.reverse, none⟩
      | .ok (false, next) => run rounds next

end Lexer

/-- The tokens of a text. -/
def Tokens.ofText (text : List Char) : Tokens := (Lexer.start text).run (text.length + 2)

end Yaml
end GraphCache

import GraphCache.Document.Basic
import GraphCache.Document.Lexer

/-! Reading a document from its tokens, one token of lookahead at a time. A
reader stops at the first token that cannot continue what it has read. Selection
sets, lists and objects may be nested to a fixed depth in all, and so may the lists
of a type; the depth that is left is the measure on which the recursive readers end. -/
namespace GraphCache
namespace Document

/-- The token to be read next and what follows it. -/
structure Stream where
  current : Token
  following : List Lexeme

abbrev Reader := StateT Stream (Except SyntaxError)

namespace Reader

/-- How deep selection sets, lists and objects may be nested together. -/
def greatestDepth : Nat := 200

def refuse {α : Type} (fault : SyntaxFault) (position : Nat) : Reader α :=
  throw ⟨fault, position⟩

def current : Reader Token := return (← get).current

def peek (kind : TokenKind) : Reader Bool := return (← current).kind == kind

/-- Takes the current token. A fault behind it is met now, not when the next token
is looked at. The end of the text is never passed. -/
def advance : Reader Token := do
  let stream ← get
  if stream.current.kind = .endOfText then return stream.current
  match stream.following with
  | .token next :: rest =>
    set (Stream.mk next rest)
    return stream.current
  | .fault error :: _ => throw error
  | [] => return stream.current

/-- The token behind the current one. -/
def lookahead : Reader Token := do
  let stream ← get
  if stream.current.kind = .endOfText then return stream.current
  match stream.following with
  | .token next :: _ => return next
  | .fault error :: _ => throw error
  | [] => return stream.current

def unexpected {α : Type} : Reader α := do
  let token ← current
  refuse (.unexpected token) token.position

def expect (kind : TokenKind) : Reader Token := do
  let token ← current
  if token.kind = kind then advance
  else refuse (.expected kind.description token) token.position

def accept (kind : TokenKind) : Reader Bool := do
  if ← peek kind then
    let _ ← advance
    return true
  return false

def peekKeyword (word : String) : Reader Bool := do
  let token ← current
  return token.kind == .name && token.text == some word

def acceptKeyword (word : String) : Reader Bool := do
  if ← peekKeyword word then
    let _ ← advance
    return true
  return false

def expectKeyword (word : String) : Reader Unit := do
  if !(← acceptKeyword word) then
    let token ← current
    refuse (.expected ("'" ++ word ++ "'") token) token.position

/-- Reads items up to a closing token. Every item takes a token, so the number of
tokens is enough fuel. -/
def untilClose {α : Type} (item : Reader α) (close : TokenKind) : (fuel : Nat) → Reader (List α)
  | 0 => return []
  | fuel + 1 => do
    if ← accept close then return []
    let first ← item
    let rest ← untilClose item close fuel
    return first :: rest

/-- More items than this cannot follow. -/
def itemBound : Reader Nat := return (← get).following.length + 1

/-- Any number of items between two tokens. -/
def anyBetween {α : Type} (first last : TokenKind) (item : Reader α) : Reader (List α) := do
  let _ ← expect first
  untilClose item last (← itemBound)

/-- One item or more between two tokens. -/
def someBetween {α : Type} (first last : TokenKind) (item : Reader α) : Reader (List α) := do
  let _ ← expect first
  let head ← item
  let rest ← untilClose item last (← itemBound)
  return head :: rest

/-- One item or more between two tokens, or nothing at all. -/
def optionalBetween {α : Type} (first last : TokenKind) (item : Reader α) : Reader (List α) := do
  if ← peek first then someBetween first last item else return []

/-- Items with a token between them, as long as that token follows. -/
def separatedBy {α : Type} (separator : TokenKind) (item : Reader α) :
    (fuel : Nat) → Reader (List α)
  | 0 => return []
  | fuel + 1 => do
    let first ← item
    if ← accept separator then
      let rest ← separatedBy separator item fuel
      return first :: rest
    return [first]

/-- Items with a token between them, which may also stand before the first. -/
def separated {α : Type} (separator : TokenKind) (item : Reader α) : Reader (List α) := do
  let _ ← accept separator
  separatedBy separator item (← itemBound)

def name : Reader String := return ((← expect .name).text).getD ""

/-! ## Values, arguments and directives -/

/-- Reads a value; `nested` reads a value inside it, if there may be one. -/
def literalWith (isConstant : Bool) (nested : Option (Reader Literal)) : Reader Literal := do
  let token ← current
  let text := token.text.getD ""
  match token.kind, nested with
  | .bracketL, some item => return .list (← anyBetween .bracketL .bracketR item)
  | .bracketL, none => refuse .tooDeep token.position
  | .braceL, some item =>
    let entries ← anyBetween .braceL .braceR do
      let key ← name
      let _ ← expect .colon
      return (key, ← item)
    return .object entries
  | .braceL, none => refuse .tooDeep token.position
  | .int, _ =>
    let _ ← advance
    return .int text
  | .float, _ =>
    let _ ← advance
    return .float text
  | .string, _ | .blockString, _ =>
    let _ ← advance
    return .string text
  | .name, _ =>
    let _ ← advance
    if text = "true" then return .boolean true
    if text = "false" then return .boolean false
    if text = "null" then return .null
    return .enum text
  | .dollar, _ =>
    let _ ← advance
    if isConstant then
      let following ← current
      match following.kind, following.text with
      | .name, some parameter => refuse (.parameterInConstant parameter) token.position
      | _, _ => refuse (.unexpected token) token.position
    return .parameter (← name)
  | _, _ => unexpected

/-- Reads a value in which lists and objects are nested no deeper than `room`. -/
def literal (isConstant : Bool) : (room : Nat) → Reader Literal
  | 0 => literalWith isConstant none
  | room + 1 => literalWith isConstant (some (literal isConstant room))

def argument (isConstant : Bool) (room : Nat) : Reader Argument := do
  let argumentName ← name
  let _ ← expect .colon
  return ⟨argumentName, ← literal isConstant room⟩

def arguments (isConstant : Bool) (room : Nat) : Reader (List Argument) :=
  optionalBetween .parenL .parenR (argument isConstant room)

def directivesFrom (isConstant : Bool) (room : Nat) : (fuel : Nat) → Reader (List Directive)
  | 0 => return []
  | fuel + 1 => do
    if ← accept .atSign then
      let directiveName ← name
      let given ← arguments isConstant room
      let rest ← directivesFrom isConstant room fuel
      return ⟨directiveName, given⟩ :: rest
    return []

def directives (isConstant : Bool) (room : Nat) : Reader (List Directive) := do
  directivesFrom isConstant room (← itemBound)

/-- Reads what follows the opening of a list type; `nested` reads the type inside, if
there may be one. A list that is too deep is met behind its bracket. -/
def listTypeWith (nested : Option (Reader Unit)) : Reader Unit := do
  match nested with
  | some item =>
    item
    let _ ← expect .bracketR
  | none =>
    let token ← current
    refuse .tooDeep token.position

def typeWith (nested : Option (Reader Unit)) : Reader Unit := do
  if ← accept .bracketL then
    listTypeWith nested
  else
    let _ ← name
  let _ ← accept .bang

/-- Reads a type in which lists are nested no deeper than `room`; only its form is
checked. -/
def typeReference : (room : Nat) → Reader Unit
  | 0 => typeWith none
  | room + 1 => typeWith (some (typeReference room))

def anyType : Reader Unit := typeReference greatestDepth

/-! ## Operations and fragments -/

def isDescription (kind : TokenKind) : Bool := kind == .string || kind == .blockString

def skipDescription : Reader Unit := do
  if isDescription (← current).kind then
    let _ ← advance

/-- The name of a fragment, which is any name but the word before a type. -/
def fragmentName : Reader String := do
  if (← current).text = some "on" then unexpected else name

/-- Reads one selection of a set inside which values have `room`; `nested` reads a
selection set below it. -/
def selection (room : Nat) (nested : Reader (List Selection)) : Reader Selection := do
  if ← accept .spread then
    let conditioned ← acceptKeyword "on"
    if !conditioned && (← peek .name) then
      let fragment ← fragmentName
      return .spread fragment (← directives false room)
    let condition ← if conditioned then some <$> name else pure none
    let given ← directives false room
    return .inlineFragment condition given (← nested)
  let first ← name
  let named ← accept .colon
  let aliasName := if named then some first else none
  let fieldName ← if named then name else pure first
  let given ← arguments false room
  let attached ← directives false room
  let head : FieldHead := ⟨aliasName, fieldName, given, attached⟩
  if ← peek .braceL then return .relation head (← nested)
  return .leaf head

/-- Reads a selection set; it may be empty. Where there is no room for one it is too
deep, whatever stands in its place. -/
def selectionSet : (room : Nat) → Reader (List Selection)
  | 0 => do
    let token ← current
    refuse .tooDeep token.position
  | room + 1 => anyBetween .braceL .braceR (selection room (selectionSet room))

def operationKind : Reader OperationKind := do
  let token ← expect .name
  if token.text = some "query" then return .query
  if token.text = some "mutation" then return .mutation
  if token.text = some "subscription" then return .subscription
  refuse (.unexpected token) token.position

def parameter : Reader Parameter := do
  skipDescription
  let _ ← expect .dollar
  let parameterName ← name
  let _ ← expect .colon
  anyType
  if ← accept .equals then
    let _ ← literal true greatestDepth
  return ⟨parameterName, ← directives true greatestDepth⟩

/-- Reads an operation. A selection set alone is a query. -/
def operation : Reader Operation := do
  if ← peek .braceL then
    return ⟨.query, none, [], [], ← selectionSet greatestDepth⟩
  skipDescription
  let kind ← operationKind
  let operationName ← if ← peek .name then some <$> name else pure none
  let parameters ← optionalBetween .parenL .parenR parameter
  let attached ← directives false greatestDepth
  return ⟨kind, operationName, parameters, attached, ← selectionSet greatestDepth⟩

def fragment : Reader Fragment := do
  skipDescription
  expectKeyword "fragment"
  let title ← fragmentName
  expectKeyword "on"
  let condition ← name
  let attached ← directives false greatestDepth
  return ⟨title, condition, attached, ← selectionSet greatestDepth⟩

/-! ## Type system definitions

Each reader gives the directive lists of what it has read, in order. -/

def constantDirectives : Reader (List Directive) := directives true greatestDepth

def inputValue : Reader (List Directive) := do
  skipDescription
  let _ ← name
  let _ ← expect .colon
  anyType
  if ← accept .equals then
    let _ ← literal true greatestDepth
  constantDirectives

def argumentDefinitions : Reader (List (List Directive)) :=
  optionalBetween .parenL .parenR inputValue

def fieldDefinition : Reader (List (List Directive)) := do
  skipDescription
  let _ ← name
  let given ← argumentDefinitions
  let _ ← expect .colon
  anyType
  return given ++ [← constantDirectives]

def fieldDefinitions : Reader (List (List (List Directive))) :=
  optionalBetween .braceL .braceR fieldDefinition

def interfaces : Reader (List String) := do
  if ← acceptKeyword "implements" then separated .amp name else return []

def operationType : Reader Unit := do
  let _ ← operationKind
  let _ ← expect .colon
  let _ ← name

/-- A value of an enumeration may not be named like a constant. -/
def enumValue : Reader (List Directive) := do
  skipDescription
  let token ← current
  if token.text = some "true" ∨ token.text = some "false" ∨ token.text = some "null" then
    refuse (.reservedEnumValue token) token.position
  let _ ← name
  constantDirectives

def unionMembers : Reader (List String) := do
  if ← accept .equals then separated .pipe name else return []

/-- The places at which a directive may be allowed. -/
def directiveLocations : List String :=
  ["QUERY", "MUTATION", "SUBSCRIPTION", "FIELD", "FRAGMENT_DEFINITION", "FRAGMENT_SPREAD",
   "INLINE_FRAGMENT", "VARIABLE_DEFINITION", "FRAGMENT_VARIABLE_DEFINITION", "SCHEMA", "SCALAR",
   "OBJECT", "FIELD_DEFINITION", "ARGUMENT_DEFINITION", "INTERFACE", "UNION", "ENUM", "ENUM_VALUE",
   "INPUT_OBJECT", "INPUT_FIELD_DEFINITION", "DIRECTIVE_DEFINITION"]

def directiveLocation : Reader String := do
  let token ← current
  let location ← name
  if directiveLocations.contains location then return location
  refuse (.unexpected token) token.position

def directiveDefinition : Reader (List (List Directive)) := do
  expectKeyword "directive"
  let _ ← expect .atSign
  let _ ← name
  let given ← argumentDefinitions
  let attached ← constantDirectives
  let _ ← acceptKeyword "repeatable"
  expectKeyword "on"
  let _ ← separated .pipe directiveLocation
  return given ++ [attached]

/-- The kinds of type that are defined by a name and a body. -/
inductive TypeForm where
  | scalar
  | object
  | union
  | enum
  | input

/-- What a definition of a type holds: whether anything beside its name is written,
and its directive lists. -/
structure TypeBody where
  isEmpty : Bool
  directives : List (List Directive)

def typeBody : TypeForm → Reader TypeBody
  | .scalar => do
    let attached ← constantDirectives
    return ⟨attached.isEmpty, [attached]⟩
  | .object => do
    let parents ← interfaces
    let attached ← constantDirectives
    let members ← fieldDefinitions
    return ⟨parents.isEmpty && attached.isEmpty && members.isEmpty, attached :: members.flatten⟩
  | .union => do
    let attached ← constantDirectives
    let members ← unionMembers
    return ⟨attached.isEmpty && members.isEmpty, [attached]⟩
  | .enum => do
    let attached ← constantDirectives
    let values ← optionalBetween .braceL .braceR enumValue
    return ⟨attached.isEmpty && values.isEmpty, attached :: values⟩
  | .input => do
    let attached ← constantDirectives
    let members ← optionalBetween .braceL .braceR inputValue
    return ⟨attached.isEmpty && members.isEmpty, attached :: members⟩

def typeForm? : String → Option TypeForm
  | "scalar" => some .scalar
  | "type" => some .object
  | "interface" => some .object
  | "union" => some .union
  | "enum" => some .enum
  | "input" => some .input
  | _ => none

/-- Reads a type system definition whose keyword is `word`, if it begins one. -/
def typeSystemDefinition? (word : String) : Option (Reader (List (List Directive))) :=
  match typeForm? word with
  | some form => some do
    skipDescription
    expectKeyword word
    let _ ← name
    return (← typeBody form).directives
  | none =>
    if word = "schema" then some do
      skipDescription
      expectKeyword word
      let attached ← constantDirectives
      let _ ← someBetween .braceL .braceR operationType
      return [attached]
    else if word = "directive" then some do
      skipDescription
      directiveDefinition
    else none

/-- Reads an extension, which must add something. -/
def extension : Reader (List (List Directive)) := do
  let keyword ← lookahead
  let word := if keyword.kind = .name then keyword.text.getD "" else ""
  match typeForm? word with
  | some form => do
    expectKeyword "extend"
    expectKeyword word
    let _ ← name
    let body ← typeBody form
    if body.isEmpty then unexpected
    return body.directives
  | none =>
    if word = "schema" then do
      expectKeyword "extend"
      expectKeyword word
      let attached ← constantDirectives
      let operations ← optionalBetween .braceL .braceR operationType
      if attached.isEmpty && operations.isEmpty then unexpected
      return [attached]
    else if word = "directive" then do
      expectKeyword "extend"
      expectKeyword word
      let _ ← expect .atSign
      let _ ← name
      let attached ← constantDirectives
      if attached.isEmpty then unexpected
      return [attached]
    else refuse (.unexpected keyword) keyword.position

/-! ## Documents -/

/-- Reads a definition. The keyword that tells its kind may stand behind a
description. -/
def definition : Reader Definition := do
  if ← peek .braceL then return .operation (← operation)
  let first ← current
  let described := isDescription first.kind
  let keyword ← if described then lookahead else pure first
  if described && keyword.kind == .braceL then
    refuse .describedShorthand first.position
  if keyword.kind = .name then
    let word := keyword.text.getD ""
    match typeSystemDefinition? word with
    | some reader => return .typeSystem (← reader)
    | none =>
      if word = "query" ∨ word = "mutation" ∨ word = "subscription" then
        return .operation (← operation)
      if word = "fragment" then return .fragment (← fragment)
      if described then refuse .strayDescription first.position
      if word = "extend" then return .typeSystem (← extension)
  refuse (.unexpected keyword) keyword.position

/-- Reads definitions up to the end of the text; there is at least one. -/
def document : Reader Document := do
  let first ← definition
  let rest ← untilClose definition .endOfText (← itemBound)
  return ⟨first :: rest⟩

end Reader

/-- Reads a whole text as a document. -/
def read (source : List Char) : Except SyntaxError Document :=
  match scan source with
  | .token first :: rest => (Reader.document.run ⟨first, rest⟩).map Prod.fst
  | .fault error :: _ => .error error
  | [] => .ok ⟨[]⟩

end Document
end GraphCache

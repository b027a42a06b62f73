import GraphCache.Document.Reader
import GraphCache.Proofs.Outcomes
import GraphCache.Proofs.Unmarked

/-! The names of fields that are read from a text. Only the scanner makes tokens, and each of its
name tokens holds letters, digits and underscores alone, and at least one of them; readers
pass tokens on as they are. So every field that a read document selects, at any depth, has
such a name. -/
namespace GraphCache

/-- A text of the characters of names. -/
def Document.IsName (text : String) : Prop := ∀ c ∈ text.toList, Document.isNamePart c = true

/-- A selection whose field has a name, if it has selections of its own. -/
def Selection.Named : Selection → Prop
  | .relation head _ => Document.IsName head.name
  | _ => True

/-- A field with a name, which is not empty. -/
def FieldHead.Named (head : FieldHead) : Prop := Document.IsName head.name ∧ head.name ≠ ""

/-- A selection whose field has a name, and so has every field below it. -/
def Selection.Spelled (selection : Selection) : Prop := ∀ head ∈ selection.heads, head.Named

/-- A selection set in which all fields have names, and all fields below them. -/
def Selection.AllSpelled (selections : List Selection) : Prop :=
  ∀ head ∈ headsOf selections, head.Named

/-- A definition in which all fields have names. -/
def Definition.Spelled (definition : Definition) : Prop :=
  Selection.AllSpelled definition.selections

namespace Document

/-! ## Tokens -/

/-- A token that holds a name if it is one. -/
def Token.Named (token : Token) : Prop :=
  token.kind = .name → ∃ text, token.text = some text ∧ IsName text ∧ text ≠ ""

theorem Token.named_of_kind_ne {token : Token} (other : token.kind ≠ .name) : token.Named :=
  fun same => absurd same other

private theorem named_scanNumber {start : Nat} {text : List Char} {piece : Piece Token}
    (scanned : scanNumber start text = .ok piece) : piece.value.Named := by
  have number {kind : TokenKind} {short : Bool}
      (same : kind = if short then .int else .float) : kind ≠ .name := by
    rintro rfl
    cases short <;> cases same
  simp only [scanNumber, bind, Except.bind] at scanned
  split at scanned
  · cases scanned
  split at scanned
  · cases scanned
  split at scanned
  · cases scanned
  split at scanned
  · split at scanned <;> cases scanned
    exact Token.named_of_kind_ne (number rfl)
  · cases scanned
    exact Token.named_of_kind_ne (number rfl)

private theorem punctuation?_ne_name (c : Char) : punctuation? c ≠ some .name := by
  unfold punctuation?
  split <;> nofun

private theorem named_scanPoints {position : Nat} {text : List Char} {piece : Piece Token}
    (scanned : scanPoints position text = .ok piece) : piece.value.Named := by
  unfold scanPoints at scanned
  split at scanned
  · cases scanned
    exact Token.named_of_kind_ne (by simp)
  · cases scanned
  · dsimp only at scanned
    split at scanned <;> cases scanned
  · cases scanned

theorem named_scanToken {position : Nat} {first : Char} {rest : List Char} {piece : Piece Token}
    (scanned : scanToken position first rest = .ok piece) : piece.value.Named := by
  simp only [scanToken, bind, Except.bind] at scanned
  split at scanned
  · rename_i kind mark
    cases scanned
    refine Token.named_of_kind_ne ?_
    rintro rfl
    exact punctuation?_ne_name first mark
  split at scanned
  · split at scanned
    · split at scanned <;> cases scanned
      exact Token.named_of_kind_ne (by simp)
    · split at scanned <;> cases scanned
      exact Token.named_of_kind_ne (by simp)
  split at scanned
  · exact named_scanNumber scanned
  split at scanned
  · rename_i start
    cases scanned
    refine fun _ => ⟨_, rfl, fun c member => ?_, fun empty => ?_⟩
    · rw [String.toList_ofList] at member
      exact List.all_eq_true.mp List.all_takeWhile c member
    · have part : isNamePart first = true := by simp [isNamePart, start]
      rw [List.takeWhile_cons_of_pos part] at empty
      cases String.ofList_eq_empty_iff.mp empty
  split at scanned
  · exact named_scanPoints scanned
  split at scanned <;> cases scanned

/-- A named token, or the fault in its place. -/
def Lexeme.Named : Lexeme → Prop
  | .token found => found.Named
  | .fault _ => True

/-- Every name token of a text holds a name. -/
theorem named_scanFrom {fuel position : Nat} {text : List Char} {lexeme : Lexeme}
    (member : lexeme ∈ scanFrom fuel position text) : lexeme.Named := by
  have ended (position : Nat) (member : lexeme ∈ [Lexeme.token ⟨.endOfText, position, none⟩]) :
      lexeme.Named := by
    rw [List.mem_singleton.mp member]
    exact Token.named_of_kind_ne (by simp)
  induction fuel generalizing position text with
  | zero => exact ended position member
  | succ fuel ih =>
    cases text with
    | nil => exact ended position member
    | cons c rest =>
      rw [scanFrom] at member
      split at member
      · exact ih member
      split at member
      · exact ih member
      split at member
      · rename_i piece scanned
        obtain rfl | later := List.mem_cons.mp member
        · exact named_scanToken scanned
        · exact ih later
      · rw [List.mem_singleton.mp member]
        trivial

/-! ## Readers -/

/-- A stream of named tokens. -/
structure Stream.Named (stream : Stream) : Prop where
  current : stream.current.Named
  following : ∀ lexeme ∈ stream.following, lexeme.Named

namespace Reader
variable {α β : Type}

/-- A reader that leaves named tokens if it gets such, and gives only values with a property. -/
def Yields (reader : Reader α) (property : α → Prop) : Prop :=
  ∀ stream value next, stream.Named → reader stream = .ok (value, next) →
    next.Named ∧ property value

/-- A reader that leaves named tokens if it gets such. -/
abbrev Keeps (reader : Reader α) : Prop := Yields reader fun _ => True

theorem yields_pure {value : α} {property : α → Prop} (own : property value) :
    Yields (pure value) property :=
  Preserves.pure own

theorem yields_refuse (fault : SyntaxFault) (position : Nat) (property : α → Prop) :
    Yields (refuse fault position) property :=
  Preserves.throw _

theorem Yields.bind {first : Reader α} {second : α → Reader β} {middle : α → Prop}
    {property : β → Prop} (one : Yields first middle)
    (two : ∀ value, middle value → Yields (second value) property) :
    Yields (first >>= second) property :=
  Preserves.bind one two

theorem Yields.map {reader : Reader α} {property : α → Prop} (yields : Yields reader property)
    (change : α → β) : Keeps (change <$> reader) := by
  rw [← bind_pure_comp]
  exact yields.bind fun _ _ => yields_pure trivial

theorem Yields.mono {reader : Reader α} {property weaker : α → Prop} (yields : Yields reader property)
    (implied : ∀ value, property value → weaker value) : Yields reader weaker :=
  Preserves.mono yields implied

theorem yields_ite {condition : Prop} [Decidable condition] {yes no : Reader α}
    {property : α → Prop} (one : Yields yes property) (two : Yields no property) :
    Yields (if condition then yes else no) property := by
  split
  · exact one
  · exact two

/-- What is read unless there is a fault. -/
theorem yields_guard {condition : Prop} [Decidable condition] {fault : SyntaxFault} {position : Nat}
    {rest : Unit → Reader α} {property : α → Prop} (own : Yields (rest ()) property) :
    Yields (if condition then refuse fault position >>= rest else rest ()) property :=
  yields_ite ((yields_refuse fault position fun _ => True).bind fun _ _ => own) own

theorem yields_current : Yields current Token.Named := by
  intro stream value next named read
  cases read
  exact ⟨named, named.current⟩

/-- What is done with the token behind the current one; at the end of a text, where there is none,
the current one is read. -/
private theorem yields_following (take : Stream → Token → List Lexeme → Reader Token)
    (taken : ∀ stream next rest, stream.Named → (Stream.mk next rest).Named →
      ∀ value after, take stream next rest stream = .ok (value, after) → after.Named ∧ value.Named) :
    Yields (do
      let stream ← get
      if stream.current.kind = .endOfText then return stream.current
      match stream.following with
      | .token next :: rest => take stream next rest
      | .fault error :: _ => throw error
      | [] => return stream.current) Token.Named := by
  intro stream value next named read
  obtain ⟨token, following⟩ := stream
  obtain ⟨own, others⟩ := named
  change (if token.kind = .endOfText then pure token else _ : Reader Token) _ = _ at read
  split at read
  · cases read
    exact ⟨⟨own, others⟩, own⟩
  · cases following with
    | nil =>
      cases read
      exact ⟨⟨own, others⟩, own⟩
    | cons lexeme rest =>
      obtain ⟨first, later⟩ := List.forall_mem_cons.mp others
      cases lexeme with
      | token found => exact taken _ _ _ ⟨own, others⟩ ⟨first, later⟩ _ _ read
      | fault error => cases read

theorem yields_advance : Yields advance Token.Named := by
  refine yields_following (fun stream next rest => do
    set (Stream.mk next rest)
    return stream.current) ?_
  intro stream next rest named following value after read
  cases read
  exact ⟨following, named.current⟩

theorem yields_lookahead : Yields lookahead Token.Named := by
  refine yields_following (fun _ next _ => return next) ?_
  intro stream next rest named following value after read
  cases read
  exact ⟨named, following.current⟩

theorem keeps_peek (kind : TokenKind) : Keeps (peek kind) :=
  yields_current.bind fun _ _ => yields_pure trivial

theorem yields_unexpected (property : α → Prop) : Yields unexpected property :=
  yields_current.bind fun _ _ => yields_refuse _ _ property

/-- The token that is taken is the current one. -/
theorem advance_eq {stream next : Stream} {token : Token}
    (read : advance stream = .ok (token, next)) : token = stream.current := by
  obtain ⟨own, following⟩ := stream
  change (if own.kind = .endOfText then pure own else _ : Reader Token) _ = _ at read
  split at read
  · cases read
    rfl
  · cases following with
    | nil =>
      cases read
      rfl
    | cons lexeme rest =>
      cases lexeme <;> cases read
      rfl

theorem yields_expect (kind : TokenKind) :
    Yields (expect kind) fun token => token.Named ∧ token.kind = kind := by
  intro stream value next named read
  change (if stream.current.kind = kind then advance else _ : Reader Token) _ = _ at read
  split at read
  · rename_i same
    obtain ⟨kept, own⟩ := yields_advance stream value next named read
    exact ⟨kept, own, advance_eq read ▸ same⟩
  · cases read

theorem keeps_accept (kind : TokenKind) : Keeps (accept kind) :=
  (keeps_peek kind).bind fun _ _ =>
    yields_ite (yields_advance.bind fun _ _ => yields_pure trivial) (yields_pure trivial)

theorem keeps_peekKeyword (word : String) : Keeps (peekKeyword word) :=
  yields_current.bind fun _ _ => yields_pure trivial

theorem keeps_acceptKeyword (word : String) : Keeps (acceptKeyword word) :=
  (keeps_peekKeyword word).bind fun _ _ =>
    yields_ite (yields_advance.bind fun _ _ => yields_pure trivial) (yields_pure trivial)

theorem keeps_expectKeyword (word : String) : Keeps (expectKeyword word) :=
  (keeps_acceptKeyword word).bind fun _ _ =>
    yields_ite (yields_current.bind fun _ _ => yields_refuse _ _ _) (yields_pure trivial)

/-- What is read as a name is one. -/
theorem yields_name : Yields name fun text => IsName text ∧ text ≠ "" := by
  refine (yields_expect .name).bind fun token found => yields_pure ?_
  obtain ⟨named, kind⟩ := found
  obtain ⟨text, held, own⟩ := named kind
  rw [held]
  exact own

/-! ## Rows -/

theorem keeps_itemBound : Keeps itemBound := by
  intro stream value next named read
  cases read
  exact ⟨named, trivial⟩

section Rows
variable {item : Reader α} {property : α → Prop} (each : Yields item property)
include each

theorem yields_untilClose (close : TokenKind) (fuel : Nat) :
    Yields (untilClose item close fuel) fun items => ∀ item ∈ items, property item := by
  induction fuel with
  | zero => exact yields_pure (by simp)
  | succ fuel ih =>
    refine (keeps_accept close).bind fun _ _ => yields_ite (yields_pure (by simp)) ?_
    refine each.bind fun first own => ih.bind fun rest others => yields_pure ?_
    exact List.forall_mem_cons.mpr ⟨own, others⟩

theorem yields_anyBetween (first last : TokenKind) :
    Yields (anyBetween first last item) fun items => ∀ item ∈ items, property item :=
  (yields_expect first).bind fun _ _ => keeps_itemBound.bind fun bound _ =>
    yields_untilClose each last bound

theorem yields_someBetween (first last : TokenKind) :
    Yields (someBetween first last item) fun items => ∀ item ∈ items, property item := by
  refine (yields_expect first).bind fun _ _ => each.bind fun head own => ?_
  refine keeps_itemBound.bind fun bound _ => ?_
  refine (yields_untilClose each last bound).bind fun rest others => yields_pure ?_
  exact List.forall_mem_cons.mpr ⟨own, others⟩

theorem yields_optionalBetween (first last : TokenKind) :
    Yields (optionalBetween first last item) fun items => ∀ item ∈ items, property item :=
  (keeps_peek first).bind fun _ _ =>
    yields_ite (yields_someBetween each first last) (yields_pure (by simp))

theorem yields_separatedBy (separator : TokenKind) (fuel : Nat) :
    Yields (separatedBy separator item fuel) fun items => ∀ item ∈ items, property item := by
  induction fuel with
  | zero => exact yields_pure (by simp)
  | succ fuel ih =>
    refine each.bind fun first own => (keeps_accept separator).bind fun _ _ => ?_
    refine yields_ite (ih.bind fun rest others => yields_pure ?_) (yields_pure ?_)
    · exact List.forall_mem_cons.mpr ⟨own, others⟩
    · simpa using own

theorem yields_separated (separator : TokenKind) :
    Yields (separated separator item) fun items => ∀ item ∈ items, property item :=
  (keeps_accept separator).bind fun _ _ => keeps_itemBound.bind fun bound _ =>
    yields_separatedBy each separator bound

end Rows

/-! ## Values, arguments and directives -/

theorem keeps_literalWith (isConstant : Bool) {nested : Option (Reader Literal)}
    (inside : ∀ item, nested = some item → Keeps item) :
    Keeps (literalWith isConstant nested) := by
  refine yields_current.bind fun token _ => ?_
  dsimp only
  split
  · rename_i item _
    exact (yields_anyBetween (inside item rfl) _ _).bind fun _ _ => yields_pure trivial
  · exact yields_refuse _ _ _
  · rename_i item _
    refine (yields_anyBetween (?_ : Keeps _) _ _).bind fun _ _ => yields_pure trivial
    exact yields_name.bind fun _ _ => (yields_expect _).bind fun _ _ =>
      (inside item rfl).bind fun _ _ => yields_pure trivial
  · exact yields_refuse _ _ _
  · exact yields_advance.bind fun _ _ => yields_pure trivial
  · exact yields_advance.bind fun _ _ => yields_pure trivial
  · exact yields_advance.bind fun _ _ => yields_pure trivial
  · exact yields_advance.bind fun _ _ => yields_pure trivial
  · exact yields_advance.bind fun _ _ => yields_ite (yields_pure trivial)
      (yields_ite (yields_pure trivial) (yields_ite (yields_pure trivial) (yields_pure trivial)))
  · refine yields_advance.bind fun _ _ => yields_ite (yields_current.bind fun _ _ => ?_)
      (yields_name.bind fun _ _ => yields_pure trivial)
    split
    · exact (yields_refuse _ _ fun _ => True).bind fun _ _ => yields_name.bind fun _ _ =>
        yields_pure trivial
    · exact (yields_refuse _ _ fun _ => True).bind fun _ _ => yields_name.bind fun _ _ =>
        yields_pure trivial
  · exact yields_unexpected _

theorem keeps_literal (isConstant : Bool) (room : Nat) : Keeps (literal isConstant room) := by
  induction room with
  | zero => exact keeps_literalWith isConstant nofun
  | succ room ih =>
    refine keeps_literalWith isConstant fun item same => ?_
    cases same
    exact ih

theorem keeps_argument (isConstant : Bool) (room : Nat) : Keeps (argument isConstant room) :=
  yields_name.bind fun _ _ => (yields_expect _).bind fun _ _ =>
    (keeps_literal isConstant room).bind fun _ _ => yields_pure trivial

theorem keeps_arguments (isConstant : Bool) (room : Nat) : Keeps (arguments isConstant room) :=
  (yields_optionalBetween (keeps_argument isConstant room) _ _).mono fun _ _ => trivial

theorem keeps_directivesFrom (isConstant : Bool) (room fuel : Nat) :
    Keeps (directivesFrom isConstant room fuel) := by
  induction fuel with
  | zero => exact yields_pure trivial
  | succ fuel ih =>
    refine (keeps_accept _).bind fun _ _ => yields_ite ?_ (yields_pure trivial)
    exact yields_name.bind fun _ _ => (keeps_arguments isConstant room).bind fun _ _ =>
      ih.bind fun _ _ => yields_pure trivial

theorem keeps_directives (isConstant : Bool) (room : Nat) : Keeps (directives isConstant room) :=
  keeps_itemBound.bind fun bound _ => keeps_directivesFrom isConstant room bound

theorem keeps_typeWith {nested : Option (Reader Unit)}
    (inside : ∀ item, nested = some item → Keeps item) : Keeps (typeWith nested) := by
  have list : Keeps (listTypeWith nested) := by
    unfold listTypeWith
    split
    · rename_i item
      exact (inside item rfl).bind fun _ _ => (yields_expect _).bind fun _ _ => yields_pure trivial
    · exact yields_current.bind fun _ _ => yields_refuse _ _ _
  have last : Keeps (accept .bang >>= fun _ => pure ()) :=
    (keeps_accept _).bind fun _ _ => yields_pure trivial
  exact (keeps_accept _).bind fun _ _ =>
    yields_ite (list.bind fun _ _ => last) (yields_name.bind fun _ _ => last)

theorem keeps_typeReference (room : Nat) : Keeps (typeReference room) := by
  induction room with
  | zero => exact keeps_typeWith nofun
  | succ room ih =>
    refine keeps_typeWith fun item same => ?_
    cases same
    exact ih

theorem keeps_anyType : Keeps anyType := keeps_typeReference greatestDepth

/-! ## Operations and fragments -/

theorem keeps_skipDescription : Keeps skipDescription :=
  yields_current.bind fun _ _ =>
    yields_ite (yields_advance.bind fun _ _ => yields_pure trivial) (yields_pure trivial)

theorem keeps_fragmentName : Keeps fragmentName :=
  yields_current.bind fun _ _ =>
    yields_ite (yields_unexpected _) (yields_name.mono fun _ _ => trivial)

section Selections
variable {room : Nat} {nested : Reader (List Selection)} (inside : Yields nested Selection.AllSpelled)
include inside

private theorem yields_inlineFragment (condition : Option String) :
    Yields (do
      let given ← directives false room
      return .inlineFragment condition given (← nested)) Selection.Spelled :=
  (keeps_directives false room).bind fun _ _ => inside.bind fun _ below => yields_pure below

private theorem yields_field (aliasName : Option String) {fieldName : String}
    (own : IsName fieldName ∧ fieldName ≠ "") :
    Yields (do
      let given ← arguments false room
      let attached ← directives false room
      let head : FieldHead := ⟨aliasName, fieldName, given, attached⟩
      if ← peek .braceL then return .relation head (← nested)
      return .leaf head) Selection.Spelled :=
  (keeps_arguments false room).bind fun _ _ => (keeps_directives false room).bind fun _ _ =>
    (keeps_peek .braceL).bind fun _ _ => yields_ite
      (inside.bind fun _ below => yields_pure (List.forall_mem_cons.mpr ⟨own, below⟩))
      (yields_pure (List.forall_mem_singleton.mpr own))

/-- A field that is selected has a name, and so have the fields below it. -/
theorem yields_selection : Yields (selection room nested) Selection.Spelled := by
  refine (keeps_accept _).bind fun _ _ => yields_ite ?_ ?_
  · refine (keeps_acceptKeyword _).bind fun _ _ => (keeps_peek _).bind fun _ _ => yields_ite ?_ ?_
    · exact keeps_fragmentName.bind fun _ _ => (keeps_directives false room).bind fun _ _ =>
        yields_pure (by simp [Selection.Spelled, Selection.heads])
    · exact yields_ite ((yields_name.map _).bind fun _ _ => yields_inlineFragment inside _)
        (yields_inlineFragment inside _)
  · refine yields_name.bind fun first own => (keeps_accept _).bind fun _ _ => ?_
    exact yields_ite (yields_name.bind fun _ other => yields_field inside _ other)
      (yields_field inside _ own)

end Selections

/-- All fields of a selection set have names, at every depth. -/
theorem yields_selectionSet (room : Nat) : Yields (selectionSet room) Selection.AllSpelled := by
  induction room with
  | zero => exact yields_current.bind fun _ _ => yields_refuse _ _ _
  | succ room ih =>
    refine (yields_anyBetween (yields_selection ih) _ _).mono fun selections each head member => ?_
    obtain ⟨selection, inside, own⟩ := Selection.mem_headsOf.mp member
    exact each selection inside head own

theorem keeps_operationKind : Keeps operationKind :=
  (yields_expect _).bind fun _ _ => yields_ite (yields_pure trivial)
    (yields_ite (yields_pure trivial) (yields_ite (yields_pure trivial) (yields_refuse _ _ _)))

theorem keeps_parameter : Keeps parameter := by
  have last (parameterName : String) : Keeps do
      return Parameter.mk parameterName (← directives true greatestDepth) :=
    (keeps_directives true greatestDepth).bind fun _ _ => yields_pure trivial
  refine keeps_skipDescription.bind fun _ _ => (yields_expect _).bind fun _ _ =>
    yields_name.bind fun _ _ => (yields_expect _).bind fun _ _ => keeps_anyType.bind fun _ _ =>
      (keeps_accept _).bind fun _ _ => yields_ite ?_ (last _)
  exact (keeps_literal _ _).bind fun _ _ => last _

/-- The fields of an operation have names. -/
theorem yields_operation : Yields operation fun read => Selection.AllSpelled read.selections := by
  have last (kind : OperationKind) (operationName : Option String) : Yields (do
      let parameters ← optionalBetween .parenL .parenR parameter
      let attached ← directives false greatestDepth
      return Operation.mk kind operationName parameters attached (← selectionSet greatestDepth))
      fun read => Selection.AllSpelled read.selections :=
    (yields_optionalBetween keeps_parameter _ _).bind fun _ _ =>
      (keeps_directives false greatestDepth).bind fun _ _ =>
        (yields_selectionSet greatestDepth).bind fun _ own => yields_pure own
  refine (keeps_peek _).bind fun _ _ => yields_ite
    ((yields_selectionSet greatestDepth).bind fun _ own => yields_pure own) ?_
  refine keeps_skipDescription.bind fun _ _ => keeps_operationKind.bind fun kind _ =>
    (keeps_peek _).bind fun _ _ => yields_ite ?_ (last kind _)
  exact (yields_name.map _).bind fun _ _ => last kind _

/-- So have those of a fragment. -/
theorem yields_fragment : Yields fragment fun read => Selection.AllSpelled read.selections :=
  keeps_skipDescription.bind fun _ _ => (keeps_expectKeyword _).bind fun _ _ =>
    keeps_fragmentName.bind fun _ _ => (keeps_expectKeyword _).bind fun _ _ =>
      yields_name.bind fun _ _ => (keeps_directives false greatestDepth).bind fun _ _ =>
        (yields_selectionSet greatestDepth).bind fun _ own => yields_pure own

/-! ## Type system definitions -/

theorem keeps_constantDirectives : Keeps constantDirectives := keeps_directives true greatestDepth

theorem keeps_inputValue : Keeps inputValue := by
  refine keeps_skipDescription.bind fun _ _ => yields_name.bind fun _ _ =>
    (yields_expect _).bind fun _ _ => keeps_anyType.bind fun _ _ => (keeps_accept _).bind fun _ _ =>
      yields_ite ?_ keeps_constantDirectives
  exact (keeps_literal _ _).bind fun _ _ => keeps_constantDirectives

theorem keeps_argumentDefinitions : Keeps argumentDefinitions :=
  (yields_optionalBetween keeps_inputValue _ _).mono fun _ _ => trivial

theorem keeps_fieldDefinition : Keeps fieldDefinition :=
  keeps_skipDescription.bind fun _ _ => yields_name.bind fun _ _ =>
    keeps_argumentDefinitions.bind fun _ _ => (yields_expect _).bind fun _ _ =>
      keeps_anyType.bind fun _ _ => keeps_constantDirectives.bind fun _ _ => yields_pure trivial

theorem keeps_interfaces : Keeps interfaces :=
  (keeps_acceptKeyword _).bind fun _ _ =>
    yields_ite ((yields_separated yields_name _).mono fun _ _ => trivial) (yields_pure trivial)

theorem keeps_operationType : Keeps operationType :=
  keeps_operationKind.bind fun _ _ => (yields_expect _).bind fun _ _ =>
    yields_name.bind fun _ _ => yields_pure trivial

theorem keeps_enumValue : Keeps enumValue :=
  keeps_skipDescription.bind fun _ _ => yields_current.bind fun _ _ =>
    yields_guard (yields_name.bind fun _ _ => keeps_constantDirectives)

theorem keeps_unionMembers : Keeps unionMembers :=
  (keeps_accept _).bind fun _ _ =>
    yields_ite ((yields_separated yields_name _).mono fun _ _ => trivial) (yields_pure trivial)

theorem keeps_directiveLocation : Keeps directiveLocation :=
  yields_current.bind fun _ _ => yields_name.bind fun _ _ =>
    yields_ite (yields_pure trivial) (yields_refuse _ _ _)

theorem keeps_directiveDefinition : Keeps directiveDefinition :=
  (keeps_expectKeyword _).bind fun _ _ => (yields_expect _).bind fun _ _ =>
    yields_name.bind fun _ _ => keeps_argumentDefinitions.bind fun _ _ =>
      keeps_constantDirectives.bind fun _ _ => (keeps_acceptKeyword _).bind fun _ _ =>
        (keeps_expectKeyword _).bind fun _ _ =>
          (yields_separated keeps_directiveLocation _).bind fun _ _ => yields_pure trivial

theorem keeps_typeBody (form : TypeForm) : Keeps (typeBody form) := by
  cases form with
  | scalar => exact keeps_constantDirectives.bind fun _ _ => yields_pure trivial
  | object =>
    exact keeps_interfaces.bind fun _ _ => keeps_constantDirectives.bind fun _ _ =>
      (yields_optionalBetween keeps_fieldDefinition _ _).bind fun _ _ => yields_pure trivial
  | union =>
    exact keeps_constantDirectives.bind fun _ _ => keeps_unionMembers.bind fun _ _ =>
      yields_pure trivial
  | enum =>
    exact keeps_constantDirectives.bind fun _ _ =>
      (yields_optionalBetween keeps_enumValue _ _).bind fun _ _ => yields_pure trivial
  | input =>
    exact keeps_constantDirectives.bind fun _ _ =>
      (yields_optionalBetween keeps_inputValue _ _).bind fun _ _ => yields_pure trivial

theorem keeps_typeSystemDefinition {word : String} {reader : Reader (List (List Directive))}
    (known : typeSystemDefinition? word = some reader) : Keeps reader := by
  unfold typeSystemDefinition? at known
  split at known
  · cases known
    exact keeps_skipDescription.bind fun _ _ => (keeps_expectKeyword _).bind fun _ _ =>
      yields_name.bind fun _ _ => (keeps_typeBody _).bind fun _ _ => yields_pure trivial
  · split at known
    · cases known
      exact keeps_skipDescription.bind fun _ _ => (keeps_expectKeyword _).bind fun _ _ =>
        keeps_constantDirectives.bind fun _ _ =>
          (yields_someBetween keeps_operationType _ _).bind fun _ _ => yields_pure trivial
    · split at known
      · cases known
        exact keeps_skipDescription.bind fun _ _ => keeps_directiveDefinition
      · cases known

theorem keeps_extension : Keeps extension := by
  refine yields_lookahead.bind fun keyword _ => ?_
  dsimp only
  split
  · refine (keeps_expectKeyword _).bind fun _ _ => (keeps_expectKeyword _).bind fun _ _ =>
      yields_name.bind fun _ _ => (keeps_typeBody _).bind fun _ _ => yields_ite ?_ ?_
    · exact (yields_unexpected fun _ => True).bind fun _ _ => yields_pure trivial
    · exact yields_pure trivial
  · refine yields_ite ?_ (yields_ite ?_ (yields_refuse _ _ _))
    · refine (keeps_expectKeyword _).bind fun _ _ => (keeps_expectKeyword _).bind fun _ _ =>
        keeps_constantDirectives.bind fun _ _ =>
          (yields_optionalBetween keeps_operationType _ _).bind fun _ _ => yields_ite ?_ ?_
      · exact (yields_unexpected fun _ => True).bind fun _ _ => yields_pure trivial
      · exact yields_pure trivial
    · refine (keeps_expectKeyword _).bind fun _ _ => (keeps_expectKeyword _).bind fun _ _ =>
        (yields_expect _).bind fun _ _ => yields_name.bind fun _ _ =>
          keeps_constantDirectives.bind fun _ _ => yields_ite ?_ ?_
      · exact (yields_unexpected fun _ => True).bind fun _ _ => yields_pure trivial
      · exact yields_pure trivial

/-! ## Documents -/

private theorem spelled_typeSystem (directives : List (List Directive)) :
    Definition.Spelled (.typeSystem directives) :=
  fun _ member => absurd member List.not_mem_nil

/-- What is read behind the keyword of a definition has named fields. -/
private theorem yields_keyword (described : Bool) (position : Nat) (keyword : Token) :
    Yields (do
      if keyword.kind = .name then
        let word := keyword.text.getD ""
        match typeSystemDefinition? word with
        | some reader => return .typeSystem (← reader)
        | none =>
          if word = "query" ∨ word = "mutation" ∨ word = "subscription" then
            return .operation (← operation)
          if word = "fragment" then return .fragment (← fragment)
          if described then refuse .strayDescription position
          if word = "extend" then return .typeSystem (← extension)
      refuse (.unexpected keyword) keyword.position) Definition.Spelled := by
  refine yields_ite ?_ (yields_refuse _ _ _)
  dsimp only
  split
  · rename_i reader known
    exact (keeps_typeSystemDefinition known).bind fun read _ => yields_pure (spelled_typeSystem read)
  · have last : Yields (if keyword.text.getD "" = "extend" then do return .typeSystem (← extension)
        else refuse (.unexpected keyword) keyword.position) Definition.Spelled :=
      yields_ite (keeps_extension.bind fun read _ => yields_pure (spelled_typeSystem read))
        (yields_refuse _ _ _)
    refine yields_ite ?_ (yields_ite ?_ (yields_ite ?_ last))
    · exact yields_operation.bind fun _ own => yields_pure own
    · exact yields_fragment.bind fun _ own => yields_pure own
    · exact (yields_refuse _ _ fun _ => True).bind fun _ _ => last

theorem yields_definition : Yields definition Definition.Spelled := by
  refine (keeps_peek _).bind fun _ _ => yields_ite ?_ ?_
  · exact yields_operation.bind fun _ own => yields_pure own
  · refine yields_current.bind fun first _ => yields_ite ?_ ?_
    · exact yields_lookahead.bind fun keyword _ => yields_guard (yields_keyword _ _ keyword)
    · have kept : Keeps (pure first) := yields_pure trivial
      exact kept.bind fun keyword _ => yields_guard (yields_keyword _ _ keyword)

/-- All fields of a document that is read have names. -/
theorem yields_document :
    Yields document fun read => ∀ definition ∈ read.definitions, definition.Spelled :=
  yields_definition.bind fun _ own => keeps_itemBound.bind fun _ _ =>
    (yields_untilClose yields_definition _ _).bind fun _ others =>
      yields_pure (List.forall_mem_cons.mpr ⟨own, others⟩)

end Reader

/-- Each field that a text selects has a name, wherever it is selected. -/
theorem spelled_of_read {source : List Char} {document : Document}
    (read : Document.read source = .ok document) :
    ∀ definition ∈ document.definitions, definition.Spelled := by
  have tokens : ∀ lexeme ∈ scan source, lexeme.Named := fun _ => named_scanFrom
  unfold Document.read at read
  split at read
  · rename_i first rest scanned
    rw [scanned] at tokens
    obtain ⟨own, others⟩ := List.forall_mem_cons.mp tokens
    cases given : Reader.document.run ⟨first, rest⟩ with
    | error error =>
      rw [given] at read
      cases read
    | ok pair =>
      rw [given] at read
      cases read
      have named : Stream.Named ⟨first, rest⟩ := ⟨own, others⟩
      exact (Reader.yields_document _ pair.1 pair.2 named given).2
  · cases read
  · cases read
    simp

/-- So has each root field with selections of its own. -/
theorem named_of_read {source : List Char} {document : Document}
    (read : Document.read source = .ok document) {selection : Selection}
    (member : selection ∈ document.rootSelections) : selection.Named := by
  obtain ⟨request, written, own⟩ := operation_of_root member
  have named := spelled_of_read read _ written
  cases selection with
  | relation head selections =>
    exact (named head (Selection.mem_headsOf.mpr ⟨_, own, List.mem_cons_self⟩)).1
  | leaf head => trivial
  | spread fragment directives => trivial
  | inlineFragment condition directives selections => trivial

end Document
end GraphCache

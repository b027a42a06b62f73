import GraphCache.Prototype.Key
import GraphCache.Proofs.FieldNames
import GraphCache.Proofs.Inlining
import GraphCache.Proofs.Lowercase
import GraphCache.Proofs.TidyNodes

/-! What the key of a request shows. A root's answer is indexed under its type, its identifier and
its filters, written one after the other. The type is a lower-cased name, so a key shows where
it ends, and of the filters it shows everything. Two things it does not show: where an
identifier ends, since it is displayed as any text and may itself end like filters, and the
value of an argument that has an identifier's name and did not give the identifier. Requests
without these have different keys if they differ. -/
namespace GraphCache

/-- Objects that are the same have the same value for each name. -/
theorem Json.Same.get? {fields others : OrderedMap String Json}
    (same : Json.Same (.object fields) (.object others)) (name : String) :
    Option.Rel Json.Same (OrderedMap.get? fields name) (OrderedMap.get? others name) := by
  obtain ⟨keys, values⟩ := Json.same_object.mp same
  have present := keys name
  cases left : OrderedMap.get? fields name with
  | none =>
    rw [left] at present
    have absent : OrderedMap.get? others name = none :=
      Option.not_isSome_iff_eq_none.mp fun held => nomatch present.trans held
    rw [absent]
    exact .none
  | some value =>
    rw [left] at present
    obtain ⟨value', right⟩ := Option.isSome_iff_exists.mp present.symm
    rw [right]
    exact .some (values name value value' left right)

/-- Texts are the same only if they are equal. -/
theorem Json.same_string_iff {text other : String} :
    Same (.string text) (.string other) ↔ text = other := by
  constructor
  · intro same
    cases same
    rfl
  · rintro rfl
    exact .refl _

theorem Json.not_same_string {text : String} {value : Json} (other : ∀ text, value ≠ .string text) :
    ¬Same (.string text) value := by
  intro same
  cases same
  exact other text rfl

theorem Json.not_string_same {text : String} {value : Json} (other : ∀ text, value ≠ .string text) :
    ¬Same value (.string text) := by
  intro same
  cases same
  exact other text rfl

/-! ## Types -/

private theorem ascii_of_isNamePart {c : Char} (part : Document.isNamePart c = true) :
    c.toNat < 128 := by
  simp only [Document.isNamePart, Document.isNameStart, Document.isDigit, Bool.or_eq_true,
    Bool.and_eq_true, decide_eq_true_eq, beq_iff_eq, Char.le_def, UInt32.le_iff_toNat_le] at part
  rcases part with ((⟨_, small⟩ | ⟨_, capital⟩) | rfl) | ⟨_, digit⟩
  · exact lt_of_le_of_lt small (by decide)
  · exact lt_of_le_of_lt capital (by decide)
  · decide
  · exact lt_of_le_of_lt digit (by decide)

private theorem isNamePart_lowerChar : ∀ code < 128,
    Document.isNamePart (Char.ofNat code) = true →
      Document.isNamePart (Text.lowerChar (Char.ofNat code)) = true := by
  decide

/-- A lower-cased name is a name. -/
theorem Text.isName_lowercase {text : String} (name : Document.IsName text) :
    Document.IsName (Text.lowercase text) := by
  have each (before : List Char) {characters : List Char}
      (all : ∀ c ∈ characters, Document.isNamePart c = true) :
      ∀ c ∈ Text.lowerAfter before characters, Document.isNamePart c = true := by
    induction characters generalizing before with
    | nil => simp [Text.lowerAfter]
    | cons first rest ih =>
      obtain ⟨own, others⟩ := List.forall_mem_cons.mp all
      have ascii := ascii_of_isNamePart own
      have dotted : first ≠ '\u0130' := by
        rintro rfl
        exact absurd ascii (by decide)
      have sigma : first ≠ '\u03a3' := by
        rintro rfl
        exact absurd ascii (by decide)
      have form := isNamePart_lowerChar first.toNat ascii
      rw [Char.ofNat_toNat] at form
      rw [Text.lowerAfter, if_neg dotted, if_neg sigma]
      exact List.forall_mem_cons.mpr ⟨form own, ih _ others⟩
  rw [Document.IsName, Text.lowercase, String.toList_ofList]
  exact each [] name

namespace Node
variable {custom : Option String} {node : Node}

/-- The value of an argument of a node. -/
def argument? (node : Node) (name : String) : Option Json := node.arguments.field? name

/-- The argument that gives a node its identifier, if there is one. -/
def supplier? (node : Node) (custom : Option String) : Option String :=
  (identifierNames custom).find? fun name => (node.argument? name).isSome

/-- A root of a text that meets no obstacle when it is compiled, with its spreads or with its
fragments inlined. -/
def Root (custom : Option String) (node : Node) : Prop :=
  ∃ (source : List Char) (document : Document) (key : String),
    Document.read source = .ok document ∧ (document.compile custom).obstacle = none ∧
      ((key, node) ∈ (document.compile custom).prototype ∨ (key, node) ∈ document.expanded custom)

/-- What may stand for a type: a name in lower case, or no text at all, where something else has
taken its place. -/
def Typing (value : Json) : Prop :=
  (∃ name, value = .string name ∧ Text.Lowered name ∧ Document.IsName name) ∨
    value.isTruthy = true ∧ ∀ name, value ≠ .string name

/-- A node with a type and with tidy arguments. -/
structure Keyed (node : Node) : Prop where
  typed : Typing node.typeName
  tidy : node.arguments.Tidy

theorem keyed_of_entries (present : Mark.typeName ∈ OrderedMap.keys node)
    (typed : ∀ entry, (Mark.typeName, entry) ∈ node → Typing entry.toJson)
    (tidy : ∀ entry, (Mark.arguments, entry) ∈ node → entry.toJson.Tidy) : node.Keyed := by
  constructor
  · obtain ⟨entry, found⟩ := Option.isSome_iff_exists.mp
      ((OrderedMap.get?_isSome_iff _ _).mpr present)
    rw [typeName, mark, found]
    exact typed entry (OrderedMap.mem_of_get?_eq_some found)
  · rw [Node.arguments, mark]
    cases found : OrderedMap.get? node Mark.arguments with
    | none => exact .null
    | some entry => exact tidy entry (OrderedMap.mem_of_get?_eq_some found)

end Node

section Marks
variable (custom : Option String)

/-- A relation is no text and not empty, wherever it stands. -/
theorem FieldHead.typing_relation (head : FieldHead) (selections : List Selection) :
    Node.Typing (Entry.relation (head.node custom selections)).toJson := by
  refine .inr ⟨?_, nofun⟩
  have marked : OrderedMap.get? (head.node custom selections) Mark.typeName = _ :=
    head.get?_node_mark custom (head.get?_marks_typeName custom)
  rw [Entry.toJson, Node.fieldsToJson_eq]
  cases written : head.node custom selections with
  | nil =>
    rw [written] at marked
    cases marked
  | cons entry rest => rfl

/-- Under the key of the type mark a node has the name of its field, or a relation that takes its
place. -/
theorem FieldHead.mem_node_typeName {head : FieldHead} {selections : List Selection} {entry : Entry}
    (member : (Mark.typeName, entry) ∈ head.node custom selections) :
    entry = .literal (.string (Text.lowercase head.name)) ∨
      ∃ field : FieldHead × List Selection, entry = .relation (field.1.node custom field.2) := by
  have found := OrderedMap.get?_eq_some_of_mem (head.keys_node_nodup custom selections) member
  rw [head.get?_node_mark custom (head.get?_marks_typeName custom)] at found
  cases last : Selection.last? selections Mark.typeName with
  | none =>
    rw [last] at found
    exact .inl (Option.some.inj found).symm
  | some field =>
    rw [last] at found
    exact .inr ⟨field, (Option.some.inj found).symm⟩

theorem FieldHead.typeName_mem_keys (head : FieldHead) (selections : List Selection) :
    Mark.typeName ∈ OrderedMap.keys (head.node custom selections) := by
  rw [← OrderedMap.get?_isSome_iff, head.get?_node_mark custom (head.get?_marks_typeName custom)]
  rfl

/-- The type of a field with a name. -/
theorem FieldHead.typing_node (head : FieldHead) {selections : List Selection}
    (named : Document.IsName head.name) {entry : Entry}
    (member : (Mark.typeName, entry) ∈ head.node custom selections) :
    Node.Typing entry.toJson := by
  obtain rfl | ⟨field, rfl⟩ := mem_node_typeName custom member
  · exact .inl ⟨_, rfl, Text.lowered_lowercase head.name, Text.isName_lowercase named⟩
  · exact field.1.typing_relation custom field.2

/-- What a fragment has under the key of the type mark is none. -/
theorem Fragment.typing_node (shared : Fragment) {entry : Entry}
    (member : (Mark.typeName, entry) ∈ shared.node custom) : Node.Typing entry.toJson := by
  obtain ⟨field, _, rfl⟩ | ⟨_, rfl⟩ := mem_node member
  · exact field.1.typing_relation custom field.2
  · exact .inr ⟨rfl, nofun⟩

end Marks

namespace Node
variable {custom : Option String} {node : Node}

/-- The node of a field with a name has a type and tidy arguments. -/
private theorem keyed_node {head : FieldHead} (selections : List Selection)
    (named : Document.IsName head.name) : (head.node custom selections).Keyed :=
  keyed_of_entries (head.typeName_mem_keys custom selections)
    (fun _ inside => head.typing_node custom named inside)
    fun _ inside => (head.tidy_node custom (Selection.tidy_relationsOf custom selections)).each _ inside

/-- It has them when fragments are inlined in it: what they bring in is no text, and tidy. -/
private theorem keyed_expand {fragments : FragmentMap}
    (written : ∀ {name fragment}, OrderedMap.get? fragments name = some fragment →
      ∃ shared : Fragment, shared.node custom = fragment)
    {head : FieldHead} (selections : List Selection) (named : Document.IsName head.name)
    (depth : Nat) (opened : List String) :
    (Node.expand fragments depth opened (head.node custom selections)).Keyed := by
  have kept := mem_keys_expand fragments depth opened rfl (head.typeName_mem_keys custom selections)
  refine keyed_of_entries kept (fun entry inside => ?_) fun entry inside => ?_
  · obtain own | ⟨_, _, found, part⟩ := mem_expand_of_reserved rfl inside
    · exact head.typing_node custom named own
    · obtain ⟨shared, rfl⟩ := written found
      exact shared.typing_node custom part
  · obtain own | ⟨_, _, found, part⟩ := mem_expand_of_reserved rfl inside
    · exact (head.tidy_node custom (Selection.tidy_relationsOf custom selections)).each _ own
    · obtain ⟨shared, rfl⟩ := written found
      exact (shared.tidy_node custom).each _ part

/-- A root has a type and tidy arguments. -/
theorem Root.keyed (root : node.Root custom) : node.Keyed := by
  obtain ⟨source, document, key, read, clear, member⟩ := root
  have rooted : ∀ entry ∈ (document.compile custom).prototype, ∃ head selections,
      Document.IsName (FieldHead.name head) ∧ entry.2 = head.node custom selections := by
    intro entry member
    obtain ⟨⟨head, selections⟩, last, same⟩ := Document.root_of_mem clear member
    have listed := (Selection.mem_branches.mp (Selection.mem_of_last? last)).2
    exact ⟨head, selections, Document.named_of_read read listed, same⟩
  obtain plain | inlined := member
  · obtain ⟨head, selections, named, rfl⟩ := rooted _ plain
    exact keyed_node selections named
  · obtain ⟨⟨_, own⟩, inside, same⟩ := List.mem_map.mp inlined
    cases same
    obtain ⟨head, selections, named, rfl⟩ := rooted _ inside
    refine keyed_expand (fun found => ?_) selections named ..
    obtain ⟨shared, _, same⟩ := Document.fragment_of_compiled clear found
    exact ⟨shared, same⟩

/-! ## The parts of a key -/

/-- What is written for an identifier. -/
def identifierText : Json → List Char
  | .null => []
  | identifier => '-' :: '-' :: identifier.display.toList

/-- What is written for filters. -/
def filterText (filters : OrderedMap String Json) : List Char :=
  if filters.isEmpty then [] else (Json.print Json.keyStyle (.object filters)).toList

theorem identifierText_of_ne {identifier : Json} (some : identifier ≠ .null) :
    identifierText identifier = '-' :: '-' :: identifier.display.toList := by
  cases identifier with
  | null => exact absurd rfl some
  | _ => rfl

theorem cacheKey_of_ne (some : node.identifier ≠ .null) :
    node.cacheKey = (node.typeLabel.entityKey node.identifier.display).map .text := by
  unfold cacheKey
  split
  · rename_i null
    exact absurd null some
  · rfl

theorem cacheKey_of_null (none : node.identifier = .null) : node.cacheKey = .ok node.typeLabel := by
  rw [cacheKey, none]

/-- A key is what an entity's key would be, with the filters behind it if there are any. -/
theorem queryKey_cases {key : Label} (keyed : node.queryKey custom = .ok key) :
    ∃ filters own, node.filters custom = .ok filters ∧ node.cacheKey = .ok own ∧
      (filters = [] ∧ key = own ∨ filters ≠ [] ∧ ∃ text, own = .text text ∧
        key = .text (text ++ Json.print Json.keyStyle (.object filters))) := by
  rw [queryKey] at keyed
  cases given : node.filters custom with
  | error reason =>
    rw [given] at keyed
    cases keyed
  | ok filters =>
    cases made : node.cacheKey with
    | error reason =>
      rw [given, made] at keyed
      cases keyed
    | ok own =>
      refine ⟨filters, own, rfl, rfl, ?_⟩
      rw [given, made] at keyed
      cases filters with
      | nil =>
        cases keyed
        exact .inl ⟨rfl, rfl⟩
      | cons filter rest =>
        cases own with
        | text text =>
          cases keyed
          exact .inr ⟨List.cons_ne_nil filter rest, text, rfl, rfl⟩
        | displaced mark => cases keyed

/-- The key of a node with a text for its type is its type, its identifier and its filters. -/
theorem queryKey_of_typeName {name : String} (typed : node.typeName = .string name)
    (lower : Text.Lowered name) {key : Label} (keyed : node.queryKey custom = .ok key) :
    ∃ text filters, key = .text text ∧ node.filters custom = .ok filters ∧
      text.toList = name.toList ++ (identifierText node.identifier ++ filterText filters) := by
  have label : node.typeLabel = .text name := by
    rw [typeLabel, typed]
  have own : ∃ text, node.cacheKey = .ok (.text text) ∧
      text.toList = name.toList ++ identifierText node.identifier := by
    by_cases none : node.identifier = .null
    · exact ⟨name, by rw [cacheKey_of_null none, label], by simp [none, identifierText]⟩
    · refine ⟨_, by rw [cacheKey_of_ne none, label]; rfl, ?_⟩
      rw [entityKey, lower, identifierText_of_ne none]
      simp [String.toList_append]
  obtain ⟨text, made, chars⟩ := own
  obtain ⟨filters, own, given, found, shape⟩ := queryKey_cases keyed
  cases made.symm.trans found
  obtain ⟨rfl, rfl⟩ | ⟨some, other, same, rfl⟩ := shape
  · exact ⟨text, [], rfl, given, by simp [chars, filterText]⟩
  · cases same
    exact ⟨_, filters, rfl, given, by simp [chars, filterText, some, String.toList_append]⟩

/-- The key of a node with something else for its type is just that, without identifier and
filters. -/
theorem queryKey_of_displaced (truthy : node.typeName.isTruthy = true)
    (other : ∀ name, node.typeName ≠ .string name) {key : Label}
    (keyed : node.queryKey custom = .ok key) :
    key = .displaced node.typeName ∧ node.identifier = .null ∧ node.filters custom = .ok [] := by
  have label : node.typeLabel = .displaced node.typeName := by
    unfold typeLabel
    split
    · rename_i name same
      exact absurd same (other name)
    · rw [if_pos truthy]
  obtain ⟨filters, own, given, made, shape⟩ := queryKey_cases keyed
  have none : node.identifier = .null := by
    by_contra some
    rw [cacheKey_of_ne some, label] at made
    cases made
  rw [cacheKey_of_null none, label] at made
  cases made
  obtain ⟨rfl, rfl⟩ | ⟨_, text, same, _⟩ := shape
  · exact ⟨rfl, none, given⟩
  · cases same

/-! ## Where the parts end -/

/-- The arguments of a node are an object, or there are none. -/
theorem argumentFields_cases {fields : OrderedMap String Json}
    (found : node.argumentFields = .ok fields) :
    node.arguments = .object fields ∨
      fields = [] ∧ ∀ others, node.arguments ≠ .object others := by
  unfold argumentFields at found
  split at found
  · rename_i own same
    cases found
    exact .inl same
  · rename_i other
    split at found <;> cases found
    exact .inr ⟨rfl, other⟩

theorem filters_cases {filters : OrderedMap String Json}
    (given : node.filters custom = .ok filters) :
    ∃ fields, node.argumentFields = .ok fields ∧
      filters = fields.filter fun entry => !(identifierNames custom).contains entry.1 := by
  unfold Node.filters at given
  cases found : node.argumentFields with
  | error reason =>
    rw [found] at given
    cases given
  | ok fields =>
    rw [found] at given
    cases given
    exact ⟨fields, rfl, rfl⟩

/-- The filters of a root are tidy, too. -/
theorem Keyed.tidy_filters (keyed : node.Keyed) {filters : OrderedMap String Json}
    (given : node.filters custom = .ok filters) : (Json.object filters).Tidy := by
  obtain ⟨fields, found, rfl⟩ := filters_cases given
  obtain same | ⟨rfl, _⟩ := argumentFields_cases found
  · have tidy := keyed.tidy
    rw [same] at tidy
    cases tidy with
    | object unique each =>
      exact .object (unique.sublist (List.filter_sublist.map Prod.fst)) fun field member =>
        each field (List.mem_of_mem_filter member)
  · exact .object List.nodup_nil (by simp)

/-- A name ends where something stands that is no part of a name. -/
private theorem typeName_split {name other : String} (one : Document.IsName name)
    (two : Document.IsName other) {rest rest' : List Char}
    (begins : ∀ c more, rest = c :: more → Document.isNamePart c = false)
    (begins' : ∀ c more, rest' = c :: more → Document.isNamePart c = false)
    (same : name.toList ++ rest = other.toList ++ rest') : name = other ∧ rest = rest' := by
  obtain ⟨names, rests⟩ := append_split one two
    (fun c more first => Bool.not_eq_true _ ▸ begins c more first)
    (fun c more first => Bool.not_eq_true _ ▸ begins' c more first) same
  exact ⟨String.toList_inj.mp names, rests⟩

private theorem eq_nil_of_absent {fields : OrderedMap String Json}
    (absent : ∀ key, (OrderedMap.get? fields key).isSome = false) : fields = [] := by
  cases fields with
  | nil => rfl
  | cons field rest =>
    have found := absent field.1
    simp [OrderedMap.get?] at found

/-- What is the same as an empty object is empty. -/
theorem same_nil_iff {filters others : OrderedMap String Json}
    (same : Json.Same (.object filters) (.object others)) : filters = [] ↔ others = [] := by
  have keys := (Json.same_object.mp same).1
  constructor
  · rintro rfl
    exact eq_nil_of_absent fun key => (keys key).symm
  · rintro rfl
    exact eq_nil_of_absent keys

section Filters
variable {filters others : OrderedMap String Json} (one : (Json.object filters).Tidy)
  (two : (Json.object others).Tidy)

/-- Filters begin with a brace and end with it. -/
theorem filterText_braced (tidy : (Json.object filters).Tidy) (some : filters ≠ []) :
    ∃ body, Linked body ∧ filterText filters = '\x7b' :: (body ++ ['\x7d']) := by
  obtain ⟨body, linked, text⟩ := tidy.print_braced
  exact ⟨body, linked, by simp [filterText, some, text]⟩

include one two

/-- Filters are shown by what is written for them. -/
theorem filterText_eq_iff :
    filterText filters = filterText others ↔ Json.Same (.object filters) (.object others) := by
  by_cases none : filters = []
  · subst none
    by_cases none' : others = []
    · subst none'
      exact ⟨fun _ => .refl _, fun _ => rfl⟩
    · obtain ⟨body, _, text⟩ := filterText_braced two none'
      rw [text]
      exact ⟨nofun, fun same => absurd ((same_nil_iff same).mp rfl) none'⟩
  · by_cases none' : others = []
    · subst none'
      obtain ⟨body, _, text⟩ := filterText_braced one none
      rw [text]
      exact ⟨nofun, fun same => absurd ((same_nil_iff same).mpr rfl) none⟩
    · rw [filterText, filterText, if_neg (by simpa using none), if_neg (by simpa using none'),
        String.toList_inj]
      exact one.print_eq_iff two

/-- Filters do not end with other filters. -/
theorem append_filterText_inj (some : filters ≠ []) (some' : others ≠ []) {text text' : List Char}
    (same : text ++ filterText filters = text' ++ filterText others) :
    text = text' ∧ filterText filters = filterText others := by
  obtain ⟨body, linked, braced⟩ := filterText_braced one some
  obtain ⟨body', linked', braced'⟩ := filterText_braced two some'
  obtain ⟨more, rfl, later⟩ | ⟨more, rfl, later⟩ := List.append_eq_append_iff.mp same
  · rw [braced, braced'] at later
    obtain rfl := linked.suffix linked' later
    rw [braced, braced', later]
    simp
  · rw [braced, braced'] at later
    obtain rfl := linked'.suffix linked later
    rw [braced, braced', later]
    simp

/-- When two texts with filters behind them are the same: where texts and filters are the same, or
where one of the texts ends with the filters of the other one and has none itself. -/
theorem append_filterText_eq_iff {text text' : List Char} :
    text ++ filterText filters = text' ++ filterText others ↔
      (text = text' ∧ Json.Same (.object filters) (.object others)) ∨
        (filters = [] ∧ others ≠ [] ∧ text = text' ++ filterText others) ∨
          (others = [] ∧ filters ≠ [] ∧ text' = text ++ filterText filters) := by
  by_cases none : filters = []
  · subst none
    by_cases none' : others = []
    · subst none'
      simp [Json.Same.refl]
    · have apart : ¬Json.Same (.object []) (.object others) :=
        fun same => none' ((same_nil_iff same).mp rfl)
      simp [filterText, none', apart]
  · by_cases none' : others = []
    · subst none'
      have apart : ¬Json.Same (.object filters) (.object []) :=
        fun same => none ((same_nil_iff same).mpr rfl)
      have empty : filterText [] = [] := rfl
      rw [empty, List.append_nil]
      constructor
      · exact fun same => .inr (.inr ⟨rfl, none, same.symm⟩)
      · rintro (⟨_, same⟩ | ⟨absent, _⟩ | ⟨_, _, same⟩)
        · exact absurd same apart
        · exact absurd absent none
        · exact same.symm
    · constructor
      · intro same
        obtain ⟨texts, filters⟩ := append_filterText_inj one two none none' same
        exact .inl ⟨texts, (filterText_eq_iff one two).mp filters⟩
      · rintro (⟨rfl, same⟩ | ⟨absent, _⟩ | ⟨absent, _⟩)
        · rw [(filterText_eq_iff one two).mpr same]
        · exact absurd absent none
        · exact absurd absent none'

end Filters

/-! ## Keys and requests -/

/-- Identifiers that are written alike, each with its filters behind it. Either all is the same,
or there are filters behind one of them only, and the other one ends like these. -/
inductive Alike (filters others : OrderedMap String Json) : Json → Json → Prop where
  | none (same : Json.Same (.object filters) (.object others)) : Alike filters others .null .null
  | same {identifier identifier' : Json} (some : identifier ≠ .null) (some' : identifier' ≠ .null)
      (displayed : identifier.display = identifier'.display)
      (same : Json.Same (.object filters) (.object others)) :
      Alike filters others identifier identifier'
  | longer {identifier identifier' : Json} (some : identifier ≠ .null) (some' : identifier' ≠ .null)
      (bare : filters = []) (filtered : others ≠ [])
      (displayed : identifier.display =
        identifier'.display ++ Json.print Json.keyStyle (.object others)) :
      Alike filters others identifier identifier'
  | shorter {identifier identifier' : Json} (some : identifier ≠ .null) (some' : identifier' ≠ .null)
      (filtered : filters ≠ []) (bare : others = [])
      (displayed : identifier'.display =
        identifier.display ++ Json.print Json.keyStyle (.object filters)) :
      Alike filters others identifier identifier'

private theorem ends_like {text other : String} {filters : OrderedMap String Json}
    (some : filters ≠ []) :
    '-' :: '-' :: text.toList = '-' :: '-' :: other.toList ++ filterText filters ↔
      text = other ++ Json.print Json.keyStyle (.object filters) := by
  simp [filterText, some, ← String.toList_inj, String.toList_append]

theorem alike_iff {filters others : OrderedMap String Json} (one : (Json.object filters).Tidy)
    (two : (Json.object others).Tidy) {identifier identifier' : Json} :
    identifierText identifier ++ filterText filters =
        identifierText identifier' ++ filterText others ↔
      Alike filters others identifier identifier' := by
  -- Filters begin with another character than an identifier.
  have apart {filters : OrderedMap String Json} (tidy : (Json.object filters).Tidy)
      (text : List Char) : filterText filters ≠ '-' :: text := by
    by_cases none : filters = []
    · simp [none, filterText]
    · obtain ⟨body, _, braced⟩ := filterText_braced tidy none
      simp [braced]
  have empty : identifierText .null = [] := rfl
  by_cases none : identifier = .null
  · subst none
    by_cases none' : identifier' = .null
    · subst none'
      rw [empty, List.nil_append, List.nil_append, filterText_eq_iff one two]
      constructor
      · exact .none
      · intro alike
        cases alike with
        | none same => exact same
        | _ => contradiction
    · rw [empty, List.nil_append, identifierText_of_ne none']
      refine ⟨fun same => absurd same (apart one _), fun alike => ?_⟩
      cases alike <;> contradiction
  · by_cases none' : identifier' = .null
    · subst none'
      rw [empty, List.nil_append, identifierText_of_ne none]
      refine ⟨fun same => absurd same.symm (apart two _), fun alike => ?_⟩
      cases alike <;> contradiction
    · rw [identifierText_of_ne none, identifierText_of_ne none', append_filterText_eq_iff one two]
      constructor
      · rintro (⟨texts, same⟩ | ⟨bare, filtered, ends⟩ | ⟨bare, filtered, ends⟩)
        · have displayed : identifier.display.toList = identifier'.display.toList := by
            simpa using texts
          exact .same none none' (String.toList_inj.mp displayed) same
        · exact .longer none none' bare filtered ((ends_like filtered).mp ends)
        · exact .shorter none none' filtered bare ((ends_like filtered).mp ends)
      · intro alike
        cases alike with
        | none _ => contradiction
        | same _ _ displayed same => exact .inl ⟨by rw [displayed], same⟩
        | longer _ _ bare filtered displayed =>
          exact .inr (.inl ⟨bare, filtered, (ends_like filtered).mpr displayed⟩)
        | shorter _ _ filtered bare displayed =>
          exact .inr (.inr ⟨bare, filtered, (ends_like filtered).mpr displayed⟩)

/-- What stands behind a type is no part of a name. -/
private theorem rest_begins {filters : OrderedMap String Json} (tidy : (Json.object filters).Tidy)
    (identifier : Json) (c : Char) (more : List Char)
    (same : identifierText identifier ++ filterText filters = c :: more) :
    Document.isNamePart c = false := by
  by_cases none : identifier = .null
  · subst none
    by_cases bare : filters = []
    · subst bare
      cases same
    · obtain ⟨body, _, braced⟩ := filterText_braced tidy bare
      change filterText filters = _ at same
      rw [braced] at same
      cases same
      decide
  · rw [identifierText_of_ne none] at same
    cases same
    decide

/-- Two roots have one key exactly if their types are the same and their identifiers and filters
are written alike. -/
theorem Keyed.queryKey_same_iff {one two : Node} (first : one.Keyed) (second : two.Keyed)
    {key key' : Label} (keyed : one.queryKey custom = .ok key)
    (keyed' : two.queryKey custom = .ok key') {filters others : OrderedMap String Json}
    (given : one.filters custom = .ok filters) (given' : two.filters custom = .ok others) :
    Json.Same key.toJson key'.toJson ↔
      Json.Same one.typeName two.typeName ∧
        Alike filters others one.identifier two.identifier := by
  have tidy := first.tidy_filters given
  have tidy' := second.tidy_filters given'
  obtain ⟨name, typed, lower, named⟩ | ⟨truthy, other⟩ := first.typed
  · obtain ⟨text, own, rfl, found, chars⟩ := queryKey_of_typeName typed lower keyed
    cases given.symm.trans found
    obtain ⟨name', typed', lower', named'⟩ | ⟨truthy, other⟩ := second.typed
    · obtain ⟨text', own', rfl, found', chars'⟩ := queryKey_of_typeName typed' lower' keyed'
      cases given'.symm.trans found'
      change Json.Same (.string text) (.string text') ↔ _
      rw [typed, typed', Json.same_string_iff, Json.same_string_iff, ← String.toList_inj, chars,
        chars', ← alike_iff tidy tidy']
      constructor
      · exact typeName_split named named' (rest_begins tidy _) (rest_begins tidy' _)
      · rintro ⟨rfl, rest⟩
        rw [rest]
    · obtain ⟨rfl, _⟩ := queryKey_of_displaced truthy other keyed'
      rw [typed]
      exact ⟨fun same => absurd same (Json.not_same_string other),
        fun same => absurd same.1 (Json.not_same_string other)⟩
  · obtain ⟨rfl, none, found⟩ := queryKey_of_displaced truthy other keyed
    cases given.symm.trans found
    obtain ⟨name', typed', lower', _⟩ | ⟨truthy', other'⟩ := second.typed
    · obtain ⟨text', _, rfl, _⟩ := queryKey_of_typeName typed' lower' keyed'
      rw [typed']
      exact ⟨fun same => absurd same (Json.not_string_same other),
        fun same => absurd same.1 (Json.not_string_same other)⟩
    · obtain ⟨rfl, none', found'⟩ := queryKey_of_displaced truthy' other' keyed'
      cases given'.symm.trans found'
      rw [none, none']
      exact ⟨fun same => ⟨same, .none (.refl _)⟩, And.left⟩

/-! ## What a key shows -/

/-- Only arguments with an identifier's name are no filters. -/
theorem argument?_of_filters {filters : OrderedMap String Json}
    (given : node.filters custom = .ok filters) {name : String}
    (plain : name ∉ identifierNames custom) : node.argument? name = OrderedMap.get? filters name := by
  obtain ⟨fields, found, rfl⟩ := filters_cases given
  have own : node.argument? name = OrderedMap.get? fields name := by
    obtain same | ⟨rfl, other⟩ := argumentFields_cases found
    · rw [argument?, same]
      rfl
    · rw [argument?]
      cases same : node.arguments with
      | object others => exact absurd same (other others)
      | _ => rfl
  rw [own, OrderedMap.get?_filter fields fun key => !(identifierNames custom).contains key]
  simp [plain]

/-- A request that its key shows. Its identifier, if it has one, is a text that does not end like
filters where it has none, and only the argument that gives it has an identifier's name. -/
structure Shown (custom : Option String) (node : Node) : Prop where
  identifier : node.identifier = .null ∨ ∃ text, node.identifier = .string text ∧
    (node.filters custom = .ok [] → ∀ fields, fields ≠ [] →
      ¬(Json.print Json.keyStyle (.object fields)).toList <:+ text.toList)
  single : ∀ name ∈ identifierNames custom, (node.argument? name).isSome →
    node.supplier? custom = some name

private theorem Alike.shown {one two : Node} (first : one.Shown custom) (second : two.Shown custom)
    {filters others : OrderedMap String Json} (given : one.filters custom = .ok filters)
    (given' : two.filters custom = .ok others)
    (alike : Alike filters others one.identifier two.identifier) :
    one.identifier = two.identifier ∧ Json.Same (.object filters) (.object others) := by
  obtain none | ⟨text, identified, apart⟩ := first.identifier
  · rw [none] at alike ⊢
    generalize two.identifier = identifier' at alike
    cases alike with
    | none same => exact ⟨rfl, same⟩
    | _ => contradiction
  · obtain none | ⟨text', identified', apart'⟩ := second.identifier
    · rw [none] at alike
      generalize one.identifier = identifier at alike identified
      cases alike with
      | none same => cases identified
      | _ => contradiction
    · rw [identified, identified'] at alike ⊢
      cases alike with
      | same _ _ displayed same => exact ⟨congrArg Json.string displayed, same⟩
      | longer _ _ bare filtered displayed =>
        refine absurd ⟨text'.toList, ?_⟩ (apart (bare ▸ given) others filtered)
        rw [← String.toList_append]
        exact congrArg String.toList displayed.symm
      | shorter _ _ filtered bare displayed =>
        refine absurd ⟨text.toList, ?_⟩ (apart' (bare ▸ given') filters filtered)
        rw [← String.toList_append]
        exact congrArg String.toList displayed.symm

/-- Roots that differ have different keys if their keys show them: with one key two such roots
have the same type, the same identifier and the same value for every argument, but for those
that gave the identifier. -/
theorem queryKey_tells {one two : Node} (root : one.Root custom) (root' : two.Root custom)
    (shown : one.Shown custom) (shown' : two.Shown custom) {key key' : Label}
    (keyed : one.queryKey custom = .ok key) (keyed' : two.queryKey custom = .ok key')
    (same : Json.Same key.toJson key'.toJson) :
    Json.Same one.typeName two.typeName ∧ one.identifier = two.identifier ∧
      ∀ name, one.supplier? custom ≠ some name → two.supplier? custom ≠ some name →
        Option.Rel Json.Same (one.argument? name) (two.argument? name) := by
  obtain ⟨filters, _, given, _⟩ := queryKey_cases keyed
  obtain ⟨others, _, given', _⟩ := queryKey_cases keyed'
  obtain ⟨types, alike⟩ :=
    (root.keyed.queryKey_same_iff root'.keyed keyed keyed' given given').mp same
  obtain ⟨identifiers, filtered⟩ := alike.shown shown shown' given given'
  refine ⟨types, identifiers, fun name other other' => ?_⟩
  by_cases own : name ∈ identifierNames custom
  · have absent : one.argument? name = none :=
      Option.not_isSome_iff_eq_none.mp fun present => other (shown.single name own present)
    have absent' : two.argument? name = none :=
      Option.not_isSome_iff_eq_none.mp fun present => other' (shown'.single name own present)
    rw [absent, absent']
    exact .none
  · rw [argument?_of_filters given own, argument?_of_filters given' own]
    exact filtered.get? name

end Node

/-- The arguments that a field is marked with. -/
theorem FieldHead.argument?_marks (head : FieldHead) (custom : Option String) :
    Node.argument? (head.marks custom) = OrderedMap.get? head.given := by
  have marked : Node.arguments (head.marks custom) =
      if head.given.isEmpty then .null else .object head.given := by
    rw [Node.arguments, Node.mark, FieldHead.marks, OrderedMap.get?_overlay]
    rfl
  funext name
  rw [Node.argument?, marked]
  cases head.given <;> rfl

/-- The identifier that a field is marked with is the value of the argument that gives it. -/
theorem FieldHead.identifier_supplied (head : FieldHead) (custom : Option String) :
    Node.identifier (head.marks custom) =
      ((Node.supplier? (head.marks custom) custom).bind
        (Node.argument? (head.marks custom))).getD .null := by
  have search (names : List String) (value? : String → Option Json) :
      names.findSome? value? = (names.find? fun name => (value? name).isSome).bind value? := by
    induction names with
    | nil => rfl
    | cons name rest ih =>
      rw [List.findSome?_cons, List.find?_cons]
      cases found : value? name with
      | none => simpa using ih
      | some value => simp [found]
  have identified : Node.identifier (head.marks custom) =
      (firstIdentifier? head.given custom).getD .null := by
    rw [Node.identifier, Node.mark, FieldHead.marks, OrderedMap.get?_overlay]
    rfl
  rw [identified, firstIdentifier?, search, Node.supplier?, head.argument?_marks custom]

namespace Books

/-- A request for the seventh book, with some arguments. -/
def request (name : String) (arguments : List Argument) : Document where
  definitions := [.operation ⟨.query, none, [], [],
    [.relation ⟨none, name, arguments, []⟩ [.leaf ⟨none, "id", [], []⟩]]⟩]

/-- The root of such a request. -/
def node (arguments : OrderedMap String Json) : Node :=
  [("id", .requested), (Mark.identifier, .literal (.string "7")),
    (Mark.typeName, .literal (.string "book")), (Mark.aliasName, .literal .null),
    (Mark.arguments, .literal (.object arguments))]

set_option maxRecDepth 8000 in
theorem read_format : Document.read "\x7bbook(id:7,format:PDF)\x7bid\x7d\x7d".toList =
    .ok (request "book" [⟨"id", .int "7"⟩, ⟨"format", .enum "PDF"⟩]) := by
  cbv

set_option maxRecDepth 8000 in
theorem read_turned : Document.read "\x7bBook(format:PDF,_id:7)\x7bid\x7d\x7d".toList =
    .ok (request "Book" [⟨"format", .enum "PDF"⟩, ⟨"_id", .int "7"⟩]) := by
  cbv

/-- What is compiled from such a request. -/
theorem root_of_request {source : List Char} {name : String} {arguments : List Argument}
    {given : OrderedMap String Json} (read : Document.read source = .ok (request name arguments))
    (clear : ((request name arguments).compile none).obstacle = none)
    (compiled : ((request name arguments).compile none).prototype = [(name, node given)]) :
    (node given).Root none :=
  ⟨source, _, name, read, clear, .inl (compiled ▸ List.mem_cons_self)⟩

/-- Two ways to ask for a book in a format have one key, and it shows all they ask for. -/
theorem queryKey_tells_format :
    (node [("id", .string "7"), ("format", .string "PDF")]).identifier =
        (node [("format", .string "PDF"), ("_id", .string "7")]).identifier ∧
      Option.Rel Json.Same
        ((node [("id", .string "7"), ("format", .string "PDF")]).argument? "format")
        ((node [("format", .string "PDF"), ("_id", .string "7")]).argument? "format") := by
  have keyed : (node [("id", .string "7"), ("format", .string "PDF")]).queryKey none =
      .ok (.text "book--7\x7b\"format\":\"PDF\"\x7d") := by cbv
  have keyed' : (node [("format", .string "PDF"), ("_id", .string "7")]).queryKey none =
      .ok (.text "book--7\x7b\"format\":\"PDF\"\x7d") := by cbv
  have filtered : (.ok [("format", .string "PDF")] : Except Malformed (OrderedMap String Json)) ≠
      .ok [] := by
    intro bare
    cases bare
  have shown : (node [("id", .string "7"), ("format", .string "PDF")]).Shown none :=
    ⟨.inr ⟨"7", rfl, fun bare => absurd bare filtered⟩, by decide⟩
  have shown' : (node [("format", .string "PDF"), ("_id", .string "7")]).Shown none :=
    ⟨.inr ⟨"7", rfl, fun bare => absurd bare filtered⟩, by decide⟩
  have told := Node.queryKey_tells (root_of_request read_format (by decide) rfl)
    (root_of_request read_turned (by decide) rfl) shown shown' keyed keyed' (.refl _)
  exact ⟨told.2.1, told.2.2 "format" (by decide) (by decide)⟩

set_option maxRecDepth 8000 in
theorem read_eighth : Document.read "\x7bbook(id:7,_id:8)\x7bid\x7d\x7d".toList =
    .ok (request "book" [⟨"id", .int "7"⟩, ⟨"_id", .int "8"⟩]) := by
  cbv

set_option maxRecDepth 8000 in
theorem read_ninth : Document.read "\x7bbook(id:7,_id:9)\x7bid\x7d\x7d".toList =
    .ok (request "book" [⟨"id", .int "7"⟩, ⟨"_id", .int "9"⟩]) := by
  cbv

/-- A second argument with an identifier's name is in no part of a key. -/
theorem queryKey_hides_identifier :
    ¬∀ (custom : Option String) (one two : Node) (key : Label), one.Root custom → two.Root custom →
      one.queryKey custom = .ok key → two.queryKey custom = .ok key →
        Json.Same one.typeName two.typeName ∧ one.identifier = two.identifier ∧
          ∀ name, one.supplier? custom ≠ some name → two.supplier? custom ≠ some name →
            Option.Rel Json.Same (one.argument? name) (two.argument? name) := by
  intro tells
  have keyed : (node [("id", .string "7"), ("_id", .string "8")]).queryKey none =
      .ok (.text "book--7") := by cbv
  have keyed' : (node [("id", .string "7"), ("_id", .string "9")]).queryKey none =
      .ok (.text "book--7") := by cbv
  have told := tells none _ _ _ (root_of_request read_eighth (by decide) rfl)
    (root_of_request read_ninth (by decide) rfl) keyed keyed'
  have same : Option.Rel Json.Same (some (.string "8")) (some (.string "9")) :=
    told.2.2 "_id" (by decide) (by decide)
  cases same with
  | some same => exact absurd (Json.same_string_iff.mp same) (by decide)

end Books

end GraphCache

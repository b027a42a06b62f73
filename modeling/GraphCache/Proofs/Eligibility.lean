import GraphCache.Proofs.Translation

/-! A document can be cached exactly if nothing in it is an obstacle. The walk stops at the first
obstacle and keeps its place on a stack. Here all obstacles of a document are listed by plain
recursion, in the order in which a walk that never stopped would come to them, and what makes
a place an obstacle is said by rules of its own. The walk reports the head of that list, so
nothing behind the first obstacle can change what is reported. -/
namespace GraphCache

/-! ## What is an obstacle -/

/-- A value that uses a variable, however deep in lists and objects. -/
inductive Literal.Uses (name : String) : Literal → Prop where
  | here : Uses name (.parameter name)
  | item {items : List Literal} {item : Literal} (member : item ∈ items)
      (inner : Uses name item) : Uses name (.list items)
  | field {fields : List (String × Literal)} {field : String × Literal} (member : field ∈ fields)
      (inner : Uses name field.2) : Uses name (.object fields)

/-- Why a field cannot be cached, whatever is selected below it. -/
inductive FieldHead.Blocks (head : FieldHead) : Reason → Prop where
  | directive (given : head.directives ≠ []) : Blocks head .directive
  | introspection (reserved : isReserved head.name = true) : Blocks head .introspection
  | variableArgument {argument : Argument} {name : String} (member : argument ∈ head.arguments)
      (uses : argument.value.Uses name) : Blocks head .variableArgument

/-- Why a selection cannot be cached, whatever is selected below it. An inline fragment is one
obstacle, with directives or without. -/
inductive Selection.Blocks (custom : Option String) : Selection → Reason → Prop where
  | leaf {head : FieldHead} {reason : Reason} (own : head.Blocks reason) :
      Blocks custom (.leaf head) reason
  | relation {head : FieldHead} {selections : List Selection} {reason : Reason}
      (own : head.Blocks reason) : Blocks custom (.relation head selections) reason
  | missingIdentifier {head : FieldHead} {selections : List Selection}
      (missing : ∀ name ∈ identifierNames custom, name ∉ Selection.offered selections) :
      Blocks custom (.relation head selections) .missingIdentifier
  | spread {fragment : String} {directives : List Directive} (given : directives ≠ []) :
      Blocks custom (.spread fragment directives) .directive
  | inlineFragment {typeCondition : Option String} {directives : List Directive}
      {selections : List Selection} :
      Blocks custom (.inlineFragment typeCondition directives selections) .inlineFragment

/-- A selection that stands in a selection set, or below a field there. What an inline fragment
selects is not visited. -/
inductive Selection.Within (selection : Selection) : List Selection → Prop where
  | here {selections : List Selection} (member : selection ∈ selections) :
      Within selection selections
  | inside {selections inner : List Selection} {head : FieldHead}
      (member : .relation head inner ∈ selections) (within : Within selection inner) :
      Within selection selections

/-- Why a definition cannot be cached: its own directives or those of its parts, a subscription,
or one of its selections. -/
inductive Definition.Blocks (custom : Option String) : Definition → Reason → Prop where
  | operation {request : Operation} (given : request.directives ≠ []) :
      Blocks custom (.operation request) .directive
  | subscription {request : Operation} (kind : request.kind = .subscription) :
      Blocks custom (.operation request) .subscription
  | parameter {request : Operation} {parameter : Parameter}
      (member : parameter ∈ request.parameters)
      (given : parameter.directives ≠ []) : Blocks custom (.operation request) .directive
  | requested {request : Operation} {selection : Selection} {reason : Reason}
      (within : selection.Within request.selections) (blocks : selection.Blocks custom reason) :
      Blocks custom (.operation request) reason
  | fragment {shared : Fragment} (given : shared.directives ≠ []) :
      Blocks custom (.fragment shared) .directive
  | shared {shared : Fragment} {selection : Selection} {reason : Reason}
      (within : selection.Within shared.selections) (blocks : selection.Blocks custom reason) :
      Blocks custom (.fragment shared) reason
  | typeSystem {lists : List (List Directive)} {directives : List Directive}
      (member : directives ∈ lists) (given : directives ≠ []) :
      Blocks custom (.typeSystem lists) .directive

/-- Why a document cannot be cached: any of its definitions, used or not. -/
def Document.Blocks (document : Document) (custom : Option String) (reason : Reason) : Prop :=
  ∃ definition ∈ document.definitions, definition.Blocks custom reason

/-! ## All obstacles, in order -/

/-- The obstacle that directives at a place are. -/
def directed (path : List String) (directives : List Directive) : List Obstacle :=
  if directives.isEmpty then [] else [⟨.directive, path⟩]

/-- The obstacles at a field: its directives, then its name, then its arguments. -/
def FieldHead.obstacles (head : FieldHead) (path : List String) : List Obstacle :=
  directed path head.directives ++
    (if isReserved head.name then [⟨.introspection, path⟩] else []) ++
    if head.arguments.any (·.value.hasParameter) then [⟨.variableArgument, path⟩] else []

namespace Selection

/-- The obstacle that a selection set without an identifier is. -/
def unaddressed (custom : Option String) (path : List String) (selections : List Selection) :
    List Obstacle :=
  if hasIdentifier (offered selections) custom then [] else [⟨.missingIdentifier, path⟩]

mutual

/-- The obstacles of a selection: those of the field, that of its selection set, and then those
below it. -/
def obstacles (custom : Option String) (path : List String) : Selection → List Obstacle
  | .leaf head => head.obstacles path
  | .relation head selections =>
    head.obstacles path ++ unaddressed custom (path ++ [head.responseKey]) selections ++
      obstaclesOf custom (path ++ [head.responseKey]) selections
  | .spread _ directives => directed path directives
  | .inlineFragment .. => [⟨.inlineFragment, path⟩]

def obstaclesOf (custom : Option String) (path : List String) : List Selection → List Obstacle
  | [] => []
  | selection :: rest => selection.obstacles custom path ++ obstaclesOf custom path rest

end

end Selection

/-- The obstacles of a definition. The places in a fragment are told from the fragment's name on. -/
def Definition.obstacles (custom : Option String) : Definition → List Obstacle
  | .operation request =>
    directed [] request.directives ++
      (if request.kind = .subscription then [⟨.subscription, []⟩] else []) ++
      (request.parameters.flatMap fun parameter => directed [] parameter.directives) ++
      Selection.obstaclesOf custom [] request.selections
  | .fragment shared =>
    directed [] shared.directives ++ Selection.obstaclesOf custom [shared.name] shared.selections
  | .typeSystem lists => lists.flatMap (directed [])

/-- The obstacles of a document, in the order of a depth-first walk. -/
def Document.obstacles (document : Document) (custom : Option String) : List Obstacle :=
  document.definitions.flatMap (Definition.obstacles custom)

/-! ## The list has exactly the obstacles -/

mutual

theorem Literal.hasParameter_iff (literal : Literal) :
    literal.hasParameter = true ↔ ∃ name, literal.Uses name := by
  cases literal with
  | parameter name => exact ⟨fun _ => ⟨name, .here⟩, fun _ => rfl⟩
  | list items =>
    rw [hasParameter, anyParameter_iff]
    constructor
    · rintro ⟨item, member, name, inner⟩
      exact ⟨name, .item member inner⟩
    · rintro ⟨name, uses⟩
      cases uses with
      | item member inner => exact ⟨_, member, name, inner⟩
  | object fields =>
    rw [hasParameter, anyFieldParameter_iff]
    constructor
    · rintro ⟨field, member, name, inner⟩
      exact ⟨name, .field member inner⟩
    · rintro ⟨name, uses⟩
      cases uses with
      | field member inner => exact ⟨_, member, name, inner⟩
  | int digits => exact ⟨nofun, nofun⟩
  | float digits => exact ⟨nofun, nofun⟩
  | string text => exact ⟨nofun, nofun⟩
  | boolean value => exact ⟨nofun, nofun⟩
  | null => exact ⟨nofun, nofun⟩
  | enum name => exact ⟨nofun, nofun⟩

theorem Literal.anyParameter_iff (items : List Literal) :
    anyParameter items = true ↔ ∃ item ∈ items, ∃ name, item.Uses name := by
  cases items with
  | nil => simp [anyParameter]
  | cons item rest =>
    rw [anyParameter, Bool.or_eq_true, hasParameter_iff item, anyParameter_iff rest,
      List.exists_mem_cons_iff]

theorem Literal.anyFieldParameter_iff (fields : List (String × Literal)) :
    anyFieldParameter fields = true ↔ ∃ field ∈ fields, ∃ name, field.2.Uses name := by
  match fields with
  | [] => simp [anyFieldParameter]
  | (key, value) :: rest =>
    rw [anyFieldParameter, Bool.or_eq_true, hasParameter_iff value, anyFieldParameter_iff rest,
      List.exists_mem_cons_iff]

end

theorem mem_directed {path : List String} {directives : List Directive} {reason : Reason} :
    reason ∈ (directed path directives).map Obstacle.reason ↔
      directives ≠ [] ∧ reason = .directive := by
  cases directives <;> simp [directed]

theorem FieldHead.mem_obstacles {head : FieldHead} {path : List String} {reason : Reason} :
    reason ∈ (head.obstacles path).map Obstacle.reason ↔ head.Blocks reason := by
  have argued : head.arguments.any (·.value.hasParameter) = true ↔
      ∃ argument ∈ head.arguments, ∃ name, argument.value.Uses name := by
    simp only [List.any_eq_true, Literal.hasParameter_iff]
  have listed : reason ∈ (head.obstacles path).map Obstacle.reason ↔
      (head.directives ≠ [] ∧ reason = .directive) ∨
      (isReserved head.name = true ∧ reason = .introspection) ∨
      (∃ argument ∈ head.arguments, ∃ name, argument.value.Uses name) ∧
        reason = .variableArgument := by
    rw [← argued, obstacles, List.map_append, List.map_append, List.mem_append, List.mem_append,
      mem_directed, or_assoc]
    refine or_congr_right (or_congr ?_ ?_) <;> split <;> simp_all
  rw [listed]
  constructor
  · rintro (⟨given, rfl⟩ | ⟨reserved, rfl⟩ | ⟨⟨argument, member, name, uses⟩, rfl⟩)
    · exact .directive given
    · exact .introspection reserved
    · exact .variableArgument member uses
  · rintro (given | reserved | ⟨member, uses⟩)
    · exact .inl ⟨given, rfl⟩
    · exact .inr (.inl ⟨reserved, rfl⟩)
    · exact .inr (.inr ⟨⟨_, member, _, uses⟩, rfl⟩)

namespace Selection

theorem mem_unaddressed {custom : Option String} {path : List String} {selections : List Selection}
    {reason : Reason} : reason ∈ (unaddressed custom path selections).map Obstacle.reason ↔
      (∀ name ∈ identifierNames custom, name ∉ offered selections) ∧
        reason = .missingIdentifier := by
  have missing : hasIdentifier (offered selections) custom = false ↔
      ∀ name ∈ identifierNames custom, name ∉ offered selections := by
    simp [hasIdentifier]
  rw [← missing, unaddressed]
  cases hasIdentifier (offered selections) custom <;> simp

theorem within_cons (first : Selection) (rest : List Selection) {selection : Selection} :
    selection.Within (first :: rest) ↔ selection.Within [first] ∨ selection.Within rest := by
  constructor
  · rintro (member | ⟨member, within⟩)
    · obtain rfl | later := List.mem_cons.mp member
      · exact .inl (.here (List.mem_singleton_self _))
      · exact .inr (.here later)
    · obtain rfl | later := List.mem_cons.mp member
      · exact .inl (.inside (List.mem_singleton_self _) within)
      · exact .inr (.inside later within)
  · rintro ((member | ⟨member, within⟩) | (member | ⟨member, within⟩))
    · exact .here (List.mem_cons.mpr (.inl (List.mem_singleton.mp member)))
    · exact .inside (List.mem_cons.mpr (.inl (List.mem_singleton.mp member))) within
    · exact .here (List.mem_cons_of_mem _ member)
    · exact .inside (List.mem_cons_of_mem _ member) within

theorem within_relation {selection : Selection} {head : FieldHead} {inner : List Selection} :
    selection.Within [.relation head inner] ↔
      selection = .relation head inner ∨ selection.Within inner := by
  constructor
  · rintro (member | ⟨member, within⟩)
    · exact .inl (List.mem_singleton.mp member)
    · cases List.mem_singleton.mp member
      exact .inr within
  · rintro (rfl | within)
    · exact .here (List.mem_singleton_self _)
    · exact .inside (List.mem_singleton_self _) within

/-- Only a field with a selection set has other selections below it. -/
theorem within_single (single : Selection) {selection : Selection}
    (plain : ∀ head inner, single ≠ .relation head inner) :
    selection.Within [single] ↔ selection = single := by
  constructor
  · rintro (member | ⟨member, within⟩)
    · exact List.mem_singleton.mp member
    · exact absurd (List.mem_singleton.mp member).symm (plain _ _)
  · rintro rfl
    exact .here (List.mem_singleton_self _)

mutual

theorem mem_obstacles (custom : Option String) (path : List String) (reason : Reason)
    (selection : Selection) : reason ∈ (selection.obstacles custom path).map Obstacle.reason ↔
      ∃ inner : Selection, inner.Within [selection] ∧ inner.Blocks custom reason := by
  cases selection with
  | leaf head =>
    simp only [obstacles, FieldHead.mem_obstacles, within_single (.leaf head) nofun,
      exists_eq_left]
    exact ⟨.leaf, fun | .leaf own => own⟩
  | relation head selections =>
    simp only [obstacles, List.map_append, List.mem_append, FieldHead.mem_obstacles,
      mem_unaddressed, mem_obstaclesOf custom _ reason selections, within_relation, or_and_right,
      exists_or, exists_eq_left]
    refine or_congr_left ⟨?_, ?_⟩
    · rintro (own | ⟨missing, rfl⟩)
      · exact .relation own
      · exact .missingIdentifier missing
    · rintro (_ | own | missing)
      · exact .inl own
      · exact .inr ⟨missing, rfl⟩
  | spread fragment directives =>
    simp only [obstacles, mem_directed, within_single (.spread fragment directives) nofun,
      exists_eq_left]
    exact ⟨fun ⟨given, same⟩ => same ▸ .spread given, fun | .spread given => ⟨given, rfl⟩⟩
  | inlineFragment typeCondition directives selections =>
    simp only [obstacles, within_single
      (.inlineFragment typeCondition directives selections) nofun, exists_eq_left,
      List.map_singleton, List.mem_singleton]
    exact ⟨fun same => same ▸ .inlineFragment, fun | .inlineFragment => rfl⟩

theorem mem_obstaclesOf (custom : Option String) (path : List String) (reason : Reason)
    (selections : List Selection) :
    reason ∈ (obstaclesOf custom path selections).map Obstacle.reason ↔
      ∃ inner : Selection, inner.Within selections ∧ inner.Blocks custom reason := by
  cases selections with
  | nil =>
    refine ⟨nofun, ?_⟩
    rintro ⟨_, member | ⟨member, _⟩, _⟩ <;> cases member
  | cons selection rest =>
    simp only [obstaclesOf, List.map_append, List.mem_append, mem_obstacles custom path reason
      selection, mem_obstaclesOf custom path reason rest, within_cons selection rest,
      or_and_right, exists_or]

end

end Selection

theorem Definition.mem_obstacles {custom : Option String} {definition : Definition}
    {reason : Reason} : reason ∈ (definition.obstacles custom).map Obstacle.reason ↔
      definition.Blocks custom reason := by
  cases definition with
  | operation request =>
    have subscribed : reason ∈ ((if request.kind = .subscription then
        [(⟨.subscription, []⟩ : Obstacle)] else []).map Obstacle.reason) ↔
          request.kind = .subscription ∧ reason = .subscription := by
      split <;> simp_all
    simp only [obstacles, List.map_append, List.mem_append, mem_directed, subscribed,
      Selection.mem_obstaclesOf, List.map_flatMap, List.mem_flatMap]
    constructor
    · rintro (((⟨given, rfl⟩ | ⟨kind, rfl⟩) | ⟨parameter, member, given, rfl⟩) |
        ⟨selection, within, blocks⟩)
      · exact .operation given
      · exact .subscription kind
      · exact .parameter member given
      · exact .requested within blocks
    · intro blocked
      cases blocked with
      | operation given => exact .inl (.inl (.inl ⟨given, rfl⟩))
      | subscription kind => exact .inl (.inl (.inr ⟨kind, rfl⟩))
      | parameter member given => exact .inl (.inr ⟨_, member, given, rfl⟩)
      | requested within blocks => exact .inr ⟨_, within, blocks⟩
  | fragment shared =>
    simp only [obstacles, List.map_append, List.mem_append, mem_directed,
      Selection.mem_obstaclesOf]
    constructor
    · rintro (⟨given, rfl⟩ | ⟨selection, within, blocks⟩)
      · exact .fragment given
      · exact .shared within blocks
    · intro blocked
      cases blocked with
      | fragment given => exact .inl ⟨given, rfl⟩
      | shared within blocks => exact .inr ⟨_, within, blocks⟩
  | typeSystem lists =>
    simp only [obstacles, List.map_flatMap, List.mem_flatMap, mem_directed]
    constructor
    · rintro ⟨directives, member, given, rfl⟩
      exact .typeSystem member given
    · intro blocked
      cases blocked with
      | typeSystem member given => exact ⟨_, member, given, rfl⟩

theorem Document.mem_obstacles {document : Document} {custom : Option String} {reason : Reason} :
    reason ∈ (document.obstacles custom).map Obstacle.reason ↔ document.Blocks custom reason := by
  simp only [obstacles, List.map_flatMap, List.mem_flatMap, Definition.mem_obstacles]
  rfl

/-! ## The walk -/

namespace Walk

/-- Visits that end at the first of these obstacles. If there are none, the walk goes on from this
stack and with this kind. -/
structure Meets (custom : Option String) (walk : Walk) (visits : List Visit)
    (obstacles : List Obstacle) (stack : List String) (kind : Option OperationKind) : Prop where
  first : (Walk.run custom walk visits).2 = obstacles.head?
  stack : obstacles = [] → (Walk.run custom walk visits).1.stack = stack
  kind : obstacles = [] → (Walk.run custom walk visits).1.kind = kind

variable {custom : Option String} {walk : Walk} {stack : List String} {kind : Option OperationKind}

/-- A walk that has met an obstacle does not go on. -/
theorem run_append (custom : Option String) (walk : Walk) (first second : List Visit) :
    Walk.run custom walk (first ++ second) =
      match Walk.run custom walk first with
      | (next, none) => Walk.run custom next second
      | (last, some obstacle) => (last, some obstacle) := by
  induction first generalizing walk with
  | nil => rfl
  | cons visit rest ih =>
    rw [List.cons_append, Walk.run, Walk.run]
    cases walk.step custom visit with
    | ok next => exact ih next
    | error obstacle => rfl

theorem meets_nil : Meets custom walk [] [] walk.stack walk.kind :=
  ⟨rfl, fun _ => rfl, fun _ => rfl⟩

/-- A single visit that is refused at the first of its obstacles, or passes if there are none. -/
theorem meets_single (visit : Visit) (obstacles : List Obstacle) (next : Walk)
    (stepped : walk.step custom visit = obstacles.head?.elim (.ok next) .error) :
    Meets custom walk [visit] obstacles next.stack next.kind := by
  cases obstacles with
  | nil =>
    have run : Walk.run custom walk [visit] = (next, none) := by simp [Walk.run, stepped]
    exact ⟨by rw [run]; rfl, fun _ => by rw [run], fun _ => by rw [run]⟩
  | cons obstacle rest =>
    have run : Walk.run custom walk [visit] = (walk, some obstacle) := by simp [Walk.run, stepped]
    have some := List.cons_ne_nil obstacle rest
    exact ⟨by rw [run]; rfl, fun none => absurd none some, fun none => absurd none some⟩

theorem Meets.append {early : List Visit} {first second : List Obstacle}
    {middle : List String} {between : Option OperationKind}
    (before : Meets custom walk early first middle between) (late : List Visit)
    (after : ∀ next : Walk, next.stack = middle → next.kind = between →
      Meets custom next late second stack kind) :
    Meets custom walk (early ++ late) (first ++ second) stack kind := by
  obtain ⟨found, place, kept⟩ := before
  cases first with
  | nil =>
    generalize ran : Walk.run custom walk early = result at found place kept
    obtain ⟨next, met⟩ := result
    obtain rfl : met = none := found
    obtain ⟨first, stack, kind⟩ := after next (place rfl) (kept rfl)
    have run : Walk.run custom walk (early ++ late) = Walk.run custom next late := by
      rw [run_append, ran]
    rw [List.nil_append]
    exact ⟨by rw [run, first], fun none => by rw [run, stack none],
      fun none => by rw [run, kind none]⟩
  | cons obstacle rest =>
    generalize ran : Walk.run custom walk early = result at found place kept
    obtain ⟨last, met⟩ := result
    obtain rfl : met = some obstacle := found
    have run : Walk.run custom walk (early ++ late) = (last, some obstacle) := by
      rw [run_append, ran]
    have some := List.cons_ne_nil obstacle (rest ++ second)
    exact ⟨by rw [run]; rfl, fun none => absurd none some, fun none => absurd none some⟩

/-! ### One visit -/

theorem meets_field (custom : Option String) (walk : Walk) (head : FieldHead) :
    Meets custom walk [.field head] (head.obstacles walk.path) (head.responseKey :: walk.stack)
      walk.kind := by
  refine meets_single _ _ (walk.moved (head.responseKey :: walk.stack)
    (OrderedMap.insert walk.marks (head.responseKey :: walk.stack) (head.marks custom))) ?_
  simp only [step, meet, FieldHead.obstacles, directed]
  cases head.directives.isEmpty with
  | false => rfl
  | true =>
    cases isReserved head.name with
    | true => rfl
    | false => cases head.arguments.any (·.value.hasParameter) <;> rfl

theorem meets_selectionSet (custom : Option String) (walk : Walk) (selections : List Selection) :
    Meets custom walk [.selectionSet (Selection.offered selections)]
      (Selection.unaddressed custom walk.path selections) walk.stack walk.kind := by
  let next := walk.write (OrderedMap.overlay (Node.ofNames (Selection.offered selections))
    ((OrderedMap.get? walk.marks walk.stack).getD []))
  have met : Meets custom walk [.selectionSet (Selection.offered selections)]
      (Selection.unaddressed custom walk.path selections) next.stack next.kind := by
    refine meets_single _ _ next ?_
    simp only [step, meet, Selection.unaddressed]
    cases hasIdentifier (Selection.offered selections) custom <;> rfl
  rwa [write_stack, write_kind] at met

theorem meets_endField (custom : Option String) (walk : Walk) :
    Meets custom walk [.endField] [] walk.stack.tail walk.kind := by
  rw [← List.drop_one]
  exact meets_single _ _ (walk.moved (walk.stack.drop 1) walk.marks) rfl

theorem meets_other (directives : List Directive) :
    Meets custom walk [.other directives] (directed walk.path directives) walk.stack walk.kind := by
  refine meets_single _ _ walk ?_
  simp only [step, meet, directed]
  cases directives.isEmpty <;> rfl

theorem meets_others (custom : Option String) (walk : Walk) (lists : List (List Directive)) :
    Meets custom walk (lists.map .other) (lists.flatMap (directed walk.path)) walk.stack
      walk.kind := by
  induction lists generalizing walk with
  | nil => exact meets_nil
  | cons directives rest ih =>
    refine (meets_other directives).append _ fun next same kept => ?_
    have later := ih next
    rwa [path, same, kept] at later

/-! ### Selections and definitions -/

mutual

/-- Visiting a selection meets the first obstacle that it has, or comes back to where it began. -/
theorem meets_selection (custom : Option String) (walk : Walk) (selection : Selection) :
    Meets custom walk selection.visits (selection.obstacles custom walk.path) walk.stack
      walk.kind := by
  cases selection with
  | leaf head =>
    have entered := meets_field custom walk head
    rw [Selection.obstacles, ← List.append_nil (head.obstacles walk.path)]
    refine entered.append [.endField] fun next same kept => ?_
    have left := meets_endField custom next
    rwa [same, kept] at left
  | relation head selections =>
    have entered := meets_field custom walk head
    rw [Selection.obstacles, List.append_assoc]
    refine entered.append (.selectionSet (Selection.offered selections) ::
      (Selection.visitsOf selections ++ [.endField])) fun inner same kept => ?_
    have place : inner.path = walk.path ++ [head.responseKey] := by simp [path, same]
    have offered := meets_selectionSet custom inner selections
    rw [place, same, kept] at offered
    refine offered.append (Selection.visitsOf selections ++ [.endField])
      fun next there still => ?_
    have below := meets_selections custom next selections
    have position : next.path = walk.path ++ [head.responseKey] := by simp [path, there]
    rw [position, there, still] at below
    rw [← List.append_nil (Selection.obstaclesOf custom _ selections)]
    refine below.append _ fun last back same => ?_
    have left := meets_endField custom last
    rwa [back, same] at left
  | spread fragment directives => exact meets_other directives
  | inlineFragment typeCondition directives selections => exact meets_single _ _ walk rfl

theorem meets_selections (custom : Option String) (walk : Walk) (selections : List Selection) :
    Meets custom walk (Selection.visitsOf selections)
      (Selection.obstaclesOf custom walk.path selections) walk.stack walk.kind := by
  cases selections with
  | nil => exact meets_nil
  | cons selection rest =>
    refine (meets_selection custom walk selection).append _ fun next same kept => ?_
    have later := meets_selections custom next rest
    rwa [path, same, kept] at later

end

/-- What the kind is after a definition: the last operation gives it. -/
def kindAfter (kind : Option OperationKind) : Definition → Option OperationKind
  | .operation request => some request.kind
  | _ => kind

/-- Visiting an operation at the top meets its directives or a subscription, then what stands at
its parameters, then what it selects. -/
private theorem meets_operation (top : walk.stack = []) (request : Operation) :
    Meets custom walk (Definition.operation request).visits
      ((Definition.operation request).obstacles custom) [] (some request.kind) := by
  have atTop : walk.path = [] := by simp [path, top]
  have opened : Meets custom walk [.operation request.kind request.directives]
      (directed [] request.directives ++
        if request.kind = .subscription then [⟨.subscription, []⟩] else [])
      walk.stack (some request.kind) := by
    refine meets_single _ _ { walk with inFragment := false, kind := some request.kind } ?_
    simp only [step, meet, directed, atTop]
    cases request.directives.isEmpty with
    | false => rfl
    | true => by_cases subscribed : request.kind = .subscription <;> simp [subscribed]
  rw [Definition.obstacles, List.append_assoc]
  refine opened.append ((request.parameters.map fun parameter =>
    .other parameter.directives) ++ Selection.visitsOf request.selections)
    fun inner same kept => ?_
  have place : inner.path = [] := by simp [path, same, top]
  have declared := meets_others custom inner (request.parameters.map (·.directives))
  rw [List.map_map, List.flatMap_map, place, same, kept] at declared
  refine declared.append _ fun next there still => ?_
  have body := meets_selections custom next request.selections
  have position : next.path = [] := by simp [path, there, top]
  rw [position, there, still] at body
  simp only [top] at body
  exact body

/-- Visiting a fragment at the top meets its directives, then what it selects. -/
private theorem meets_fragment (top : walk.stack = []) (shared : Fragment) :
    Meets custom walk (Definition.fragment shared).visits
      ((Definition.fragment shared).obstacles custom) [] walk.kind := by
  have opened : Meets custom walk
      [.fragment shared.name shared.directives (Selection.leafKeys shared.selections)]
      (directed [] shared.directives) (shared.name :: walk.stack) walk.kind := by
    refine meets_single _ _ { walk with
      inFragment := true
      stack := shared.name :: walk.stack
      fragments := OrderedMap.insert walk.fragments shared.name
        (Node.ofNames (Selection.leafKeys shared.selections)) } ?_
    simp only [step, meet, directed, show walk.path = [] by simp [path, top]]
    cases shared.directives.isEmpty <;> rfl
  rw [Definition.obstacles]
  refine opened.append (Selection.visitsOf shared.selections ++ [.endFragment])
    fun inner same kept => ?_
  have body := meets_selections custom inner shared.selections
  have place : inner.path = [shared.name] := by simp [path, same, top]
  rw [place, same, kept] at body
  rw [← List.append_nil (Selection.obstaclesOf custom _ shared.selections)]
  refine body.append _ fun next there still => ?_
  have left : Meets custom next [.endFragment] [] (next.stack.drop 1) next.kind :=
    meets_single _ _ { next with stack := next.stack.drop 1 } rfl
  simp only [there, still, top, List.drop_one, List.tail_cons] at left
  exact left

/-- Visiting a definition at the top meets the first obstacle that it has, or comes back to the
top. -/
theorem meets_definition (top : walk.stack = []) (definition : Definition) :
    Meets custom walk definition.visits (definition.obstacles custom) []
      (kindAfter walk.kind definition) := by
  cases definition with
  | operation request => exact meets_operation top request
  | fragment shared => exact meets_fragment top shared
  | typeSystem lists =>
    have others := meets_others custom walk lists
    rwa [show walk.path = [] by simp [path, top], top] at others

/-- Visiting definitions leaves the kind of the last operation. -/
theorem meets_definitions (top : walk.stack = []) (definitions : List Definition) :
    Meets custom walk (definitions.flatMap Definition.visits)
      (definitions.flatMap (Definition.obstacles custom)) []
      (definitions.foldl kindAfter walk.kind) := by
  induction definitions generalizing walk with
  | nil =>
    rw [← top]
    exact meets_nil
  | cons definition rest ih =>
    rw [List.flatMap_cons, List.flatMap_cons]
    refine (meets_definition top definition).append _ fun next same kept => ?_
    have later := ih same
    rwa [kept] at later

theorem foldl_kindAfter (definitions : List Definition) (kind : Option OperationKind) :
    definitions.foldl kindAfter kind =
      ((Document.mk definitions).operations.getLast?.map Operation.kind).or kind := by
  induction definitions generalizing kind with
  | nil => rfl
  | cons definition rest ih =>
    rw [List.foldl_cons, ih]
    cases definition with
    | operation request =>
      have listed : (Document.mk (.operation request :: rest)).operations =
          request :: (Document.mk rest).operations := rfl
      rw [listed, List.getLast?_cons]
      cases (Document.mk rest).operations.getLast? <;> rfl
    | fragment shared => rfl
    | typeSystem lists => rfl

end Walk

/-! ## What is reported -/

namespace Document

variable {document : Document} {custom : Option String}

theorem compile_meets (document : Document) (custom : Option String) :
    Walk.Meets custom Walk.start document.visits (document.obstacles custom) []
      (document.operations.getLast?.map Operation.kind) := by
  have top : Walk.start.stack = [] := rfl
  have met : Walk.Meets custom Walk.start document.visits _ _ _ :=
    Walk.meets_definitions top document.definitions
  rwa [Walk.foldl_kindAfter, show Walk.start.kind = none from rfl, Option.or_none] at met

theorem obstacle_eq (document : Document) (custom : Option String) :
    (document.compile custom).obstacle = (document.obstacles custom).head? :=
  (compile_meets document custom).first

/-- A document is blocked exactly if its list of obstacles has a head. -/
theorem obstacle_isSome_iff :
    (document.compile custom).obstacle.isSome ↔ ∃ reason, document.Blocks custom reason := by
  simp only [obstacle_eq, ← mem_obstacles, List.isSome_head?, List.mem_map]
  constructor
  · intro some
    obtain ⟨obstacle, member⟩ := List.exists_mem_of_ne_nil _ some
    exact ⟨_, obstacle, member, rfl⟩
  · rintro ⟨_, obstacle, member, _⟩
    exact List.ne_nil_of_mem member

/-- Nothing is in the way of a document that has no reason to be blocked. -/
theorem obstacle_eq_none_iff :
    (document.compile custom).obstacle = none ↔ ∀ reason, ¬document.Blocks custom reason := by
  rw [← Option.not_isSome_iff_eq_none, obstacle_isSome_iff, not_exists]

/-- Documents that begin alike, up to an obstacle, compile to the same. -/
theorem compile_eq_of_prefix {other : Document} {shared : List Visit}
    (one : shared <+: document.visits) (two : shared <+: other.visits)
    (met : (Walk.run custom Walk.start shared).2 ≠ none) :
    other.compile custom = document.compile custom := by
  have ended {any : Document} (begins : shared <+: any.visits) :
      Walk.run custom Walk.start any.visits = Walk.run custom Walk.start shared := by
    obtain ⟨rest, same⟩ := begins
    rw [← same, Walk.run_append]
    generalize Walk.run custom Walk.start shared = result at met
    obtain ⟨last, obstacle⟩ := result
    cases obstacle with
    | none => exact absurd rfl met
    | some obstacle => rfl
  rw [compile, compile, ended one, ended two]

theorem kindName_eq_ineligible (compiled : Compilation) :
    compiled.kindName = some "ineligible" ↔ compiled.obstacle.isSome := by
  obtain ⟨_, _, kind, obstacle⟩ := compiled
  cases obstacle with
  | some obstacle => simp [Compilation.kindName]
  | none =>
    match kind with
    | none => simp [Compilation.kindName]
    | some .query => simp [Compilation.kindName]
    | some .mutation => simp [Compilation.kindName]
    | some .subscription => simp [Compilation.kindName]

/-- A document is reported as ineligible exactly if some place that the walk visits is an obstacle,
in an operation, in a fragment, used or not, or in a type system definition. What is reported is
the first obstacle in depth-first order, with the keys that lead to it; nothing behind it
changes what the document compiles to. Without any obstacle the kind is that of the last
operation. -/
theorem eligibility_exact (document : Document) (custom : Option String) :
    ((document.compile custom).kindName = some "ineligible" ↔
        ∃ reason, document.Blocks custom reason) ∧
      (∀ reason, document.Blocks custom reason ↔
        ∃ obstacle ∈ document.obstacles custom, obstacle.reason = reason) ∧
      (document.compile custom).obstacle = (document.obstacles custom).head? ∧
      ((∀ reason, ¬document.Blocks custom reason) → (document.compile custom).kind =
        document.operations.getLast?.map Operation.kind) ∧
      ∀ (other : Document) (shared : List Visit), shared <+: document.visits →
        shared <+: other.visits → (Walk.run custom Walk.start shared).2 ≠ none →
        other.compile custom = document.compile custom := by
  refine ⟨(kindName_eq_ineligible _).trans obstacle_isSome_iff, fun reason => ?_,
    obstacle_eq document custom, fun free => ?_, fun other shared => compile_eq_of_prefix⟩
  · rw [← mem_obstacles, List.mem_map]
  · have none : document.obstacles custom = [] := by
      by_contra some
      obtain ⟨obstacle, member⟩ := List.exists_mem_of_ne_nil _ some
      exact free _ (mem_obstacles.mp (List.mem_map_of_mem member))
    exact (compile_meets document custom).kind none

/-- A fragment that nothing spreads has an inline fragment with a directive; behind it stands a
subscription. -/
def unspread : Document where
  definitions :=
    [.fragment ⟨"Details", "Country", [],
      [.leaf ⟨none, "name", [], []⟩,
       .inlineFragment (some "Island") [⟨"skip", []⟩] [.leaf ⟨none, "area", [], []⟩]]⟩,
     .operation ⟨.subscription, none, [], [],
      [.relation ⟨none, "country", [], []⟩ [.leaf ⟨none, "id", [], []⟩]]⟩]

theorem eligibility_exact_unspread :
    (unspread.compile none).kindName = some "ineligible" ∧ unspread.Blocks none .subscription ∧
      (unspread.compile none).obstacle = some ⟨.inlineFragment, ["Details"]⟩ :=
  have exactly := eligibility_exact unspread none
  have subscribed : unspread.Blocks none .subscription :=
    ⟨_, List.mem_cons_of_mem _ (List.mem_singleton_self _), .subscription rfl⟩
  ⟨exactly.1.mpr ⟨_, subscribed⟩, subscribed, exactly.2.2.1.trans rfl⟩

end Document

end GraphCache

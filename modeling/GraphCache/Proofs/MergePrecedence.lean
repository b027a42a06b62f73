import GraphCache.Proofs.Filling

/-! What merged data takes from which side. Fresh data that has all that is requested, and
nothing else, comes back as it is, whatever is cached. Where something is missing, each place
is told on its own as long as objects lead there: the fresh data decides it, and if it says
nothing the cached value does. -/
namespace GraphCache

/-! ## Data that needs no cache -/

/-- Data that has what a node requests. Objects carry exactly the requested fields, and what
stands under a relation has what is requested there. -/
inductive Node.Suits : Node → Json → Prop where
  | null (node : Node) : Suits node .null
  | array {node : Node} {items : List Json}
      (each : ∀ fields, .object fields ∈ items → Suits node (.object fields)) :
      Suits node (.array items)
  | object {node : Node} {fields : OrderedMap String Json}
      (exactly : ∀ key, (OrderedMap.get? fields key).isSome ↔
        isReserved key = false ∧ (OrderedMap.get? node key).isSome)
      (relations : ∀ key entries value, isReserved key = false →
        OrderedMap.get? node key = some (.relation entries) →
        OrderedMap.get? fields key = some value → Suits entries value) :
      Suits node (.object fields)

theorem Node.merge_fresh_object (custom : Option String) (node : Node) (fields : OrderedMap String Json)
    (cached : Option Json) : node.merge custom (some (.object fields)) cached =
      .object (Entry.mergeFields custom fields (objectFields cached) node) := rfl

/-- A value that has what is requested is its own merge with anything. -/
theorem Node.Suits.merge_same {node : Node} {value : Json} (suits : node.Suits value)
    (custom : Option String) (cached : Option Json) :
    Json.Same (node.merge custom (some value) cached) value := by
  induction suits generalizing cached with
  | null => exact .refl .null
  | @array node items each ih =>
    obtain ⟨complete, merged, objects, others⟩ := node.merge_each custom items cached
    rw [merged, Json.same_array, List.forall₂_map_left_iff, List.forall₂_same]
    intro item member
    cases shape : item.isObject with
    | false =>
      rw [others item shape]
      exact .refl item
    | true =>
      cases item with
      | object fields =>
        obtain ⟨paired, completed⟩ := objects fields
        rw [completed]
        exact ih fields member paired
      | _ => cases shape
  | @object node fields exactly relations ih =>
    rw [merge_fresh_object, Json.same_object]
    constructor
    · intro key
      rw [Entry.get?_mergeFields, Bool.eq_iff_iff, exactly]
      cases isReserved key <;> simp
    · intro key left value shown carried
      obtain ⟨plain, asked⟩ := (exactly key).mp (by simp [carried])
      obtain ⟨entry, found⟩ := Option.isSome_iff_exists.mp asked
      simp only [Entry.get?_mergeFields, plain, found, carried, Bool.false_eq_true, ↓reduceIte,
        Option.map_some, Option.some.injEq] at shown
      subst shown
      cases entry with
      | requested => exact .refl value
      | literal mark => exact .refl value
      | relation entries =>
        rw [Entry.merge_relation]
        exact ih key entries value plain found carried _

section Plain
variable {τ : Type}

/-- Writing a root that says the same leaves data the same. -/
theorem Json.Same.insert {merged fresh : OrderedMap String Json} {root : String}
    {value carried : Json} (same : Json.Same (.object merged) (.object fresh))
    (own : Json.Same value carried) (present : OrderedMap.get? fresh root = some carried) :
    Json.Same (.object (OrderedMap.insert merged root value)) (.object fresh) := by
  obtain ⟨keys, values⟩ := same_object.mp same
  refine .object ?_ ?_
  · intro key
    rw [OrderedMap.get?_insert]
    by_cases here : root = key
    · subst here
      simp [present]
    · simp [here, keys]
  · intro key left right shown other
    rw [OrderedMap.get?_insert] at shown
    by_cases here : root = key
    · subst here
      rw [present] at other
      cases other
      rw [if_pos rfl] at shown
      cases shown
      exact own
    · rw [if_neg here] at shown
      exact values key left right shown other

/-- Fresh data whose roots have what is requested is the same after it is merged with any
records, with all roots that nothing asked for. -/
theorem Prototype.merge_complete (custom : Option String) {prototype : Prototype}
    {fresh : OrderedMap String Json}
    (complete : ∀ entry ∈ prototype, ∃ value, OrderedMap.get? fresh entry.1 = some value ∧
      entry.2.Suits value) (cached : OrderedMap String (List (Record τ))) :
    Json.Same (.object (prototype.merge custom fresh cached)) (.object fresh) := by
  -- Roots are written one after the other, and after each one the data is still the same.
  suffices step : ∀ merged : OrderedMap String Json, Json.Same (.object merged) (.object fresh) →
      Json.Same (.object (prototype.foldl (fun merged entry =>
        OrderedMap.insert merged entry.1 (entry.2.merge custom (OrderedMap.get? fresh entry.1)
          (cachedRoot entry.2 ((OrderedMap.get? cached entry.1).getD [])))) merged))
        (.object fresh) from step fresh (.refl _)
  induction prototype with
  | nil => exact fun merged same => same
  | cons entry rest ih =>
    intro merged same
    obtain ⟨⟨value, carried, suits⟩, later⟩ := List.forall_mem_cons.mp complete
    apply ih later
    simp only [carried]
    exact same.insert (suits.merge_same custom _) carried

end Plain

namespace Capitals

def capital : Node := [("name", .requested)]

def country : Node := [("__id", .literal (.string "1")), ("capital", .relation capital)]

def prototype : Prototype := [("country", country)]

/-- A record with the capital's name. -/
def record : Record Int :=
  ⟨"country--1", "country", "1", [("capital", .object [("name", .string "Lima")])], false, none⟩

theorem capital_suits (name : Json) : capital.Suits (.object [("name", name)]) := by
  refine .object ?_ ?_
  · intro key
    by_cases here : "name" = key
    · subst here
      simp [capital, OrderedMap.get?]
      decide
    · simp [capital, OrderedMap.get?, here]
  · intro key entries value _ found _
    by_cases here : "name" = key <;> simp [capital, OrderedMap.get?, here] at found

theorem country_suits (name : Json) :
    country.Suits (.object [("capital", .object [("name", name)])]) := by
  refine .object ?_ ?_
  · intro key
    by_cases here : "capital" = key
    · subst here
      simp [country, OrderedMap.get?]
      decide
    · by_cases mark : "__id" = key
      · subst mark
        simp [OrderedMap.get?]
        decide
      · simp [country, OrderedMap.get?, here, mark]
  · intro key entries value plain found carried
    by_cases here : "capital" = key
    · subst here
      simp [country, OrderedMap.get?] at found carried
      subst found carried
      exact capital_suits name
    · simp [OrderedMap.get?, here] at carried

end Capitals

open Capitals in
/-- Nothing of the cached country gets into a complete one, or into a root beside it. -/
theorem Prototype.merge_complete_country :
    (∀ entry ∈ prototype, ∃ value, OrderedMap.get? [("population", Json.int 7),
        ("country", .object [("capital", .object [("name", .string "Cusco")])])] entry.1 =
          some value ∧ entry.2.Suits value) ∧
      Json.Same (.object (prototype.merge none [("population", .int 7),
          ("country", .object [("capital", .object [("name", .string "Cusco")])])]
          [("country", [record])]))
        (.object [("population", .int 7),
          ("country", .object [("capital", .object [("name", .string "Cusco")])])]) := by
  have complete : ∀ entry ∈ prototype, ∃ value, OrderedMap.get? [("population", Json.int 7),
      ("country", .object [("capital", .object [("name", .string "Cusco")])])] entry.1 =
        some value ∧ entry.2.Suits value := by
    rintro entry member
    rw [List.mem_singleton.mp member]
    exact ⟨_, rfl, country_suits _⟩
  exact ⟨complete, Prototype.merge_complete none complete [("country", [record])]⟩

/-! ## Reading a place -/

namespace Json

/-- What is read at a place. Below a null everything is null. -/
def read? : Json → List Step → Option Json
  | value, [] => some value
  | .null, _ :: _ => some .null
  | .object fields, .field key :: rest =>
    (OrderedMap.get? fields key).bind fun inner => inner.read? rest
  | .array items, .item index :: rest => items[index]?.bind fun item => item.read? rest
  | _, _ :: _ => none

/-- On the way to a place there is no list. -/
def Unlisted (value : Json) (place : List Step) : Prop :=
  ∀ before after items, before ++ after = place → after ≠ [] →
    value.at? before ≠ some (.array items)

theorem read?_field (fields : OrderedMap String Json) (key : String) (rest : List Step) :
    (object fields).read? (.field key :: rest) =
      (OrderedMap.get? fields key).bind fun inner => inner.read? rest := rfl

theorem at?_field (fields : OrderedMap String Json) (key : String) (rest : List Step) :
    (object fields).at? (.field key :: rest) =
      (OrderedMap.get? fields key).bind fun inner => inner.at? rest := rfl

theorem read?_null (place : List Step) : null.read? place = some .null := by
  cases place <;> rfl

/-- A null on the way is what is read. -/
theorem read?_of_null {value : Json} {before place : List Step} (within : before <+: place)
    (stops : value.at? before = some .null) : value.read? place = some .null := by
  induction before generalizing value place with
  | nil =>
    cases stops
    exact read?_null place
  | cons step rest ih =>
    obtain ⟨after, rfl⟩ := within
    have tail := List.prefix_append rest after
    cases value with
    | object fields =>
      cases step with
      | field key =>
        obtain ⟨inner, found, below⟩ := Option.bind_eq_some_iff.mp stops
        rw [List.cons_append, read?_field, found, Option.bind_some, ih tail below]
      | item index => cases stops
    | array items =>
      cases step with
      | field key => cases stops
      | item index =>
        obtain ⟨inner, found, below⟩ := Option.bind_eq_some_iff.mp stops
        rw [List.cons_append, read?, found, Option.bind_some, ih tail below]
    | _ => cases step <;> cases stops

/-- Without a null on the way reading finds what stands there. -/
theorem read?_eq_at? {value : Json} {place : List Step}
    (passable : ∀ before, before <+: place → value.at? before ≠ some .null) :
    value.read? place = value.at? place := by
  induction place generalizing value with
  | nil => cases value <;> rfl
  | cons step rest ih =>
    cases value with
    | null => exact absurd rfl (passable [] List.nil_prefix)
    | object fields =>
      cases step with
      | field key =>
        rw [read?_field, at?_field]
        cases found : OrderedMap.get? fields key with
        | none => rfl
        | some inner =>
          apply ih
          intro before within stops
          apply passable (.field key :: before) (List.cons_prefix_cons.mpr ⟨rfl, within⟩)
          rw [at?_field, found, Option.bind_some, stops]
      | item index => rfl
    | array items =>
      cases step with
      | field key => rfl
      | item index =>
        rw [read?, at?]
        cases found : items[index]? with
        | none => rfl
        | some inner =>
          apply ih
          intro before within stops
          apply passable (.item index :: before) (List.cons_prefix_cons.mpr ⟨rfl, within⟩)
          rw [at?, found, Option.bind_some, stops]
    | _ => cases step <;> rfl

theorem Unlisted.ne_array {value : Json} {step : Step} {rest : List Step}
    (unlisted : value.Unlisted (step :: rest)) (items : List Json) : value ≠ .array items := by
  rintro rfl
  exact unlisted [] (step :: rest) items rfl (List.cons_ne_nil _ _) rfl

theorem unlisted_nil (value : Json) : value.Unlisted [] := by
  intro before after items same later
  exact absurd (List.append_eq_nil_iff.mp same).2 later

theorem unlisted_field (fields : OrderedMap String Json) (key : String) (rest : List Step) :
    (object fields).Unlisted (.field key :: rest) ↔
      ∀ inner, OrderedMap.get? fields key = some inner → inner.Unlisted rest := by
  constructor
  · intro unlisted inner found before after items same later listed
    apply unlisted (.field key :: before) after items (by rw [← same]; rfl) later
    rw [at?_field, found, Option.bind_some, listed]
  · intro each before after items same later listed
    cases before with
    | nil => cases listed
    | cons step before =>
      obtain ⟨rfl, tail⟩ := List.cons_eq_cons.mp same
      obtain ⟨inner, found, below⟩ := Option.bind_eq_some_iff.mp listed
      exact each inner found before after items tail later below

/-- A side that is no object counts as one without fields, and there is no list in that. -/
theorem Unlisted.objectFields {side : Option Json} {place : List Step}
    (unlisted : ∀ own, side = some own → own.Unlisted place) :
    (object (objectFields side)).Unlisted place := by
  have bare : (object []).Unlisted place := by
    rintro (_ | ⟨step, before⟩) after items _ _ listed
    · cases listed
    · cases step <;> cases listed
  cases side with
  | none => exact bare
  | some own =>
    cases own with
    | object fields => exact unlisted _ rfl
    | _ => exact bare

/-- In a side that is neither an object nor null nothing is read under a key. -/
theorem read?_objectFields {side : Option Json} (given : side ≠ some .null) (key : String)
    (rest : List Step) :
    (object (objectFields side)).read? (.field key :: rest) =
      side.bind fun own => own.read? (.field key :: rest) := by
  cases side with
  | none => rfl
  | some own =>
    cases own with
    | null => exact absurd rfl given
    | _ => rfl

end Json

/-! ## Where objects lead to a leaf -/

namespace Node

/-- Whatever two objects are merged, at a place the fresh one decides, and if it says nothing
the cached one does. -/
def Precedes (custom : Option String) (node : Node) (place : List Step) : Prop :=
  ∀ fresh cached : OrderedMap String Json, (Json.object fresh).Unlisted place →
    (Json.object cached).Unlisted place →
    (Json.object (Entry.mergeFields custom fresh cached node)).read? place =
      some ((((Json.object fresh).read? place).or ((Json.object cached).at? place)).getD .null)

/-- Sides that are no lists are merged as objects, unless null or nothing is all there is. -/
theorem merge_cases (custom : Option String) (node : Node) {fresh cached : Option Json}
    (freshPlain : ∀ items, fresh ≠ some (.array items))
    (cachedPlain : ∀ items, cached ≠ some (.array items)) :
    (fresh = some .null ∧ node.merge custom fresh cached = .null) ∨
      (fresh = none ∧ (cached = none ∨ cached = some .null) ∧
        node.merge custom fresh cached = .null) ∨
      (fresh ≠ some .null ∧ node.merge custom fresh cached = node.mergeObjects custom fresh cached) := by
  unfold Node.merge mergeRelation
  split
  · exact .inl ⟨rfl, rfl⟩
  · exact absurd rfl (freshPlain _)
  · rename_i value given _
    refine .inr (.inr ⟨?_, rfl⟩)
    rintro ⟨⟩
    exact given rfl
  · exact .inr (.inl ⟨rfl, .inl rfl, rfl⟩)
  · exact .inr (.inl ⟨rfl, .inr rfl, rfl⟩)
  · exact absurd rfl (cachedPlain _)
  · exact .inr (.inr ⟨nofun, rfl⟩)

/-- The same is true of what stands under a relation. -/
theorem Precedes.relation {custom : Option String} {node : Node} {key : String} {rest : List Step}
    (precedes : node.Precedes custom (.field key :: rest)) {fresh cached : Option Json}
    (freshUnlisted : ∀ own, fresh = some own → own.Unlisted (.field key :: rest))
    (cachedUnlisted : ∀ own, cached = some own → own.Unlisted (.field key :: rest)) :
    (node.merge custom fresh cached).read? (.field key :: rest) =
      some (((fresh.bind fun own => own.read? (.field key :: rest)).or
        (cached.bind fun own => own.at? (.field key :: rest))).getD .null) := by
  rcases node.merge_cases custom (fun items same => (freshUnlisted _ same).ne_array items rfl)
    (fun items same => (cachedUnlisted _ same).ne_array items rfl) with
    ⟨rfl, merged⟩ | ⟨rfl, rfl | rfl, merged⟩ | ⟨given, merged⟩
  · rw [merged]
    rfl
  · rw [merged]
    rfl
  · rw [merged]
    rfl
  · rw [merged, mergeObjects, precedes _ _ (.objectFields freshUnlisted)
      (.objectFields cachedUnlisted), Json.read?_objectFields given, Json.at?_objectFields]

/-- At a leaf that objects lead to the fresh side decides, and if it says nothing the cached
one does. -/
theorem LeafAt.precedes {node : Node} {place : List Step} {keys : List String}
    (leaf : node.LeafAt place keys) (objects : place = keys.map .field) (custom : Option String) :
    node.Precedes custom place := by
  induction leaf with
  | @leaf node key plain requested =>
    intro fresh cached _ _
    simp only [Json.read?_field, Json.at?_field, Entry.get?_mergeFields, plain, requested,
      Entry.merge, Bool.false_eq_true, ↓reduceIte, Option.map_some, Option.bind_some]
    cases OrderedMap.get? fresh key <;> cases OrderedMap.get? cached key <;> rfl
  | @object node key entries place keys plain relation below ih =>
    obtain ⟨next, rest, rfl⟩ := below.place_eq
    have tail := ih (List.tail_eq_of_cons_eq objects)
    intro fresh cached freshUnlisted cachedUnlisted
    rw [Json.read?_field, Json.read?_field, Json.at?_field, Entry.get?_mergeFields, plain, relation]
    simp only [Bool.false_eq_true, ↓reduceIte, Option.map_some, Option.bind_some,
      Entry.merge_relation]
    exact tail.relation ((Json.unlisted_field _ _ _).mp freshUnlisted)
      ((Json.unlisted_field _ _ _).mp cachedUnlisted)
  | @item _ _ _ _ _ keys => cases keys <;> cases objects

/-- What the fresh side carries at such a leaf stays. -/
theorem LeafAt.keeps {node : Node} {place : List Step} {keys : List String}
    (leaf : node.LeafAt place keys) (objects : place = keys.map .field) (custom : Option String)
    {fresh value : Json} (carried : fresh.at? place = some value) (cached : Option Json) :
    (node.merge custom (some fresh) cached).at? place = some value := by
  induction leaf generalizing fresh cached with
  | @leaf node key plain requested =>
    cases fresh with
    | object fields =>
      have own : OrderedMap.get? fields key = some value := by
        simpa [Json.at?] using carried
      simp [merge_fresh_object, Json.at?, Entry.get?_mergeFields, plain, requested, Entry.merge, own]
    | _ => cases carried
  | @object node key entries place keys plain relation below ih =>
    cases fresh with
    | object fields =>
      obtain ⟨inner, found, deeper⟩ := Option.bind_eq_some_iff.mp carried
      rw [merge_fresh_object, Json.at?_field, Entry.get?_mergeFields, plain, relation, found]
      simp only [Bool.false_eq_true, ↓reduceIte, Option.map_some, Option.bind_some,
        Entry.merge_relation]
      exact ih (List.tail_eq_of_cons_eq objects) deeper _
    | _ => cases carried
  | @item _ _ _ _ _ keys => cases keys <;> cases objects

end Node

section Plain
variable {τ : Type}

/-- Merged data at a leaf that objects lead to, on both sides. Where the fresh data has a null
at the leaf or on the way it is null; else it is what the fresh data carries, or else what the
cached value of the root carries at the same place, or else null. What the fresh data carries
is never replaced. -/
theorem Prototype.merge_precedence (custom : Option String) {prototype : Prototype}
    (unique : (OrderedMap.keys prototype).Nodup) (fresh : OrderedMap String Json)
    (cached : OrderedMap String (List (Record τ))) {root : String} {node : Node}
    (asked : OrderedMap.get? prototype root = some node) {keys : List String}
    (leaf : node.LeafAt (keys.map .field) keys)
    (freshUnlisted : (Json.object fresh).Unlisted (.field root :: keys.map .field))
    (cachedUnlisted : ∀ own,
      cachedRoot node ((OrderedMap.get? cached root).getD []) = some own →
      own.Unlisted (keys.map .field)) :
    let merged := Json.object (prototype.merge custom fresh cached)
    let place := Step.field root :: keys.map .field
    let held := (cachedRoot node ((OrderedMap.get? cached root).getD [])).bind fun own =>
      own.at? (keys.map .field)
    ((∃ before, before <+: place ∧ (Json.object fresh).at? before = some .null) →
        merged.read? place = some .null) ∧
      ((¬∃ before, before <+: place ∧ (Json.object fresh).at? before = some .null) →
        merged.read? place = some ((((Json.object fresh).at? place).or held).getD .null)) ∧
      ∀ value, (Json.object fresh).at? place = some value → merged.at? place = some value := by
  intro merged place held
  have told : merged.read? place = some ((((Json.object fresh).read? place).or held).getD .null) := by
    obtain ⟨key, rest, same⟩ := leaf.place_eq
    have precedes := leaf.precedes rfl custom
    rw [Json.read?_field, Json.read?_field, get?_merge custom unique, asked]
    simp only [held, same, Option.map_some, Option.some_or, Option.bind_some] at precedes ⊢
    rw [same] at freshUnlisted cachedUnlisted
    exact precedes.relation ((Json.unlisted_field _ _ _).mp freshUnlisted) cachedUnlisted
  refine ⟨?_, ?_, ?_⟩
  · rintro ⟨before, within, stops⟩
    rw [told, Json.read?_of_null within stops]
    rfl
  · intro passable
    rw [told, Json.read?_eq_at? fun before within stops => passable ⟨before, within, stops⟩]
  · intro value carried
    obtain ⟨inner, found, below⟩ := Option.bind_eq_some_iff.mp carried
    rw [Json.at?_field, get?_merge custom unique, asked, found]
    exact leaf.keeps rfl custom below _

end Plain

open Capitals in
/-- A fresh country with an empty capital has the cached name of the capital. -/
theorem Prototype.merge_precedence_capital :
    (Json.object (prototype.merge none [("country", .object [("capital", .object [])])]
        [("country", [record])])).read? [.field "country", .field "capital", .field "name"] =
      some (.string "Lima") := by
  have unique : (OrderedMap.keys prototype).Nodup := by decide
  have asked : OrderedMap.get? prototype "country" = some country := rfl
  have leaf : country.LeafAt (["capital", "name"].map .field) ["capital", "name"] :=
    .object (by decide) rfl (.leaf (by decide) rfl)
  have freshUnlisted : (Json.object [("country", .object [("capital", .object [])])]).Unlisted
      (.field "country" :: ["capital", "name"].map .field) := by
    simp [Json.unlisted_field, OrderedMap.get?]
  have cachedUnlisted (own : Json)
      (held : cachedRoot country ((OrderedMap.get? [("country", [record])] "country").getD []) =
        some own) : own.Unlisted (["capital", "name"].map .field) := by
    cases held
    simp [Json.unlisted_field, record, OrderedMap.get?, Json.unlisted_nil]
  obtain ⟨-, filled, -⟩ := Prototype.merge_precedence none unique
    [("country", .object [("capital", .object [])])] [("country", [record])] asked leaf
    freshUnlisted cachedUnlisted
  rw [List.map_cons, List.map_cons, List.map_nil] at filled
  rw [filled]
  · rfl
  · rintro ⟨before, within, stops⟩
    cases Json.read?_of_null within stops

end GraphCache

import GraphCache.Proofs.Invalidation
import GraphCache.Proofs.LeadingAnswers
import GraphCache.Proofs.SpreadChains
import GraphCache.Proofs.StoreRefinement

/-! What an insert leaves in a store when its document spreads fragments. Its answer is filed under
the roots as they are compiled, where a spread stands as a field with the name of the fragment;
only the roots of a query have fragments inlined. Writing out the spreads by hand therefore
keeps the store as it is exactly if it leaves the outline of the roots as it is. A fragment that
has a name of its own changes that outline, and one answer is enough to show it. -/
namespace GraphCache

/-! ## The store after a call -/

variable {τ : Type} [Instant τ]

namespace Client

/-- The store after a call that gets this answer. -/
def storeAfter (client : Client τ) (asked : Call) (store : Store τ) (now : τ) (answer : Answer)
    (arrival : τ) : Store τ :=
  match client.begin asked store now with
  | ⟨_, begun, .error _⟩ => begun
  | ⟨_, begun, .ok opening⟩ => (client.carryOut opening.plan answer begun arrival).store

/-- That is the store after the step of the call, whatever delivers the answer. -/
theorem step_storeAfter {client : Client τ} {asked : Call} {world : World τ} {delivery : Delivery}
    {opening : Opening τ} (opened : (client.begin asked world.store world.now).result = .ok opening)
    {answer : Answer} (delivered :
      (delivery.through opening.request).answer opening.request.endpoint = .ok answer) (arrival : τ) :
    (client.step world (.call asked delivery arrival)).2.store =
      client.storeAfter asked world.store world.now answer arrival := by
  rw [step, storeAfter]
  generalize client.begin asked world.store world.now = begun at opened
  obtain ⟨notices, store, result⟩ := begun
  cases opened
  simp only [finish, delivered]

variable {client : Client τ} {asked : Call} {settings : Settings} {document : Document}

/-- An insert files its answer under the roots as they are compiled. -/
theorem storeAfter_inserting (asked : Call)
    (options : client.settings.withOptions client.homes asked.options = .ok settings)
    (reads : readQuery asked.query = .ok document)
    (mutation : (document.compile settings.cache.custom).route = .mutation)
    (inserts : Inserts asked (document.compile settings.cache.custom)) (store : Store τ) (now : τ)
    (answer : Answer) (arrival : τ) :
    client.storeAfter asked store now answer arrival =
      match store.deposit client.filing arrival (deposit settings asked
        (document.compile settings.cache.custom).prototype true (dataOf answer)) with
      | .ok filed => filed.1
      | .error _ => store := by
  obtain ⟨root, node, found, insert⟩ := inserts
  simp only [storeAfter, begin, options, reads, mutation, openMutation, found, insert, ↓reduceIte,
    carryOut, file]
  cases store.deposit client.filing arrival (deposit settings asked
    (document.compile settings.cache.custom).prototype true (dataOf answer)) <;> rfl

/-- Any other document but a query leaves an empty store empty. -/
theorem storeAfter_idle (asked : Call)
    (options : client.settings.withOptions client.homes asked.options = .ok settings)
    (reads : readQuery asked.query = .ok document)
    (other : (document.compile settings.cache.custom).route ≠ .query)
    (idle : (document.compile settings.cache.custom).route = .mutation →
      ¬Inserts asked (document.compile settings.cache.custom)) (now : τ) (answer : Answer)
    (arrival : τ) :
    client.storeAfter asked (.memory .empty) now answer arrival = .memory .empty := by
  simp only [storeAfter, begin, options, reads]
  cases route : (document.compile settings.cache.custom).route with
  | query => exact absurd route other
  | pass reason => rfl
  | mutation =>
    simp only
    generalize opened : client.openMutation settings asked
      (document.compile settings.cache.custom) (.memory .empty) = begun
    obtain ⟨notices, left, result⟩ := begun
    cases result with
    | ok opening =>
      have succeeded : (client.openMutation settings asked
          (document.compile settings.cache.custom) (.memory .empty)).result = .ok opening := by
        rw [opened]
      obtain ⟨empty, plan⟩ := openMutation_ok succeeded (idle route)
      rw [opened] at empty
      simp only [plan, carryOut]
      exact empty
    | error cause =>
      simp only [openMutation, openCleared, Store.clear] at opened
      split at opened
      · cases opened
        rfl
      · cases opened
      · split at opened <;> cases opened

/-- An answer whose data leads along a path to one object. -/
def leadingAnswer (names path : List String) : Answer :=
  [("data", .object (leadingTo (ones names) path))]

/-- How an insert files what it is answered at the first instant. -/
private def insertFiling (client : Client τ) (asked : Call) (settings : Settings) : Filing τ :=
  (deposit settings asked [] true .null).filing client.filing (Instant.ofSeconds 0)

/-- In an empty store an insert files the object that a path leads to, if the document follows the
path, and nothing else with the identifier of that object. -/
private theorem record?_leadingAnswer (asked : Call)
    (options : client.settings.withOptions client.homes asked.options = .ok settings)
    (reads : readQuery asked.query = .ok document) (unmarked : document.Unmarked)
    (mutation : (document.compile settings.cache.custom).route = .mutation)
    (inserts : Inserts asked (document.compile settings.cache.custom)) (names : List String)
    (root : String) (path : List String) (name : String) :
    (client.storeAfter asked (.memory .empty) (Instant.ofSeconds 0)
        (leadingAnswer names (root :: path)) (Instant.ofSeconds 0)).record? (entityKey name "1") =
      (((document.compile settings.cache.custom).prototype.at? (root :: path)).bind fun node =>
        (insertFiling client asked settings).recordOf?
          ⟨path.getLastD root, node, ones names⟩).filter (·.key = entityKey name "1") := by
  have clear : (document.compile settings.cache.custom).obstacle = none :=
    Document.clear_of_route fun reason passed => by cases mutation.symm.trans passed
  have ready : (Store.memory .empty : Store τ).Open := Store.open_memory _
  have read : dataFields (dataOf (leadingAnswer names (root :: path))) =
      .ok (leadingTo (ones names) (root :: path)) := rfl
  obtain ⟨⟨after, batch⟩, stored⟩ : ∃ result, (Store.memory .empty : Store τ).deposit client.filing
      (Instant.ofSeconds 0) (deposit settings asked
        (document.compile settings.cache.custom).prototype true
        (dataOf (leadingAnswer names (root :: path)))) = .ok result :=
    Store.deposit_of_ready ready (unmarked.ready clear) read
  obtain ⟨made, written⟩ := Store.deposit_writes stored
  obtain ⟨entities, _⟩ := Filing.batchOf_filed read made
  obtain ⟨held, _⟩ := Filing.batchOf_holds read made
  obtain ⟨later, occurrences, passing⟩ := document.occurrences_leadingTo unmarked clear names root path
  have filed : OrderedMap.get? batch.entities (entityKey name "1") =
      OrderedMap.get? ((insertFiling client asked settings).filed []
        ((document.compile settings.cache.custom).prototype.occurrences
          (leadingTo (ones names) (root :: path)))) (entityKey name "1") := by
    rw [entities]
    rfl
  have first (record : Option (Record τ)) : Keeping.memory.recordAfter (entityKey name "1")
      (Instant.ofSeconds 0) none record.toList = record := by
    cases record <;> rfl
  rw [storeAfter_inserting asked options reads mutation inserts, stored]
  rw [Store.record?_write written, Batch.writesOf_eq held.unique, filed, occurrences,
    Filing.get?_filed_leadingTo _ passing, Option.bind_map]
  exact first _

/-- Two inserts that always leave the same in an empty store request the same at every path. -/
private theorem names_eq {text : String} {other : Document}
    (options : client.settings.withOptions client.homes asked.options = .ok settings)
    (reads : readQuery asked.query = .ok document) (reads' : readQuery text = .ok other)
    (unmarked : document.Unmarked) (unmarked' : other.Unmarked)
    (mutation : (document.compile settings.cache.custom).route = .mutation)
    (mutation' : (other.compile settings.cache.custom).route = .mutation)
    (inserts : Inserts asked (document.compile settings.cache.custom))
    (inserts' : Inserts asked (other.compile settings.cache.custom))
    (same : ∀ answer, client.storeAfter { asked with query := text } (.memory .empty)
        (Instant.ofSeconds 0) answer (Instant.ofSeconds 0) =
      client.storeAfter asked (.memory .empty) (Instant.ofSeconds 0) answer (Instant.ofSeconds 0))
    (path : List String) :
    ((document.compile settings.cache.custom).prototype.at? path).map Node.names =
      ((other.compile settings.cache.custom).prototype.at? path).map Node.names := by
  have clear : (document.compile settings.cache.custom).obstacle = none :=
    Document.clear_of_route fun reason passed => by cases mutation.symm.trans passed
  have clear' : (other.compile settings.cache.custom).obstacle = none :=
    Document.clear_of_route fun reason passed => by cases mutation'.symm.trans passed
  cases path with
  | nil => rfl
  | cons root rest =>
    apply (insertFiling client asked settings).names_eq (rest.getLastD root)
    · exact fun node found => Document.field_of_at? unmarked clear found
    · exact fun node found => Document.field_of_at? unmarked' clear' found
    intro names name
    have read := record?_leadingAnswer asked options reads unmarked mutation inserts names root rest
      name
    have read' := record?_leadingAnswer { asked with query := text } options reads' unmarked'
      mutation' inserts' names root rest name
    rw [same, read] at read'
    exact read'.symm

/-- Some answer leaves a record in an empty store. -/
private theorem insert_leaves
    (options : client.settings.withOptions client.homes asked.options = .ok settings)
    (reads : readQuery asked.query = .ok document) (unmarked : document.Unmarked)
    (mutation : (document.compile settings.cache.custom).route = .mutation)
    (inserts : Inserts asked (document.compile settings.cache.custom)) :
    ∃ answer, client.storeAfter asked (.memory .empty) (Instant.ofSeconds 0) answer
      (Instant.ofSeconds 0) ≠ .memory .empty := by
  have clear : (document.compile settings.cache.custom).obstacle = none :=
    Document.clear_of_route fun reason passed => by cases mutation.symm.trans passed
  obtain ⟨root, node, opened⟩ : ∃ root node,
      (document.compile settings.cache.custom).prototype.at? [root] = some node := by
    obtain ⟨_, _, found, _⟩ := inserts
    cases roots : (document.compile settings.cache.custom).prototype with
    | nil =>
      rw [roots] at found
      cases found
    | cons entry rest =>
      exact ⟨entry.1, entry.2, by simp [Prototype.at?, OrderedMap.get?, Node.at?]⟩
  obtain ⟨head, selections, plain, same⟩ := Document.field_of_at? unmarked clear opened
  have label := head.typeLabel_node settings.cache.custom (plain.unmarked (by decide))
  rw [← same] at label
  obtain ⟨category, each⟩ := (insertFiling client asked settings).recordOf?_ones label root
  obtain ⟨record, left, key, _⟩ := each []
  have read := record?_leadingAnswer asked options reads unmarked mutation inserts [] root []
    category
  refine ⟨leadingAnswer [] [root], fun empty => ?_⟩
  rw [empty, opened, Option.bind_some, List.getLastD_nil, left] at read
  simp [Store.record?, Memory.empty, key, Option.filter] at read

end Client

/-- Writing out the spreads of a document leaves all that filing reads as it is: the document can
still be cached, and its roots have the same outline. -/
def Document.Unchanged (document : Document) (custom : Option String) : Prop :=
  (document.writtenOut.compile custom).obstacle = none ∧
    (document.writtenOut.compile custom).prototype.outline =
      (document.compile custom).prototype.outline

namespace Client

variable {client : Client τ} {asked : Call} {settings : Settings} {document : Document}

omit [Instant τ] in
/-- Whether a mutation inserts is told by its outline. -/
theorem inserts_outline {compiled other : Compilation}
    (same : other.prototype.outline = compiled.prototype.outline)
    (inserts : Inserts asked compiled) : Inserts asked other := by
  obtain ⟨root, node, found, insert⟩ := inserts
  have outlined := findMutation_outline (mappedNames asked.mutationMap) other.prototype
  rw [same, findMutation_outline, found] at outlined
  cases searched : findMutation (mappedNames asked.mutationMap) other.prototype with
  | error cause =>
    rw [searched] at outlined
    cases outlined
  | ok first =>
    rw [searched] at outlined
    cases first with
    | none => cases outlined
    | some entry =>
      obtain ⟨root', node'⟩ := entry
      obtain ⟨_, kept⟩ : root = root' ∧ node.outline = node'.outline := by
        simpa [Except.map] using Except.ok.inj outlined
      refine ⟨root', node', searched, ?_⟩
      rw [← node'.mutationType_outline, ← kept, node.mutationType_outline]
      exact insert

/-- A mutation with its spreads written out is a mutation, if it can still be cached. -/
private theorem route_writtenOut {custom : Option String}
    (mutation : (document.compile custom).route = .mutation)
    (free : (document.writtenOut.compile custom).obstacle = none) :
    (document.writtenOut.compile custom).route = .mutation := by
  have clear : (document.compile custom).obstacle = none :=
    Document.clear_of_route fun reason passed => by cases mutation.symm.trans passed
  have kind := Document.kind_writtenOut clear free
  rw [Compilation.route, clear] at mutation
  rw [Compilation.route, free, kind]
  exact mutation

/-- What is filed alike leaves the same in every store. -/
theorem storeAfter_of_unchanged
    (options : client.settings.withOptions client.homes asked.options = .ok settings)
    (reads : readQuery asked.query = .ok document)
    (mutation : (document.compile settings.cache.custom).route = .mutation)
    (inserts : Inserts asked (document.compile settings.cache.custom)) {text : String}
    (written : readQuery text = .ok document.writtenOut)
    (unchanged : document.Unchanged settings.cache.custom) (store : Store τ) (now : τ)
    (answer : Answer) (arrival : τ) :
    client.storeAfter { asked with query := text } store now answer arrival =
      client.storeAfter asked store now answer arrival := by
  obtain ⟨free, same⟩ := unchanged
  rw [storeAfter_inserting { asked with query := text } options written
    (route_writtenOut mutation free) (inserts_outline same inserts),
    storeAfter_inserting asked options reads mutation inserts]
  have batches : (deposit settings asked
      (document.writtenOut.compile settings.cache.custom).prototype true
        (dataOf answer)).batchAt client.filing arrival =
      (deposit settings asked (document.compile settings.cache.custom).prototype true
        (dataOf answer)).batchAt client.filing arrival := by
    rw [Deposit.batchAt, Deposit.batchAt]
    simp only [deposit]
    rw [← Filing.batchOf_outline, same, Filing.batchOf_outline]
    rfl
  exact congrArg (fun result : Except StoreError (Store τ × Batch τ) =>
    match result with
    | .ok filed => filed.1
    | .error _ => store) (store.deposit_congr batches)

/-- What always leaves the same in an empty store is filed alike. -/
theorem unchanged_of_storeAfter
    (options : client.settings.withOptions client.homes asked.options = .ok settings)
    (reads : readQuery asked.query = .ok document)
    (mutation : (document.compile settings.cache.custom).route = .mutation)
    (inserts : Inserts asked (document.compile settings.cache.custom)) {text : String}
    (written : readQuery text = .ok document.writtenOut) (unmarked : document.Unmarked)
    (unrepeated : Selection.Unrepeated document.selectionsOf document.rootSelections)
    (same : ∀ answer, client.storeAfter { asked with query := text } (.memory .empty)
        (Instant.ofSeconds 0) answer (Instant.ofSeconds 0) =
      client.storeAfter asked (.memory .empty) (Instant.ofSeconds 0) answer (Instant.ofSeconds 0)) :
    document.Unchanged settings.cache.custom := by
  have clear : (document.compile settings.cache.custom).obstacle = none :=
    Document.clear_of_route fun reason passed => by cases mutation.symm.trans passed
  obtain ⟨answer, left⟩ := insert_leaves options reads unmarked mutation inserts
  rw [← same] at left
  obtain ⟨mutation', inserts'⟩ :
      (document.writtenOut.compile settings.cache.custom).route = .mutation ∧
        Inserts asked (document.writtenOut.compile settings.cache.custom) := by
    by_contra idle
    apply left
    apply storeAfter_idle { asked with query := text } options written
    · intro query
      have free : (document.writtenOut.compile settings.cache.custom).obstacle = none :=
        Document.clear_of_route fun reason passed => by cases query.symm.trans passed
      cases query.symm.trans (route_writtenOut mutation free)
    · exact fun routed inserts' => idle ⟨routed, inserts'⟩
  have free : (document.writtenOut.compile settings.cache.custom).obstacle = none :=
    Document.clear_of_route fun reason passed => by cases mutation'.symm.trans passed
  refine ⟨free, (Document.outline_writtenOut unmarked clear free unrepeated ?_).symm⟩
  exact names_eq options reads written unmarked unmarked.writtenOut mutation mutation' inserts
    inserts' same

/-- An insert whose document spreads fragments leaves the same in every store, whatever the answer,
as with the spreads written out, if writing them out changes nothing that filing reads. For a
document without marks among its names, in which no field is repeated beside a spread, this is
the only case: any other change shows in an empty store after one answer. -/
theorem insert_writtenOut
    (options : client.settings.withOptions client.homes asked.options = .ok settings)
    (reads : readQuery asked.query = .ok document)
    (mutation : (document.compile settings.cache.custom).route = .mutation)
    (inserts : Inserts asked (document.compile settings.cache.custom)) {text : String}
    (written : readQuery text = .ok document.writtenOut) :
    (document.Unchanged settings.cache.custom → ∀ store now answer arrival,
        client.storeAfter { asked with query := text } store now answer arrival =
          client.storeAfter asked store now answer arrival) ∧
      (document.Unmarked →
        Selection.Unrepeated document.selectionsOf document.rootSelections →
        (∀ store now answer arrival,
          client.storeAfter { asked with query := text } store now answer arrival =
            client.storeAfter asked store now answer arrival) →
        document.Unchanged settings.cache.custom) := by
  constructor
  · intro unchanged
    exact storeAfter_of_unchanged options reads mutation inserts written unchanged
  · intro unmarked unrepeated same
    exact unchanged_of_storeAfter options reads mutation inserts written unmarked unrepeated
      fun answer => same _ _ answer _

end Client

/-! ## Fragments with names of their own -/

/-- A root that spreads a fragment whose name is no name of a field there is filed otherwise with its
spreads written out. -/
theorem Document.changed_of_spread {document : Document} {custom : Option String}
    (clear : (document.compile custom).obstacle = none)
    (unrepeated : Selection.Unrepeated document.selectionsOf document.rootSelections)
    {root : String} {field : FieldHead × List Selection}
    (last : Selection.last? document.rootSelections root = some field) {name : String}
    {directives : List Directive} (spread : .spread name directives ∈ field.2)
    (plain : isReserved name = false)
    (absent : name ∉ Selection.offered (Selection.allWrittenOut document.selectionsOf field.2))
    (absent' : name ∉ (Selection.branches
      (Selection.allWrittenOut document.selectionsOf field.2)).map Prod.fst) :
    ¬document.Unchanged custom := by
  rintro ⟨free, same⟩
  have outlines := get?_outline_compiled free root
  rw [same, get?_outline_compiled clear, rootSelections_writtenOut, unrepeated.last? last, last]
    at outlines
  have fields := congrArg Node.fields (Option.some.inj outlines)
  have names := congrArg OrderedMap.keys fields
  rw [Node.fields_outline, Node.fields_outline, Node.keys_outlinesOf, Node.keys_outlinesOf] at names
  have requested {selections : List Selection} :
      name ∈ (field.1.node custom selections).names ↔
        name ∈ OrderedMap.keys (field.1.node custom selections) := by
    simp [Node.names, Node.fields, OrderedMap.keys, plain]
  have given : name ∈ (field.1.node custom field.2).names := by
    rw [requested, FieldHead.mem_keys_node, Selection.mem_offered]
    exact .inr (.inl (.inr ⟨directives, spread⟩))
  rw [names, requested, FieldHead.mem_keys_node] at given
  rcases given with marked | offered | relation
  · rw [FieldHead.reserved_of_mark marked] at plain
    cases plain
  · exact absent offered
  · exact absent' relation

/-- So an insert that spreads such a fragment leaves something else in some store. -/
theorem Client.insert_differs {client : Client τ} {asked : Call} {settings : Settings}
    {document : Document}
    (options : client.settings.withOptions client.homes asked.options = .ok settings)
    (reads : readQuery asked.query = .ok document)
    (mutation : (document.compile settings.cache.custom).route = .mutation)
    (inserts : Inserts asked (document.compile settings.cache.custom)) {text : String}
    (written : readQuery text = .ok document.writtenOut) (unmarked : document.Unmarked)
    (unrepeated : Selection.Unrepeated document.selectionsOf document.rootSelections)
    {root : String} {field : FieldHead × List Selection}
    (last : Selection.last? document.rootSelections root = some field) {name : String}
    {directives : List Directive} (spread : .spread name directives ∈ field.2)
    (plain : isReserved name = false)
    (absent : name ∉ Selection.offered (Selection.allWrittenOut document.selectionsOf field.2))
    (absent' : name ∉ (Selection.branches
      (Selection.allWrittenOut document.selectionsOf field.2)).map Prod.fst) :
    ∃ answer, client.storeAfter { asked with query := text } (.memory .empty)
        (Instant.ofSeconds 0) answer (Instant.ofSeconds 0) ≠
      client.storeAfter asked (.memory .empty) (Instant.ofSeconds 0) answer
        (Instant.ofSeconds 0) := by
  have clear : (document.compile settings.cache.custom).obstacle = none :=
    Document.clear_of_route fun reason passed => by cases mutation.symm.trans passed
  by_contra alike
  push Not at alike
  exact Document.changed_of_spread clear unrepeated last spread plain absent absent'
    (unchanged_of_storeAfter options reads mutation inserts written unmarked unrepeated alike)

/-! ## A country that is added with a fragment -/

namespace Addition

def head : FieldHead := ⟨none, "addCountry", [⟨"name", .string "x"⟩], []⟩

def document (shared : Fragment) : Document :=
  ⟨[.operation ⟨.mutation, none, [], [],
      [.relation head [.leaf ⟨none, "id", [], []⟩, .spread shared.name []]]⟩, .fragment shared]⟩

def call (text : String) : Call :=
  ⟨"https://api.example.test/graphql", text, [("addCountry", .string "Country")], [], [], []⟩

/-- A document with that root alone inserts. -/
theorem inserts {document : Document} {selections : List Selection}
    (clear : (document.compile none).obstacle = none)
    (roots : document.roots = [("addCountry", head, selections)])
    (unmarked : Selection.last? selections Mark.typeName = none) (text : String) :
    Client.Inserts (call text) (document.compile none) := by
  have lowered : Text.lowercase "addCountry" = "addcountry" := by decide +kernel
  refine ⟨"addCountry", head.node none selections, ?_, ?_⟩
  · rw [Document.compiled_roots clear, roots]
    simp [findMutation, isMapped, mappedNames, call, lowered, pure, Except.pure, bind, Except.bind]
  · rw [head.mutationType_node none unmarked]
    decide +kernel

/-- A fragment with the name of its only field. -/
def namesake : Fragment := ⟨"name", "Country", [], [.leaf ⟨none, "name", [], []⟩]⟩

def namesakeText : String :=
  "mutation \x7b addCountry(name: \"x\") \x7b id ...name \x7d \x7d fragment name on Country \x7b name \x7d"

def namesakeWritten : String :=
  "mutation \x7b addCountry(name: \"x\") \x7b id name \x7d \x7d fragment name on Country \x7b name \x7d"

/-- A fragment with the same field and a name of its own. -/
def details : Fragment := ⟨"Details", "Country", [], [.leaf ⟨none, "name", [], []⟩]⟩

def detailsText : String :=
  "mutation \x7b addCountry(name: \"x\") \x7b id ...Details \x7d \x7d fragment Details on Country \x7b name \x7d"

def detailsWritten : String :=
  "mutation \x7b addCountry(name: \"x\") \x7b id name \x7d \x7d fragment Details on Country \x7b name \x7d"

def answer : Answer :=
  [("data", .object [("addCountry", .object [("id", .int 1), ("name", .string "Peru")])])]

/-- The record of the country, with what is stored of it. -/
def record (data : OrderedMap String Json) : Record Int :=
  ⟨"country--1", "country", "1", data, true, some 601⟩

end Addition

open Addition in
set_option maxRecDepth 8000 in
/-- With a fragment that has the name of its only field nothing changes in any store. -/
theorem Client.insert_writtenOut_namesake :
    readQuery (call namesakeText).query = .ok (document namesake) ∧
      readQuery namesakeWritten = .ok (document namesake).writtenOut ∧
      ((document namesake).compile none).route = .mutation ∧
      Inserts (call namesakeText) ((document namesake).compile none) ∧
      ∀ store now answer arrival,
        Client.standard.storeAfter { call namesakeText with query := namesakeWritten } store now
            answer arrival =
          Client.standard.storeAfter (call namesakeText) store now answer arrival := by
  have options : Client.standard.settings.withOptions Client.standard.homes
      (call namesakeText).options = .ok .standard := rfl
  have reads : readQuery (call namesakeText).query = .ok (document namesake) := by cbv
  have written : readQuery namesakeWritten = .ok (document namesake).writtenOut := by cbv
  have mutation : ((document namesake).compile none).route = .mutation := by decide
  have inserting : Inserts (call namesakeText) ((document namesake).compile none) :=
    inserts (by decide) rfl rfl namesakeText
  have unchanged : (document namesake).Unchanged none := ⟨by decide, rfl⟩
  exact ⟨reads, written, mutation, inserting,
    (insert_writtenOut options reads mutation inserting written).1 unchanged⟩

open Addition in
set_option maxRecDepth 8000 in
/-- With a fragment that has a name of its own, its field is not stored. -/
theorem Client.insert_loses_details :
    readQuery (call detailsText).query = .ok (document details) ∧
      readQuery (call detailsWritten).query = .ok (document details).writtenOut ∧
      ((document details).compile none).route = .mutation ∧
      Inserts (call detailsText) ((document details).compile none) ∧
      (Client.standard.storeAfter (call detailsText) (.memory .empty) 0 answer 1).find 1 "country"
        (some "1") = .ok [record [("id", .int 1)]] ∧
      (Client.standard.storeAfter (call detailsWritten) (.memory .empty) 0 answer 1).find 1 "country"
        (some "1") = .ok [record [("id", .int 1), ("name", .string "Peru")]] := by
  have options (text : String) : Client.standard.settings.withOptions Client.standard.homes
      (call text).options = .ok .standard := rfl
  have reads : readQuery (call detailsText).query = .ok (document details) := by cbv
  have written : readQuery (call detailsWritten).query = .ok (document details).writtenOut := by cbv
  have mutation : ((document details).compile none).route = .mutation := by decide
  have mutation' : ((document details).writtenOut.compile none).route = .mutation := by decide
  have inserting : Inserts (call detailsText) ((document details).compile none) :=
    inserts (by decide) rfl rfl detailsText
  have inserting' : Inserts (call detailsWritten) ((document details).writtenOut.compile none) :=
    inserts (by decide) rfl rfl detailsWritten
  refine ⟨reads, written, mutation, inserting, ?_, ?_⟩
  · rw [storeAfter_inserting _ (options _) reads mutation inserting]
    exact except_ok_of_toOption (by decide +kernel)
  · rw [storeAfter_inserting _ (options _) written mutation' inserting']
    exact except_ok_of_toOption (by decide +kernel)

end GraphCache

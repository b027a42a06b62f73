import GraphCache.Proofs.LaidTrees
import GraphCache.Proofs.Outcomes
import GraphCache.Settings.Layers

/-! The settings that variables make have every key once, at every depth. A variable's text
in JSON is read so, setting one value at a path keeps it so, and so does giving known fields
their own spelling, because all keys are names. -/
namespace GraphCache

open GraphCache.Tree

/-! ## Texts in JSON -/

theorem Tree.ofFields_eq (fields : List (String × Json)) :
    ofFields fields = fields.map fun entry => (.text entry.1, ofJson entry.2) := by
  induction fields with
  | nil => rfl
  | cons entry rest ih => rw [ofFields, ih, List.map_cons]

/-- Only braces write an object, and of its fields every name stays once. -/
private theorem readValue_object {fuel : Nat} {cursor after : Json.Cursor}
    {fields : OrderedMap String Json}
    (read : Json.readValue (fuel + 1) cursor = .ok (.object fields, after)) :
    fields = [] ∨ ∃ inside writes, Json.readFields fuel inside = .ok (writes, after) ∧
      OrderedMap.ofList writes = fields := by
  rw [Json.readValue] at read
  split at read
  · simp only [bind, except_bind_ok] at read
    obtain ⟨_, -, done⟩ := read
    cases done
  · dsimp only at read
    split at read
    · cases read
      exact .inl rfl
    · simp only [bind, except_bind_ok] at read
      obtain ⟨⟨writes, last⟩, inner, done⟩ := read
      cases done
      exact .inr ⟨_, writes, inner, rfl⟩
  · dsimp only at read
    split at read
    · cases read
    · simp only [bind, except_bind_ok] at read
      obtain ⟨_, -, done⟩ := read
      cases done
  · split at read
    · next found =>
      cases read
      have member := List.mem_of_find?_eq_some found
      simp [Json.words] at member
    · split at read
      · next numeral _ =>
        have value : numeral.value = .object fields :=
          congrArg Prod.fst (Except.ok.inj read)
        unfold Json.Numeral.value at value
        split at value <;> cases value
      · cases read

theorem distinct_ofJson_object {fields : List (String × Json)}
    (inside : ∀ field ∈ fields, Distinct (ofJson field.2)) :
    Distinct (ofJson (.object (OrderedMap.ofList fields))) := by
  rw [ofJson, ofFields_eq]
  have writes : (OrderedMap.ofList fields).map (fun entry =>
      (Scalar.text entry.1, ofJson entry.2)) =
        ((OrderedMap.ofList fields).map fun entry => (entry.1, ofJson entry.2)).map
          fun entry => (Scalar.text entry.1, entry.2) := by
    rw [List.map_map]
    rfl
  rw [writes]
  apply distinct_names
  · rw [List.map_map]
    exact OrderedMap.keys_ofList_nodup fields
  · intro entry member
    obtain ⟨field, held, rfl⟩ := List.mem_map.mp member
    rcases OrderedMap.mem_of_mem_overlay held with none | own
    · cases none
    · exact inside field own

/-- What is read has every key once. -/
private theorem reads_distinct (fuel : Nat) :
    (∀ cursor value after, Json.readValue fuel cursor = .ok (value, after) →
      Distinct (ofJson value)) ∧
    (∀ cursor fields after, Json.readFields fuel cursor = .ok (fields, after) →
      ∀ field ∈ fields, Distinct (ofJson field.2)) := by
  induction fuel with
  | zero =>
    constructor <;> intro _ _ _ read
    · rw [Json.readValue] at read
      cases read
    · rw [Json.readFields] at read
      cases read
  | succ fuel ih =>
    constructor
    · intro cursor value after read
      cases value with
      | object fields =>
        rcases readValue_object read with rfl | ⟨inside, writes, inner, rfl⟩
        · exact distinct_mapping List.nodup_nil fun _ => nofun
        · exact distinct_ofJson_object (ih.2 inside writes after inner)
      | _ => exact distinct_of_not_isMapping (by rw [ofJson]; rfl)
    · intro cursor fields after read
      rw [Json.readFields] at read
      split at read
      · simp only [bind, except_bind_ok] at read
        obtain ⟨⟨name, one⟩, -, read⟩ := read
        split at read
        · simp only [except_bind_ok] at read
          obtain ⟨⟨value, two⟩, inner, read⟩ := read
          have own := ih.1 _ value two inner
          split at read
          · cases read
            simpa using own
          · simp only [except_bind_ok] at read
            obtain ⟨⟨others, last⟩, later, read⟩ := read
            cases read
            intro field member
            rcases List.mem_cons.mp member with rfl | rest
            · exact own
            · exact ih.2 _ others last later field rest
          · cases read
        · cases read
      · cases read

theorem distinct_of_treeOfText? {text : String} {tree : Tree}
    (read : treeOfText? text = some tree) : Distinct tree := by
  unfold treeOfText? at read
  split at read
  · next value found =>
    cases read
    simp only [Json.read, Json.readChars, except_mapError_ok, bind, except_bind_ok] at found
    obtain ⟨⟨own, after⟩, inner, done⟩ := found
    split at done
    · cases done
      exact (reads_distinct _).1 _ own after inner
    · cases done
  · cases read

theorem named_of_treeOfText? {text : String} {entries : Entries}
    (read : treeOfText? text = some (.mapping entries)) : Named entries := by
  unfold treeOfText? at read
  split at read
  · next value found =>
    cases value with
    | object fields =>
      rw [ofJson, ofFields_eq] at read
      cases read
      intro entry member
      obtain ⟨field, -, rfl⟩ := List.mem_map.mp member
      exact ⟨field.1, rfl⟩
    | _ =>
      rw [ofJson] at read
      cases read
  · cases read

/-! ## One variable after the other -/

/-- Where all keys are names, keys are distinct if they are not repeated. -/
theorem distinct_of_named {entries : Entries} (named : Named entries)
    (unique : (OrderedMap.keys entries).Nodup) (inside : ∀ entry ∈ entries, Distinct entry.2) :
    Distinct (.mapping entries) := by
  refine distinct_mapping ?_ inside
  have keys : keysOf entries = (OrderedMap.keys entries).map Scalar.key := by
    simp [keysOf, OrderedMap.keys]
  rw [keys]
  refine List.Nodup.map_on ?_ unique
  intro one first two second same
  obtain ⟨entry, member, rfl⟩ := List.mem_map.mp first
  obtain ⟨name, called⟩ := named entry member
  rw [called] at same ⊢
  exact ((Scalar.key_text_iff two name).mp same.symm).symm

theorem Tree.Named.insert {entries : Entries} (named : Named entries) (name : String) (value : Tree) :
    Named (OrderedMap.insert entries (.text name) value) := by
  intro entry member
  rcases OrderedMap.mem_of_mem_insert member with old | rfl
  · exact named entry old
  · exact ⟨name, rfl⟩

/-- Entries as variables make them. -/
structure Orderly (entries : Entries) : Prop where
  distinct : Distinct (.mapping entries)
  named : Named entries

theorem orderly_nil : Orderly [] := ⟨distinct_mapping List.nodup_nil fun _ => nofun, fun _ => nofun⟩

theorem setVariable_distinct {entries : Entries} (distinct : Distinct (.mapping entries))
    {path : List String} {value : Tree} (own : Distinct value) :
    Distinct (.mapping (setVariable entries path value)) := by
  fun_induction setVariable entries path value with
  | case1 => exact distinct
  | case2 => exact distinct.insert own _
  | case3 entries name rest value _ _ ih =>
    exact distinct.insert (ih orderly_nil.distinct own) name
  | case4 entries name rest value _ inner found ih =>
    rw [get?_text] at found
    exact distinct.insert (ih (distinct.under found) own) name
  | case5 => exact distinct

theorem Tree.Named.setVariable {entries : Entries} (named : Named entries) (path : List String)
    (value : Tree) : Named (setVariable entries path value) := by
  unfold GraphCache.setVariable
  split
  · exact named
  · exact named.insert _ _
  · split
    · exact named.insert _ _
    · exact named.insert _ _
    · exact named

theorem Orderly.setVariable {entries : Entries} (orderly : Orderly entries) {value : Tree}
    (own : Distinct value) (path : List String) : Orderly (setVariable entries path value) :=
  ⟨setVariable_distinct orderly.distinct own, orderly.named.setVariable path value⟩

/-- What every step keeps, a chain of steps keeps. -/
private theorem foldlM_keeps {α β : Type} {step : β → α → Option β} {holds : β → Prop}
    (keeps : ∀ state item next, holds state → step state item = some next → holds next)
    {items : List α} {state result : β} (first : holds state)
    (done : items.foldlM step state = some result) : holds result := by
  induction items generalizing state with
  | nil =>
    cases done
    exact first
  | cons item rest ih =>
    rw [List.foldlM_cons] at done
    obtain ⟨next, stepped, later⟩ := Option.bind_eq_some_iff.mp done
    exact ih (keeps state item next first stepped) later

theorem variableFields_orderly {sectionName start : String}
    {environment : OrderedMap String String} {fields : Entries}
    (read : variableFields sectionName start environment = some fields) : Orderly fields := by
  refine foldlM_keeps ?_ orderly_nil read
  intro entries entry next orderly set
  dsimp only at set
  split_ifs at set
  · obtain ⟨value, written, rfl⟩ := Option.map_eq_some_iff.mp set
    exact orderly.setVariable (distinct_of_treeOfText? written) _
  · cases set
    exact orderly.setVariable (distinct_of_not_isMapping rfl) _
  · cases set
    exact orderly

theorem respell_distinct {entries : Entries} (orderly : Orderly entries) (sectionName : String) :
    Distinct (.mapping (respell sectionName entries)) := by
  have written : ∀ entry ∈ respell sectionName entries,
      (∃ name, entry.1 = .text name) ∧ Distinct entry.2 := by
    intro entry member
    rcases OrderedMap.mem_of_mem_overlay member with none | own
    · cases none
    · obtain ⟨held, within, rfl⟩ := List.mem_map.mp own
      have value : Distinct held.2 := orderly.distinct.of_mem within
      refine ⟨?_, value⟩
      dsimp only
      cases (sectionFields sectionName).find? fun field =>
        .text field = Scalar.text (Text.lowercase held.1.display) with
      | none => exact orderly.named held within
      | some known => exact ⟨known, rfl⟩
  exact distinct_of_named (fun entry member => (written entry member).1)
    (OrderedMap.keys_ofList_nodup _) fun entry member => (written entry member).2

theorem variableSection_distinct {application : Application}
    {environment : OrderedMap String String} {sectionName : String} {tree : Tree}
    (read : variableSection application environment sectionName = .ok (some tree)) :
    Distinct tree := by
  unfold variableSection at read
  dsimp only at read
  generalize known : OrderedMap.get? environment (application.variablesOf sectionName) = text at read
  have whole : ∀ own, (text.elim (some none) fun text => (treeOfText? text).map some) =
      some (some own) → ∃ text, treeOfText? text = some own := by
    intro own found
    cases text with
    | none => cases found
    | some text =>
      obtain ⟨_, written, same⟩ := Option.map_eq_some_iff.mp found
      cases same
      exact ⟨text, written⟩
  split at read
  · cases read
  · next entries fields found set =>
    obtain ⟨text, written⟩ := whole (.mapping entries) (by cases text <;> exact found)
    cases read
    refine respell_distinct ⟨?_, ?_⟩ sectionName
    · have laid := (distinct_of_treeOfText? written).laidOn (variableFields_orderly set).distinct
      rwa [laidOn_mapping (isMapping_mapping _) (isMapping_mapping _)] at laid
    · exact (named_layEntries (variableFields_orderly set).distinct.root).mpr
        ⟨named_of_treeOfText? written, (variableFields_orderly set).named⟩
  · cases read
  · cases read
  · next own _ found _ _ =>
    obtain ⟨text, written⟩ := whole own (by cases text <;> exact found)
    cases read
    exact distinct_of_treeOfText? written
  · cases read
  · next fields found set =>
    split at read
    · cases read
    · cases read
      exact respell_distinct (variableFields_orderly set) sectionName

/-- The sections that variables speak of come in the order in which they are asked for. -/
private theorem sections_listed {application : Application}
    {environment : OrderedMap String String} {names : List String}
    {sections : List (Option (Scalar × Tree))}
    (read : (names.mapM fun sectionName => do
      return (← variableSection application environment sectionName).map fun tree =>
        (Scalar.text sectionName, tree)) = .ok sections) :
    (OrderedMap.keys (sections.filterMap id)).Sublist (names.map Scalar.text) ∧
      ∀ entry ∈ sections.filterMap id, Distinct entry.2 := by
  induction names generalizing sections with
  | nil =>
    cases read
    simp [OrderedMap.keys]
  | cons name rest ih =>
    simp only [List.mapM_cons, bind, except_bind_ok, pure, Except.pure, Except.ok.injEq] at read
    obtain ⟨_, ⟨found, made, rfl⟩, others, later, rfl⟩ := read
    obtain ⟨order, each⟩ := ih later
    cases found with
    | none => exact ⟨order.cons _, each⟩
    | some tree =>
      refine ⟨order.cons_cons _, ?_⟩
      rintro entry (_ | ⟨_, member⟩)
      · exact variableSection_distinct made
      · exact each entry member

/-- The settings that variables make have every key once. -/
theorem variableSettings_distinct {application : Application}
    {environment : List (String × String)} {entries : Entries}
    (read : variableSettings application environment = .ok entries) :
    Distinct (.mapping entries) := by
  simp only [variableSettings, bind, except_bind_ok, pure, Except.pure, Except.ok.injEq] at read
  obtain ⟨sections, listed, rfl⟩ := read
  obtain ⟨order, each⟩ := sections_listed listed
  have names : (Settings.sectionNames.map Scalar.text).Nodup := by decide
  refine distinct_of_named ?_ (order.nodup names) each
  intro entry member
  have own := order.subset (List.mem_map_of_mem member)
  obtain ⟨name, -, same⟩ := List.mem_map.mp own
  exact ⟨name, same.symm⟩

end GraphCache

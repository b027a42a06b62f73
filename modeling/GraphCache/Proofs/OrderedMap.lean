import GraphCache.OrderedMap
import Mathlib.Data.List.Basic
import Mathlib.Data.List.Nodup

/-! Reading a mapping after many writes. Of several writes under one key the last
one counts, so an overlay reads as its reversed list of writes, and as the base
where nothing was written. Keys stay unique once they are. Writes see of keys only
which of them are equal, so they may as well be made under other keys, if those
differ where the first ones do. -/
namespace GraphCache.OrderedMap

universe u v w

variable {κ : Type u} {α : Type v} {β : Type w} [DecidableEq κ]

@[simp] theorem get?_nil (key : κ) : get? ([] : OrderedMap κ α) key = none := rfl

theorem get?_append (first second : OrderedMap κ α) (key : κ) :
    get? (first ++ second) key = (get? first key).or (get? second key) := by
  induction first with
  | nil => simp
  | cons entry rest ih =>
    obtain ⟨present, value⟩ := entry
    by_cases same : present = key <;> simp [get?, same, ih]

@[simp] theorem overlay_nil (base : OrderedMap κ α) : overlay base [] = base := rfl

@[simp] theorem overlay_cons (base above : OrderedMap κ α) (entry : κ × α) :
    overlay base (entry :: above) = overlay (insert base entry.1 entry.2) above := rfl

theorem overlay_append (base first second : OrderedMap κ α) :
    overlay base (first ++ second) = overlay (overlay base first) second :=
  List.foldl_append ..

/-- The last write of a key counts. -/
theorem get?_overlay (base above : OrderedMap κ α) (key : κ) :
    get? (overlay base above) key = (get? above.reverse key).or (get? base key) := by
  induction above generalizing base with
  | nil => simp
  | cons entry rest ih =>
    rw [overlay_cons, ih, get?_insert, List.reverse_cons, get?_append]
    by_cases same : entry.1 = key <;> cases get? rest.reverse key <;> simp [get?, same]

theorem get?_ofList (writes : List (κ × α)) (key : κ) :
    get? (ofList writes) key = get? writes.reverse key := by
  simp [ofList, get?_overlay]

theorem get?_map (entries : OrderedMap κ α) (change : κ → α → β) (key : κ) :
    get? (entries.map fun entry => (entry.1, change entry.1 entry.2)) key =
      (get? entries key).map (change key) := by
  induction entries with
  | nil => rfl
  | cons entry rest ih =>
    by_cases same : entry.1 = key
    · subst same
      simp [get?]
    · simp [get?, same, ih]

theorem get?_filter (entries : OrderedMap κ α) (keep : κ → Bool) (key : κ) :
    get? (entries.filter fun entry => keep entry.1) key =
      if keep key then get? entries key else none := by
  induction entries with
  | nil => simp
  | cons entry rest ih =>
    obtain ⟨present, value⟩ := entry
    by_cases kept : keep present
    · by_cases same : present = key
      · subst same
        simp [get?, kept]
      · simp [get?, kept, same, ih]
    · have other : keep key = true → present ≠ key := by
        rintro held rfl
        exact kept held
      rw [List.filter_cons_of_neg (by simpa using kept), ih]
      by_cases held : keep key
      · simp [get?, held, other held]
      · simp [held]

/-- Reading entries that stand under names of their own finds the first of that name. -/
theorem get?_map_name (items : List β) (name : β → κ) (value : β → α) (key : κ) :
    get? (items.map fun item => (name item, value item)) key =
      (items.find? fun item => decide (name item = key)).map value := by
  induction items with
  | nil => rfl
  | cons item rest ih =>
    by_cases same : name item = key <;> simp [get?, same, ih]

/-- Items that are written one after another under names of their own: the last of a name is
found. -/
theorem get?_foldl_insert (items : List β) (name : β → κ) (value : β → α) (base : OrderedMap κ α)
    (key : κ) :
    get? (items.foldl (fun written item => insert written (name item) (value item)) base) key =
      ((items.reverse.find? fun item => decide (name item = key)).map value).or (get? base key) := by
  have writes : items.foldl (fun written item => insert written (name item) (value item)) base =
      overlay base (items.map fun item => (name item, value item)) := by
    simp [overlay, List.foldl_map]
  rw [writes, get?_overlay, ← List.map_reverse, get?_map_name]

theorem get?_isSome_iff (entries : OrderedMap κ α) (key : κ) :
    (get? entries key).isSome ↔ key ∈ keys entries := by
  induction entries with
  | nil => simp [keys]
  | cons entry rest ih =>
    by_cases same : entry.1 = key
    · simp [get?, keys, same]
    · have other : ¬key = entry.1 := fun equal => same equal.symm
      simp only [get?, same, ↓reduceIte, ih]
      simp [keys, other]

theorem get?_eq_none_iff (entries : OrderedMap κ α) (key : κ) :
    get? entries key = none ↔ key ∉ keys entries := by
  rw [← get?_isSome_iff]
  simp

theorem mem_of_get?_eq_some {entries : OrderedMap κ α} {key : κ} {value : α}
    (found : get? entries key = some value) : (key, value) ∈ entries := by
  induction entries with
  | nil => cases found
  | cons entry rest ih =>
    by_cases same : entry.1 = key
    · simp only [get?, same, ↓reduceIte, Option.some.injEq] at found
      simp [← same, ← found]
    · simp only [get?, same, ↓reduceIte] at found
      exact List.mem_cons_of_mem _ (ih found)

/-- Where keys are unique, reading finds every entry. -/
theorem get?_eq_some_of_mem {entries : OrderedMap κ α} {key : κ} {value : α}
    (unique : (keys entries).Nodup) (member : (key, value) ∈ entries) :
    get? entries key = some value := by
  induction entries with
  | nil => cases member
  | cons entry rest ih =>
    obtain ⟨fresh, tail⟩ := List.nodup_cons.mp unique
    rcases List.mem_cons.mp member with rfl | later
    · simp [get?]
    · have other : entry.1 ≠ key := fun same =>
        fresh (same ▸ List.mem_map_of_mem (f := Prod.fst) later)
      simpa [get?, other] using ih tail later

/-- Where keys are unique, the order of the entries does not matter for reading. -/
theorem get?_reverse_of_nodup {entries : OrderedMap κ α} (unique : (keys entries).Nodup) (key : κ) :
    get? entries.reverse key = get? entries key := by
  cases found : get? entries key with
  | none =>
    rw [get?_eq_none_iff] at found ⊢
    simpa [keys] using found
  | some value =>
    have reversed : (keys entries.reverse).Nodup := by
      rw [keys, List.map_reverse, List.nodup_reverse]
      exact unique
    exact get?_eq_some_of_mem reversed (List.mem_reverse.mpr (mem_of_get?_eq_some found))

theorem get?_overlay_of_nodup {above : OrderedMap κ α} (unique : (keys above).Nodup)
    (base : OrderedMap κ α) (key : κ) :
    get? (overlay base above) key = (get? above key).or (get? base key) := by
  rw [get?_overlay, get?_reverse_of_nodup unique]

theorem mem_keys_insert (entries : OrderedMap κ α) (key probe : κ) (value : α) :
    probe ∈ keys (insert entries key value) ↔ probe = key ∨ probe ∈ keys entries := by
  rw [← get?_isSome_iff, ← get?_isSome_iff, get?_insert]
  by_cases same : key = probe
  · simp [same]
  · simp [same, Ne.symm same]

theorem mem_keys_overlay (base above : OrderedMap κ α) (probe : κ) :
    probe ∈ keys (overlay base above) ↔ probe ∈ keys base ∨ probe ∈ keys above := by
  induction above generalizing base with
  | nil => simp [keys]
  | cons entry rest ih =>
    rw [overlay_cons, ih, mem_keys_insert]
    simp only [keys, List.map_cons, List.mem_cons]
    tauto

theorem keys_insert_nodup {entries : OrderedMap κ α} (unique : (keys entries).Nodup) (key : κ)
    (value : α) : (keys (insert entries key value)).Nodup := by
  by_cases present : key ∈ keys entries
  · rwa [keys_insert_of_mem value present]
  · rw [keys_insert_of_not_mem value present]
    exact List.nodup_append.mpr ⟨unique, List.nodup_singleton _, by
      intro one member other single same
      rw [List.mem_singleton.mp single] at same
      exact present (same ▸ member)⟩

theorem keys_overlay_nodup {base : OrderedMap κ α} (unique : (keys base).Nodup)
    (above : OrderedMap κ α) : (keys (overlay base above)).Nodup := by
  induction above generalizing base with
  | nil => exact unique
  | cons entry rest ih => exact ih (keys_insert_nodup unique entry.1 entry.2)

theorem keys_ofList_nodup (writes : List (κ × α)) : (keys (ofList writes)).Nodup := by
  have empty : (keys ([] : OrderedMap κ α)).Nodup := List.nodup_nil
  exact keys_overlay_nodup empty writes

theorem mem_of_mem_insert {entries : OrderedMap κ α} {key : κ} {value : α} {entry : κ × α}
    (member : entry ∈ insert entries key value) : entry ∈ entries ∨ entry = (key, value) := by
  induction entries with
  | nil => exact .inr (List.mem_singleton.mp member)
  | cons first rest ih =>
    by_cases same : first.1 = key
    · simp only [insert, same, ↓reduceIte, List.mem_cons] at member ⊢
      tauto
    · simp only [insert, same, ↓reduceIte, List.mem_cons] at member ⊢
      rcases member with rfl | later
      · exact .inl (.inl rfl)
      · exact (ih later).imp_left .inr

theorem mem_of_mem_overlay {base above : OrderedMap κ α} {entry : κ × α}
    (member : entry ∈ overlay base above) : entry ∈ base ∨ entry ∈ above := by
  induction above generalizing base with
  | nil => exact .inl member
  | cons first rest ih =>
    rcases ih member with early | late
    · rcases mem_of_mem_insert early with old | rfl
      · exact .inl old
      · exact .inr (List.mem_cons_self ..)
    · exact .inr (List.mem_cons_of_mem _ late)

/-- A second write of a key replaces the first one. -/
theorem insert_insert_self (entries : OrderedMap κ α) (key : κ) (old value : α) :
    insert (insert entries key old) key value = insert entries key value := by
  induction entries with
  | nil => simp [insert]
  | cons entry rest ih =>
    by_cases same : entry.1 = key <;> simp [insert, same, ih]

/-- Changing all values commutes with writing. -/
theorem insert_map (entries : OrderedMap κ α) (change : α → β) (key : κ) (value : α) :
    insert (entries.map fun entry => (entry.1, change entry.2)) key (change value) =
      (insert entries key value).map fun entry => (entry.1, change entry.2) := by
  induction entries with
  | nil => rfl
  | cons entry rest ih =>
    by_cases same : entry.1 = key <;> simp [insert, same, ih]

theorem overlay_map (base above : OrderedMap κ α) (change : α → β) :
    overlay (base.map fun entry => (entry.1, change entry.2))
        (above.map fun entry => (entry.1, change entry.2)) =
      (overlay base above).map fun entry => (entry.1, change entry.2) := by
  induction above generalizing base with
  | nil => rfl
  | cons entry rest ih => rw [List.map_cons, overlay_cons, insert_map, ih, overlay_cons]

theorem ofList_map (writes : List (κ × α)) (change : α → β) :
    ofList (writes.map fun entry => (entry.1, change entry.2)) =
      (ofList writes).map fun entry => (entry.1, change entry.2) :=
  overlay_map [] writes change

/-- Mappings with the same keys in order and the same value under each are the same. -/
theorem ext_of_keys {one two : OrderedMap κ α} (same : keys one = keys two)
    (unique : (keys one).Nodup) (values : ∀ key ∈ keys one, get? one key = get? two key) :
    one = two := by
  induction one generalizing two with
  | nil =>
    rw [keys, keys, List.map_nil, eq_comm, List.map_eq_nil_iff] at same
    exact same.symm
  | cons entry rest ih =>
    cases two with
    | nil => cases same
    | cons other others =>
      obtain ⟨key, value⟩ := entry
      obtain ⟨name, held⟩ := other
      obtain ⟨rfl, later⟩ := List.cons.inj same
      obtain ⟨fresh, tail⟩ := List.nodup_cons.mp unique
      have first := values key List.mem_cons_self
      simp only [get?, ↓reduceIte, Option.some.injEq] at first
      subst first
      rw [ih later tail fun probe member => ?_]
      have other : key ≠ probe := by
        rintro rfl
        exact fresh member
      have equal := values probe (List.mem_cons_of_mem _ member)
      simpa [get?, other] using equal

/-- Writing what is there already changes nothing. -/
theorem insert_of_get? {entries : OrderedMap κ α} {key : κ} {value : α}
    (present : get? entries key = some value) : insert entries key value = entries := by
  induction entries with
  | nil => cases present
  | cons entry rest ih =>
    obtain ⟨first, old⟩ := entry
    by_cases same : first = key
    · subst same
      simp only [get?, ↓reduceIte, Option.some.injEq] at present
      simp [insert, present]
    · simp only [get?, same, ↓reduceIte] at present
      simp [insert, same, ih present]

/-- A new key goes to the end. -/
theorem insert_of_not_mem {entries : OrderedMap κ α} {key : κ} (fresh : key ∉ keys entries)
    (value : α) : insert entries key value = entries ++ [(key, value)] := by
  induction entries with
  | nil => rfl
  | cons entry rest ih =>
    obtain ⟨first, later⟩ : ¬entry.1 = key ∧ key ∉ keys rest := by
      simpa [keys, eq_comm, not_or] using fresh
    rw [insert, if_neg first, ih later, List.cons_append]

/-- Writing keys once each leaves them in the order of the writes. -/
theorem ofList_of_nodup {writes : List (κ × α)} (unique : (keys writes).Nodup) :
    ofList writes = writes := by
  have each (base : OrderedMap κ α) (apart : (keys (base ++ writes)).Nodup) :
      overlay base writes = base ++ writes := by
    induction writes generalizing base with
    | nil => simp
    | cons entry rest ih =>
      have moved : base ++ entry :: rest = (base ++ [entry]) ++ rest := by simp
      have fresh : entry.1 ∉ keys base := by
        rw [keys, List.map_append, List.map_cons] at apart
        exact fun member => (List.nodup_append.mp apart).2.2 _ member _ List.mem_cons_self rfl
      rw [overlay_cons, insert_of_not_mem fresh, moved]
      exact ih (List.nodup_cons.mp unique).2 _ (moved ▸ apart)
  exact each [] (by simpa using unique)

/-- A key that is written over keeps its place, so it may be written before another or after it. -/
theorem insert_comm_of_mem {entries : OrderedMap κ α} {key other : κ} (present : key ∈ keys entries)
    (different : key ≠ other) (value above : α) :
    insert (insert entries key value) other above =
      insert (insert entries other above) key value := by
  induction entries with
  | nil => cases present
  | cons entry rest ih =>
    obtain ⟨first, old⟩ := entry
    by_cases own : first = key
    · subst own
      simp [insert, different]
    · have later : key ∈ keys rest := (List.mem_cons.mp present).resolve_left (Ne.symm own)
      by_cases same : first = other
      · subst same
        simp [insert, own]
      · simp [insert, own, same, ih later]

/-- Writes of other keys leave it to be written before them or after. -/
theorem overlay_insert_of_mem {base above : OrderedMap κ α} {key : κ} (present : key ∈ keys base)
    (absent : key ∉ keys above) (value : α) :
    overlay (insert base key value) above = insert (overlay base above) key value := by
  induction above generalizing base with
  | nil => rfl
  | cons entry rest ih =>
    obtain ⟨different, later⟩ := not_or.mp (mt List.mem_cons.mpr absent)
    rw [overlay_cons, overlay_cons, insert_comm_of_mem present different]
    exact ih ((mem_keys_insert ..).mpr (.inr present)) later

/-- One more write above is one more write at the end. -/
theorem overlay_insert (base : OrderedMap κ α) {above : OrderedMap κ α}
    (unique : (keys above).Nodup) (key : κ) (value : α) :
    overlay base (insert above key value) = insert (overlay base above) key value := by
  induction above generalizing base with
  | nil => rfl
  | cons entry rest ih =>
    obtain ⟨first, old⟩ := entry
    obtain ⟨fresh, tail⟩ := List.nodup_cons.mp unique
    by_cases same : first = key
    · subst same
      have written : first ∈ keys (insert base first old) := (mem_keys_insert ..).mpr (.inl rfl)
      rw [insert, if_pos rfl, overlay_cons, overlay_cons, ← overlay_insert_of_mem written fresh,
        insert_insert_self]
    · rw [insert, if_neg same, overlay_cons, overlay_cons, ih _ tail]

/-- Entries that are moved are found as before, where keys are unique. -/
theorem get?_perm {entries others : OrderedMap κ α}
    (unique : (keys entries).Nodup) (perm : entries.Perm others) (key : κ) :
    get? others key = get? entries key := by
  have unique' : (keys others).Nodup := ((perm.map Prod.fst).nodup_iff).mp unique
  cases found : get? entries key with
  | none =>
    rw [get?_eq_none_iff] at found ⊢
    exact mt (perm.map Prod.fst).mem_iff.mpr found
  | some value => exact get?_eq_some_of_mem unique' (perm.mem_iff.mp (mem_of_get?_eq_some found))

theorem get?_reverse_perm {entries others : OrderedMap κ α}
    (unique : (keys entries).Nodup) (perm : entries.Perm others) (key : κ) :
    get? others.reverse key = get? entries.reverse key :=
  get?_perm (by rwa [keys, List.map_reverse, List.nodup_reverse])
    ((entries.reverse_perm.trans perm).trans others.reverse_perm.symm) key

/-- Taking out keys commutes with writing one. -/
theorem filter_insert (entries : OrderedMap κ α) (keep : κ → Bool)
    (key : κ) (value : α) : (insert entries key value).filter (keep ·.1) =
      if keep key then insert (entries.filter (keep ·.1)) key value
      else entries.filter (keep ·.1) := by
  induction entries with
  | nil => cases kept : keep key <;> simp [insert, kept]
  | cons entry rest ih =>
    obtain ⟨present, old⟩ := entry
    by_cases same : present = key
    · subst same
      cases kept : keep present <;> simp [insert, kept]
    · rw [insert, if_neg same]
      cases kept : keep present <;> cases other : keep key <;>
        simp_all [insert]

theorem filter_overlay (base above : OrderedMap κ α) (keep : κ → Bool) :
    (overlay base above).filter (keep ·.1) =
      overlay (base.filter (keep ·.1)) (above.filter (keep ·.1)) := by
  induction above generalizing base with
  | nil => rfl
  | cons entry rest ih =>
    rw [overlay_cons, ih, filter_insert, List.filter_cons]
    cases keep entry.1 <;> rfl

/-! ## Mappings one along the other -/

/-- The entries of two mappings correspond in order: keys of the second one are changed keys of the
first one, with related values. -/
def Along (change : κ → κ) (related : κ → α → β → Prop) (entries : OrderedMap κ α)
    (others : OrderedMap κ β) : Prop :=
  List.Forall₂ (fun entry other => other.1 = change entry.1 ∧ related entry.1 entry.2 other.2)
    entries others

namespace Along
variable {change : κ → κ} {related : κ → α → β → Prop} {entries : OrderedMap κ α}
  {others : OrderedMap κ β}

/-- What stands under a key and under the changed key is related, or nothing stands there. -/
theorem get?_rel (along : Along change related entries others)
    (injective : Function.Injective change) (key : κ) :
    Option.Rel (related key) (entries.get? key) (others.get? (change key)) := by
  induction along with
  | nil => exact .none
  | @cons entry other rest rest' own _ ih =>
    obtain ⟨renamed, held⟩ := own
    by_cases same : entry.1 = key
    · rw [OrderedMap.get?, OrderedMap.get?, if_pos same,
        if_pos (renamed.trans (congrArg change same))]
      exact .some (same ▸ held)
    · have apart : other.1 ≠ change key := fun equal => same (injective (renamed.symm.trans equal))
      rw [OrderedMap.get?, OrderedMap.get?, if_neg same, if_neg apart]
      exact ih

theorem of_get? (along : Along change related entries others) {key : κ} {other : β}
    (injective : Function.Injective change) (found : others.get? (change key) = some other) :
    ∃ value, entries.get? key = some value ∧ related key value other := by
  have rel := along.get?_rel injective key
  rw [found] at rel
  generalize entries.get? key = held at rel
  cases rel with
  | some own => exact ⟨_, rfl, own⟩

theorem get? (along : Along change related entries others) {key : κ} {value : α}
    (injective : Function.Injective change) (found : entries.get? key = some value) :
    ∃ other, others.get? (change key) = some other ∧ related key value other := by
  have rel := along.get?_rel injective key
  rw [found] at rel
  generalize others.get? (change key) = held at rel
  cases rel with
  | some own => exact ⟨_, rfl, own⟩

omit [DecidableEq κ] in
/-- Every key of the second mapping is a changed one. -/
theorem of_mem_keys (along : Along change related entries others) {other : κ}
    (present : other ∈ keys others) : ∃ key, change key = other := by
  induction along with
  | nil => cases present
  | @cons entry _ _ _ own _ ih =>
    obtain rfl | later := List.mem_cons.mp present
    · exact ⟨entry.1, own.1.symm⟩
    · exact ih later

/-- Writing related values under corresponding keys keeps the correspondence. -/
theorem insert (along : Along change related entries others)
    (injective : Function.Injective change) {key : κ} {value : α} {other : β}
    (own : related key value other) :
    Along change related (entries.insert key value) (others.insert (change key) other) := by
  induction along with
  | nil => exact .cons ⟨rfl, own⟩ .nil
  | @cons entry other rest rest' first later ih =>
    rw [OrderedMap.insert, OrderedMap.insert, first.1]
    by_cases same : entry.1 = key
    · rw [if_pos same, if_pos (congrArg change same)]
      exact .cons ⟨rfl, own⟩ later
    · rw [if_neg same, if_neg fun equal => same (injective equal)]
      exact .cons ⟨rfl, first.2⟩ ih

theorem overlay (base : Along change related entries others)
    (injective : Function.Injective change) {above : OrderedMap κ α} {above' : OrderedMap κ β}
    (along : Along change related above above') :
    Along change related (entries.overlay above) (others.overlay above') := by
  induction along generalizing entries others with
  | nil => exact base
  | cons own _ ih =>
    rw [overlay_cons, overlay_cons, own.1]
    exact ih (base.insert injective own.2)

theorem ofList {writes : List (κ × α)} {writes' : List (κ × β)}
    (injective : Function.Injective change) (along : Along change related writes writes') :
    Along change related (OrderedMap.ofList writes) (OrderedMap.ofList writes') :=
  .overlay .nil injective along

end Along

end GraphCache.OrderedMap

import GraphCache.Proofs.OrderedMap
import GraphCache.Settings.Tree

/-! Trees that are laid over one another, told path by path. Keys count as the same in any
spelling, so a path consists of what distinguishes keys. Where no path ends in a mapping of
one tree and in something else of another, the two laid over one another show on each path
what the upper one has there, and what the lower one has where the upper one has nothing. -/
namespace GraphCache

theorem Scalar.key_text_iff (scalar : Scalar) (name : String) :
    scalar.key = .scalar (.text name) ↔ scalar = .text name := by
  constructor
  · intro same
    cases scalar with
    | float value =>
      simp only [Scalar.key] at same
      cases whole : value.toInt? <;> simp [whole] at same
    | moment value =>
      simp only [Scalar.key] at same
      cases instant : value.instant? <;> simp [instant] at same
    | _ => simp_all [Scalar.key]
  · rintro rfl
    rfl

namespace Tree

/-! ## Entries by key -/

/-- The tree under a key, however the key is spelled. -/
def underKey? (entries : Entries) (key : Scalar.Key) : Option Tree :=
  (entries.find? fun entry => entry.1.key = key).map Prod.snd

@[simp] theorem underKey?_nil (key : Scalar.Key) : underKey? [] key = none := rfl

theorem underKey?_cons (entry : Scalar × Tree) (rest : Entries) (key : Scalar.Key) :
    underKey? (entry :: rest) key = if entry.1.key = key then some entry.2 else underKey? rest key := by
  by_cases same : entry.1.key = key <;> simp [underKey?, same]

theorem spelledIn_cons {α : Type} (key : Scalar) (entry : Scalar × α)
    (rest : OrderedMap Scalar α) :
    key.spelledIn (entry :: rest) = if entry.1.key = key.key then entry.1 else key.spelledIn rest := by
  by_cases same : entry.1.key = key.key <;> simp [Scalar.spelledIn, same]

/-- Another spelling is still the same key. -/
theorem key_spelledIn {α : Type} (key : Scalar) (entries : OrderedMap Scalar α) :
    (key.spelledIn entries).key = key.key := by
  induction entries with
  | nil => rfl
  | cons entry rest ih =>
    rw [spelledIn_cons]
    by_cases same : entry.1.key = key.key
    · rw [if_pos same, same]
    · rw [if_neg same, ih]

theorem ne_spelledIn {α : Type} {present key : Scalar} {entries : OrderedMap Scalar α}
    (different : present.key ≠ key.key) : present ≠ key.spelledIn entries := by
  intro equal
  apply different
  rw [equal, key_spelledIn]

theorem get?_spelledIn (entries : Entries) (key : Scalar) :
    OrderedMap.get? entries (key.spelledIn entries) = underKey? entries key.key := by
  induction entries with
  | nil => rfl
  | cons entry rest ih =>
    rw [spelledIn_cons, underKey?_cons]
    by_cases same : entry.1.key = key.key
    · simp [OrderedMap.get?, same]
    · simp [OrderedMap.get?, same, ne_spelledIn same, ih]

/-- Names have one spelling only. -/
theorem get?_text (entries : Entries) (name : String) :
    OrderedMap.get? entries (.text name) = underKey? entries (.scalar (.text name)) := by
  induction entries with
  | nil => rfl
  | cons entry rest ih =>
    simp only [OrderedMap.get?, underKey?_cons, Scalar.key_text_iff, ih]

theorem spelledIn_text (name : String) (entries : Entries) :
    (Scalar.text name).spelledIn entries = .text name := by
  rw [← Scalar.key_text_iff, key_spelledIn]
  rfl

theorem underKey?_insert (entries : Entries) (key : Scalar) (value : Tree) (probe : Scalar.Key) :
    underKey? (OrderedMap.insert entries (key.spelledIn entries) value) probe =
      if key.key = probe then some value else underKey? entries probe := by
  induction entries with
  | nil => simp [OrderedMap.insert, Scalar.spelledIn, underKey?_cons]
  | cons entry rest ih =>
    obtain ⟨present, old⟩ := entry
    rw [spelledIn_cons]
    by_cases same : present.key = key.key
    · rw [if_pos same, OrderedMap.insert, if_pos rfl, underKey?_cons, underKey?_cons, same]
      by_cases found : key.key = probe <;> simp [found]
    · rw [if_neg same, OrderedMap.insert, if_neg (ne_spelledIn same), underKey?_cons,
        underKey?_cons, ih]
      by_cases found : present.key = probe
      · have apart : key.key ≠ probe := fun equal => same (found.trans equal.symm)
        simp [found, apart]
      · simp [found]

theorem underKey?_filter (entries : Entries) (keep : Scalar.Key → Bool) (key : Scalar.Key) :
    underKey? (entries.filter fun entry => keep entry.1.key) key =
      if keep key then underKey? entries key else none := by
  induction entries with
  | nil => simp
  | cons entry rest ih =>
    by_cases same : entry.1.key = key
    · subst same
      cases kept : keep entry.1.key <;> simp [kept, underKey?_cons, ih]
    · cases kept : keep entry.1.key <;> simp [kept, underKey?_cons, same, ih]

theorem underKey?_map (entries : Entries) (change : Scalar.Key → Tree → Tree)
    (key : Scalar.Key) :
    underKey? (entries.map fun entry => (entry.1, change entry.1.key entry.2)) key =
      (underKey? entries key).map (change key) := by
  induction entries with
  | nil => rfl
  | cons entry rest ih =>
    by_cases same : entry.1.key = key
    · subst same
      simp [underKey?_cons]
    · simp [underKey?_cons, same, ih]

theorem entry_of_underKey? {entries : Entries} {key : Scalar.Key} {tree : Tree}
    (found : underKey? entries key = some tree) :
    ∃ entry ∈ entries, entry.1.key = key ∧ entry.2 = tree := by
  obtain ⟨entry, first, rfl⟩ := Option.map_eq_some_iff.mp found
  exact ⟨entry, List.mem_of_find?_eq_some first, by simpa using List.find?_some first, rfl⟩

/-- The keys of entries, in order. -/
def keysOf {α : Type} (entries : OrderedMap Scalar α) : List Scalar.Key := entries.map (·.1.key)

theorem underKey?_eq_none_iff (entries : Entries) (key : Scalar.Key) :
    underKey? entries key = none ↔ key ∉ keysOf entries := by
  simp only [underKey?, Option.map_eq_none_iff, List.find?_eq_none, keysOf, List.mem_map]
  simp

theorem underKey?_of_mem {entries : Entries} (unique : (keysOf entries).Nodup)
    {entry : Scalar × Tree} (member : entry ∈ entries) :
    underKey? entries entry.1.key = some entry.2 := by
  induction entries with
  | nil => cases member
  | cons first rest ih =>
    obtain ⟨fresh, later⟩ := List.nodup_cons.mp unique
    rw [underKey?_cons]
    rcases List.mem_cons.mp member with rfl | inner
    · simp
    · have other : first.1.key ≠ entry.1.key := by
        intro same
        apply fresh
        exact List.mem_map.mpr ⟨entry, inner, same.symm⟩
      rw [if_neg other, ih later inner]

theorem keysOf_filter_nodup {entries : Entries} (unique : (keysOf entries).Nodup)
    (keep : Scalar × Tree → Bool) : (keysOf (entries.filter keep)).Nodup :=
  unique.sublist (List.filter_sublist.map _)

theorem keysOf_insert {α : Type} (entries : OrderedMap Scalar α) (key : Scalar) (value : α) :
    keysOf (OrderedMap.insert entries (key.spelledIn entries) value) =
      if key.key ∈ keysOf entries then keysOf entries else keysOf entries ++ [key.key] := by
  induction entries with
  | nil => rfl
  | cons entry rest ih =>
    obtain ⟨present, old⟩ := entry
    rw [spelledIn_cons]
    by_cases same : present.key = key.key
    · simp [keysOf, OrderedMap.insert, same]
    · have apart : key.key ≠ present.key := Ne.symm same
      simp only [keysOf] at ih
      simp only [keysOf, if_neg same, OrderedMap.insert, if_neg (ne_spelledIn same),
        List.map_cons, ih, List.mem_cons, apart, false_or]
      by_cases known : key.key ∈ rest.map (·.1.key) <;> simp [known]

theorem keysOf_insert_nodup {α : Type} {entries : OrderedMap Scalar α}
    (unique : (keysOf entries).Nodup) (key : Scalar) (value : α) :
    (keysOf (OrderedMap.insert entries (key.spelledIn entries) value)).Nodup := by
  rw [keysOf_insert]
  split
  · exact unique
  · next fresh =>
    rw [List.nodup_append]
    refine ⟨unique, List.nodup_singleton _, ?_⟩
    intro one member other single same
    rw [List.mem_singleton.mp single] at same
    exact fresh (same ▸ member)

theorem keysOf_layEntries_nodup {below : Entries} (unique : (keysOf below).Nodup)
    (above : Entries) : (keysOf (layEntries below above)).Nodup := by
  induction above generalizing below with
  | nil => simpa [layEntries] using unique
  | cons entry rest ih =>
    rw [layEntries]
    exact ih (keysOf_insert_nodup unique _ _)

/-- Under each key of the upper mapping stands what it lays there, and under any other what
stood there before. -/
theorem underKey?_layEntries (below : Entries) {above : Entries}
    (unique : (keysOf above).Nodup) (key : Scalar.Key) :
    underKey? (layEntries below above) key =
      ((underKey? above key).map (laidOn (underKey? below key))).or (underKey? below key) := by
  induction above generalizing below with
  | nil => simp [layEntries]
  | cons entry rest ih =>
    obtain ⟨first, value⟩ := entry
    obtain ⟨fresh, later⟩ := List.nodup_cons.mp unique
    rw [layEntries, ih _ later, underKey?_insert, get?_spelledIn, underKey?_cons]
    by_cases same : first.key = key
    · subst same
      have absent : underKey? rest first.key = none :=
        (underKey?_eq_none_iff rest first.key).mpr fresh
      simp [absent]
    · simp [same]

theorem mem_keysOf_layEntries (below : Entries) {above : Entries}
    (unique : (keysOf above).Nodup) (key : Scalar.Key) :
    key ∈ keysOf (layEntries below above) ↔ key ∈ keysOf below ∨ key ∈ keysOf above := by
  rw [← not_iff_not, not_or, ← underKey?_eq_none_iff, ← underKey?_eq_none_iff,
    ← underKey?_eq_none_iff, underKey?_layEntries below unique key]
  cases underKey? above key <;> simp

/-- Whether all keys are names. -/
def Named (entries : Entries) : Prop := ∀ entry ∈ entries, ∃ name, entry.1 = .text name

theorem named_iff (entries : Entries) :
    Named entries ↔ ∀ key ∈ keysOf entries, ∃ name, key = .scalar (.text name) := by
  simp only [Named, keysOf, List.forall_mem_map, Scalar.key_text_iff]

theorem named_layEntries {below above : Entries} (unique : (keysOf above).Nodup) :
    Named (layEntries below above) ↔ Named below ∧ Named above := by
  simp only [named_iff, mem_keysOf_layEntries below unique, or_imp, forall_and]

theorem laidOn_none (above : Tree) : laidOn none above = above := by
  cases above <;> simp [laidOn]

theorem filter_insert (count : Scalar.Key → Bool) (entries : Entries) {key : Scalar}
    (value : Tree) (other : count key.key = false) :
    (OrderedMap.insert entries (key.spelledIn entries) value).filter
        (fun entry => count entry.1.key) =
      entries.filter fun entry => count entry.1.key := by
  induction entries with
  | nil => simp [OrderedMap.insert, Scalar.spelledIn, other]
  | cons entry rest ih =>
    obtain ⟨present, old⟩ := entry
    rw [spelledIn_cons]
    by_cases same : present.key = key.key
    · simp [OrderedMap.insert, same, other]
    · simp only [if_neg same, OrderedMap.insert, if_neg (ne_spelledIn same), List.filter_cons, ih]

/-- Entries of the upper mapping that the lower one has no keys for come to its end as they
are. -/
theorem filter_layEntries (count : Scalar.Key → Bool) {below above : Entries}
    (unique : (keysOf above).Nodup)
    (apart : ∀ key ∈ keysOf above, count key = true → key ∉ keysOf below) :
    (layEntries below above).filter (fun entry => count entry.1.key) =
      below.filter (fun entry => count entry.1.key) ++
        above.filter fun entry => count entry.1.key := by
  induction above generalizing below with
  | nil => simp [layEntries]
  | cons entry rest ih =>
    obtain ⟨key, value⟩ := entry
    obtain ⟨fresh, later⟩ := List.nodup_cons.mp unique
    rw [layEntries, get?_spelledIn]
    cases counted : count key.key with
    | false =>
      rw [ih later, filter_insert count below _ counted, List.filter_cons_of_neg (by simp [counted])]
      intro probe member counts
      have old := apart probe (List.mem_cons_of_mem _ member) counts
      have other : probe ≠ key.key := by
        rintro rfl
        rw [counted] at counts
        cases counts
      rw [keysOf_insert]
      split <;> simp [old, other]
    | true =>
      have absent := apart key.key List.mem_cons_self counted
      have nothing := (underKey?_eq_none_iff below key.key).mpr absent
      have spelled : key.spelledIn below = key := by
        simp [Scalar.spelledIn, Option.map_eq_none_iff.mp nothing]
      have outside : key ∉ OrderedMap.keys below := by
        intro present
        obtain ⟨held, within, rfl⟩ := List.mem_map.mp present
        exact absent (List.mem_map.mpr ⟨held, within, rfl⟩)
      rw [nothing, laidOn_none, spelled, OrderedMap.insert_of_not_mem outside, ih later,
        List.filter_append, List.append_assoc]
      · simp [counted]
      · intro probe member counts
        have old := apart probe (List.mem_cons_of_mem _ member) counts
        have other : probe ≠ key.key := by
          rintro rfl
          exact fresh member
        simpa [keysOf, other] using old

/-! ## Paths -/

/-- Whether a tree is a mapping. -/
def isMapping (tree : Tree) : Bool :=
  match tree.bare with
  | mapping _ => true
  | _ => false

@[simp] theorem isMapping_mapping (entries : Entries) : (mapping entries).isMapping = true := rfl

@[simp] theorem entries_mapping (entries : Entries) : (mapping entries).entries = entries := rfl

theorem entries_of_not_isMapping {tree : Tree} (other : tree.isMapping = false) :
    tree.entries = [] := by
  cases bare : tree.bare with
  | mapping entries => simp [isMapping, bare] at other
  | _ => simp [Tree.entries, bare]

theorem bare_of_isMapping {tree : Tree} (shape : tree.isMapping = true) :
    tree.bare = mapping tree.entries := by
  unfold isMapping at shape
  split at shape
  · next entries own => simp only [Tree.entries, own]
  · cases shape

/-- The tree at the end of a path. -/
def at? (tree : Tree) : List Scalar.Key → Option Tree
  | [] => some tree
  | key :: rest => (underKey? tree.entries key).bind (at? · rest)

/-- What a path ends in. Of a mapping nothing is told, since paths go on in it. -/
inductive Ending where
  | branch
  | leaf (value : Tree)

def Ending.isBranch : Ending → Bool
  | branch => true
  | leaf _ => false

def ending (tree : Tree) : Ending := if tree.isMapping then .branch else .leaf tree

@[simp] theorem isBranch_ending (tree : Tree) : tree.ending.isBranch = tree.isMapping := by
  unfold ending
  cases tree.isMapping <;> rfl

/-- What a tree shows at the end of a path, if the path ends in it. -/
def endingAt? (tree : Tree) (path : List Scalar.Key) : Option Ending := (tree.at? path).map ending

@[simp] theorem endingAt?_root (tree : Tree) : tree.endingAt? [] = some tree.ending := rfl

theorem endingAt?_cons (tree : Tree) (key : Scalar.Key) (rest : List Scalar.Key) :
    tree.endingAt? (key :: rest) = (underKey? tree.entries key).bind (endingAt? · rest) := by
  simp only [endingAt?, at?, Option.map_bind]
  rfl

/-- In each mapping of a tree every key stands once. -/
def Distinct (tree : Tree) : Prop :=
  ∀ path here, tree.at? path = some here → (keysOf here.entries).Nodup

/-- Two trees do not differ on where there are mappings. -/
def Fits (one two : Tree) : Prop :=
  ∀ path here there, one.endingAt? path = some here → two.endingAt? path = some there →
    here.isBranch = there.isBranch

theorem Distinct.root {tree : Tree} (distinct : Distinct tree) : (keysOf tree.entries).Nodup :=
  distinct [] tree rfl

theorem Distinct.under {tree inner : Tree} {key : Scalar.Key} (distinct : Distinct tree)
    (found : underKey? tree.entries key = some inner) : Distinct inner := by
  intro path here ends
  apply distinct (key :: path)
  simp [at?, found, ends]

theorem distinct_iff (tree : Tree) :
    Distinct tree ↔ (keysOf tree.entries).Nodup ∧
      ∀ key inner, underKey? tree.entries key = some inner → Distinct inner := by
  constructor
  · intro distinct
    exact ⟨distinct.root, fun key inner found => distinct.under found⟩
  · rintro ⟨unique, inside⟩ path here ends
    cases path with
    | nil =>
      cases ends
      exact unique
    | cons key rest =>
      obtain ⟨inner, found, later⟩ := Option.bind_eq_some_iff.mp ends
      exact inside key inner found rest here later

theorem Distinct.of_mem {tree : Tree} {entry : Scalar × Tree} (distinct : Distinct tree)
    (member : entry ∈ tree.entries) : Distinct entry.2 :=
  distinct.under (underKey?_of_mem distinct.root member)

/-- It is enough to look at the entries. -/
theorem distinct_mapping {entries : Entries} (unique : (keysOf entries).Nodup)
    (inside : ∀ entry ∈ entries, Distinct entry.2) : Distinct (mapping entries) := by
  rw [distinct_iff]
  refine ⟨unique, ?_⟩
  intro key inner found
  obtain ⟨entry, member, -, rfl⟩ := entry_of_underKey? found
  exact inside entry member

/-- Setting what is under a name. -/
theorem Distinct.insert {entries : Entries} (distinct : Distinct (mapping entries)) {value : Tree}
    (own : Distinct value) (name : String) :
    Distinct (mapping (OrderedMap.insert entries (.text name) value)) := by
  rw [distinct_iff, entries_mapping, ← spelledIn_text name entries]
  refine ⟨keysOf_insert_nodup distinct.root _ _, ?_⟩
  intro key inner found
  rw [underKey?_insert] at found
  split at found
  · cases found
    exact own
  · exact distinct.under found

/-- Names are distinct as keys if they are distinct. -/
theorem distinct_names {entries : List (String × Tree)} (unique : (entries.map Prod.fst).Nodup)
    (inside : ∀ entry ∈ entries, Distinct entry.2) :
    Distinct (mapping (entries.map fun entry => (.text entry.1, entry.2))) := by
  apply distinct_mapping
  · have names : keysOf (entries.map fun entry => (Scalar.text entry.1, entry.2)) =
        (entries.map Prod.fst).map fun name => Scalar.Key.scalar (.text name) := by
      simp [keysOf, Scalar.key, Function.comp_def]
    rw [names]
    exact unique.map fun _ _ same => by simpa using same
  · intro entry member
    obtain ⟨own, held, rfl⟩ := List.mem_map.mp member
    exact inside own held

theorem distinct_of_not_isMapping {tree : Tree} (other : tree.isMapping = false) :
    Distinct tree := by
  rw [distinct_iff, entries_of_not_isMapping other]
  exact ⟨List.nodup_nil, fun _ _ => nofun⟩

theorem Fits.symm {one two : Tree} (fits : Fits one two) : Fits two one :=
  fun path here there first second => (fits path there here second first).symm

theorem Fits.root {one two : Tree} (fits : Fits one two) : one.isMapping = two.isMapping := by
  simpa using fits [] _ _ (endingAt?_root one) (endingAt?_root two)

theorem Fits.under {one two low high : Tree} {key : Scalar.Key} (fits : Fits one two)
    (first : underKey? one.entries key = some low)
    (second : underKey? two.entries key = some high) : Fits low high := by
  intro path here there ends meets
  apply fits (key :: path)
  · rw [endingAt?_cons, first]
    exact ends
  · rw [endingAt?_cons, second]
    exact meets

/-- Mappings fit one another where the entries that share a key do. -/
theorem fits_mapping {ones twos : Entries}
    (each : ∀ one ∈ ones, ∀ two ∈ twos, one.1.key = two.1.key → Fits one.2 two.2) :
    Fits (mapping ones) (mapping twos) := by
  intro path here there first second
  cases path with
  | nil =>
    cases first
    cases second
    rfl
  | cons key rest =>
    rw [endingAt?_cons, entries_mapping] at first second
    obtain ⟨one, found, ends⟩ := Option.bind_eq_some_iff.mp first
    obtain ⟨two, met, meets⟩ := Option.bind_eq_some_iff.mp second
    obtain ⟨upper, listed, own, rfl⟩ := entry_of_underKey? found
    obtain ⟨lower, held, other, rfl⟩ := entry_of_underKey? met
    exact each upper listed lower held (own.trans other.symm) rest here there ends meets

theorem fits_of_not_isMapping {one two : Tree} (first : one.isMapping = false)
    (second : two.isMapping = false) : Fits one two := by
  intro path here there ends meets
  cases path with
  | nil =>
    cases ends
    cases meets
    rw [isBranch_ending, isBranch_ending, first, second]
  | cons key rest => simp [endingAt?_cons, entries_of_not_isMapping first] at ends

/-! ## One tree over another -/

/-- Only mappings are joined; anything else takes the place of what lies below it. -/
theorem laidOn_some (below above : Tree) :
    laidOn (some below) above =
      if below.isMapping && above.isMapping then
        mapping (layEntries below.entries above.entries)
      else above := by
  cases above with
  | mapping above =>
    have own : (mapping above).bare = mapping above := rfl
    cases shape : below.bare <;> simp [laidOn, isMapping, entries, shape, own]
  | cyclic shown inside =>
    have own : (cyclic shown inside).bare = inside := rfl
    cases inside <;> cases shape : below.bare <;> simp [laidOn, isMapping, entries, shape, own]
  | _ => simp [laidOn, isMapping, bare]

theorem laidOn_mapping {below above : Tree} (low : below.isMapping = true)
    (high : above.isMapping = true) :
    laidOn (some below) above = mapping (layEntries below.entries above.entries) := by
  simp [laidOn_some, low, high]

theorem laidOn_of_not_isMapping (below : Option Tree) {above : Tree}
    (other : above.isMapping = false) : laidOn below above = above := by
  cases below with
  | none => exact laidOn_none above
  | some below => simp [laidOn_some, other]

/-- What the two trees show on a path together: the upper one goes first. -/
theorem endingAt?_laidOn {below above : Tree} (distinct : Distinct above) (fits : Fits below above)
    (path : List Scalar.Key) :
    (laidOn (some below) above).endingAt? path = (above.endingAt? path).or (below.endingAt? path) := by
  induction path generalizing below above with
  | nil =>
    cases high : above.isMapping with
    | false => rw [laidOn_of_not_isMapping _ high, endingAt?_root, Option.some_or]
    | true =>
      rw [laidOn_mapping (fits.root.trans high) high]
      simp [ending, high]
  | cons key rest ih =>
    cases high : above.isMapping with
    | false =>
      have low : below.isMapping = false := fits.root.trans high
      rw [laidOn_of_not_isMapping _ high]
      simp [endingAt?_cons, entries_of_not_isMapping low, entries_of_not_isMapping high]
    | true =>
      rw [laidOn_mapping (fits.root.trans high) high, endingAt?_cons, endingAt?_cons, endingAt?_cons,
        entries_mapping, underKey?_layEntries _ distinct.root]
      cases second : underKey? above.entries key with
      | none => simp
      | some upper =>
        cases first : underKey? below.entries key with
        | none => simp [laidOn_none]
        | some lower => simpa using ih (distinct.under second) (fits.under first second)

theorem Distinct.laidOn {below above : Tree} (low : Distinct below) (high : Distinct above) :
    Distinct (laidOn (some below) above) := by
  intro path
  induction path generalizing below above with
  | nil =>
    intro here ends
    cases ends
    rw [laidOn_some]
    split
    · exact keysOf_layEntries_nodup low.root _
    · exact high.root
  | cons key rest ih =>
    intro here ends
    rw [laidOn_some] at ends
    split at ends
    · obtain ⟨inner, found, later⟩ := Option.bind_eq_some_iff.mp ends
      rw [entries_mapping, underKey?_layEntries _ high.root] at found
      cases second : underKey? above.entries key with
      | none =>
        rw [second] at found
        exact low.under (by simpa using found) rest here later
      | some upper =>
        cases first : underKey? below.entries key with
        | none =>
          simp only [second, first, Option.map_some, laidOn_none, Option.some_or,
            Option.some.injEq] at found
          subst found
          exact high.under second rest here later
        | some lower =>
          simp only [second, first, Option.map_some, Option.some_or, Option.some.injEq] at found
          subst found
          exact ih (low.under first) (high.under second) here later
    · exact high (key :: rest) here ends

/-! ## Several layers -/

/-- A tree in which every path ends as it does in the first of several layers that it leads
into. -/
structure Resolves (tree : Tree) (layers : List Tree) : Prop where
  isMapping : tree.isMapping = true
  distinct : Distinct tree
  endings : ∀ path, tree.endingAt? path = layers.findSome? (·.endingAt? path)

theorem resolves_single {tree : Tree} (shape : tree.isMapping = true) (distinct : Distinct tree) :
    tree.Resolves [tree] where
  isMapping := shape
  distinct := distinct
  endings path := by cases shown : tree.endingAt? path <;> simp [shown]

/-- Where layers fit one another, so do the trees in which they are resolved. -/
theorem Resolves.fits {one two : Tree} {ones twos : List Tree} (first : one.Resolves ones)
    (second : two.Resolves twos) (fits : ∀ layer ∈ ones, ∀ other ∈ twos, Fits layer other) :
    Fits one two := by
  intro path here there ends meets
  rw [first.endings] at ends
  rw [second.endings] at meets
  obtain ⟨layer, member, shows⟩ := List.exists_of_findSome?_eq_some ends
  obtain ⟨other, within, tells⟩ := List.exists_of_findSome?_eq_some meets
  exact fits layer member other within path here there shows tells

/-- Laying one tree over another puts the layers of the upper one first. -/
theorem Resolves.laidOn {low high : Tree} {lows highs : List Tree} (below : low.Resolves lows)
    (above : high.Resolves highs) (fits : Fits low high) :
    (laidOn (some low) high).Resolves (highs ++ lows) where
  isMapping := by rw [laidOn_mapping below.isMapping above.isMapping, isMapping_mapping]
  distinct := below.distinct.laidOn above.distinct
  endings path := by
    rw [endingAt?_laidOn above.distinct fits, above.endings, below.endings, List.findSome?_append]

end Tree
end GraphCache

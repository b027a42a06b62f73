import GraphCache.Proofs.Completion
import GraphCache.Proofs.PrintedTexts
import GraphCache.Proofs.ShortestDecimal

/-! Values in the form of key filters. A printed value is closed, so that it can be told from what
follows it, and it shows the value: two values are printed alike exactly if they are equal but
for the order of their fields. -/
namespace GraphCache
namespace Json

/-- A value with one field of a name in each object and all numbers in their only form. -/
inductive Tidy : Json → Prop where
  | null : Tidy .null
  | bool (value : Bool) : Tidy (.bool value)
  | int (value : Int) : Tidy (.int value)
  | float {value : Binary64} (normal : value.Normal) : Tidy (.float value)
  | string (value : String) : Tidy (.string value)
  | array {items : List Json} (each : ∀ item ∈ items, Tidy item) : Tidy (.array items)
  | object {fields : OrderedMap String Json} (unique : (OrderedMap.keys fields).Nodup)
      (each : ∀ field ∈ fields, Tidy field.2) : Tidy (.object fields)

/-! ## Texts in a row -/

theorem linked_intercalate {texts : List (List Char)} (all : ∀ text ∈ texts, Linked text) :
    Linked ([','].intercalate texts) := by
  induction texts with
  | nil => exact fun loose depth _ => rfl
  | cons text rest ih =>
    obtain ⟨own, others⟩ := List.forall_mem_cons.mp all
    cases rest with
    | nil => simpa [List.intercalate] using own
    | cons next more =>
      rw [List.intercalate_cons_cons]
      exact (own.append (linked_separator (.inl rfl))).append (ih others)

private theorem intercalate_cons (text : List Char) (rest : List (List Char)) :
    [','].intercalate (text :: rest) = text ++ rest.flatMap (',' :: ·) := by
  induction rest generalizing text with
  | nil => simp [List.intercalate]
  | cons next more ih =>
    rw [List.intercalate_cons_cons, ih, List.flatMap_cons]
    simp

section Row
variable {α : Type} {text : α → List Char} {relation : α → α → Prop}

/-- The texts of two items tell where they end and, by that, that the items are related. -/
def Told (text : α → List Char) (relation : α → α → Prop) (item other : α) : Prop :=
  ∀ rest rest', Ends rest → Ends rest' → text item ++ rest = text other ++ rest' →
    relation item other ∧ rest = rest'

private theorem ends_row (texts : List (List Char)) : Ends (texts.flatMap (',' :: ·)) := by
  cases texts with
  | nil => exact ends_nil
  | cons text rest => exact ends_cons _ (.inl rfl)

private theorem row_told {items others : List α}
    (told : ∀ item ∈ items, ∀ other ∈ others, Told text relation item other)
    (same : (items.map text).flatMap (',' :: ·) = (others.map text).flatMap (',' :: ·)) :
    List.Forall₂ relation items others := by
  induction items generalizing others with
  | nil =>
    cases others with
    | nil => exact .nil
    | cons other rest => cases same
  | cons item rest ih =>
    cases others with
    | nil => cases same
    | cons other more =>
      obtain ⟨first, later⟩ := told item List.mem_cons_self other List.mem_cons_self _ _
        (ends_row _) (ends_row _) (List.cons.inj same).2
      exact .cons first (ih (fun item inside other member => told item
        (List.mem_cons_of_mem _ inside) other (List.mem_cons_of_mem _ member)) later)

/-- A row of texts between commas tells the items. -/
theorem intercalate_told {items others : List α}
    (told : ∀ item ∈ items, ∀ other ∈ others, Told text relation item other)
    (some : ∀ item, text item ≠ [])
    (same : [','].intercalate (items.map text) = [','].intercalate (others.map text)) :
    List.Forall₂ relation items others := by
  cases items with
  | nil =>
    cases others with
    | nil => exact .nil
    | cons other rest =>
      rw [List.map_cons, intercalate_cons] at same
      exact absurd (List.append_eq_nil_iff.mp same.symm).1 (some other)
  | cons item rest =>
    cases others with
    | nil =>
      rw [List.map_cons, intercalate_cons] at same
      exact absurd (List.append_eq_nil_iff.mp same).1 (some item)
    | cons other more =>
      rw [List.map_cons, List.map_cons, intercalate_cons, intercalate_cons] at same
      obtain ⟨first, later⟩ := told item List.mem_cons_self other List.mem_cons_self _ _
        (ends_row _) (ends_row _) same
      exact .cons first (row_told (fun item inside other member => told item
        (List.mem_cons_of_mem _ inside) other (List.mem_cons_of_mem _ member)) later)

end Row

/-! ## Fields -/

/-- What is printed for a field, given the text of its value. -/
def entryText (entry : String × String) : List Char :=
  (printText true entry.1).toList ++ ':' :: entry.2.toList

theorem linked_entryText {entry : String × String} (closed : Closed entry.2.toList) :
    Linked (entryText entry) := by
  have value : Linked ([':'] ++ entry.2.toList) :=
    (linked_separator (.inr rfl)).append closed.linked
  exact (closed_printText true entry.1).linked.append value

theorem entryText_ne_nil (entry : String × String) : entryText entry ≠ [] := by
  simp [entryText]

/-- Fields with closed values are told by their texts. -/
theorem told_entryText {entry other : String × String} (one : Closed entry.2.toList)
    (two : Closed other.2.toList) : Told entryText Eq entry other := by
  intro rest rest' ends ends' same
  simp only [entryText, List.append_assoc, List.cons_append] at same
  obtain ⟨names, later⟩ := (closed_printText true entry.1).split (closed_printText true other.1)
    (ends_cons _ (.inr (.inl rfl))) (ends_cons _ (.inr (.inl rfl))) same
  obtain ⟨values, left⟩ := one.split two ends ends' (List.cons.inj later).2
  have name : entry.1 = other.1 := printText_inj.mp (String.toList_inj.mp names)
  exact ⟨Prod.ext name (String.toList_inj.mp values), left⟩

private theorem name_le_trans (one two three : String × String) :
    decide (one.1 ≤ two.1) = true → decide (two.1 ≤ three.1) = true →
      decide (one.1 ≤ three.1) = true := by
  simp only [decide_eq_true_eq]
  exact String.le_trans

private theorem name_le_total (one two : String × String) :
    (decide (one.1 ≤ two.1) || decide (two.1 ≤ one.1)) = true := by
  simp only [Bool.or_eq_true, decide_eq_true_eq]
  exact String.le_total one.1 two.1

/-- Sorting forgets the order of fields, and nothing else. -/
theorem sortByName_eq_iff {fields others : List (String × String)}
    (unique : (fields.map Prod.fst).Nodup) :
    sortByName fields = sortByName others ↔ fields.Perm others := by
  have sorted (fields : List (String × String)) : (sortByName fields).Perm fields :=
    List.mergeSort_perm fields _
  constructor
  · intro same
    exact (sorted fields).symm.trans (same ▸ sorted others)
  · intro perm
    refine List.Perm.eq_of_pairwise ?_
      (List.pairwise_mergeSort name_le_trans name_le_total fields)
      (List.pairwise_mergeSort name_le_trans name_le_total others)
      ((sorted fields).trans (perm.trans (sorted others).symm))
    intro one two first second below above
    -- Two fields that are each before the other have one name, and so are one field.
    have inside : one ∈ fields := (sorted fields).mem_iff.mp first
    have member : two ∈ fields := perm.mem_iff.mpr ((sorted others).mem_iff.mp second)
    have name : one.1 = two.1 :=
      String.le_antisymm (of_decide_eq_true below) (of_decide_eq_true above)
    exact List.inj_on_of_nodup_map unique inside member name

/-! ## Printed values are closed -/

theorem print_array (items : List Json) :
    (print keyStyle (.array items)).toList =
      '[' :: ([','].intercalate (items.map fun item => (print keyStyle item).toList) ++ [']']) := by
  have each : printItems keyStyle items = items.map (print keyStyle) := by
    induction items with
    | nil => rfl
    | cons item rest ih => rw [printItems, ih, List.map_cons]
  rw [print, each, String.toList_append, String.toList_append, String.toList_intercalate,
    List.map_map]
  rfl

/-- The texts of the fields of an object. -/
def printedFields (fields : OrderedMap String Json) : List (String × String) :=
  fields.map fun field => (field.1, print keyStyle field.2)

theorem print_object (fields : OrderedMap String Json) :
    (print keyStyle (.object fields)).toList =
      '\x7b' :: ([','].intercalate ((sortByName (printedFields fields)).map entryText) ++ ['\x7d']) := by
  have each : printFields keyStyle fields = printedFields fields := by
    induction fields with
    | nil => rfl
    | cons field rest ih =>
      obtain ⟨name, value⟩ := field
      rw [printFields, ih]
      rfl
  have texts : String.toList ∘ (fun entry : String × String =>
      printText keyStyle.ascii entry.1 ++ keyStyle.nameSeparator ++ entry.2) = entryText := by
    funext entry
    simp [entryText, keyStyle]
  rw [print, each, String.toList_append, String.toList_append, String.toList_intercalate,
    List.map_map, texts]
  rfl

theorem keys_printedFields (fields : OrderedMap String Json) :
    (printedFields fields).map Prod.fst = OrderedMap.keys fields := by
  simp [printedFields, OrderedMap.keys]

theorem mem_printedFields {fields : OrderedMap String Json} {entry : String × String} :
    entry ∈ printedFields fields ↔
      ∃ field ∈ fields, field.1 = entry.1 ∧ print keyStyle field.2 = entry.2 := by
  simp [printedFields, Prod.ext_iff]

/-- The characters of a whole number. -/
private theorem mem_print_int {value : Int} {c : Char}
    (member : c ∈ (print keyStyle (.int value)).toList) : c.isDigit = true ∨ c = '-' := by
  rw [print, Int.toString_eq_repr, Int.repr_eq_if] at member
  split at member
  · rw [Nat.toList_repr] at member
    exact .inl (Nat.isDigit_of_mem_toDigits (by decide) le_rfl member)
  · rw [String.toList_append, Nat.toList_repr] at member
    obtain sign | digit := List.mem_append.mp member
    · exact .inr (List.mem_singleton.mp sign)
    · exact .inl (Nat.isDigit_of_mem_toDigits (by decide) le_rfl digit)

private theorem closed_of_mem_sortByName {fields : OrderedMap String Json}
    (closed : ∀ field ∈ fields, Closed (print keyStyle field.2).toList) {entry : String × String}
    (member : entry ∈ sortByName (printedFields fields)) : Closed entry.2.toList := by
  obtain ⟨field, own, _, printed⟩ :=
    mem_printedFields.mp ((List.mergeSort_perm _ _).mem_iff.mp member)
  exact printed ▸ closed field own

private theorem linked_fields {fields : OrderedMap String Json}
    (closed : ∀ field ∈ fields, Closed (print keyStyle field.2).toList) :
    Linked ([','].intercalate ((sortByName (printedFields fields)).map entryText)) := by
  refine linked_intercalate fun text member => ?_
  obtain ⟨entry, inside, rfl⟩ := List.mem_map.mp member
  exact linked_entryText (closed_of_mem_sortByName closed inside)

/-- A printed value is closed. -/
theorem Tidy.closed_print {value : Json} (tidy : value.Tidy) :
    Closed (print keyStyle value).toList := by
  induction tidy with
  | null =>
    have plain : ∀ c ∈ ['n', 'u', 'l', 'l'], Plain c := by simp [Plain]
    exact closed_of_plain plain
  | bool value =>
    cases value with
    | false =>
      have plain : ∀ c ∈ ['f', 'a', 'l', 's', 'e'], Plain c := by simp [Plain]
      exact closed_of_plain plain
    | true =>
      have plain : ∀ c ∈ ['t', 'r', 'u', 'e'], Plain c := by simp [Plain]
      exact closed_of_plain plain
  | int value =>
    refine closed_of_plain fun c member => ?_
    obtain digit | rfl := mem_print_int member
    · exact plain_of_isDigit digit
    · decide
  | float _ => exact closed_of_plain fun c member => Binary64.plain_of_mem_render member
  | string value => exact closed_printText true value
  | array _ ih =>
    rw [print_array]
    refine (linked_intercalate fun text member => ?_).bracketed (.inl rfl) (.inl rfl)
    obtain ⟨item, inside, rfl⟩ := List.mem_map.mp member
    exact (ih item inside).linked
  | object _ _ ih =>
    rw [print_object]
    exact (linked_fields ih).bracketed (.inr rfl) (.inr rfl)

/-- The text of an object is a brace, a text with separators only, and a brace. -/
theorem Tidy.print_braced {fields : OrderedMap String Json} (tidy : (Json.object fields).Tidy) :
    ∃ body, Linked body ∧
      (print keyStyle (.object fields)).toList = '\x7b' :: (body ++ ['\x7d']) := by
  cases tidy with
  | object unique each =>
    exact ⟨_, linked_fields fun field member => (each field member).closed_print, print_object fields⟩

/-! ## What a text shows -/

/-- The kinds of values. -/
inductive Kind where
  | null
  | bool
  | int
  | float
  | string
  | array
  | object

def kind : Json → Kind
  | null => .null
  | bool _ => .bool
  | int _ => .int
  | float _ => .float
  | string _ => .string
  | array _ => .array
  | object _ => .object

/-- The kind of a value by its text. -/
def shownKind? : List Char → Option Kind
  | [] => none
  | 'n' :: _ => some .null
  | 't' :: _ => some .bool
  | 'f' :: _ => some .bool
  | '"' :: _ => some .string
  | '[' :: _ => some .array
  | '\x7b' :: _ => some .object
  | text => if text.all fun c => c.isDigit || c == '-' then some .int else some .float

/-- Only the texts of numbers begin with other characters. -/
private theorem shownKind?_number {c : Char} {rest : List Char}
    (number : c ∉ ['n', 't', 'f', '"', '[', '\x7b']) :
    shownKind? (c :: rest) =
      if (c :: rest).all fun c => c.isDigit || c == '-' then some .int else some .float := by
  simp only [List.mem_cons, List.not_mem_nil, or_false, not_or] at number
  obtain ⟨null, yes, no, text, list, object⟩ := number
  unfold shownKind?
  split <;> simp_all

private theorem shownKind?_int (value : Int) :
    shownKind? (print keyStyle (.int value)).toList = some (Json.int value).kind := by
  have all : ∀ c ∈ (print keyStyle (.int value)).toList, (c.isDigit || c == '-') = true := by
    intro c member
    obtain digit | rfl := mem_print_int member
    · rw [digit, Bool.true_or]
    · rfl
  have some : (print keyStyle (.int value)).toList ≠ [] := by
    rw [print, Int.toString_eq_repr, Int.repr_eq_if]
    split
    · rw [Nat.toList_repr]
      exact List.ne_nil_of_length_pos Nat.length_toDigits_pos
    · simp [String.toList_append]
  obtain ⟨c, rest, text⟩ := List.exists_cons_of_ne_nil some
  rw [text] at all ⊢
  rw [shownKind?_number, List.all_eq_true.mpr all]
  · rfl
  · intro letter
    have digit := all c List.mem_cons_self
    simp only [List.mem_cons, List.not_mem_nil, or_false] at letter
    rcases letter with rfl | rfl | rfl | rfl | rfl | rfl <;> cases digit

private theorem shownKind?_float (value : Binary64) :
    shownKind? (print keyStyle (.float value)).toList = some (Json.float value).kind := by
  obtain ⟨c, rest, text, big⟩ := value.render_head
  obtain ⟨mark, member, digit, minus⟩ := value.render_marked
  have plain : Plain c := Binary64.plain_of_mem_render (text ▸ List.mem_cons_self)
  rw [print, text, shownKind?_number, if_neg]
  · rfl
  · intro all
    have own := List.all_eq_true.mp all mark (text ▸ member)
    simp [digit, minus] at own
  · intro letter
    simp only [List.mem_cons, List.not_mem_nil, or_false] at letter
    rcases letter with rfl | rfl | rfl | rfl | rfl | rfl
    · cases big
    · cases big
    · cases big
    · exact absurd plain (by decide)
    · exact absurd plain (by decide)
    · exact absurd plain (by decide)

theorem shownKind?_print (value : Json) :
    shownKind? (print keyStyle value).toList = some value.kind := by
  cases value with
  | null => rfl
  | bool value => cases value <;> rfl
  | int value => exact shownKind?_int value
  | float value => exact shownKind?_float value
  | string value =>
    rw [print, printText, String.toList_ofList]
    rfl
  | array items =>
    rw [print_array]
    rfl
  | object fields =>
    rw [print_object]
    rfl

theorem print_ne_nil (value : Json) : (print keyStyle value).toList ≠ [] := by
  intro empty
  have shown := shownKind?_print value
  rw [empty] at shown
  cases shown

/-- Values that are printed alike are of one kind. -/
theorem kind_of_print {value other : Json} (same : print keyStyle value = print keyStyle other) :
    value.kind = other.kind := by
  apply Option.some.inj
  rw [← shownKind?_print, same, shownKind?_print]

/-- Arrays that are printed alike have items that are printed alike. -/
private theorem items_of_print {items others : List Json} {relation : Json → Json → Prop}
    (one : ∀ item ∈ items, Tidy item) (two : ∀ item ∈ others, Tidy item)
    (same : print keyStyle (.array items) = print keyStyle (.array others))
    (each : ∀ item ∈ items, ∀ other ∈ others,
      print keyStyle item = print keyStyle other → relation item other) :
    List.Forall₂ relation items others := by
  have text := congrArg String.toList same
  rw [print_array, print_array] at text
  refine intercalate_told ?_ print_ne_nil (List.append_cancel_right (List.cons.inj text).2)
  intro item inside other member rest rest' ends ends' row
  obtain ⟨alike, left⟩ :=
    (one item inside).closed_print.split (two other member).closed_print ends ends' row
  exact ⟨each item inside other member (String.toList_inj.mp alike), left⟩

/-- Objects that are printed alike have the same printed fields. -/
private theorem perm_of_print {fields others : OrderedMap String Json}
    (one : ∀ field ∈ fields, Tidy field.2) (two : ∀ field ∈ others, Tidy field.2)
    (unique : (OrderedMap.keys fields).Nodup)
    (same : print keyStyle (.object fields) = print keyStyle (.object others)) :
    (printedFields fields).Perm (printedFields others) := by
  have text := congrArg String.toList same
  rw [print_object, print_object] at text
  have rows : List.Forall₂ Eq _ _ := intercalate_told
    (fun entry inside other member => told_entryText
      (closed_of_mem_sortByName (fun field own => (one field own).closed_print) inside)
      (closed_of_mem_sortByName (fun field own => (two field own).closed_print) member))
    entryText_ne_nil (List.append_cancel_right (List.cons.inj text).2)
  exact (sortByName_eq_iff (keys_printedFields fields ▸ unique)).mp (List.forall₂_eq_eq_eq ▸ rows)

/-- Objects are the same if the same is printed for their fields. -/
private theorem same_of_perm {fields others : OrderedMap String Json}
    (perm : (printedFields fields).Perm (printedFields others))
    (unique : (OrderedMap.keys others).Nodup)
    (each : ∀ field ∈ fields, ∀ other ∈ others,
      print keyStyle field.2 = print keyStyle other.2 → Same field.2 other.2) :
    Same (.object fields) (.object others) := by
  have names : (OrderedMap.keys fields).Perm (OrderedMap.keys others) := by
    rw [← keys_printedFields, ← keys_printedFields]
    exact perm.map Prod.fst
  refine .object (fun key => ?_) fun key left right found found' => ?_
  · rw [Bool.eq_iff_iff, OrderedMap.get?_isSome_iff, OrderedMap.get?_isSome_iff]
    exact names.mem_iff
  · have inside := OrderedMap.mem_of_get?_eq_some found
    have written : (key, print keyStyle left) ∈ printedFields fields :=
      mem_printedFields.mpr ⟨_, inside, rfl, rfl⟩
    obtain ⟨other, member, name, printed⟩ := mem_printedFields.mp (perm.mem_iff.mp written)
    have own : other.2 = right := by
      have found := OrderedMap.get?_eq_some_of_mem unique member
      rw [name, found'] at found
      exact (Option.some.inj found).symm
    exact each _ inside _ (OrderedMap.mem_of_get?_eq_some found') (own ▸ printed.symm)

/-- A printed value shows the value. -/
theorem Tidy.same_of_print {value other : Json} (one : value.Tidy) (two : other.Tidy)
    (same : print keyStyle value = print keyStyle other) : Same value other := by
  have kind := kind_of_print same
  induction one generalizing other with
  | null =>
    cases two with
    | null => exact .refl _
    | _ => cases kind
  | bool value =>
    cases two with
    | bool other =>
      cases value <;> cases other
      · exact .refl _
      · rw [print, print] at same
        exact absurd same (by decide)
      · rw [print, print] at same
        exact absurd same (by decide)
      · exact .refl _
    | _ => cases kind
  | int value =>
    cases two with
    | int other =>
      rw [print, print, Int.toString_eq_repr, Int.toString_eq_repr] at same
      rw [Int.repr_injective same]
      exact .refl _
    | _ => cases kind
  | float normal =>
    cases two with
    | float normal' =>
      rw [print, print] at same
      rw [Binary64.render_inj normal normal' same]
      exact .refl _
    | _ => cases kind
  | string value =>
    cases two with
    | string other =>
      rw [print, print] at same
      rw [printText_inj.mp same]
      exact .refl _
    | _ => cases kind
  | array each ih =>
    cases two with
    | array each' =>
      exact .array (items_of_print each each' same fun item inside other member alike =>
        ih item inside (each' other member) alike (kind_of_print alike))
    | _ => cases kind
  | object unique each ih =>
    cases two with
    | object unique' each' =>
      have perm := perm_of_print each each' unique same
      exact same_of_perm perm unique' fun field inside other member alike =>
        ih field inside (each' other member) alike (kind_of_print alike)
    | _ => cases kind

/-- The same is printed for the fields of the same objects. -/
private theorem perm_of_same {fields others : OrderedMap String Json}
    (unique : (OrderedMap.keys fields).Nodup) (unique' : (OrderedMap.keys others).Nodup)
    (same : Same (.object fields) (.object others))
    (each : ∀ field ∈ fields, ∀ other ∈ others, Same field.2 other.2 →
      print keyStyle field.2 = print keyStyle other.2) :
    (printedFields fields).Perm (printedFields others) := by
  obtain ⟨keys, values⟩ := same_object.mp same
  have nodup {fields : OrderedMap String Json} (unique : (OrderedMap.keys fields).Nodup) :
      (printedFields fields).Nodup := by
    rw [← keys_printedFields] at unique
    exact unique.of_map
  refine (List.perm_ext_iff_of_nodup (nodup unique) (nodup unique')).mpr fun entry => ?_
  constructor
  · intro member
    obtain ⟨field, inside, name, printed⟩ := mem_printedFields.mp member
    have found := OrderedMap.get?_eq_some_of_mem unique inside
    obtain ⟨other, found'⟩ := Option.isSome_iff_exists.mp
      ((keys field.1).symm.trans (Option.isSome_of_eq_some found))
    have member' := OrderedMap.mem_of_get?_eq_some found'
    have alike := each field inside _ member' (values _ _ _ found found')
    exact mem_printedFields.mpr ⟨_, member', name, alike.symm.trans printed⟩
  · intro member
    obtain ⟨other, inside, name, printed⟩ := mem_printedFields.mp member
    have found := OrderedMap.get?_eq_some_of_mem unique' inside
    obtain ⟨field, found'⟩ := Option.isSome_iff_exists.mp
      ((keys other.1).trans (Option.isSome_of_eq_some found))
    have member' := OrderedMap.mem_of_get?_eq_some found'
    have alike := each _ member' other inside (values _ _ _ found' found)
    exact mem_printedFields.mpr ⟨_, member', name, alike.trans printed⟩

private theorem map_of_same {items others : List Json} (same : List.Forall₂ Same items others)
    (each : ∀ item ∈ items, ∀ other ∈ others, Same item other →
      print keyStyle item = print keyStyle other) :
    (items.map fun item => (print keyStyle item).toList) =
      others.map fun item => (print keyStyle item).toList := by
  induction same with
  | nil => rfl
  | cons alike _ ih =>
    rw [List.map_cons, List.map_cons,
      each _ List.mem_cons_self _ List.mem_cons_self alike,
      ih fun item inside other member => each item (List.mem_cons_of_mem _ inside) other
        (List.mem_cons_of_mem _ member)]

/-- Values that are the same but for the order of fields are printed alike. -/
theorem Tidy.print_of_same {value other : Json} (one : value.Tidy) (two : other.Tidy)
    (same : Same value other) : print keyStyle value = print keyStyle other := by
  induction one generalizing other with
  | array each ih =>
    cases two with
    | array each' =>
      rename_i items others
      have texts := map_of_same (same_array.mp same) fun item inside other member alike =>
        ih item inside (each' other member) alike
      apply String.toList_inj.mp
      rw [print_array, print_array, texts]
    | _ => cases same
  | object unique each ih =>
    cases two with
    | object unique' each' =>
      have perm := perm_of_same unique unique' same fun field inside other member alike =>
        ih field inside (each' other member) alike
      apply String.toList_inj.mp
      rw [print_object, print_object,
        (sortByName_eq_iff (keys_printedFields _ ▸ unique)).mpr perm]
    | _ => cases same
  | _ =>
    cases same
    rfl

/-- A key filter shows its value, up to the order of fields. -/
theorem Tidy.print_eq_iff {value other : Json} (one : value.Tidy) (two : other.Tidy) :
    print keyStyle value = print keyStyle other ↔ Same value other :=
  ⟨one.same_of_print two, one.print_of_same two⟩

end Json
end GraphCache

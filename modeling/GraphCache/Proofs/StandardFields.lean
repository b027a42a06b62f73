import GraphCache.Proofs.CheckedSettings
import GraphCache.Proofs.LaidTrees

/-! The standard settings as the lowest layer. Of them only the fields count that no layer
mentions; where one mentions the headers, none of the standard headers is left. A check
finds the same with these fields below the layers and without them, because it takes the
standard value for what is missing, and that value passes the check of its field. -/
namespace GraphCache

open GraphCache.Tree

/-! ## Fields that a mapping does not have -/

/-- The fields that a mapping does not have, with the mapping laid over them. -/
def Tree.supplied (fields above : Entries) : Entries :=
  layEntries (fields.filter fun entry => (underKey? above entry.1.key).isNone) above

theorem Tree.underKey?_supplied (fields : Entries) {above : Entries}
    (unique : (keysOf above).Nodup) (key : Scalar.Key) :
    underKey? (supplied fields above) key = (underKey? above key).or (underKey? fields key) := by
  rw [supplied, underKey?_layEntries _ unique,
    underKey?_filter fields (fun key => (underKey? above key).isNone)]
  cases underKey? above key <;> simp [laidOn_none]

namespace Check

variable {α : Type} {name : String} {standard : α} {check : Check α}

theorem field_eq (entries : Entries) (path : List String) :
    field (.mapping entries) path name standard check =
      match underKey? entries (.scalar (.text name)) with
      | none => .ok standard
      | some value => check (path ++ [name]) value := by
  rw [← get?_text]
  rfl

/-- A standard value that passes the check of its field can be left out as well as given. -/
theorem field_supplied {fields above : Entries} (unique : (keysOf above).Nodup)
    {path : List String} {preset : Tree}
    (held : underKey? fields (.scalar (.text name)) = some preset)
    (passes : check (path ++ [name]) preset = .ok standard) :
    field (.mapping (supplied fields above)) path name standard check =
      field (.mapping above) path name standard check := by
  rw [field_eq, field_eq, underKey?_supplied fields unique, held]
  cases underKey? above (.scalar (.text name)) with
  | none => exact passes
  | some value => rfl

end Check

open Checked Check

variable {above : Entries}

theorem LogSettings.check_supplied (unique : (keysOf above).Nodup) (homes : Homes)
    (path : List String) :
    LogSettings.check homes path (.mapping (supplied LogSettings.standard.toTree.entries above)) =
      LogSettings.check homes path (.mapping above) := by
  have fields (entries : Entries) : LogSettings.check homes path (.mapping entries) =
      settled (both LogSettings.mk
        (field (.mapping entries) path "level" LogSettings.standard.level
          (choice LogLevel.choices))
        (field (.mapping entries) path "outputs" LogSettings.standard.outputs
          (list (LogOutput.check homes)))) := rfl
  have level : underKey? LogSettings.standard.toTree.entries (.scalar (.text "level")) =
      some (.text LogSettings.standard.level.name) := rfl
  have outputs : underKey? LogSettings.standard.toTree.entries (.scalar (.text "outputs")) =
      some (.list (LogSettings.standard.outputs.map LogOutput.toTree)) := rfl
  have sound : ∀ output ∈ LogSettings.standard.outputs, SoundDestination output.destination :=
    Settings.sound_standard.destinations
  rw [fields, fields, field_supplied unique level (choice_level ..),
    field_supplied unique outputs (list_outputs sound ..)]

theorem CacheSettings.check_supplied (unique : (keysOf above).Nodup) (path : List String) :
    CacheSettings.check path (.mapping (supplied CacheSettings.standard.toTree.entries above)) =
      CacheSettings.check path (.mapping above) := by
  have fields (entries : Entries) : CacheSettings.check path (.mapping entries) =
      apply (apply (both CacheSettings.mk
        (field (.mapping entries) path "default_cache_time" CacheSettings.standard.lifetime
          checkLifetime)
        (field (.mapping entries) path "cache_type" CacheSettings.standard.store
          (choice StoreKind.choices)))
        (field (.mapping entries) path "cache_path" CacheSettings.standard.path
          (optional Check.text)))
        (field (.mapping entries) path "user_defined_id" CacheSettings.standard.custom
          (optional Check.text)) := rfl
  have lifetime : underKey? CacheSettings.standard.toTree.entries
      (.scalar (.text "default_cache_time")) =
      some (.scalar (.int CacheSettings.standard.lifetime)) := rfl
  have store : underKey? CacheSettings.standard.toTree.entries
      (.scalar (.text "cache_type")) =
      some (.text CacheSettings.standard.store.name) := rfl
  have file : underKey? CacheSettings.standard.toTree.entries
      (.scalar (.text "cache_path")) =
      some (optionalText CacheSettings.standard.path) := rfl
  have custom : underKey? CacheSettings.standard.toTree.entries
      (.scalar (.text "user_defined_id")) =
      some (optionalText CacheSettings.standard.custom) := rfl
  have sound : 0 ≤ CacheSettings.standard.lifetime := Settings.sound_standard.lifetime
  rw [fields, fields, field_supplied unique lifetime (checkLifetime_sound sound _),
    field_supplied unique store (choice_store ..),
    field_supplied unique file (optional_text ..),
    field_supplied unique custom (optional_text ..)]

theorem TransportSettings.check_supplied (unique : (keysOf above).Nodup) (path : List String) :
    TransportSettings.check path
        (.mapping (supplied TransportSettings.standard.toTree.entries above)) =
      TransportSettings.check path (.mapping above) := by
  have fields (entries : Entries) : TransportSettings.check path (.mapping entries) =
      both TransportSettings.mk
        (field (.mapping entries) path "headers" TransportSettings.standard.headers Check.texts)
        (field (.mapping entries) path "timeout_sec" TransportSettings.standard.timeout
          (optional real)) := rfl
  have headers : underKey? TransportSettings.standard.toTree.entries
      (.scalar (.text "headers")) =
      some (.ofEntries
        (TransportSettings.standard.headers.map fun entry => (entry.1, Tree.text entry.2))) := rfl
  have timeout : underKey? TransportSettings.standard.toTree.entries
      (.scalar (.text "timeout_sec")) =
      some ((TransportSettings.standard.timeout.map fun value =>
        Tree.scalar (.float value)).getD .null) := rfl
  have sound : (OrderedMap.keys TransportSettings.standard.headers).Nodup :=
    Settings.sound_standard.headers
  rw [fields, fields, field_supplied unique headers (texts_headers sound _),
    field_supplied unique timeout (optional_timeout ..)]

/-! ## The lowest layer -/

/-- The fields of a section that no layer mentions. -/
def unmentioned (layers : List Tree) (key : Scalar.Key) (fields : Entries) : Entries :=
  fields.filter fun entry => layers.all fun layer => (layer.at? [key, entry.1.key]).isNone

/-- Whether no layer has something else than a mapping under a key. -/
def mappingsUnder (layers : List Tree) (key : Scalar.Key) : Bool :=
  layers.all fun layer => (underKey? layer.entries key).all isMapping

/-- The standard settings without the fields that a layer mentions, and without a section
for which a layer has something else than fields. -/
def builtIn (layers : List Tree) : Tree :=
  .mapping ((Settings.standard.toTree.entries.filter fun entry =>
    mappingsUnder layers entry.1.key).map fun entry =>
      (entry.1, .mapping (unmentioned layers entry.1.key entry.2.entries)))

theorem builtIn_isMapping (layers : List Tree) : (builtIn layers).isMapping = true := rfl

theorem underKey?_builtIn (layers : List Tree) (key : Scalar.Key) :
    underKey? (builtIn layers).entries key =
      if mappingsUnder layers key then
        (underKey? Settings.standard.toTree.entries key).map fun preset =>
          .mapping (unmentioned layers key preset.entries)
      else none := by
  rw [builtIn, entries_mapping,
    underKey?_map _ (fun key preset => .mapping (unmentioned layers key preset.entries)),
    underKey?_filter _ (mappingsUnder layers)]
  cases mappingsUnder layers key <;> rfl

theorem underKey?_unmentioned (layers : List Tree) (key name : Scalar.Key) (fields : Entries) :
    underKey? (unmentioned layers key fields) name =
      if layers.all fun layer => (layer.at? [key, name]).isNone then underKey? fields name
      else none :=
  underKey?_filter fields (fun name => layers.all fun layer => (layer.at? [key, name]).isNone) name

/-- Below a tree the built-in fields agree with it on where there are mappings. -/
theorem builtIn_fits {merged : Tree} (rooted : merged.isMapping = true) :
    Fits (builtIn [merged]) merged := by
  intro path here there first second
  cases path with
  | nil =>
    cases first
    cases second
    rw [isBranch_ending, isBranch_ending, rooted]
    rfl
  | cons key rest =>
    rw [endingAt?_cons, underKey?_builtIn] at first
    rw [endingAt?_cons] at second
    obtain ⟨own, held, ends⟩ := Option.bind_eq_some_iff.mp first
    obtain ⟨found, met, meets⟩ := Option.bind_eq_some_iff.mp second
    split at held
    · next joined =>
      obtain ⟨preset, -, rfl⟩ := Option.map_eq_some_iff.mp held
      cases rest with
      | nil =>
        cases ends
        cases meets
        rw [isBranch_ending, isBranch_ending]
        simpa [mappingsUnder, met] using joined.symm
      | cons name inner =>
        rw [endingAt?_cons, entries_mapping, underKey?_unmentioned] at ends
        rw [endingAt?_cons] at meets
        obtain ⟨field, given, -⟩ := Option.bind_eq_some_iff.mp meets
        simp [at?, met, given] at ends
    · cases held

/-- Sound settings have every key once. -/
theorem Settings.Sound.distinct_toTree {settings : Settings} (sound : settings.Sound) :
    Distinct settings.toTree := by
  have leaf (value : Option String) : Distinct (optionalText value) := by
    cases value <;> exact distinct_of_not_isMapping rfl
  have headers : Distinct (.ofEntries
      (settings.transport.headers.map fun entry => (entry.1, Tree.text entry.2))) := by
    apply distinct_names
    · simpa [Function.comp_def, OrderedMap.keys] using sound.headers
    · intro entry member
      obtain ⟨own, -, rfl⟩ := List.mem_map.mp member
      exact distinct_of_not_isMapping rfl
  have timeout : Distinct
      ((settings.transport.timeout.map fun value => Tree.scalar (.float value)).getD .null) := by
    cases settings.transport.timeout <;> exact distinct_of_not_isMapping rfl
  apply distinct_names (by simp)
  simp only [List.forall_mem_cons, List.not_mem_nil, false_imp_iff, implies_true, and_true]
  refine ⟨distinct_names (by simp) ?_, distinct_names (by simp) ?_,
    distinct_names (by simp) ?_⟩ <;>
    simp only [List.forall_mem_cons, List.not_mem_nil, false_imp_iff, implies_true, and_true]
  · exact ⟨distinct_of_not_isMapping rfl, distinct_of_not_isMapping rfl⟩
  · exact ⟨distinct_of_not_isMapping rfl, distinct_of_not_isMapping rfl, leaf _, leaf _⟩
  · exact ⟨headers, timeout⟩

theorem builtIn_distinct (layers : List Tree) : Distinct (builtIn layers) := by
  have standard := Settings.sound_standard.distinct_toTree
  apply distinct_mapping
  · have names : keysOf ((Settings.standard.toTree.entries.filter fun entry =>
        mappingsUnder layers entry.1.key).map fun entry =>
          (entry.1, Tree.mapping (unmentioned layers entry.1.key entry.2.entries))) =
        keysOf (Settings.standard.toTree.entries.filter fun entry =>
          mappingsUnder layers entry.1.key) := by
      simp [keysOf, Function.comp_def]
    rw [names]
    exact keysOf_filter_nodup standard.root _
  · intro entry member
    obtain ⟨own, held, rfl⟩ := List.mem_map.mp member
    have inner := standard.of_mem (List.mem_of_mem_filter held)
    apply distinct_mapping (keysOf_filter_nodup inner.root _)
    intro field within
    exact inner.of_mem (List.mem_of_mem_filter within)

/-- Every built-in section has one of the known names. -/
theorem builtIn_names {layers : List Tree} {entry : Scalar × Tree}
    (member : entry ∈ (builtIn layers).entries) :
    ∃ name ∈ Settings.sectionNames, entry.1 = .text name := by
  have names : Settings.standard.toTree.entries.map Prod.fst =
      Settings.sectionNames.map Scalar.text := rfl
  obtain ⟨own, kept, rfl⟩ := List.mem_map.mp member
  have within : own.1 ∈ Settings.standard.toTree.entries.map Prod.fst :=
    List.mem_map.mpr ⟨own, List.mem_of_mem_filter kept, rfl⟩
  rw [names] at within
  obtain ⟨name, listed, same⟩ := List.mem_map.mp within
  exact ⟨name, listed, same.symm⟩

/-- The built-in fields are the same below several layers and below a tree that shows what
these show together. -/
theorem builtIn_of_endings {merged : Tree} {layers : List Tree}
    (fits : ∀ one ∈ layers, ∀ two ∈ layers, Fits one two)
    (told : ∀ path, merged.endingAt? path = layers.findSome? (·.endingAt? path)) :
    builtIn [merged] = builtIn layers := by
  have lacking (path : List Scalar.Key) : ([merged].all fun layer => (layer.at? path).isNone) =
      layers.all fun layer => (layer.at? path).isNone := by
    have same := told path
    rw [Bool.eq_iff_iff]
    simp only [List.all_cons, List.all_nil, Bool.and_true, List.all_eq_true,
      Option.isNone_iff_eq_none]
    have none (tree : Tree) : tree.at? path = none ↔ tree.endingAt? path = none := by
      simp [endingAt?]
    simp only [none, same, List.findSome?_eq_none_iff]
  have single (tree : Tree) (key : Scalar.Key) :
      tree.endingAt? [key] = (underKey? tree.entries key).map ending := by
    rw [endingAt?_cons]
    cases underKey? tree.entries key <;> rfl
  have joined (key : Scalar.Key) : mappingsUnder [merged] key = mappingsUnder layers key := by
    have branches (tree : Tree) : ((underKey? tree.entries key).all isMapping) = true ↔
        ∀ ending, tree.endingAt? [key] = some ending → ending.isBranch = true := by
      rw [single]
      cases underKey? tree.entries key <;> simp
    have same := told [key]
    rw [Bool.eq_iff_iff]
    simp only [mappingsUnder, List.all_cons, List.all_nil, Bool.and_true, List.all_eq_true,
      branches]
    constructor
    · intro merges layer member own ends
      cases met : merged.endingAt? [key] with
      | none =>
        rw [same, List.findSome?_eq_none_iff] at met
        rw [met layer member] at ends
        cases ends
      | some shown =>
        obtain ⟨other, within, shows⟩ := List.exists_of_findSome?_eq_some (same.symm.trans met)
        rw [fits layer member other within [key] own shown ends shows]
        exact merges shown met
    · intro each shown met
      obtain ⟨other, within, shows⟩ := List.exists_of_findSome?_eq_some (same.symm.trans met)
      exact each other within shown shows
  simp only [builtIn, unmentioned, joined, lacking]

/-! ## Checking with the built-in fields -/

/-- The entries of a tree over the built-in fields. -/
def completed (merged : Tree) : Entries := layEntries (builtIn [merged]).entries merged.entries

theorem Check.fields_entries {α : Type} {title : String} {check : Check α} {value : Tree}
    (shape : value.isMapping = true) (path : List String) :
    fields title check path value = fields title check path (.mapping value.entries) := by
  simp only [fields, bare_of_isMapping shape]
  rfl

/-- A section is checked alike with the built-in fields and without them. -/
theorem Check.field_completed {α : Type} {name : String} {standard : α} {check : Check α}
    {merged preset : Tree} (distinct : Distinct merged)
    (held : underKey? Settings.standard.toTree.entries (.scalar (.text name)) = some preset)
    (passes : check [name] (.mapping preset.entries) = .ok standard)
    (opened : ∀ value, value.isMapping = true →
      check [name] value = check [name] (.mapping value.entries))
    (supplies : ∀ above, (keysOf above).Nodup →
      check [name] (.mapping (supplied preset.entries above)) = check [name] (.mapping above)) :
    field (.mapping (completed merged)) [] name standard check =
      field (.mapping merged.entries) [] name standard check := by
  rw [field_eq, field_eq, completed, underKey?_layEntries _ distinct.root, underKey?_builtIn, held]
  cases found : underKey? merged.entries (.scalar (.text name)) with
  | none =>
    have whole : unmentioned [merged] (.scalar (.text name)) preset.entries = preset.entries := by
      simp [unmentioned, at?, found]
    simpa [mappingsUnder, found, whole] using passes
  | some value =>
    cases shape : value.isMapping with
    | false => simp [laidOn_of_not_isMapping _ shape]
    | true =>
      have rest : unmentioned [merged] (.scalar (.text name)) preset.entries =
          preset.entries.filter fun entry => (underKey? value.entries entry.1.key).isNone := by
        simp [unmentioned, at?, found]
      have laid := supplies value.entries (distinct.under found).root
      rw [supplied, ← rest, ← opened value shape] at laid
      simpa [mappingsUnder, found, shape, laidOn_some] using laid

theorem Settings.checkNames_completed {merged : Tree} (distinct : Distinct merged) :
    Settings.checkNames (completed merged) = Settings.checkNames merged.entries := by
  let unknown (key : Scalar.Key) : Bool :=
    !(Settings.sectionNames.map fun name => Scalar.Key.scalar (.text name)).contains key
  have tells (entries : Entries) : (entries.filter fun entry =>
      !(Settings.sectionNames.map Scalar.text).contains entry.1) =
        entries.filter fun entry => unknown entry.1.key := by
    apply List.filter_congr
    intro entry member
    simp [unknown, Settings.sectionNames, ← Scalar.key_text_iff]
  have known : ∀ entry ∈ (builtIn [merged]).entries, unknown entry.1.key = false := by
    intro entry member
    obtain ⟨name, listed, same⟩ := builtIn_names member
    simp [unknown, same, Scalar.key, listed]
  have none : (builtIn [merged]).entries.filter (fun entry => unknown entry.1.key) = [] := by
    rw [List.filter_eq_nil_iff]
    intro entry member
    simp [known entry member]
  have apart : ∀ key ∈ keysOf merged.entries, unknown key = true →
      key ∉ keysOf (builtIn [merged]).entries := by
    intro key member counts present
    obtain ⟨entry, held, rfl⟩ := List.mem_map.mp present
    rw [known entry held] at counts
    cases counts
  rw [Settings.checkNames, Settings.checkNames, tells, tells, completed,
    filter_layEntries unknown distinct.root apart, none, List.nil_append]

/-- With the built-in fields in their places a check finds the same. -/
theorem Settings.checkStrictly_completed {merged : Tree} (distinct : Distinct merged)
    (homes : Homes) :
    Settings.checkStrictly homes (completed merged) =
      Settings.checkStrictly homes merged.entries := by
  have parts (entries : Entries) : Settings.check homes (.mapping entries) =
      settled (apply (both Settings.mk
        (field (.mapping entries) [] "logging" Settings.standard.logging (LogSettings.check homes))
        (field (.mapping entries) [] "cache" Settings.standard.cache CacheSettings.check))
        (field (.mapping entries) [] "transport" Settings.standard.transport
          TransportSettings.check)) := rfl
  have sound := Settings.sound_standard
  have logging : field (.mapping (completed merged)) [] "logging" Settings.standard.logging
      (LogSettings.check homes) = field (.mapping merged.entries) [] "logging"
        Settings.standard.logging (LogSettings.check homes) :=
    field_completed distinct rfl (LogSettings.check_toTree sound.destinations homes _)
      (fun value shape => fields_entries shape _)
      (fun above unique => LogSettings.check_supplied unique homes _)
  have cache : field (.mapping (completed merged)) [] "cache" Settings.standard.cache
      CacheSettings.check = field (.mapping merged.entries) [] "cache" Settings.standard.cache
        CacheSettings.check :=
    field_completed distinct rfl (CacheSettings.check_toTree sound.lifetime _)
      (fun value shape => fields_entries shape _)
      (fun above unique => CacheSettings.check_supplied unique _)
  have transport : field (.mapping (completed merged)) [] "transport"
      Settings.standard.transport TransportSettings.check =
        field (.mapping merged.entries) [] "transport" Settings.standard.transport
          TransportSettings.check :=
    field_completed distinct rfl (TransportSettings.check_toTree sound.headers _)
      (fun value shape => fields_entries shape _)
      (fun above unique => TransportSettings.check_supplied unique _)
  rw [Settings.checkStrictly, Settings.checkStrictly, Settings.checkNames_completed distinct, parts,
    parts, logging, cache, transport]

end GraphCache

import GraphCache.Proofs.CallOptions
import GraphCache.Proofs.CheckedSettings

/-! What the options of a call change. Each option that is known sets one field, which is checked
on its own; all other fields come through the check as they are. So the settings of a call are
refused exactly if the value of a known option is, and else they differ from those of the client
in the fields of its options only. -/
namespace GraphCache

namespace Checked

variable {α β γ : Type}

/-- Everything that is wrong with a value is of a certain kind. -/
def Tells (holds : Issue → Prop) (checked : Checked α) : Prop :=
  ∀ issues, checked = .error issues → ∀ issue ∈ issues, holds issue

theorem tells_ok (holds : Issue → Prop) (value : α) : Tells holds (.ok value) := by
  rintro issues ⟨⟩

theorem tells_refuse {holds : Issue → Prop} {path : List String} {kind : IssueKind} {input : Tree}
    (own : holds ⟨path, kind, input⟩) : Tells holds (refuse path kind input : Checked α) := by
  rintro issues ⟨⟩
  simpa using own

theorem Tells.both {holds : Issue → Prop} {combine : α → β → γ} {left : Checked α}
    {right : Checked β} (first : Tells holds left) (second : Tells holds right) :
    Tells holds (both combine left right) := by
  intro issues failed issue member
  cases left with
  | ok one =>
    cases right with
    | ok two => cases failed
    | error more =>
      cases failed
      exact second _ rfl issue member
  | error ones =>
    cases right with
    | ok two =>
      cases failed
      exact first _ rfl issue member
    | error more =>
      cases failed
      rcases List.mem_append.mp member with one | two
      · exact first _ rfl issue one
      · exact second _ rfl issue two

theorem Tells.apply {holds : Issue → Prop} {function : Checked (α → β)} {value : Checked α}
    (first : Tells holds function) (second : Tells holds value) :
    Tells holds (apply function value) :=
  first.both second

theorem Tells.map {holds : Issue → Prop} {checked : Checked α} (tells : Tells holds checked)
    (change : α → β) : Tells holds (checked.map change) := by
  cases checked with
  | ok value => exact tells_ok holds _
  | error issues => rintro _ ⟨⟩; exact tells issues rfl

theorem Tells.bind {holds : Issue → Prop} {checked : Checked α} {next : α → Checked β}
    (first : Tells holds checked) (second : ∀ value, Tells holds (next value)) :
    Tells holds (checked >>= next) := by
  cases checked with
  | ok value => exact second value
  | error issues => rintro _ ⟨⟩; exact first issues rfl

theorem Tells.all {holds : Issue → Prop} {check : α → Checked β} {items : List α}
    (each : ∀ item, Tells holds (check item)) : Tells holds (all check items) := by
  induction items with
  | nil => exact tells_ok holds _
  | cons item rest ih => exact (each item).both ih

/-- Where no home is looked for, everything is reported. -/
theorem settled_of_tells {checked : Checked α} (tells : Tells (·.kind ≠ .noHome) checked) :
    settled checked = checked := by
  cases checked with
  | ok value => rfl
  | error issues =>
    have none : issues.find? (·.kind = .noHome) = none := by
      simpa using tells issues rfl
    simp [settled, Except.mapError, none]

end Checked

open Checked

/-- What is wrong with something at a path or below it, and no home that is not found. -/
def Issue.Below (path : List String) (issue : Issue) : Prop :=
  path <+: issue.path ∧ issue.kind ≠ .noHome

namespace Check

variable {α : Type}

/-- A check that reports only what is wrong with its value. -/
def Confined (check : Check α) : Prop := ∀ path tree, Tells (Issue.Below path) (check path tree)

theorem refuse_confined {path : List String} {kind : IssueKind} {input : Tree}
    (other : kind ≠ .noHome) : Tells (Issue.Below path) (refuse path kind input : Checked α) :=
  tells_refuse ⟨List.prefix_rfl, other⟩

theorem Confined.below {check : Check α} (confined : Confined check) (path more : List String)
    (tree : Tree) : Tells (Issue.Below path) (check (path ++ more) tree) :=
  fun issues failed issue member =>
    (confined _ tree issues failed issue member).imp_left (List.prefix_append path more).trans

theorem text_confined : Confined text := by
  intro path tree
  unfold text
  split
  · exact tells_ok _ _
  · split
    · exact tells_ok _ _
    · exact refuse_confined (by simp)
  · exact refuse_confined (by simp)

theorem choice_confined (choices : List (String × α)) : Confined (choice choices) := by
  intro path tree
  simp only [choice]
  split
  · exact tells_ok _ _
  · exact refuse_confined (by simp)

theorem optional_confined {check : Check α} (confined : Confined check) :
    Confined (optional check) := by
  intro path tree
  unfold optional
  split
  · exact tells_ok _ _
  · exact (confined _ _).map some

theorem wholeText_confined (path : List String) (tree : Tree) (written : Option String) :
    Tells (Issue.Below path) (wholeText path tree written) := by
  unfold wholeText
  split
  · exact tells_ok _ _
  · exact refuse_confined (by simp)
  · exact refuse_confined (by simp)

theorem whole_confined : Confined whole := by
  intro path tree
  unfold whole
  split
  · exact tells_ok _ _
  · exact tells_ok _ _
  · split
    · split
      · exact refuse_confined (by simp)
      · split
        · exact tells_ok _ _
        · exact refuse_confined (by simp)
    · exact refuse_confined (by simp)
  · exact wholeText_confined _ _ _
  · exact wholeText_confined _ _ _
  · exact refuse_confined (by simp)

theorem texts_confined : Confined texts := by
  intro path tree
  unfold texts
  split
  · refine (Tells.all fun entry => ?_).map _
    have key := text_confined.below path [entry.1.step, "[key]"] (.scalar entry.1)
    have value := text_confined.below path [entry.1.step] entry.2
    exact Tells.both (by simpa using key) value
  · exact refuse_confined (by simp)

end Check

theorem checkLifetime_confined : Check.Confined checkLifetime := by
  intro path tree
  refine (Check.whole_confined path tree).bind fun lifetime => ?_
  split
  · exact Check.refuse_confined (by simp)
  · exact tells_ok _ _

/-! ## Options -/

/-- An option: its name, the field that it sets, how this is checked and where it is read. -/
structure OptionField (α : Type) where
  name : String
  sectionName : String
  fieldName : String
  check : Check α
  value : Settings → α

/-- What is wrong with the value of an option that is known and given. -/
def Issue.FromOption (options : List (String × Tree)) (issue : Issue) : Prop :=
  ∃ name ∈ OrderedMap.keys options, ∃ target, optionTarget? name = some target ∧
    issue.Below [target.1, target.2]

namespace OptionField

def lifetime : OptionField Int :=
  ⟨"__defaultCacheTime", "cache", "default_cache_time", checkLifetime, (·.cache.lifetime)⟩

def store : OptionField StoreKind :=
  ⟨"__cacheType", "cache", "cache_type", Check.choice StoreKind.choices, (·.cache.store)⟩

def custom : OptionField (Option String) :=
  ⟨"__userDefinedID", "cache", "user_defined_id", Check.optional Check.text, (·.cache.custom)⟩

def headers : OptionField (OrderedMap String String) :=
  ⟨"headers", "transport", "headers", Check.texts, (·.transport.headers)⟩

variable {α : Type}

def path (field : OptionField α) : List String := [field.sectionName, field.fieldName]

/-- Whether an option is given a value that its field does not take. -/
def Refused (field : OptionField α) (options : List (String × Tree)) : Prop :=
  ∃ given issues, OrderedMap.get? options field.name = some given ∧
    field.check field.path given = .error issues

/-- Whether a field has the checked value of its option, or keeps its own if that is not given. -/
def Follows (field : OptionField α) (options : List (String × Tree)) (before after : Settings) :
    Prop :=
  match OrderedMap.get? options field.name with
  | none => field.value after = field.value before
  | some given => field.check field.path given = .ok (field.value after)

/-- The value of a field under options. -/
def checked (field : OptionField α) (options : List (String × Tree)) (before : Settings) :
    Checked α :=
  match OrderedMap.get? options field.name with
  | none => .ok (field.value before)
  | some given => field.check field.path given

theorem checked_eq_ok_iff (field : OptionField α) (options : List (String × Tree))
    (before after : Settings) :
    field.checked options before = .ok (field.value after) ↔
      field.Follows options before after := by
  unfold checked Follows
  split
  · rw [Except.ok.injEq, eq_comm]
  · exact Iff.rfl

theorem refused_iff (field : OptionField α) (options : List (String × Tree)) (before : Settings) :
    field.Refused options ↔ ∃ issues, field.checked options before = .error issues := by
  unfold Refused checked
  cases given : OrderedMap.get? options field.name <;> simp

theorem checked_tells (field : OptionField α) (confined : Check.Confined field.check)
    (known : optionTarget? field.name = some (field.sectionName, field.fieldName))
    (options : List (String × Tree)) (before : Settings) :
    Tells (Issue.FromOption options) (field.checked options before) := by
  unfold checked
  cases given : OrderedMap.get? options field.name with
  | none => exact tells_ok _ _
  | some tree =>
    intro issues failed issue member
    have present : field.name ∈ OrderedMap.keys options := by
      rw [← OrderedMap.get?_isSome_iff, given]
      rfl
    exact ⟨field.name, present, _, known, confined _ tree issues failed issue member⟩

/-- Only the value under the name of an option counts. -/
theorem checked_congr (field : OptionField α) {options others : List (String × Tree)}
    (same : OrderedMap.get? others field.name = OrderedMap.get? options field.name)
    (before : Settings) : field.checked others before = field.checked options before := by
  rw [checked, checked, same]

end OptionField

namespace OptionValues

theorem set_lifetime (values : OptionValues) (option : String × Tree) :
    (values.set option).lifetime =
      if option.1 = "__defaultCacheTime" then option.2 else values.lifetime := by
  unfold set
  split_ifs <;> rfl

theorem set_store (values : OptionValues) (option : String × Tree) :
    (values.set option).store = if option.1 = "__cacheType" then option.2 else values.store := by
  unfold set
  split_ifs <;> simp_all [withCustom]

theorem set_custom (values : OptionValues) (option : String × Tree) :
    (values.set option).custom =
      if option.1 = "__userDefinedID" then option.2 else values.custom := by
  unfold set
  split_ifs <;> simp_all [withCustom]

theorem set_headers (values : OptionValues) (option : String × Tree) :
    (values.set option).headers = if option.1 = "headers" then option.2 else values.headers := by
  unfold set
  split_ifs <;> simp_all [withCustom]

/-- What an option leaves behind is the value that it is given. -/
theorem foldl_set {part : OptionValues → Tree} {name : String}
    (sets : ∀ values option, part (set values option) =
      if option.1 = name then option.2 else part values)
    (values : OptionValues) {options : List (String × Tree)}
    (unique : (OrderedMap.keys options).Nodup) :
    part (options.foldl set values) = (OrderedMap.get? options name).getD (part values) := by
  induction options generalizing values with
  | nil => rfl
  | cons option rest ih =>
    obtain ⟨fresh, later⟩ := List.nodup_cons.mp unique
    rw [List.foldl_cons, ih _ later, sets]
    by_cases own : option.1 = name
    · subst own
      have absent := (OrderedMap.get?_eq_none_iff rest option.1).mpr fresh
      simp [OrderedMap.get?, absent]
    · simp [OrderedMap.get?, own]

end OptionValues

/-- A field that passes its check as it is written is checked as its option says. -/
theorem OptionField.check_foldl_set {α : Type} (field : OptionField α)
    (part : OptionValues → Tree)
    (sets : ∀ values option, part (values.set option) =
      if option.1 = field.name then option.2 else part values)
    {settings : Settings}
    (written : field.check field.path (part (.ofSettings settings)) = .ok (field.value settings))
    {options : List (String × Tree)} (unique : (OrderedMap.keys options).Nodup) :
    field.check field.path (part (options.foldl OptionValues.set (.ofSettings settings))) =
      field.checked options settings := by
  rw [OptionValues.foldl_set sets _ unique, checked]
  cases OrderedMap.get? options field.name with
  | none => exact written
  | some given => rfl

namespace Settings

open OptionField

/-- The settings under options, field by field. -/
def underOptions (settings : Settings) (options : List (String × Tree)) : Checked Settings :=
  apply (both Settings.mk (.ok settings.logging)
    (apply (apply (both CacheSettings.mk (lifetime.checked options settings)
      (store.checked options settings)) (.ok settings.cache.path))
      (custom.checked options settings)))
    (both TransportSettings.mk (headers.checked options settings)
      (.ok settings.transport.timeout))

theorem underOptions_eq_ok_iff (settings : Settings) (options : List (String × Tree))
    (result : Settings) :
    settings.underOptions options = .ok result ↔
      (result.logging = settings.logging ∧ result.cache.path = settings.cache.path ∧
        result.transport.timeout = settings.transport.timeout) ∧
      lifetime.Follows options settings result ∧ store.Follows options settings result ∧
      custom.Follows options settings result ∧ headers.Follows options settings result := by
  simp only [← checked_eq_ok_iff, underOptions]
  constructor
  · intro passed
    obtain ⟨_, transport, made, sends, rfl⟩ := apply_eq_ok.mp passed
    obtain ⟨_, cache, ⟨⟩, stores, rfl⟩ := both_eq_ok.mp made
    obtain ⟨_, custom, named, own, rfl⟩ := apply_eq_ok.mp stores
    obtain ⟨_, file, begun, ⟨⟩, rfl⟩ := apply_eq_ok.mp named
    obtain ⟨lifetime, store, lasts, kind, rfl⟩ := both_eq_ok.mp begun
    obtain ⟨headers, timeout, sent, ⟨⟩, rfl⟩ := both_eq_ok.mp sends
    exact ⟨⟨rfl, rfl, rfl⟩, lasts, kind, own, sent⟩
  · rintro ⟨⟨logs, file, waits⟩, lasts, kind, own, sent⟩
    rw [lasts, kind, own, sent, ← logs, ← file, ← waits]
    rfl

/-- Options are refused if one of them is. -/
theorem underOptions_eq_error_iff (settings : Settings) (options : List (String × Tree)) :
    (∃ issues, settings.underOptions options = .error issues) ↔
      lifetime.Refused options ∨ store.Refused options ∨ custom.Refused options ∨
        headers.Refused options := by
  simp only [refused_iff _ options settings, underOptions]
  cases lifetime.checked options settings <;> cases store.checked options settings <;>
    cases custom.checked options settings <;> cases headers.checked options settings <;>
      simp [apply, both]

theorem underOptions_tells (settings : Settings) (options : List (String × Tree)) :
    Tells (Issue.FromOption options) (settings.underOptions options) := by
  have lasts := lifetime.checked_tells checkLifetime_confined rfl options settings
  have kind := store.checked_tells (Check.choice_confined _) rfl options settings
  have own := custom.checked_tells (Check.optional_confined Check.text_confined) rfl options
    settings
  have sent := headers.checked_tells Check.texts_confined rfl options settings
  exact ((tells_ok _ _).both (((lasts.both kind).apply (tells_ok _ _)).apply own)).apply
    (sent.both (tells_ok _ _))

/-- Settings that have been checked change under options in the fields of these. -/
theorem withOptions_eq {settings : Settings} (sound : settings.Sound) (homes : Homes)
    {options : List (String × Tree)} (unique : (OrderedMap.keys options).Nodup) :
    settings.withOptions homes options = settings.underOptions options := by
  by_cases given : options.isEmpty
  · obtain rfl := List.isEmpty_iff.mp given
    rfl
  have lasts := lifetime.check_foldl_set OptionValues.lifetime OptionValues.set_lifetime
    (checkLifetime_sound sound.lifetime lifetime.path) unique
  have kind := store.check_foldl_set OptionValues.store OptionValues.set_store
    (choice_store store.path settings.cache.store) unique
  have own := custom.check_foldl_set OptionValues.custom OptionValues.set_custom
    (optional_text custom.path settings.cache.custom) unique
  have sent := headers.check_foldl_set OptionValues.headers OptionValues.set_headers
    (texts_headers sound.headers headers.path) unique
  rw [withOptions_of_given settings homes given]
  generalize options.foldl OptionValues.set (.ofSettings settings) = last at lasts kind own sent ⊢
  have sections : Settings.check homes (.mapping (last.sections settings)) =
      settled (apply (both Settings.mk
        (LogSettings.check homes ["logging"] settings.logging.toTree)
        (apply (apply (both CacheSettings.mk (lifetime.check lifetime.path last.lifetime)
          (store.check store.path last.store))
          (Check.optional Check.text ["cache", "cache_path"] (optionalText settings.cache.path)))
          (custom.check custom.path last.custom)))
        (both TransportSettings.mk (headers.check headers.path last.headers)
          (Check.optional Check.real ["transport", "timeout_sec"]
            ((settings.transport.timeout.map fun value => Tree.scalar (.float value)).getD
              .null)))) := rfl
  rw [sections, LogSettings.check_toTree sound.destinations, lasts, kind, own, sent, optional_text,
    optional_timeout]
  refine settled_of_tells fun issues failed issue member => ?_
  obtain ⟨_, _, _, _, below⟩ := settings.underOptions_tells options issues failed issue member
  exact below.2

/-- Only the values under the names of the four options count. -/
theorem underOptions_congr (settings : Settings) {options others : List (String × Tree)}
    (same : ∀ name, (optionTarget? name).isSome →
      OrderedMap.get? others name = OrderedMap.get? options name) :
    settings.underOptions others = settings.underOptions options := by
  rw [underOptions, underOptions, lifetime.checked_congr (same _ rfl),
    store.checked_congr (same _ rfl), custom.checked_congr (same _ rfl),
    headers.checked_congr (same _ rfl)]

/-- Options of a call change what they name and nothing else. Settings that have been checked pass
the check again as they are. Under options they are refused exactly if the value of a known option
is, and then all that is reported is wrong with values of such options. Else every field has the
checked value of its option, and keeps its own value where that is not given. The order of the
options and unknown ones have no effect. -/
theorem withOptions_frame {origin : Homes} {tree : Tree} {settings : Settings}
    (valid : Settings.check origin tree = .ok settings) (homes : Homes)
    {options : List (String × Tree)} (unique : (OrderedMap.keys options).Nodup) :
    Settings.check homes settings.toTree = .ok settings ∧
    ((∃ issues, settings.withOptions homes options = .error issues) ↔
      lifetime.Refused options ∨ store.Refused options ∨ custom.Refused options ∨
        headers.Refused options) ∧
    (∀ issues, settings.withOptions homes options = .error issues →
      ∀ issue ∈ issues, issue.FromOption options) ∧
    (∀ result, settings.withOptions homes options = .ok result ↔
      (result.logging = settings.logging ∧ result.cache.path = settings.cache.path ∧
        result.transport.timeout = settings.transport.timeout) ∧
      lifetime.Follows options settings result ∧ store.Follows options settings result ∧
      custom.Follows options settings result ∧ headers.Follows options settings result) ∧
    (∀ others, options.Perm others →
      settings.withOptions homes others = settings.withOptions homes options) ∧
    settings.withOptions homes (options.filter fun option => (optionTarget? option.1).isSome) =
      settings.withOptions homes options := by
  have sound := sound_of_check valid
  have reorder (others : List (String × Tree)) (perm : options.Perm others) :
      settings.withOptions homes others = settings.withOptions homes options := by
    have unique' : (OrderedMap.keys others).Nodup := ((perm.map Prod.fst).nodup_iff).mp unique
    rw [withOptions_eq sound homes unique', withOptions_eq sound homes unique]
    exact settings.underOptions_congr fun name _ => OrderedMap.get?_perm unique perm name
  have known : settings.withOptions homes
      (options.filter fun option => (optionTarget? option.1).isSome) =
        settings.withOptions homes options := by
    have unique' : (OrderedMap.keys
        (options.filter fun option => (optionTarget? option.1).isSome)).Nodup :=
      unique.sublist (List.filter_sublist.map Prod.fst)
    rw [withOptions_eq sound homes unique', withOptions_eq sound homes unique]
    refine settings.underOptions_congr fun name known => ?_
    rw [OrderedMap.get?_filter options fun name => (optionTarget? name).isSome, if_pos known]
  refine ⟨sound.check_toTree homes, ?_, ?_, ?_, reorder, known⟩
  all_goals rw [withOptions_eq sound homes unique]
  · exact settings.underOptions_eq_error_iff options
  · exact settings.underOptions_tells options
  · exact settings.underOptions_eq_ok_iff options

/-- Another lifetime and other headers, with an option between them that is not known. -/
def lastingOptions : List (String × Tree) :=
  [("__defaultCacheTime", .scalar (.int 30)), ("__somethingElse", .scalar (.bool true)),
    ("headers", .ofEntries [("Authorization", .text "Bearer t")])]

theorem withOptions_frame_lasting :
    let homes : Homes := ⟨"/home", []⟩
    Settings.check homes (.mapping []) = .ok standard ∧
      (OrderedMap.keys lastingOptions).Nodup ∧
      standard.withOptions homes lastingOptions = .ok
        ⟨.standard, ⟨30, .memory, none, none⟩,
          ⟨[("Authorization", "Bearer t")], some (.ofInt 30)⟩⟩ ∧
      standard.withOptions homes lastingOptions.reverse =
        standard.withOptions homes lastingOptions := by
  intro homes
  have valid : Settings.check homes (.mapping []) = .ok standard := rfl
  have unique : (OrderedMap.keys lastingOptions).Nodup := by decide
  obtain ⟨-, -, -, passes, reorder, -⟩ := withOptions_frame valid homes unique
  exact ⟨valid, unique, (passes _).mpr ⟨⟨rfl, rfl, rfl⟩, rfl, rfl, rfl, rfl⟩,
    reorder _ (List.reverse_perm _).symm⟩

end Settings
end GraphCache

import GraphCache.Settings.Validation
import Mathlib.Tactic.SplitIfs

/-! The settings of a call under different identifier names of the client. Options overwrite
single values of the settings before these are checked again. The name of the client comes
through as it is unless an option gives another one, and it has no part in anything else. -/
namespace GraphCache

/-- The settings with another identifier name, or with none. -/
def Settings.named (settings : Settings) (name : Option String) : Settings :=
  { settings with cache := { settings.cache with custom := name } }

/-- The values of settings that options can set. -/
structure OptionValues where
  lifetime : Tree
  store : Tree
  custom : Tree
  headers : Tree

namespace OptionValues

def ofSettings (settings : Settings) : OptionValues where
  lifetime := .scalar (.int settings.cache.lifetime)
  store := .text settings.cache.store.name
  custom := optionalText settings.cache.custom
  headers := .ofEntries (settings.transport.headers.map fun entry => (entry.1, Tree.text entry.2))

def withCustom (values : OptionValues) (custom : Tree) : OptionValues :=
  { values with custom := custom }

/-- The cache section of settings with some values in it. -/
def cacheSection (values : OptionValues) (settings : Settings) : Tree :=
  .ofEntries [("default_cache_time", values.lifetime), ("cache_type", values.store),
    ("cache_path", optionalText settings.cache.path), ("user_defined_id", values.custom)]

/-- The transport section of settings with some values in it. -/
def transportSection (values : OptionValues) (settings : Settings) : Tree :=
  .ofEntries [("headers", values.headers), ("timeout_sec",
    (settings.transport.timeout.map fun value => Tree.scalar (.float value)).getD .null)]

/-- The sections of settings with some values in them. -/
def sections (values : OptionValues) (settings : Settings) : Entries :=
  [(.text "logging", settings.logging.toTree), (.text "cache", values.cacheSection settings),
   (.text "transport", values.transportSection settings)]

/-- The values after an option. -/
def set (values : OptionValues) (option : String × Tree) : OptionValues :=
  if option.1 = "__defaultCacheTime" then { values with lifetime := option.2 }
  else if option.1 = "__cacheType" then { values with store := option.2 }
  else if option.1 = "__userDefinedID" then values.withCustom option.2
  else if option.1 = "headers" then { values with headers := option.2 }
  else values

theorem applyOption_sections (values : OptionValues) (settings : Settings)
    (option : String × Tree) :
    applyOption (values.sections settings) option = (values.set option).sections settings := by
  obtain ⟨name, tree⟩ := option
  unfold set
  split_ifs with lifetime store custom headers
  · cases lifetime
    rfl
  · cases store
    rfl
  · cases custom
    rfl
  · cases headers
    rfl
  · have unknown : optionTarget? name = none := by
      simp_all [optionTarget?, OrderedMap.get?, eq_comm]
    simp [applyOption, unknown]

theorem foldl_applyOption (values : OptionValues) (settings : Settings)
    (options : List (String × Tree)) :
    options.foldl applyOption (values.sections settings) =
      (options.foldl set values).sections settings := by
  induction options generalizing values with
  | nil => rfl
  | cons option rest ih => rw [List.foldl_cons, applyOption_sections, ih, List.foldl_cons]

/-- Whatever the name is, options leave it as it is or put one of their own in its place. -/
theorem foldl_set_cases (values : OptionValues) (options : List (String × Tree)) :
    ∃ last : OptionValues,
      (∀ custom, options.foldl set (values.withCustom custom) = last.withCustom custom) ∨
        ∀ custom, options.foldl set (values.withCustom custom) = last := by
  induction options generalizing values with
  | nil => exact ⟨values, .inl fun _ => rfl⟩
  | cons option rest ih =>
    by_cases given : option.1 = "__userDefinedID"
    · refine ⟨rest.foldl set (values.withCustom option.2), .inr fun custom => ?_⟩
      simp [set, given, withCustom]
    · obtain ⟨last, law⟩ := ih (values.set option)
      have same (custom : Tree) :
          (values.withCustom custom).set option = (values.set option).withCustom custom := by
        simp only [set, given, ↓reduceIte]
        split_ifs <;> rfl
      exact ⟨last, by simpa only [List.foldl_cons, same] using law⟩

end OptionValues

/-! ## Checking with values of options -/

theorem CacheSettings.check_cacheSection (values : OptionValues) (settings : Settings)
    (path : List String) :
    CacheSettings.check path (values.cacheSection settings) =
      Checked.apply (Checked.apply (Checked.both CacheSettings.mk
        (checkLifetime (path ++ ["default_cache_time"]) values.lifetime)
        (Check.choice StoreKind.choices (path ++ ["cache_type"]) values.store))
        (Check.optional Check.text (path ++ ["cache_path"]) (optionalText settings.cache.path)))
        (Check.optional Check.text (path ++ ["user_defined_id"]) values.custom) :=
  rfl

theorem Settings.check_sections (values : OptionValues) (settings : Settings) (homes : Homes) :
    Settings.check homes (.mapping (values.sections settings)) =
      Checked.settled (Checked.apply (Checked.both Settings.mk
        (LogSettings.check homes ["logging"] settings.logging.toTree)
        (CacheSettings.check ["cache"] (values.cacheSection settings)))
        (TransportSettings.check ["transport"] (values.transportSection settings))) :=
  rfl

/-- The settings of a call that has options. -/
theorem Settings.withOptions_of_given (settings : Settings) (homes : Homes)
    {options : List (String × Tree)} (given : ¬options.isEmpty) :
    settings.withOptions homes options = Settings.check homes (.mapping
      ((options.foldl OptionValues.set (OptionValues.ofSettings settings)).sections settings)) := by
  rw [← OptionValues.foldl_applyOption, Settings.withOptions, if_neg given]
  rfl

/-! ## Checking with a name -/

/-- Of a name that is a text or missing nothing else in the cache section depends. -/
private theorem CacheSettings.check_withCustom (values : OptionValues) (settings : Settings)
    (path : List String) (name : Option String) :
    CacheSettings.check path ((values.withCustom (optionalText name)).cacheSection settings) =
      (CacheSettings.check path ((values.withCustom .null).cacheSection settings)).map
        fun cache => { cache with custom := name } := by
  have text : Check.optional Check.text (path ++ ["user_defined_id"]) (optionalText name) =
      .ok name := by
    cases name <;> rfl
  rw [CacheSettings.check_cacheSection, CacheSettings.check_cacheSection]
  simp only [OptionValues.withCustom, text]
  generalize checkLifetime (path ++ ["default_cache_time"]) values.lifetime = lifetime
  generalize Check.choice StoreKind.choices (path ++ ["cache_type"]) values.store = store
  generalize Check.optional Check.text (path ++ ["cache_path"]) (optionalText settings.cache.path) =
    file
  cases lifetime <;> cases store <;> cases file <;> rfl

/-- The same goes for the settings as a whole. -/
private theorem Settings.check_withCustom (values : OptionValues) (settings : Settings)
    (homes : Homes) (name : Option String) :
    Settings.check homes (.mapping ((values.withCustom (optionalText name)).sections settings)) =
      (Settings.check homes (.mapping ((values.withCustom .null).sections settings))).map
        (·.named name) := by
  have apart : (values.withCustom (optionalText name)).transportSection settings =
      (values.withCustom .null).transportSection settings := rfl
  rw [Settings.check_sections, Settings.check_sections, CacheSettings.check_withCustom, apart]
  generalize LogSettings.check homes ["logging"] settings.logging.toTree = logging
  generalize CacheSettings.check ["cache"] ((values.withCustom .null).cacheSection settings) = cache
  generalize TransportSettings.check ["transport"]
    ((values.withCustom .null).transportSection settings) = transport
  cases logging <;> cases cache <;> cases transport <;> rfl

/-- Under all names of the client a call has the same settings but for that name, or exactly
the same settings, where an option gives a name; or it is wrong in the same way. -/
theorem Settings.withOptions_cases (settings : Settings) (homes : Homes)
    (options : List (String × Tree)) :
    ∃ checked : Checked Settings,
      (∀ name, (settings.named name).withOptions homes options = checked.map (·.named name)) ∨
        ∀ name, (settings.named name).withOptions homes options = checked := by
  by_cases none : options.isEmpty
  · exact ⟨.ok settings, .inl fun name => by simp [Settings.withOptions, none, Except.map]⟩
  · have sections (name : Option String) : (settings.named name).withOptions homes options =
        Settings.check homes (.mapping ((options.foldl OptionValues.set
          ((OptionValues.ofSettings settings).withCustom (optionalText name))).sections
            settings)) :=
      (settings.named name).withOptions_of_given homes none
    obtain ⟨last, kept | replaced⟩ :=
      OptionValues.foldl_set_cases (OptionValues.ofSettings settings) options
    · exact ⟨Settings.check homes (.mapping ((last.withCustom .null).sections settings)),
        .inl fun name => by rw [sections, kept, Settings.check_withCustom]⟩
    · exact ⟨Settings.check homes (.mapping (last.sections settings)),
        .inr fun name => by rw [sections, replaced]⟩

end GraphCache

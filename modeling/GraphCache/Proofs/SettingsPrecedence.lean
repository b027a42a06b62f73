import GraphCache.Proofs.DistinctFiles
import GraphCache.Proofs.DistinctVariables
import GraphCache.Proofs.StandardFields

/-! Settings from all sources at once. The sources are laid over one another in two steps, the
files first and then what the caller and the variables say over them, and the result is what
the sources show path by path, each before those that count less. Checking it is checking the
same tree with the built-in fields in the places that no source mentions. -/
namespace GraphCache

open GraphCache.Tree

/-! ## Layers -/

theorem entriesOf_mapping {tree : Tree} (shape : tree.isMapping = true) :
    entriesOf tree = .ok tree.entries := by
  simp only [entriesOf, bare_of_isMapping shape]

theorem layOver_mapping {below : Tree} (shape : below.isMapping = true) (above : Entries) :
    layOver below above = .ok (laidOn (some below) (.mapping above)) := by
  rw [laidOn_mapping shape (isMapping_mapping above)]
  simp only [layOver, bare_of_isMapping shape]
  rfl

/-- The files together: that of the project goes first. -/
theorem layFiles_resolves {user project : Tree} (low : user.Resolves [user])
    (high : project.Resolves [project]) (fits : Fits user project) :
    ∃ files, layFiles user project = .ok files ∧ files.Resolves [project, user] := by
  cases present : user.isTruthy with
  | false =>
    have empty : user.entries = [] := by
      simp only [isTruthy, bare_of_isMapping low.isMapping] at present
      simpa using present
    refine ⟨project, by simp [layFiles, present, pure, Except.pure], high.isMapping,
      high.distinct, ?_⟩
    intro path
    cases path with
    | nil => simp
    | cons key rest =>
      have nothing : user.endingAt? (key :: rest) = none := by simp [endingAt?_cons, empty]
      cases shown : project.endingAt? (key :: rest) <;> simp [shown, nothing]
  | true =>
    have joined := low.laidOn high fits
    have own : laidOn (some user) (.mapping project.entries) = laidOn (some user) project := by
      rw [laidOn_mapping low.isMapping high.isMapping,
        laidOn_mapping low.isMapping (isMapping_mapping _), entries_mapping]
    refine ⟨laidOn (some user) project, ?_, joined⟩
    simp [layFiles, present, layOver_mapping low.isMapping, entriesOf_mapping high.isMapping, own,
      bind, Except.bind]

theorem all_named_iff (sections : Entries) :
    (sections.all fun entry => entry.1 matches .text _) = true ↔ Named sections := by
  rw [List.all_eq_true]
  apply forall₂_congr
  rintro ⟨key, tree⟩ -
  cases key <;> simp

/-- Files that are a mapping take everything that is given, but only names can be sections. -/
theorem laySections_cases {files : Tree} (shape : files.isMapping = true) (given : Entries) :
    let sections := (laidOn (some files) (.mapping given)).entries
    (Named sections ∧ laySections files given = .ok sections) ∨
      (¬ Named sections ∧ laySections files given = .error .nameless) := by
  intro sections
  have laid : (laidOn (some files) (.mapping given)).isMapping = true := by
    rw [laidOn_mapping shape (isMapping_mapping given), isMapping_mapping]
  simp only [laySections, layOver_mapping shape, entriesOf_mapping laid, bind, Except.bind]
  split
  · next named => exact .inl ⟨(all_named_iff sections).mp named, rfl⟩
  · next nameless => exact .inr ⟨fun named => nameless ((all_named_iff sections).mpr named), rfl⟩

theorem named_completed {merged : Tree} (distinct : Distinct merged) :
    Named (completed merged) ↔ Named merged.entries := by
  rw [completed, named_layEntries distinct.root]
  apply and_iff_right
  intro entry member
  obtain ⟨name, -, same⟩ := builtIn_names member
  exact ⟨name, same⟩

theorem named_of_checkStrictly {homes : Homes} {sections : Entries} {settings : Settings}
    (passed : Settings.checkStrictly homes sections = .ok settings) : Named sections := by
  obtain ⟨_, known, -, names, -⟩ := Checked.both_eq_ok.mp (Checked.settled_eq_ok.mp passed)
  intro entry member
  by_contra nameless
  have unknown : entry ∈ sections.filter fun entry =>
      !(Settings.sectionNames.map Scalar.text).contains entry.1 := by
    rw [List.mem_filter]
    refine ⟨member, ?_⟩
    simp only [Bool.not_eq_true', List.contains_eq_mem, decide_eq_false_iff_not, List.mem_map]
    rintro ⟨name, -, same⟩
    exact nameless ⟨name, same.symm⟩
  cases listed : sections.filter fun entry =>
      !(Settings.sectionNames.map Scalar.text).contains entry.1 with
  | nil =>
    rw [listed] at unknown
    cases unknown
  | cons first rest =>
    simp only [Settings.checkNames, listed, List.map_cons] at names
    cases names

theorem Settings.check_of_checkStrictly {homes : Homes} {sections : Entries} {settings : Settings}
    (passed : Settings.checkStrictly homes sections = .ok settings) :
    Settings.check homes (.mapping sections) = .ok settings := by
  obtain ⟨_, _, checked, -, rfl⟩ := Checked.both_eq_ok.mp (Checked.settled_eq_ok.mp passed)
  exact checked

/-! ## The first issue -/

/-- The first of several issues is told as a wrong value, unless a home was not found. -/
theorem firstIssue_settled {α : Type} {checked : Checked α} {issues : List Issue}
    (failed : checked.settled = .error issues) :
    (∃ path input reason,
        firstIssue issues = .failure (.invalidConfig path input reason)) ↔
      ∀ issue ∈ issues, issue.kind ≠ .noHome := by
  cases checked with
  | ok value => cases failed
  | error all =>
    have told : (all.find? (·.kind = .noHome)).elim all ([·]) = issues := Except.error.inj failed
    subst told
    cases found : all.find? (·.kind = .noHome) with
    | some issue =>
      have homeless : issue.kind = .noHome := by simpa using List.find?_some found
      simp [firstIssue, homeless]
    | none =>
      have homes : ∀ issue ∈ all, issue.kind ≠ .noHome := by simpa using found
      cases all with
      | nil => simp [firstIssue]
      | cons issue rest =>
        have first := homes issue List.mem_cons_self
        simpa [firstIssue, first] using homes

/-! ## Precedence -/

/-- The layers of settings, the one that counts most first. -/
def SettingsSources.layers (sources : SettingsSources) (environment : Entries)
    (project user : Tree) : List Tree :=
  [.mapping sources.keywords, .mapping environment, project, user]

theorem SettingsSources.load_of_layers (sources : SettingsSources) (application : Application)
    (homes : Homes) {user project : Tree} {environment : Entries}
    (userRead : readSettings sources.userPath sources.user = .ok user)
    (projectRead : readSettings sources.projectPath sources.project = .ok project)
    (variablesRead : variableSettings application sources.environment = .ok environment)
    (mappings : user.isMapping = true ∧ project.isMapping = true)
    (distinct : ∀ layer ∈ sources.layers environment project user, layer.Distinct)
    (fits : ∀ one ∈ sources.layers environment project user,
      ∀ two ∈ sources.layers environment project user, one.Fits two) :
    ∃ merged : Tree, merged.Resolves (sources.layers environment project user) ∧
      ((Named merged.entries ∧ sources.load application homes =
          (Settings.checkStrictly homes merged.entries).mapError firstIssue) ∨
        (¬ Named merged.entries ∧
          sources.load application homes = .error (.layers .nameless))) := by
  simp only [layers, List.forall_mem_cons, List.not_mem_nil, false_imp_iff, implies_true,
    and_true] at distinct fits
  obtain ⟨⟨-, wordsVariables, wordsProject, wordsUser⟩, ⟨-, -, variablesProject, variablesUser⟩,
    ⟨-, -, -, projectUser⟩, -⟩ := fits
  obtain ⟨files, laid, below⟩ := layFiles_resolves (resolves_single mappings.1 distinct.2.2.2)
    (resolves_single mappings.2 distinct.2.2.1) projectUser.symm
  have above := (resolves_single (isMapping_mapping environment) distinct.2.1).laidOn
    (resolves_single (isMapping_mapping sources.keywords) distinct.1) wordsVariables.symm
  have apart := below.fits above (by simp [wordsProject.symm, wordsUser.symm,
    variablesProject.symm, variablesUser.symm])
  rw [laidOn_mapping (isMapping_mapping _) (isMapping_mapping _)] at above apart
  refine ⟨laidOn (some files) (.mapping (overlay environment sources.keywords)),
    below.laidOn above apart, ?_⟩
  have loaded : sources.load application homes =
      ((laySections files (overlay environment sources.keywords)).mapError .layers).bind
        fun sections => (Settings.checkStrictly homes sections).mapError firstIssue := by
    simp only [load, projectRead, userRead, laid, variablesRead, bind, Except.bind, Except.mapError]
  rcases laySections_cases below.isMapping (overlay environment sources.keywords) with
    ⟨named, given⟩ | ⟨nameless, refused⟩
  · rw [loaded, given]
    exact .inl ⟨named, rfl⟩
  · rw [loaded, refused]
    exact .inr ⟨nameless, rfl⟩

/-- So do they with the built-in fields in the places that no layer mentions. -/
theorem SettingsSources.load_of_completed (sources : SettingsSources) (application : Application)
    (homes : Homes) {user project : Tree} {environment : Entries}
    (userRead : readSettings sources.userPath sources.user = .ok user)
    (projectRead : readSettings sources.projectPath sources.project = .ok project)
    (variablesRead : variableSettings application sources.environment = .ok environment)
    (mappings : user.isMapping = true ∧ project.isMapping = true)
    (distinct : (Tree.mapping sources.keywords).Distinct)
    (fits : ∀ one ∈ sources.layers environment project user,
      ∀ two ∈ sources.layers environment project user, one.Fits two) :
    ∃ tree : Entries,
      (Tree.mapping tree).Resolves (sources.layers environment project user ++
        [builtIn (sources.layers environment project user)]) ∧
      ((Named tree ∧ sources.load application homes =
          (Settings.checkStrictly homes tree).mapError firstIssue) ∨
        (¬ Named tree ∧ sources.load application homes = .error (.layers .nameless))) := by
  have each : ∀ layer ∈ sources.layers environment project user, layer.Distinct := by
    simpa [layers] using ⟨distinct, variableSettings_distinct variablesRead,
      readSettings_distinct projectRead, readSettings_distinct userRead⟩
  obtain ⟨merged, resolved, cases⟩ := sources.load_of_layers application homes userRead projectRead
    variablesRead mappings each fits
  have lowest := resolves_single (builtIn_isMapping [merged]) (builtIn_distinct [merged])
  have whole := lowest.laidOn resolved (builtIn_fits resolved.isMapping)
  have laid : laidOn (some (builtIn [merged])) merged = .mapping (completed merged) :=
    laidOn_mapping (builtIn_isMapping [merged]) resolved.isMapping
  rw [laid, builtIn_of_endings fits resolved.endings] at whole
  refine ⟨completed merged, whole, ?_⟩
  rwa [Settings.checkStrictly_completed resolved.distinct, named_completed resolved.distinct]

/-- The settings of all sources are those of one tree. On every path it has what the first
source has that leads there, of the caller, the variables, the file of the project and the
file of the user, and where none of them mentions a field its built-in value. The settings
stand a second check as they are. Where the tree is refused, this is told as a wrong value
exactly if all sections have names and no destination needs a home that is not found. -/
theorem SettingsSources.load_precedence (sources : SettingsSources) (application : Application)
    (homes : Homes) {user project : Tree} {environment : Entries}
    (userRead : readSettings sources.userPath sources.user = .ok user)
    (projectRead : readSettings sources.projectPath sources.project = .ok project)
    (variablesRead : variableSettings application sources.environment = .ok environment)
    (mappings : user.isMapping = true ∧ project.isMapping = true)
    (distinct : (Tree.mapping sources.keywords).Distinct)
    (fits : ∀ one ∈ sources.layers environment project user,
      ∀ two ∈ sources.layers environment project user, one.Fits two) :
    ∃ tree : Entries,
      (Tree.mapping tree).Resolves (sources.layers environment project user ++
        [builtIn (sources.layers environment project user)]) ∧
      (∀ settings, sources.load application homes = .ok settings ↔
        Settings.checkStrictly homes tree = .ok settings) ∧
      (∀ settings, sources.load application homes = .ok settings →
        Settings.check homes settings.toTree = .ok settings) ∧
      ∀ issues, Settings.checkStrictly homes tree = .error issues →
        ((∃ path input reason, sources.load application homes =
            .error (.failure (.invalidConfig path input reason))) ↔
          Named tree ∧ ∀ issue ∈ issues, issue.kind ≠ .noHome) := by
  obtain ⟨tree, resolved, cases⟩ := sources.load_of_completed application homes userRead
    projectRead variablesRead mappings distinct fits
  have loads (settings : Settings) : sources.load application homes = .ok settings ↔
      Settings.checkStrictly homes tree = .ok settings := by
    rcases cases with ⟨-, loaded⟩ | ⟨nameless, loaded⟩
    · rw [loaded, except_mapError_ok]
    · rw [loaded]
      constructor
      · exact nofun
      · exact fun passed => absurd (named_of_checkStrictly passed) nameless
  refine ⟨tree, resolved, loads, ?_, ?_⟩
  · intro settings loaded
    exact Settings.check_again (Settings.check_of_checkStrictly ((loads settings).mp loaded))
  · intro issues refused
    rw [← firstIssue_settled refused]
    rcases cases with ⟨named, loaded⟩ | ⟨nameless, loaded⟩
    · simp [loaded, refused, named, Except.mapError]
    · simp [loaded, nameless]

/-! ## Four sources -/

/-- A tree of sections that have no mappings below their fields. -/
def Sectioned (layer : Tree) : Prop :=
  ∃ sections, layer = .mapping sections ∧ ∀ entry ∈ sections,
    ∃ fields, entry.2 = .mapping fields ∧ ∀ field ∈ fields, field.2.isMapping = false

theorem Sectioned.fits {one two : Tree} (first : Sectioned one) (second : Sectioned two) :
    Fits one two := by
  obtain ⟨ones, rfl, above⟩ := first
  obtain ⟨twos, rfl, below⟩ := second
  apply fits_mapping
  intro upper listed lower held _
  obtain ⟨uppers, same, leaves⟩ := above upper listed
  obtain ⟨lowers, equal, others⟩ := below lower held
  rw [same, equal]
  apply fits_mapping
  intro field mentioned other told _
  exact fits_of_not_isMapping (leaves field mentioned) (others other told)

namespace Layered

def application : Application := ⟨"maps"⟩

def homes : Homes := ⟨"/home/user", []⟩

def sources : SettingsSources where
  projectPath := "/work/.maps/config.yaml"
  project := some "cache:\n  default_cache_time: 60\n"
  userPath := "/home/user/.config/maps/config.yaml"
  user := some "cache:\n  default_cache_time: 30\n  cache_type: sqlite\n"
  environment := [("MAPS__CACHE__USER_DEFINED_ID", "isbn")]
  keywords := [(.text "transport", .mapping [(.text "timeout_sec", .scalar (.int 5))])]

def projectTree : Tree :=
  .mapping [(.text "cache", .mapping [(.text "default_cache_time", .scalar (.int 60))])]

def userTree : Tree :=
  .mapping [(.text "cache", .mapping [(.text "default_cache_time", .scalar (.int 30)),
    (.text "cache_type", .text "sqlite")])]

def variableTree : Entries :=
  [(.text "cache", .mapping [(.text "user_defined_id", .text "isbn")])]

theorem distinct : (Tree.mapping sources.keywords).Distinct := by
  have leaf (value : Scalar) : Distinct (.scalar value) := distinct_of_not_isMapping rfl
  simp [sources, distinct_mapping, keysOf, leaf]

theorem sectioned :
    ∀ layer ∈ sources.layers variableTree projectTree userTree, Sectioned layer := by
  have leaf (value : Scalar) : (scalar value).isMapping = false := rfl
  simp +contextual [SettingsSources.layers, sources, projectTree, userTree, variableTree,
    Sectioned, Tree.text, or_imp, leaf]

theorem fits : ∀ one ∈ sources.layers variableTree projectTree userTree,
    ∀ two ∈ sources.layers variableTree projectTree userTree, one.Fits two :=
  fun one first two second => (sectioned one first).fits (sectioned two second)

example : (sources.load application homes).toOption = some
    { Settings.standard with
      cache := ⟨60, .sqlite, none, some "isbn"⟩
      transport := { TransportSettings.standard with timeout := some (.ofInt 5) } } := by
  decide +kernel

end Layered

open Layered in
/-- Settings from four sources, of which the project and the user name the same lifetime. -/
theorem SettingsSources.load_layered :
    readSettings sources.userPath sources.user = .ok userTree ∧
      readSettings sources.projectPath sources.project = .ok projectTree ∧
      variableSettings application sources.environment = .ok variableTree ∧
      (userTree.isMapping = true ∧ projectTree.isMapping = true) ∧
      (Tree.mapping sources.keywords).Distinct ∧
      (∀ one ∈ sources.layers variableTree projectTree userTree,
        ∀ two ∈ sources.layers variableTree projectTree userTree, one.Fits two) ∧
      ∃ tree : Entries,
        (Tree.mapping tree).Resolves (sources.layers variableTree projectTree userTree ++
          [builtIn (sources.layers variableTree projectTree userTree)]) ∧
        (∀ settings, sources.load application homes = .ok settings ↔
          Settings.checkStrictly homes tree = .ok settings) ∧
        (∀ settings, sources.load application homes = .ok settings →
          Settings.check homes settings.toTree = .ok settings) ∧
        ∀ issues, Settings.checkStrictly homes tree = .error issues →
          ((∃ path input reason, sources.load application homes =
              .error (.failure (.invalidConfig path input reason))) ↔
            Named tree ∧ ∀ issue ∈ issues, issue.kind ≠ .noHome) := by
  have userRead : readSettings sources.userPath sources.user = .ok userTree :=
    except_ok_of_toOption (by decide +kernel)
  have projectRead : readSettings sources.projectPath sources.project = .ok projectTree :=
    except_ok_of_toOption (by decide +kernel)
  have variablesRead : variableSettings application sources.environment = .ok variableTree :=
    except_ok_of_toOption (by decide +kernel)
  exact ⟨userRead, projectRead, variablesRead, ⟨rfl, rfl⟩, distinct, fits,
    sources.load_precedence application homes userRead projectRead variablesRead ⟨rfl, rfl⟩
      distinct fits⟩

/-! ## A home that is not found -/

namespace Homeless

def output : Tree :=
  .list [.mapping [(.text "destination", .text "~nosuchuser/x.log")]]

def sources : SettingsSources where
  projectPath := "/work/.maps/config.yaml"
  project := none
  userPath := "/home/user/.config/maps/config.yaml"
  user := none
  environment := []
  keywords := [(.text "logging", .mapping [(.text "outputs", output)])]

theorem distinct : (Tree.mapping sources.keywords).Distinct := by
  have leaf : Distinct output := distinct_of_not_isMapping rfl
  simp [sources, distinct_mapping, keysOf, leaf]

theorem sectioned :
    ∀ layer ∈ sources.layers [] (.mapping []) (.mapping []), Sectioned layer := by
  simp [SettingsSources.layers, sources, output, Sectioned, isMapping, bare]

theorem fits : ∀ one ∈ sources.layers [] (.mapping []) (.mapping []),
    ∀ two ∈ sources.layers [] (.mapping []) (.mapping []), one.Fits two :=
  fun one first two second => (sectioned one first).fits (sectioned two second)

theorem loaded : sources.load Layered.application Layered.homes = .error .noHome := by
  rfl

end Homeless

open Homeless in
/-- The tree of all sources is refused, and this is not told as a wrong value. -/
theorem SettingsSources.homeless_not_told :
    readSettings sources.userPath sources.user = .ok (.mapping []) ∧
      readSettings sources.projectPath sources.project = .ok (.mapping []) ∧
      variableSettings Layered.application sources.environment = .ok [] ∧
      (Tree.mapping sources.keywords).Distinct ∧
      (∀ one ∈ sources.layers [] (.mapping []) (.mapping []),
        ∀ two ∈ sources.layers [] (.mapping []) (.mapping []), one.Fits two) ∧
      ∃ tree : Entries,
        (Tree.mapping tree).Resolves (sources.layers [] (.mapping []) (.mapping []) ++
          [builtIn (sources.layers [] (.mapping []) (.mapping []))]) ∧
        (∃ issues, Settings.checkStrictly Layered.homes tree = .error issues) ∧
        ¬ ∃ path input reason, sources.load Layered.application Layered.homes =
          .error (.failure (.invalidConfig path input reason)) := by
  have variablesRead : variableSettings Layered.application sources.environment = .ok [] := rfl
  obtain ⟨tree, resolved, cases⟩ := sources.load_of_completed Layered.application Layered.homes
    rfl rfl variablesRead ⟨rfl, rfl⟩ distinct fits
  refine ⟨rfl, rfl, variablesRead, distinct, fits, tree, resolved, ?_, by simp [loaded]⟩
  rw [loaded] at cases
  rcases cases with ⟨-, told⟩ | ⟨-, told⟩
  · cases checked : Settings.checkStrictly Layered.homes tree with
    | ok settings =>
      rw [checked] at told
      cases told
    | error issues => exact ⟨issues, rfl⟩
  · cases told

end GraphCache

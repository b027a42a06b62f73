import GraphCache.Proofs.FilePaths
import GraphCache.Proofs.OrderedMap
import GraphCache.Proofs.Outcomes
import GraphCache.Settings.Validation

/-! Settings that have been checked. A check leaves settings in which every destination of a
file is a tidy absolute path, no lifetime is negative and no header stands twice. Such
settings pass the check again, as they are, when they are written as a tree; so do the
standard settings, field by field. -/
namespace GraphCache

namespace Checked

variable {α β γ : Type}

theorem both_eq_ok {combine : α → β → γ} {left : Checked α} {right : Checked β} {result : γ} :
    both combine left right = .ok result ↔
      ∃ one two, left = .ok one ∧ right = .ok two ∧ combine one two = result := by
  cases left <;> cases right <;> simp [both]

theorem apply_eq_ok {function : Checked (α → β)} {value : Checked α} {result : β} :
    apply function value = .ok result ↔
      ∃ map one, function = .ok map ∧ value = .ok one ∧ map one = result :=
  both_eq_ok

theorem settled_eq_ok {checked : Checked α} {result : α} :
    settled checked = .ok result ↔ checked = .ok result := by
  cases checked <;> simp [settled, Except.mapError]

theorem of_all_eq_ok {check : α → Checked β} {items : List α} {results : List β}
    (passed : all check items = .ok results) :
    ∀ result ∈ results, ∃ item ∈ items, check item = .ok result := by
  induction items generalizing results with
  | nil =>
    cases passed
    simp
  | cons item rest ih =>
    obtain ⟨first, later, one, others, rfl⟩ := both_eq_ok.mp passed
    intro result member
    rcases List.mem_cons.mp member with rfl | inner
    · exact ⟨item, List.mem_cons_self, one⟩
    · obtain ⟨source, within, own⟩ := ih others result inner
      exact ⟨source, List.mem_cons_of_mem _ within, own⟩

theorem all_map_eq_ok {check : α → Checked β} {write : β → α} (values : List β)
    (passes : ∀ value ∈ values, check (write value) = .ok value) :
    all check (values.map write) = .ok values := by
  induction values with
  | nil => rfl
  | cons value rest ih =>
    rw [List.map_cons, all, passes value List.mem_cons_self,
      ih fun later member => passes later (List.mem_cons_of_mem _ member)]
    rfl

end Checked

namespace Check

open Checked

variable {α : Type}

theorem of_fields_eq_ok {title : String} {check : Check α} {path : List String} {tree : Tree}
    {result : α} (passed : fields title check path tree = .ok result) :
    ∃ entries, check path (.mapping entries) = .ok result := by
  unfold fields at passed
  split at passed
  · next entries _ => exact ⟨entries, passed⟩
  · cases passed

/-- What holds of the standard value of a field and of all that its check gives, holds of
the value that the field has. -/
theorem of_field_eq_ok (holds : α → Prop) {tree : Tree} {path : List String} {name : String}
    {standard : α} {check : Check α} {result : α} (preset : holds standard)
    (checked : ∀ here value given, check here value = .ok given → holds given)
    (passed : field tree path name standard check = .ok result) : holds result := by
  unfold field at passed
  split at passed
  · cases passed
    exact preset
  · exact checked _ _ _ passed

theorem of_list_eq_ok (holds : α → Prop) {check : Check α} {path : List String} {tree : Tree}
    {results : List α} (checked : ∀ here value given, check here value = .ok given → holds given)
    (passed : list check path tree = .ok results) : ∀ result ∈ results, holds result := by
  unfold list at passed
  split at passed
  · intro result member
    obtain ⟨item, -, own⟩ := of_all_eq_ok passed result member
    exact checked _ _ _ own
  · cases passed

/-- Values that pass the check where they are written pass it as a list. -/
theorem list_map_eq_ok {β : Type} {check : Check β} {write : β → Tree} (values : List β)
    (passes : ∀ value ∈ values, ∀ here, check here (write value) = .ok value)
    (path : List String) : list check path (.list (values.map write)) = .ok values := by
  have each (start : Nat) : all (fun item => check (path ++ [toString item.2]) item.1)
      ((values.map write).zipIdx start) = .ok values := by
    induction values generalizing start with
    | nil => rfl
    | cons value rest ih =>
      rw [List.map_cons, List.zipIdx_cons, all, passes value List.mem_cons_self,
        ih fun later member => passes later (List.mem_cons_of_mem _ member)]
      rfl
  exact each 0

theorem texts_keys_nodup {path : List String} {tree : Tree} {texts : OrderedMap String String}
    (passed : Check.texts path tree = .ok texts) : (OrderedMap.keys texts).Nodup := by
  unfold Check.texts at passed
  split at passed
  · next entries _ =>
    obtain ⟨writes, -, rfl⟩ := except_map_ok.mp passed
    exact OrderedMap.keys_ofList_nodup writes
  · cases passed

end Check

/-! ## Sound settings -/

/-- A destination that a check can give. -/
def SoundDestination (destination : String) : Prop :=
  (destination = "stderr" ∨ destination = "stdout") ∨
    ∃ file : FilePath, file.Tidy ∧ file.isAbsolute ∧ file.toText = destination

/-- What every check of settings establishes. -/
structure Settings.Sound (settings : Settings) : Prop where
  destinations : ∀ output ∈ settings.logging.outputs, SoundDestination output.destination
  lifetime : 0 ≤ settings.cache.lifetime
  headers : (OrderedMap.keys settings.transport.headers).Nodup

open Checked Check

theorem soundDestination_of_check {homes : Homes} {path : List String} {tree : Tree}
    {destination : String} (passed : checkDestination homes path tree = .ok destination) :
    SoundDestination destination := by
  simp only [checkDestination, bind, except_bind_ok] at passed
  obtain ⟨text, -, decided⟩ := passed
  split at decided
  · next standard =>
    cases decided
    exact .inl standard
  · split at decided
    · cases decided
    · next file found =>
      split at decided
      · next absolute =>
        cases decided
        exact .inr ⟨file, (FilePath.tidy_ofText text).expandHome found, absolute, rfl⟩
      · cases decided

theorem lifetime_of_check {path : List String} {tree : Tree} {lifetime : Int}
    (passed : checkLifetime path tree = .ok lifetime) : 0 ≤ lifetime := by
  simp only [checkLifetime, bind, except_bind_ok] at passed
  obtain ⟨number, -, decided⟩ := passed
  split at decided
  · cases decided
  · cases decided
    omega

/-- The standard settings are sound. -/
theorem Settings.sound_standard : Settings.standard.Sound where
  destinations := by
    intro output member
    obtain rfl : output = .standard := List.mem_singleton.mp member
    exact .inl (.inl rfl)
  lifetime := by
    show (0 : Int) ≤ 600
    omega
  headers := List.nodup_singleton _

theorem LogOutput.sound_of_check {homes : Homes} {path : List String} {tree : Tree}
    {output : LogOutput} (passed : LogOutput.check homes path tree = .ok output) :
    SoundDestination output.destination := by
  obtain ⟨entries, fields⟩ := of_fields_eq_ok passed
  obtain ⟨make, level, made, -, rfl⟩ := apply_eq_ok.mp fields
  obtain ⟨format, destination, -, own, rfl⟩ := both_eq_ok.mp made
  exact of_field_eq_ok SoundDestination (.inl (.inl rfl))
    (fun _ _ _ => soundDestination_of_check) own

theorem LogSettings.sound_of_check {homes : Homes} {path : List String} {tree : Tree}
    {logging : LogSettings} (passed : LogSettings.check homes path tree = .ok logging) :
    ∀ output ∈ logging.outputs, SoundDestination output.destination := by
  obtain ⟨entries, fields⟩ := of_fields_eq_ok passed
  obtain ⟨level, outputs, -, own, rfl⟩ := both_eq_ok.mp (settled_eq_ok.mp fields)
  apply of_field_eq_ok (fun outputs => ∀ output ∈ outputs, SoundDestination output.destination)
    Settings.sound_standard.destinations ?_ own
  intro here value given listed
  exact of_list_eq_ok _ (fun _ _ _ => LogOutput.sound_of_check) listed

theorem CacheSettings.sound_of_check {path : List String} {tree : Tree} {cache : CacheSettings}
    (passed : CacheSettings.check path tree = .ok cache) : 0 ≤ cache.lifetime := by
  obtain ⟨entries, fields⟩ := of_fields_eq_ok passed
  obtain ⟨_, custom, made, -, rfl⟩ := apply_eq_ok.mp fields
  obtain ⟨_, file, begun, -, rfl⟩ := apply_eq_ok.mp made
  obtain ⟨lifetime, store, own, -, rfl⟩ := both_eq_ok.mp begun
  exact of_field_eq_ok (0 ≤ ·) Settings.sound_standard.lifetime
    (fun _ _ _ => lifetime_of_check) own

theorem TransportSettings.sound_of_check {path : List String} {tree : Tree}
    {transport : TransportSettings}
    (passed : TransportSettings.check path tree = .ok transport) :
    (OrderedMap.keys transport.headers).Nodup := by
  obtain ⟨entries, fields⟩ := of_fields_eq_ok passed
  obtain ⟨headers, timeout, own, -, rfl⟩ := both_eq_ok.mp fields
  exact of_field_eq_ok (fun headers => (OrderedMap.keys headers).Nodup)
    Settings.sound_standard.headers (fun _ _ _ => texts_keys_nodup) own

/-- What comes out of a check is sound. -/
theorem Settings.sound_of_check {homes : Homes} {tree : Tree} {settings : Settings}
    (passed : Settings.check homes tree = .ok settings) : settings.Sound := by
  obtain ⟨entries, fields⟩ := of_fields_eq_ok passed
  obtain ⟨make, transport, made, sends, rfl⟩ := apply_eq_ok.mp (settled_eq_ok.mp fields)
  obtain ⟨logging, cache, logs, stores, rfl⟩ := both_eq_ok.mp made
  exact ⟨of_field_eq_ok _ Settings.sound_standard.destinations
      (fun _ _ _ => LogSettings.sound_of_check) logs,
    of_field_eq_ok (0 ≤ ·.lifetime) Settings.sound_standard.lifetime
      (fun _ _ _ => CacheSettings.sound_of_check) stores,
    of_field_eq_ok (fun transport => (OrderedMap.keys transport.headers).Nodup)
      Settings.sound_standard.headers (fun _ _ _ => TransportSettings.sound_of_check) sends⟩

/-! ## Checking what was checked -/

theorem checkDestination_sound {destination : String} (sound : SoundDestination destination)
    (homes : Homes) (path : List String) :
    checkDestination homes path (.text destination) = .ok destination := by
  by_cases standard : destination = "stderr" ∨ destination = "stdout"
  · simp [checkDestination, Check.text, Tree.text, standard, bind, Except.bind, pure, Except.pure]
  · obtain ⟨file, tidy, absolute, shown⟩ := sound.resolve_left standard
    have read : FilePath.ofText destination = file := by
      rw [← shown]
      exact tidy.ofText_toText absolute
    have rooted : file.root.isEmpty = false := by simpa [FilePath.isAbsolute] using absolute
    have kept : file.expandHome homes = some file := by
      simp [FilePath.expandHome, FilePath.homeName?, rooted]
    simp [checkDestination, Check.text, Tree.text, standard, read, kept, absolute, shown, bind,
      Except.bind, pure, Except.pure]

theorem checkLifetime_sound {lifetime : Int} (sound : 0 ≤ lifetime) (path : List String) :
    checkLifetime path (.scalar (.int lifetime)) = .ok lifetime := by
  have whole : ¬ lifetime < 0 := by omega
  simp [checkLifetime, Check.whole, whole, bind, Except.bind, pure, Except.pure]

theorem choice_level (path : List String) (level : LogLevel) :
    choice LogLevel.choices path (.text level.name) = .ok level := by
  cases level <;> rfl

theorem choice_format (path : List String) (format : LogFormat) :
    choice LogFormat.choices path (.text format.name) = .ok format := by
  cases format <;> rfl

theorem choice_store (path : List String) (store : StoreKind) :
    choice StoreKind.choices path (.text store.name) = .ok store := by
  cases store <;> rfl

theorem optional_text (path : List String) (value : Option String) :
    optional Check.text path (optionalText value) = .ok value := by
  cases value <;> rfl

theorem optional_level (path : List String) (level : Option LogLevel) :
    optional (choice LogLevel.choices) path (optionalText (level.map LogLevel.name)) =
      .ok level := by
  cases level with
  | none => rfl
  | some level => cases level <;> rfl

theorem LogOutput.check_toTree {output : LogOutput} (sound : SoundDestination output.destination)
    (homes : Homes) (path : List String) :
    LogOutput.check homes path output.toTree = .ok output := by
  have fields : LogOutput.check homes path output.toTree =
      apply (both LogOutput.mk
        (choice LogFormat.choices (path ++ ["format"]) (.text output.format.name))
        (checkDestination homes (path ++ ["destination"]) (.text output.destination)))
        (optional (choice LogLevel.choices) (path ++ ["level"])
          (optionalText (output.level.map LogLevel.name))) := rfl
  rw [fields, choice_format, checkDestination_sound sound, optional_level]
  rfl

theorem list_outputs {outputs : List LogOutput}
    (sound : ∀ output ∈ outputs, SoundDestination output.destination) (homes : Homes)
    (path : List String) :
    list (LogOutput.check homes) path (.list (outputs.map LogOutput.toTree)) = .ok outputs :=
  list_map_eq_ok outputs (fun _ member here => LogOutput.check_toTree (sound _ member) homes here)
    path

theorem texts_headers {headers : OrderedMap String String}
    (unique : (OrderedMap.keys headers).Nodup) (path : List String) :
    Check.texts path (.ofEntries (headers.map fun entry => (entry.1, Tree.text entry.2))) =
      .ok headers := by
  have written : (headers.map fun entry => (entry.1, Tree.text entry.2)).map
      (fun entry => (Scalar.text entry.1, entry.2)) =
        headers.map fun entry => (Scalar.text entry.1, Tree.text entry.2) := List.map_map
  simp only [Check.texts, Tree.ofEntries, Tree.bare, written]
  refine (congrArg (Except.map OrderedMap.ofList) (all_map_eq_ok headers ?_)).trans
    (congrArg Except.ok (OrderedMap.ofList_of_nodup unique))
  intro entry member
  rfl

theorem optional_timeout (path : List String) (timeout : Option Binary64) :
    optional real path ((timeout.map fun value => Tree.scalar (.float value)).getD .null) =
      .ok timeout := by
  cases timeout <;> rfl

theorem LogSettings.check_toTree {logging : LogSettings}
    (sound : ∀ output ∈ logging.outputs, SoundDestination output.destination) (homes : Homes)
    (path : List String) : LogSettings.check homes path logging.toTree = .ok logging := by
  have fields : LogSettings.check homes path logging.toTree =
      settled (both LogSettings.mk
        (choice LogLevel.choices (path ++ ["level"]) (.text logging.level.name))
        (list (LogOutput.check homes) (path ++ ["outputs"])
          (.list (logging.outputs.map LogOutput.toTree)))) := rfl
  rw [fields, choice_level, list_outputs sound]
  rfl

theorem CacheSettings.check_toTree {cache : CacheSettings} (sound : 0 ≤ cache.lifetime)
    (path : List String) : CacheSettings.check path cache.toTree = .ok cache := by
  have fields : CacheSettings.check path cache.toTree =
      apply (apply (both CacheSettings.mk
        (checkLifetime (path ++ ["default_cache_time"]) (.scalar (.int cache.lifetime)))
        (choice StoreKind.choices (path ++ ["cache_type"]) (.text cache.store.name)))
        (optional Check.text (path ++ ["cache_path"]) (optionalText cache.path)))
        (optional Check.text (path ++ ["user_defined_id"]) (optionalText cache.custom)) := rfl
  rw [fields, checkLifetime_sound sound, choice_store, optional_text, optional_text]
  rfl

theorem TransportSettings.check_toTree {transport : TransportSettings}
    (sound : (OrderedMap.keys transport.headers).Nodup) (path : List String) :
    TransportSettings.check path transport.toTree = .ok transport := by
  have fields : TransportSettings.check path transport.toTree =
      both TransportSettings.mk
        (Check.texts (path ++ ["headers"])
          (.ofEntries (transport.headers.map fun entry => (entry.1, Tree.text entry.2))))
        (optional real (path ++ ["timeout_sec"])
          ((transport.timeout.map fun value => Tree.scalar (.float value)).getD .null)) := rfl
  rw [fields, texts_headers sound, optional_timeout]
  rfl

/-- Sound settings pass the check as they are. -/
theorem Settings.Sound.check_toTree {settings : Settings} (sound : settings.Sound)
    (homes : Homes) : Settings.check homes settings.toTree = .ok settings := by
  have fields : Settings.check homes settings.toTree =
      settled (apply (both Settings.mk
        (LogSettings.check homes ["logging"] settings.logging.toTree)
        (CacheSettings.check ["cache"] settings.cache.toTree))
        (TransportSettings.check ["transport"] settings.transport.toTree)) := rfl
  rw [fields, LogSettings.check_toTree sound.destinations, CacheSettings.check_toTree sound.lifetime,
    TransportSettings.check_toTree sound.headers]
  rfl

/-- Checking twice is checking once. -/
theorem Settings.check_again {homes : Homes} {tree : Tree} {settings : Settings}
    (passed : Settings.check homes tree = .ok settings) :
    Settings.check homes settings.toTree = .ok settings :=
  (Settings.sound_of_check passed).check_toTree homes

end GraphCache

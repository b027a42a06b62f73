import GraphCache.Proofs.Filings
import GraphCache.Proofs.Invalidation

/-! Calls of one client that are open at the same time. Each takes a step before its request and
a step after its answer, and between the two the others take steps of their own on the same
store. A mutation empties the store in its first step. From then on the store holds exactly
what other calls file in their last steps. That keeps out every call that ended before, but
not one that was answered before and ends after: it files an answer older than the
mutation. -/
namespace GraphCache

/-- What happens next: a call takes its first step, the server answers its request, or it takes
its last step. -/
inductive Turn (ι τ : Type) where
  | opens (caller : ι) (now : τ)
  | answers (caller : ι) (delivery : Delivery)
  | closes (caller : ι) (now : τ)

/-- How far a call has come. -/
inductive Progress (τ : Type) where
  | unbegun
  | sent (opening : Opening τ)
  | answered (opening : Opening τ) (delivery : Delivery)
  | ended (result : Except CallError Answer)

/-- The call whose turn it is. -/
def Turn.caller {ι τ : Type} : Turn ι τ → ι
  | opens caller _ => caller
  | answers caller _ => caller
  | closes caller _ => caller

/-- The number of turns that a call has taken before this one. -/
def Turn.stage {ι τ : Type} : Turn ι τ → Nat
  | opens _ _ => 0
  | answers _ _ => 1
  | closes _ _ => 2

/-- The number of turns that a call has taken. -/
def Progress.stage {τ : Type} : Progress τ → Nat
  | unbegun => 0
  | sent _ => 1
  | answered _ _ => 2
  | ended _ => 3

/-- The store that calls share, and how far each of them has come. -/
structure Traffic (ι τ : Type) where
  store : Store τ
  progress : ι → Progress τ

/-- What a call has filed in its last step. -/
structure Filed (ι τ : Type) where
  caller : ι
  time : τ
  batch : Batch τ

/-- What has been filed, without the callers. -/
def Filed.dated {ι τ : Type} (filed : Filed ι τ) : τ × Batch τ := (filed.time, filed.batch)

variable {ι τ : Type} [DecidableEq ι] [Instant τ]

/-- How the answer to a request is to be filed, if it is. -/
def Plan.deposit? : Plan τ → Option (Json → Deposit τ)
  | .insert deposit _ => some deposit
  | .query deposit _ _ _ => some deposit
  | .pass => none
  | .wrap => none

/-- The batch that is filed when a call takes its last step, if one is. -/
def Opening.batch? (opening : Opening τ) (settings : StoreSettings τ) (delivery : Delivery)
    (now : τ) : Option (Batch τ) :=
  match delivery.answer opening.request.endpoint with
  | .error _ => none
  | .ok answer => opening.plan.deposit?.bind fun deposit =>
    ((deposit (Client.dataOf answer)).batchAt settings now).toOption

/-! ## Turns -/

namespace Traffic

/-- Nothing has begun. -/
def start (store : Store τ) : Traffic ι τ := ⟨store, fun _ => .unbegun⟩

/-- The traffic after a turn, unless it is nobody's turn: a call opens once, is answered once it
has been sent, and closes once it has been answered. -/
def next (client : Client τ) (calls : ι → Call) (traffic : Traffic ι τ) :
    Turn ι τ → Option (Traffic ι τ)
  | .opens caller now =>
    match traffic.progress caller with
    | .unbegun =>
      let outcome := client.begin (calls caller) traffic.store now
      let come : Progress τ :=
        match outcome.result with
        | .ok opening => .sent opening
        | .error cause => .ended (.error cause)
      some ⟨outcome.store, Function.update traffic.progress caller come⟩
    | _ => none
  | .answers caller delivery =>
    match traffic.progress caller with
    | .sent opening => some { traffic with
        progress := Function.update traffic.progress caller
          (.answered opening (delivery.through opening.request)) }
    | _ => none
  | .closes caller now =>
    match traffic.progress caller with
    | .answered opening delivery =>
      let outcome := client.finish opening delivery traffic.store now
      some ⟨outcome.store, Function.update traffic.progress caller (.ended outcome.result)⟩
    | _ => none

/-- The traffic after some turns, if each of them could be taken. -/
def run (client : Client τ) (calls : ι → Call) : Traffic ι τ → List (Turn ι τ) →
    Option (Traffic ι τ)
  | traffic, [] => some traffic
  | traffic, turn :: rest => (traffic.next client calls turn).bind fun after =>
    after.run client calls rest

/-- What a turn files: the batch of a call that closes. -/
def files? (client : Client τ) (traffic : Traffic ι τ) : Turn ι τ → Option (Filed ι τ)
  | .closes caller now =>
    match traffic.progress caller with
    | .answered opening delivery =>
      (opening.batch? client.filing delivery now).map fun batch => ⟨caller, now, batch⟩
    | _ => none
  | _ => none

/-- What some turns file, in order. -/
def filings (client : Client τ) (calls : ι → Call) : Traffic ι τ → List (Turn ι τ) →
    List (Filed ι τ)
  | _, [] => []
  | traffic, turn :: rest =>
    match traffic.next client calls turn with
    | some after => (traffic.files? client turn).toList ++ after.filings client calls rest
    | none => []

variable {client : Client τ} {calls : ι → Call} {traffic after last : Traffic ι τ}

theorem run_cons_iff {turn : Turn ι τ} {rest : List (Turn ι τ)} :
    traffic.run client calls (turn :: rest) = some last ↔
      ∃ after, traffic.next client calls turn = some after ∧
        after.run client calls rest = some last := by
  rw [run, Option.bind_eq_some_iff]

theorem run_append_iff {early late : List (Turn ι τ)} :
    traffic.run client calls (early ++ late) = some last ↔
      ∃ middle, traffic.run client calls early = some middle ∧
        middle.run client calls late = some last := by
  induction early generalizing traffic with
  | nil => simp [run]
  | cons turn rest ih =>
    rw [List.cons_append, run_cons_iff]
    constructor
    · rintro ⟨after, taken, ran⟩
      obtain ⟨middle, before, later⟩ := ih.mp ran
      exact ⟨middle, run_cons_iff.mpr ⟨after, taken, before⟩, later⟩
    · rintro ⟨middle, before, later⟩
      obtain ⟨after, taken, ran⟩ := run_cons_iff.mp before
      exact ⟨after, taken, ih.mpr ⟨middle, ran, later⟩⟩

omit [DecidableEq ι] in
theorem mem_files? {turn : Turn ι τ} {filed : Filed ι τ}
    (files : traffic.files? client turn = some filed) : turn = .closes filed.caller filed.time := by
  cases turn with
  | opens caller now => cases files
  | answers caller delivery => cases files
  | closes caller now =>
    rw [files?] at files
    split at files
    · obtain ⟨batch, _, rfl⟩ := Option.map_eq_some_iff.mp files
      rfl
    · cases files

/-- Whatever some turns file, one of them files it. -/
theorem exists_of_mem_filings {turns : List (Turn ι τ)} {filed : Filed ι τ}
    (member : filed ∈ traffic.filings client calls turns) :
    ∃ early middle late, turns = early ++ .closes filed.caller filed.time :: late ∧
      traffic.run client calls early = some middle ∧
      middle.files? client (.closes filed.caller filed.time) = some filed := by
  induction turns generalizing traffic with
  | nil => cases member
  | cons turn rest ih =>
    rw [filings] at member
    split at member
    · rename_i after taken
      rcases List.mem_append.mp member with now | later
      · rw [Option.mem_toList] at now
        obtain rfl := mem_files? now
        exact ⟨[], traffic, rest, rfl, rfl, now⟩
      · obtain ⟨early, middle, late, rfl, ran, files⟩ := ih later
        exact ⟨turn :: early, middle, late, rfl, run_cons_iff.mpr ⟨after, taken, ran⟩, files⟩
    · cases member

theorem next_opens {caller : ι} {now : τ} (unbegun : traffic.progress caller = .unbegun)
    {opening : Opening τ}
    (opened : (client.begin (calls caller) traffic.store now).result = .ok opening) :
    traffic.next client calls (.opens caller now) =
      some ⟨(client.begin (calls caller) traffic.store now).store,
        Function.update traffic.progress caller (.sent opening)⟩ := by
  simp [next, unbegun, opened]

theorem next_answers {caller : ι} {delivery : Delivery} {opening : Opening τ}
    (sent : traffic.progress caller = .sent opening) :
    traffic.next client calls (.answers caller delivery) =
      some ⟨traffic.store, Function.update traffic.progress caller
        (.answered opening (delivery.through opening.request))⟩ := by
  simp [next, sent]

theorem next_closes {caller : ι} {now : τ} {opening : Opening τ} {delivery : Delivery}
    (answered : traffic.progress caller = .answered opening delivery) :
    traffic.next client calls (.closes caller now) =
      some ⟨(client.finish opening delivery traffic.store now).store,
        Function.update traffic.progress caller
          (.ended (client.finish opening delivery traffic.store now).result)⟩ := by
  simp [next, answered]

/-- A call whose turns follow one another does to the store what a call in one go does. -/
theorem run_alone {caller : ι} (unbegun : traffic.progress caller = .unbegun) {now : τ}
    {opening : Opening τ}
    (opened : (client.begin (calls caller) traffic.store now).result = .ok opening)
    (delivery : Delivery) (arrival : τ) :
    ∃ last, traffic.run client calls
        [.opens caller now, .answers caller delivery, .closes caller arrival] = some last ∧
      last.store =
        (client.step ⟨traffic.store, now⟩ (.call (calls caller) delivery arrival)).2.store := by
  refine ⟨_, run_cons_iff.mpr ⟨_, next_opens unbegun opened, run_cons_iff.mpr
    ⟨_, next_answers (Function.update_self ..), run_cons_iff.mpr
      ⟨_, next_closes (Function.update_self ..), rfl⟩⟩⟩, ?_⟩
  rw [Client.step_of_begun opened]

/-- All that a turn can be. -/
theorem next_cases {turn : Turn ι τ} (taken : traffic.next client calls turn = some after) :
    (∃ caller now, turn = .opens caller now ∧ traffic.progress caller = .unbegun ∧
      after.store = (client.begin (calls caller) traffic.store now).store ∧
      after.progress = Function.update traffic.progress caller
        (match (client.begin (calls caller) traffic.store now).result with
        | .ok opening => .sent opening
        | .error cause => .ended (.error cause))) ∨
    (∃ caller delivery opening, turn = .answers caller delivery ∧
      traffic.progress caller = .sent opening ∧ after.store = traffic.store ∧
      after.progress = Function.update traffic.progress caller
        (.answered opening (delivery.through opening.request))) ∨
    ∃ caller now opening delivery, turn = .closes caller now ∧
      traffic.progress caller = .answered opening delivery ∧
      after.store = (client.finish opening delivery traffic.store now).store ∧
      after.progress = Function.update traffic.progress caller
        (.ended (client.finish opening delivery traffic.store now).result) := by
  cases turn with
  | opens caller now =>
    rw [next] at taken
    split at taken
    · rename_i unbegun
      cases taken
      exact .inl ⟨caller, now, rfl, unbegun, rfl, rfl⟩
    · cases taken
  | answers caller delivery =>
    rw [next] at taken
    split at taken
    · rename_i opening sent
      cases taken
      exact .inr (.inl ⟨caller, delivery, opening, rfl, sent, rfl, rfl⟩)
    · cases taken
  | closes caller now =>
    rw [next] at taken
    split at taken
    · rename_i opening delivery answered
      cases taken
      exact .inr (.inr ⟨caller, now, opening, delivery, rfl, answered, rfl, rfl⟩)
    · cases taken

end Traffic

/-! ## Steps of single calls -/

namespace Client

/-- A call that is no mutation, whether or not its answer can be cached. -/
def OnlyReads (client : Client τ) (asked : Call) : Prop :=
  ∀ settings document, client.settings.withOptions client.homes asked.options = .ok settings →
    readQuery asked.query = .ok document → (document.compile settings.cache.custom).route ≠ .mutation

/-- A call with a mutation that is not known to insert. -/
structure Invalidates (client : Client τ) (asked : Call) (settings : Settings)
    (document : Document) : Prop where
  options : client.settings.withOptions client.homes asked.options = .ok settings
  reads : readQuery asked.query = .ok document
  mutation : (document.compile settings.cache.custom).route = .mutation
  others : ¬Inserts asked (document.compile settings.cache.custom)

variable {client : Client τ} {asked : Call}

theorem begin_onlyReads (reads : client.OnlyReads asked) (store : Store τ) (now : τ) :
    (client.begin asked store now).store = store := by
  rw [begin]
  split
  · rfl
  · rename_i settings options
    split
    · rfl
    · rename_i document read
      dsimp only
      split
      · rw [openQuery]
        split <;> rfl
      · rename_i mutation
        exact absurd mutation (reads settings document options read)
      · rfl

/-- The first step of a mutation that goes on empties the store. -/
theorem begin_invalidates {settings : Settings} {document : Document}
    (invalidates : client.Invalidates asked settings document) {store : Store τ} {now : τ}
    {opening : Opening τ} (opened : (client.begin asked store now).result = .ok opening) :
    (client.begin asked store now).store = store.kind.empty ∧ opening.plan = .wrap := by
  rw [begin_of_mutation invalidates.options invalidates.reads invalidates.mutation] at opened ⊢
  exact openMutation_ok opened invalidates.others

/-- The last step of a call writes the batch of its answer, or leaves the store as it is. -/
theorem finish_files {store : Store τ} (ready : store.Open) (opening : Opening τ)
    (delivery : Delivery) (now : τ) :
    (opening.batch? client.filing delivery now = none ∧
      (client.finish opening delivery store now).store = store) ∨
    ∃ batch, opening.batch? client.filing delivery now = some batch ∧
      store.write now batch = .ok (client.finish opening delivery store now).store := by
  obtain ⟨request, plan⟩ := opening
  have filing (deposit : Json → Deposit τ) (answer : Answer) :
      (((deposit (dataOf answer)).batchAt client.filing now).toOption = none ∧
        (client.file deposit answer store now).store = store) ∨
      ∃ batch, ((deposit (dataOf answer)).batchAt client.filing now).toOption = some batch ∧
        store.write now batch = .ok (client.file deposit answer store now).store := by
    cases made : (deposit (dataOf answer)).batchAt client.filing now with
    | error cause =>
      exact .inl ⟨rfl, by simp [file, Store.deposit_malformed store made]⟩
    | ok batch =>
      obtain ⟨filed, done, written⟩ := Store.deposit_made ready made
      exact .inr ⟨batch, rfl, by simpa [file, done] using written⟩
  cases delivered : delivery.answer request.endpoint with
  | error cause => exact .inl ⟨by simp [Opening.batch?, delivered], by simp [finish, delivered]⟩
  | ok answer =>
    simp only [Opening.batch?, finish, delivered]
    cases plan with
    | pass => exact .inl ⟨rfl, rfl⟩
    | wrap => exact .inl ⟨rfl, rfl⟩
    | insert deposit mutation =>
      have kept : (client.carryOut (.insert deposit mutation) answer store now).store =
          (client.file deposit answer store now).store := by
        rw [carryOut]
        split <;> rename_i same <;> rw [same]
      rw [kept]
      exact filing deposit answer
    | query deposit prototype custom cached =>
      have kept : (client.carryOut (.query deposit prototype custom cached) answer store now).store =
          (client.file deposit answer store now).store := by
        rw [carryOut]
        split <;> rename_i same <;> rw [same]
      rw [kept]
      exact filing deposit answer

end Client

/-! ## Runs of turns -/

namespace Traffic

variable {client : Client τ} {calls : ι → Call} {traffic after last : Traffic ι τ}

/-- A turn that empties nothing adds to what the store holds just what it files. -/
theorem next_holds {kind : Keeping} {batches : List (τ × Batch τ)} {turn : Turn ι τ}
    (holds : traffic.store.Holds kind batches) (taken : traffic.next client calls turn = some after)
    (spared : ∀ caller now, turn = .opens caller now → client.OnlyReads (calls caller)) :
    after.store.Holds kind (batches ++ (traffic.files? client turn).toList.map Filed.dated) := by
  obtain ⟨caller, now, rfl, _, store, _⟩ | ⟨caller, delivery, opening, rfl, _, store, _⟩ |
    ⟨caller, now, opening, delivery, rfl, answered, store, _⟩ := next_cases taken
  · rw [store, Client.begin_onlyReads (spared caller now rfl)]
    simpa [files?] using holds
  · rw [store]
    simpa [files?] using holds
  · rw [store]
    obtain ⟨nothing, kept⟩ | ⟨batch, filed, written⟩ :=
      client.finish_files holds.ready opening delivery now
    · rw [kept]
      simpa [files?, answered, nothing] using holds
    · simpa [files?, answered, filed, Filed.dated] using holds.write written

/-- What a store holds after some turns in which nothing empties it. -/
theorem run_holds {kind : Keeping} {batches : List (τ × Batch τ)} {turns : List (Turn ι τ)}
    (holds : traffic.store.Holds kind batches) (ran : traffic.run client calls turns = some last)
    (spared : ∀ caller now, .opens caller now ∈ turns → client.OnlyReads (calls caller)) :
    last.store.Holds kind
      (batches ++ (traffic.filings client calls turns).map Filed.dated) := by
  induction turns generalizing traffic batches with
  | nil =>
    cases ran
    simpa [filings] using holds
  | cons turn rest ih =>
    obtain ⟨after, taken, later⟩ := run_cons_iff.mp ran
    have next := next_holds holds taken fun caller now same =>
      spared caller now (same ▸ List.mem_cons_self)
    have all := ih next later fun caller now member =>
      spared caller now (List.mem_cons_of_mem _ member)
    simpa [filings, taken] using all

/-- A call has been answered since a turn was taken, or it was before. -/
theorem next_answered {turn : Turn ι τ} (taken : traffic.next client calls turn = some after)
    {caller : ι} {opening : Opening τ} {delivery : Delivery}
    (answered : after.progress caller = .answered opening delivery) :
    (∃ sent, turn = .answers caller sent) ∨ traffic.progress caller = .answered opening delivery := by
  obtain ⟨other, now, rfl, _, _, progress⟩ | ⟨other, sent, _, rfl, _, _, progress⟩ |
    ⟨other, now, _, _, rfl, _, _, progress⟩ := next_cases taken
  all_goals
    rw [progress] at answered
    by_cases same : caller = other
    · subst same
      rw [Function.update_self] at answered
      first
        | exact .inl ⟨sent, rfl⟩
        | cases answered
        | split at answered <;> cases answered
    · rw [Function.update_of_ne same] at answered
      exact .inr answered

theorem run_answered {turns : List (Turn ι τ)} (ran : traffic.run client calls turns = some last)
    {caller : ι} {opening : Opening τ} {delivery : Delivery}
    (answered : last.progress caller = .answered opening delivery) :
    (∃ sent, .answers caller sent ∈ turns) ∨
      traffic.progress caller = .answered opening delivery := by
  induction turns generalizing traffic with
  | nil =>
    cases ran
    exact .inr answered
  | cons turn rest ih =>
    obtain ⟨after, taken, later⟩ := run_cons_iff.mp ran
    rcases ih later with ⟨sent, member⟩ | before
    · exact .inl ⟨sent, List.mem_cons_of_mem _ member⟩
    · rcases next_answered taken before with ⟨sent, rfl⟩ | earlier
      · exact .inl ⟨sent, List.mem_cons_self⟩
      · exact .inr earlier

/-- What a call files in some turns was answered in them, or before. -/
theorem answers_of_mem_filings {turns : List (Turn ι τ)} {filed : Filed ι τ}
    (member : filed ∈ traffic.filings client calls turns) :
    (∃ sent, .answers filed.caller sent ∈ turns) ∨
      ∃ opening delivery, traffic.progress filed.caller = .answered opening delivery := by
  obtain ⟨early, middle, late, rfl, ran, files⟩ := exists_of_mem_filings member
  rw [files?] at files
  split at files
  · rename_i opening delivery answered
    rcases run_answered ran answered with ⟨sent, inside⟩ | before
    · exact .inl ⟨sent, List.mem_append_left _ inside⟩
    · exact .inr ⟨opening, delivery, before⟩
  · cases files

/-- A call that has begun and will file nothing. -/
def Silent : Progress τ → Prop
  | .unbegun => False
  | .sent opening => opening.plan = .wrap
  | .answered opening _ => opening.plan = .wrap
  | .ended _ => True

theorem next_silent {turn : Turn ι τ} (taken : traffic.next client calls turn = some after)
    {caller : ι} (silent : Silent (traffic.progress caller)) : Silent (after.progress caller) := by
  obtain ⟨other, now, rfl, before, _, progress⟩ | ⟨other, sent, opening, rfl, before, _, progress⟩ |
    ⟨other, now, opening, delivery, rfl, before, _, progress⟩ := next_cases taken
  · rcases eq_or_ne caller other with rfl | apart
    · rw [before] at silent
      exact silent.elim
    · rwa [progress, Function.update_of_ne apart]
  · rcases eq_or_ne caller other with rfl | apart
    · rw [before] at silent
      rw [progress, Function.update_self]
      exact silent
    · rwa [progress, Function.update_of_ne apart]
  · rcases eq_or_ne caller other with rfl | apart
    · rw [progress, Function.update_self]
      trivial
    · rwa [progress, Function.update_of_ne apart]

theorem run_silent {turns : List (Turn ι τ)} (ran : traffic.run client calls turns = some last)
    {caller : ι} (silent : Silent (traffic.progress caller)) : Silent (last.progress caller) := by
  induction turns generalizing traffic with
  | nil =>
    cases ran
    exact silent
  | cons turn rest ih =>
    obtain ⟨after, taken, later⟩ := run_cons_iff.mp ran
    exact ih later (next_silent taken silent)

/-- A silent call files nothing. -/
theorem caller_ne_of_silent {turns : List (Turn ι τ)} {caller : ι}
    (silent : Silent (traffic.progress caller)) {filed : Filed ι τ}
    (member : filed ∈ traffic.filings client calls turns) : filed.caller ≠ caller := by
  rintro rfl
  obtain ⟨early, middle, late, rfl, ran, files⟩ := exists_of_mem_filings member
  have still := run_silent ran silent
  rw [files?] at files
  split at files
  · rename_i opening delivery answered
    rw [answered] at still
    have plan : opening.plan = .wrap := still
    rw [Opening.batch?, plan] at files
    split at files <;> cases files
  · cases files

/-- Every turn comes at its stage, and no call goes back. -/
theorem next_stage {turn : Turn ι τ} (taken : traffic.next client calls turn = some after) :
    (traffic.progress turn.caller).stage = turn.stage ∧
      turn.stage < (after.progress turn.caller).stage ∧
      ∀ caller, (traffic.progress caller).stage ≤ (after.progress caller).stage := by
  have kept {come : Progress τ} (forward : turn.stage < come.stage)
      (before : (traffic.progress turn.caller).stage = turn.stage)
      (progress : after.progress = Function.update traffic.progress turn.caller come) :
      (traffic.progress turn.caller).stage = turn.stage ∧
        turn.stage < (after.progress turn.caller).stage ∧
        ∀ caller, (traffic.progress caller).stage ≤ (after.progress caller).stage := by
    rw [progress]
    refine ⟨before, by rwa [Function.update_self], fun caller => ?_⟩
    rcases eq_or_ne caller turn.caller with rfl | apart
    · rw [Function.update_self]
      omega
    · rw [Function.update_of_ne apart]
  obtain ⟨caller, now, rfl, before, _, progress⟩ | ⟨caller, sent, opening, rfl, before, _, progress⟩ |
    ⟨caller, now, opening, delivery, rfl, before, _, progress⟩ := next_cases taken
  · refine kept ?_ (congrArg Progress.stage before) progress
    split <;> simp [Turn.stage, Progress.stage]
  · exact kept (by simp [Turn.stage, Progress.stage]) (congrArg Progress.stage before) progress
  · exact kept (by simp [Turn.stage, Progress.stage]) (congrArg Progress.stage before) progress

theorem run_stage {turns : List (Turn ι τ)} (ran : traffic.run client calls turns = some last)
    (caller : ι) : (traffic.progress caller).stage ≤ (last.progress caller).stage := by
  induction turns generalizing traffic with
  | nil =>
    cases ran
    exact Nat.le_refl _
  | cons turn rest ih =>
    obtain ⟨after, taken, later⟩ := run_cons_iff.mp ran
    exact Nat.le_trans ((next_stage taken).2.2 caller) (ih later)

/-- A turn that is taken stands between two stages of its call. -/
theorem stage_of_mem {turns : List (Turn ι τ)} (ran : traffic.run client calls turns = some last)
    {turn : Turn ι τ} (member : turn ∈ turns) :
    (traffic.progress turn.caller).stage ≤ turn.stage ∧
      turn.stage < (last.progress turn.caller).stage := by
  obtain ⟨early, late, rfl⟩ := List.append_of_mem member
  obtain ⟨middle, before, later⟩ := run_append_iff.mp ran
  obtain ⟨after, taken, rest⟩ := run_cons_iff.mp later
  obtain ⟨here, forward, _⟩ := next_stage taken
  have start := run_stage before turn.caller
  have finish := run_stage rest turn.caller
  omega

end Traffic

/-! ## A mutation among queries -/

/-- After a mutation that is not known to insert has begun, the store holds exactly what other
calls file in their last steps from then on, whatever it held before. What they file was
answered in that time too, unless the server had answered before the mutation began: only a
call that was in flight then brings in something older. -/
theorem Client.holds_late_filings (client : Client τ) (calls : ι → Call) {mutation : ι}
    {settings : Settings} {document : Document}
    (invalidates : client.Invalidates (calls mutation) settings document)
    (others : ∀ caller, caller ≠ mutation → client.OnlyReads (calls caller)) (store : Store τ)
    (early late : List (Turn ι τ)) {begun ended : τ} {last : Traffic ι τ}
    (ran : (Traffic.start store).run client calls (early ++ .opens mutation begun :: late) =
      some last)
    (completed : .closes mutation ended ∈ late) :
    ∃ traffic cleared, (Traffic.start store).run client calls early = some traffic ∧
      traffic.next client calls (.opens mutation begun) = some cleared ∧
      last.store.Holds traffic.store.kind
        ((cleared.filings client calls late).map Filed.dated) ∧
      ∀ filed ∈ cleared.filings client calls late, filed.caller ≠ mutation ∧
        .closes filed.caller filed.time ∈ late ∧
        ((∃ sent, .answers filed.caller sent ∈ late) ↔
          ∀ sent, .answers filed.caller sent ∉ early) := by
  obtain ⟨traffic, before, later⟩ := Traffic.run_append_iff.mp ran
  obtain ⟨cleared, taken, after⟩ := Traffic.run_cons_iff.mp later
  refine ⟨traffic, cleared, before, taken, ?_⟩
  obtain ⟨_, _, same, _, emptying, progress⟩ | ⟨_, _, _, same, _⟩ | ⟨_, _, _, _, same, _⟩ :=
    Traffic.next_cases taken <;> cases same
  obtain ⟨opening, opened⟩ : ∃ opening,
      (client.begin (calls mutation) traffic.store begun).result = .ok opening := by
    cases result : (client.begin (calls mutation) traffic.store begun).result with
    | ok opening => exact ⟨opening, rfl⟩
    | error cause =>
      have stage := (Traffic.stage_of_mem after completed).1
      rw [progress, result, Turn.caller, Function.update_self] at stage
      simp [Progress.stage, Turn.stage] at stage
  rw [opened] at progress
  obtain ⟨emptied, plan⟩ := begin_invalidates invalidates opened
  have silent : Traffic.Silent (cleared.progress mutation) := by
    rw [progress, Function.update_self]
    exact plan
  have empty : cleared.store.Holds traffic.store.kind [] := by
    rw [emptying, emptied]
    exact Store.holds_empty _
  constructor
  · refine Traffic.run_holds empty after fun caller now member => others caller ?_
    rintro rfl
    have stage := (Traffic.stage_of_mem after member).1
    rw [progress, Turn.caller, Function.update_self] at stage
    simp [Progress.stage, Turn.stage] at stage
  · intro filed member
    obtain ⟨first, middle, rest, same, _⟩ := Traffic.exists_of_mem_filings member
    have apart := Traffic.caller_ne_of_silent silent member
    refine ⟨apart, same ▸ List.mem_append_right _ List.mem_cons_self, ?_, fun fresh => ?_⟩
    · rintro ⟨sent, answered⟩ again old
      have past := (Traffic.stage_of_mem before old).2
      have here := (Traffic.stage_of_mem after answered).1
      rw [progress, Turn.caller, Function.update_of_ne apart] at here
      exact absurd (Nat.lt_of_lt_of_le past here) (Nat.lt_irrefl _)
    · rcases Traffic.answers_of_mem_filings member with late | ⟨opening, delivery, answered⟩
      · exact late
      · rw [progress, Function.update_of_ne apart] at answered
        rcases Traffic.run_answered before answered with ⟨sent, old⟩ | unbegun
        · exact absurd old (fresh sent)
        · cases unbegun

/-! ## A query that is answered before a deletion and ends during it -/

namespace Refill

/-- The deletion of a country, and a query for all countries. -/
def calls (deletes : Bool) : Call := if deletes then Deletion.call else Countries.call

def delivery : Delivery :=
  .answered 200 (Json.print Json.bodyStyle (.object [("data", .object [("countries",
    .array [.object [("id", .int 1), ("name", .string "Peru")]])])]))

/-- Up to the deletion the query is sent and answered. -/
def early : List (Turn Bool Int) := [.opens false 0, .answers false delivery]

/-- When the deletion has begun, the query ends before the deletion does. -/
def late : List (Turn Bool Int) :=
  [.closes false 2, .answers true Deletion.delivery, .closes true 3]

def record : Record Int :=
  ⟨"countries--1", "countries", "1", [("id", .int 1), ("name", .string "Peru")], false, some 602⟩

theorem invalidates :
    Client.standard.Invalidates (calls true) .standard Deletion.document where
  options := rfl
  reads := Deletion.reads
  mutation := by decide
  others := by
    have clear : (Deletion.document.compile none).obstacle = none := by decide
    refine Client.not_inserts Deletion.unmarked clear fun root member => ?_
    have roots : Deletion.document.roots = [("deleteCountry", Deletion.field)] := rfl
    rw [roots, List.mem_singleton] at member
    rw [member]
    decide +kernel

theorem onlyReads (caller : Bool) (other : caller ≠ true) :
    Client.standard.OnlyReads (calls caller) := by
  obtain rfl := Bool.eq_false_of_not_eq_true other
  intro settings document options reads route
  cases Except.ok.inj (Countries.queries.options.symm.trans options)
  cases Except.ok.inj (Countries.queries.reads.symm.trans reads)
  cases Countries.queries.eligible.symm.trans route

/-- Nothing stands in the way of the request. -/
theorem unrefused : Countries.opening.request.refusal? = none := by
  have same : Countries.opening.request.refusal? = Spread.request.refusal? := rfl
  rw [same, Spread.unrefused]

/-- The run goes through. When it has ended, the country is found although the server answered
before the deletion began. -/
theorem ran : ∃ traffic cleared last,
    (Traffic.start Countries.store).run Client.standard calls early = some traffic ∧
      traffic.next Client.standard calls (.opens true 1) = some cleared ∧
      cleared.run Client.standard calls late = some last ∧
      cleared.progress false = .answered Countries.opening delivery ∧
      last.store.lookup 3 "countries" = .ok [record] := by
  have queried : (Client.standard.begin (calls false) Countries.store 0).result =
      .ok Countries.opening := Countries.begun
  have kept : (Client.standard.begin (calls false) Countries.store 0).store = Countries.store :=
    Client.begin_store Countries.queries Countries.store 0
  obtain ⟨notices, opening, begun, opens⟩ := Client.begin_opens invalidates.options
    invalidates.reads Deletion.unmarked
    (show Countries.store.Open by simp [Countries.store, Store.Open]) 1
  have deleted : (Client.standard.begin (calls true) Countries.store 1).result = .ok opening := by
    rw [begun]
  obtain ⟨emptied, plan⟩ := Client.begin_invalidates invalidates deleted
  have through : delivery.through Countries.opening.request = delivery := by
    rw [Delivery.through, unrefused]
  have shown : (Client.standard.finish Countries.opening delivery (.memory .empty) 2).store.lookup 3
      "countries" = .ok [record] := except_ok_of_toOption (by decide +kernel)
  refine ⟨_, _, _,
    Traffic.run_cons_iff.mpr ⟨_, Traffic.next_opens rfl queried, Traffic.run_cons_iff.mpr
      ⟨_, Traffic.next_answers rfl, rfl⟩⟩,
    Traffic.next_opens rfl (by rw [Traffic.start, kept]; exact deleted),
    Traffic.run_cons_iff.mpr ⟨_, Traffic.next_closes rfl, Traffic.run_cons_iff.mpr
      ⟨_, Traffic.next_answers rfl, Traffic.run_cons_iff.mpr ⟨_, Traffic.next_closes rfl, rfl⟩⟩⟩, ?_⟩
  simp only [Traffic.start, kept, emptied, through, Client.finish_wrap plan]
  exact ⟨rfl, shown⟩

end Refill

open Refill in
theorem Client.holds_late_countries :
    ∃ traffic cleared last,
      (Traffic.start Countries.store).run Client.standard calls early = some traffic ∧
        traffic.next Client.standard calls (.opens true 1) = some cleared ∧
        cleared.run Client.standard calls late = some last ∧
        last.store.Holds traffic.store.kind
          ((cleared.filings Client.standard calls late).map Filed.dated) ∧
        ∀ filed ∈ cleared.filings Client.standard calls late, filed.caller = false := by
  obtain ⟨traffic, cleared, last, before, taken, after, _⟩ := ran
  obtain ⟨traffic', cleared', before', taken', holds, each⟩ :=
    Client.standard.holds_late_filings calls invalidates onlyReads Countries.store early late
      (Traffic.run_append_iff.mpr ⟨traffic, before, Traffic.run_cons_iff.mpr ⟨cleared, taken, after⟩⟩)
      (show .closes true 3 ∈ late by simp [late])
  cases before.symm.trans before'
  cases taken.symm.trans taken'
  exact ⟨traffic, cleared, last, before, taken, after, holds, fun filed member =>
    Bool.eq_false_of_not_eq_true (each filed member).1⟩

open Refill in
/-- The store does not hold only what has been answered since the deletion began: the country
is found, and the server had answered before. -/
theorem Client.deletion_lets_country_in :
    ∃ traffic cleared last,
      (Traffic.start Countries.store).run Client.standard calls early = some traffic ∧
        traffic.next Client.standard calls (.opens true 1) = some cleared ∧
        cleared.run Client.standard calls late = some last ∧
        (¬∀ filed ∈ cleared.filings Client.standard calls late,
          ∃ sent, .answers filed.caller sent ∈ late) ∧
        last.store.lookup 3 "countries" = .ok [record] := by
  obtain ⟨traffic, cleared, last, before, taken, after, answered, shown⟩ := ran
  refine ⟨traffic, cleared, last, before, taken, after, fun fresh => ?_, shown⟩
  obtain ⟨batch, filed⟩ := Option.isSome_iff_exists.mp
    (show (Countries.opening.batch? Client.standard.filing delivery 2).isSome by decide +kernel)
  have member : ⟨false, 2, batch⟩ ∈ cleared.filings Client.standard calls late := by
    rw [late, Traffic.filings, Traffic.next_closes answered]
    simp [Traffic.files?, answered, filed]
  obtain ⟨sent, again⟩ := fresh _ member
  simp [late] at again

end GraphCache

import GraphCache.Proofs.RoundTrip
import GraphCache.Proofs.StoreRefinement

/-! What counts as an answer. Only an object in the body of a success should be one, and
everything else a failure of the transport. What is delivered keeps to this unless the request
cannot be made at all, the body lies too deep, or a status that is neither a success nor an error
comes with an object: then the object is taken for an answer and filed. -/
namespace GraphCache

/-- Statuses that tell of success. -/
def isSuccessStatus (status : Int) : Bool := decide (200 ≤ status) && decide (status < 300)

theorem isErrorStatus_of_success {status : Int} (success : isSuccessStatus status = true) :
    isErrorStatus status = false := by
  simp only [isSuccessStatus, Bool.and_eq_true, decide_eq_true_eq] at success
  simp only [isErrorStatus, Bool.and_eq_false_iff, decide_eq_false_iff_not]
  omega

/-- How sending a request ends, to a server that would deliver this. -/
def Request.send (request : Request) (delivery : Delivery) : Except SendError Answer :=
  (delivery.through request).answer request.endpoint

namespace Delivery

/-- The object in the body of a delivery. -/
def Holds (delivery : Delivery) (status : Int) (answer : Answer) : Prop :=
  ∃ body, delivery = .answered status body ∧ Json.readBody body = .ok (.object answer)

/-- An answer is an object in a body, whatever the status, unless it is that of an error. -/
theorem answer_eq_ok_iff {delivery : Delivery} {endpoint : String} {answer : Answer} :
    delivery.answer endpoint = .ok answer ↔
      ∃ status, delivery.Holds status answer ∧ isErrorStatus status = false := by
  cases delivery with
  | failed reason => simp [Delivery.answer, Holds]
  | refused cause => simp [Delivery.answer, Holds]
  | answered status body =>
    cases fails : isErrorStatus status with
    | true => simp [Delivery.answer, Holds, fails]
    | false =>
      rcases read : Json.readBody body with (_ | _) | value
      · simp [Delivery.answer, Holds, fails, readAnswer, read]
      · simp [Delivery.answer, Holds, fails, readAnswer, read]
      · cases value <;> simp [Delivery.answer, Holds, fails, readAnswer, read]

/-- What ends without an answer is a failure of the transport, unless the request cannot be made
or the body lies too deep. -/
theorem answer_error_cases {delivery : Delivery} {endpoint : String} {error : SendError}
    (ended : delivery.answer endpoint = .error error) :
    (∃ cause : Failure, error = .failure cause ∧ cause.family = .transport) ∨
      (∃ cause, delivery = .refused cause) ∨
        ∃ status body nesting, delivery = .answered status body ∧ isErrorStatus status = false ∧
          Json.readBody body = .error (.tooDeep nesting) := by
  cases delivery with
  | failed reason =>
    cases ended
    exact .inl ⟨_, rfl, rfl⟩
  | refused cause => exact .inr (.inl ⟨cause, rfl⟩)
  | answered status body =>
    simp only [Delivery.answer] at ended
    split at ended
    · cases ended
      exact .inl ⟨_, rfl, rfl⟩
    · next other =>
      simp only [readAnswer] at ended
      split at ended
      · next nesting read =>
        exact .inr (.inr ⟨status, body, nesting, rfl, by simpa using other, read⟩)
      · cases ended
        exact .inl ⟨_, rfl, rfl⟩
      · cases ended
      · cases ended
        exact .inl ⟨_, rfl, rfl⟩

/-- What should come of a delivery: the object in the body of a success, and in every other case
a failure of the transport. -/
structure Promised (delivery : Delivery) (ending : Except SendError Answer) : Prop where
  answers : ∀ answer, ending = .ok answer ↔
    ∃ status, delivery.Holds status answer ∧ isSuccessStatus status = true
  failures : ∀ error, ending = .error error →
    ∃ cause : Failure, error = .failure cause ∧ cause.family = .transport

/-- What a delivery must be for this. -/
structure Clear (delivery : Delivery) : Prop where
  /-- The request can be made. -/
  made : ∀ cause, delivery ≠ .refused cause
  /-- A body that is read does not lie too deep. -/
  shallow : ∀ status body nesting, delivery = .answered status body →
    isErrorStatus status = false → Json.readBody body ≠ .error (.tooDeep nesting)
  /-- An object comes with a success or with an error. -/
  settled : ∀ status answer, delivery.Holds status answer → isErrorStatus status = false →
    isSuccessStatus status = true

/-- A delivery ends as promised exactly if it is clear. -/
theorem promised_answer_iff (delivery : Delivery) (endpoint : String) :
    delivery.Promised (delivery.answer endpoint) ↔ delivery.Clear := by
  constructor
  · intro promised
    refine ⟨?_, ?_, ?_⟩
    · rintro cause rfl
      obtain ⟨failure, same, -⟩ := promised.failures _ rfl
      cases same
    · rintro status body nesting rfl other read
      have ended : Delivery.answer endpoint (.answered status body) =
          .error (.tooDeep nesting) := by
        simp [Delivery.answer, other, readAnswer, read]
      obtain ⟨failure, same, -⟩ := promised.failures _ ended
      cases same
    · intro status answer holds other
      obtain ⟨own, held, success⟩ :=
        (promised.answers answer).mp (answer_eq_ok_iff.mpr ⟨status, holds, other⟩)
      obtain ⟨body, rfl, -⟩ := holds
      obtain ⟨_, same, -⟩ := held
      cases same
      exact success
  · intro clear
    refine ⟨fun answer => ?_, fun error ended => ?_⟩
    · rw [answer_eq_ok_iff]
      refine exists_congr fun status => and_congr_right fun holds => ?_
      exact ⟨clear.settled status answer holds, isErrorStatus_of_success⟩
    · obtain failure | ⟨cause, refused⟩ | ⟨status, body, nesting, answered, other, read⟩ :=
        answer_error_cases ended
      · exact failure
      · exact absurd refused (clear.made cause)
      · exact absurd read (clear.shallow status body nesting answered other)

end Delivery

namespace Client

variable {τ : Type} [Instant τ]

/-- The second step of a call leaves the store as it is, or does with an answer what was
planned. -/
theorem finish_store_cases (client : Client τ) (opening : Opening τ) (delivery : Delivery)
    (store : Store τ) (now : τ) :
    (client.finish opening delivery store now).store = store ∨
      ∃ answer, delivery.answer opening.request.endpoint = .ok answer ∧
        (client.finish opening delivery store now).store =
          (client.carryOut opening.plan answer store now).store := by
  unfold finish
  cases delivered : delivery.answer opening.request.endpoint with
  | error error => exact .inl rfl
  | ok answer => exact .inr ⟨answer, rfl, rfl⟩

/-- A call whose first step goes on ends with the second one. -/
theorem run_store_of_begun {client : Client τ} {call : Call} {store : Store τ} {now : τ}
    {opening : Opening τ} (begun : (client.begin call store now).result = .ok opening)
    (delivery : Delivery) :
    (client.run call delivery store now).2.store =
      (client.finish opening (delivery.through opening.request)
        (client.begin call store now).store now).store := by
  unfold run
  split
  · next ended =>
    rw [ended] at begun
    cases begun
  · next notices after own began =>
    rw [began] at begun ⊢
    cases begun
    rfl

/-- One whose first step fails ends there. -/
theorem run_store_of_failed {client : Client τ} {call : Call} {store : Store τ} {now : τ}
    {error : CallError} (failed : (client.begin call store now).result = .error error)
    (delivery : Delivery) :
    (client.run call delivery store now).2.store = (client.begin call store now).store := by
  unfold run
  split
  · next ended => rw [ended]
  · next notices after own began =>
    rw [began] at failed
    cases failed

/-- Sending ends as promised exactly if what is delivered is clear. And a call files nothing
but an answer, an object in a body whose status is none of an error; where the delivery is clear
it is that of a success. -/
theorem sent_promised_iff (client : Client τ) (call : Call) (request : Request)
    (delivery : Delivery) (store : Store τ) (now : τ) :
    ((delivery.through request).Promised (request.send delivery) ↔
      (delivery.through request).Clear) ∧
    ((client.run call delivery store now).2.store = (client.begin call store now).store ∨
      ∃ opening status answer, (client.begin call store now).result = .ok opening ∧
        (delivery.through opening.request).Holds status answer ∧ isErrorStatus status = false ∧
        (client.run call delivery store now).2.store =
          (client.carryOut opening.plan answer (client.begin call store now).store now).store ∧
        ((delivery.through opening.request).Clear → isSuccessStatus status = true)) := by
  refine ⟨Delivery.promised_answer_iff _ _, ?_⟩
  cases begun : (client.begin call store now).result with
  | error error => exact .inl (run_store_of_failed begun delivery)
  | ok opening =>
    have ran := run_store_of_begun begun delivery
    obtain kept | ⟨answer, delivered, filed⟩ := client.finish_store_cases opening
      (delivery.through opening.request) (client.begin call store now).store now
    · exact .inl (ran.trans kept)
    · obtain ⟨status, holds, other⟩ := Delivery.answer_eq_ok_iff.mp delivered
      exact .inr ⟨opening, status, answer, rfl, holds, other, ran.trans filed,
        fun clear => clear.settled status answer holds other⟩

end Client

/-! ## A redirection -/

namespace Redirected

def answer : Answer :=
  [("data", .object [("countries", .array [.object [("id", .int 1), ("name", .string "Peru")]])])]

/-- A country, with the status of a redirection. -/
def delivery : Delivery := .answered 302 (Json.print Json.bodyStyle (.object answer))

def record : Record Int :=
  ⟨"countries--1", "countries", "1", [("id", .int 1), ("name", .string "Peru")], false, some 600⟩

theorem holds : delivery.Holds 302 answer :=
  ⟨_, rfl, except_ok_of_toOption (by decide +kernel)⟩

theorem through : delivery.through Countries.opening.request = delivery := by
  rw [Delivery.through, show Countries.opening.request.refusal? = Spread.request.refusal? from rfl,
    Spread.unrefused]

end Redirected

open Redirected in
/-- A redirection that holds an object is taken for an answer, and the country in it is filed. -/
theorem Client.redirection_files_country :
    isSuccessStatus 302 = false ∧
      ¬(delivery.through Countries.opening.request).Promised
        (Countries.opening.request.send delivery) ∧
      (Client.standard.run Countries.call delivery (.memory .empty) 0).2.store.lookup 1
        "countries" = .ok [record] := by
  refine ⟨rfl, fun promised => ?_, ?_⟩
  · have clear := (Delivery.promised_answer_iff _ _).mp promised
    rw [through] at clear
    cases clear.settled 302 answer holds rfl
  · have begun : (Client.standard.begin Countries.call (.memory .empty) 0).result =
        .ok Countries.opening :=
      (begin_ok_iff Countries.queries).mpr ⟨[], except_ok_of_toOption (by decide +kernel), rfl⟩
    rw [run_store_of_begun begun, begin_store Countries.queries, through]
    exact except_ok_of_toOption (by decide +kernel)

end GraphCache

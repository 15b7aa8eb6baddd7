import Rulebook.Number.Numeral
import Rulebook.Service.Handler

/-! Requests with the responses to them: what such an exchange says about the rules, told from these
two alone. -/
namespace Rulebook

def Value.id? : Value → Option Int
  | .object fields =>
    match fields.lookup "id" with
    | some (.scalar (.integer id)) => some id
    | _ => none
  | _ => none

def Value.field? (key : String) : Value → Option Value
  | .object fields => fields.lookup key
  | _ => none

namespace Route

def updated? : Route → Option Int
  | .resource (.update digits) => some (number digits)
  | _ => none

def held? : Route → Option Int
  | .resource (.rule digits) => some (number digits)
  | _ => none

end Route

namespace Request

def verb (request : Request) : String := request.method.map Char.toUpper

def route (request : Request) : Route := .ofPath request.verb (Target.path request.target)

/-- Asks for a new rule, by a text or by the rules to combine. -/
def Creates (request : Request) : Prop :=
  request.verb = "POST" ∧
    (request.route = .resource .create ∨ request.route = .resource .combine)
  deriving Decidable

def Updates (request : Request) (id : Int) : Prop :=
  request.verb = "PUT" ∧ request.route.updated? = some id
  deriving Decidable

def Deletes (request : Request) (id : Int) : Prop :=
  request.verb = "DELETE" ∧ request.route.held? = some id
  deriving Decidable

def name? (request : Request) : Option String :=
  match request.payload.body with
  | .ok (some (.object fields)) => Action.nameIn? fields
  | _ => none

def get (id : Int) : Request :=
  ⟨"GET", "/api/rules/" ++ String.ofList (Numeral.ofInt id), .empty⟩

def list : Request := ⟨"GET", "/api/rules/", .empty⟩

end Request

namespace Response

def Succeeded (response : Response) : Prop := 200 ≤ response.status ∧ response.status < 300
  deriving Decidable

theorem succeeded_ok (body : Option Value) : Succeeded ⟨200, body⟩ := by
  constructor <;> simp

theorem succeeded_created (body : Option Value) : Succeeded ⟨201, body⟩ := by
  constructor <;> simp

def ids (response : Response) : List Int :=
  match response.body with
  | some (.list items) => items.filterMap Value.id?
  | some body => body.id?.toList
  | none => []

end Response

theorem Row.id?_document (row : Row) (formula : Formula) :
    (row.rule formula).document.id? = some (row.id : Int) := by
  simp [Rule.document, Row.rule, Value.id?]

theorem Row.ids_document (row : Row) (formula : Formula) (status : Nat) :
    Response.ids ⟨status, some (row.rule formula).document⟩ = [(row.id : Int)] := by
  have id := row.id?_document formula
  rw [Rule.document] at id ⊢
  simp [Response.ids, id]

theorem Refusal.not_succeeded (refusal : Refusal) : ¬ refusal.response.Succeeded := by
  rintro ⟨_, below⟩
  revert below
  cases refusal with
  | rule error => cases error <;> simp [Refusal.response, Refusal.status]
  | _ => simp [Refusal.response, Refusal.status]

theorem Refusal.ids_response (refusal : Refusal) : refusal.response.ids = [] := by
  cases message : refusal.message? <;>
    simp [Refusal.response, Response.ids, Value.id?, List.lookup_cons, message]

theorem Route.answers_of_ofPath {method : String} {path : List Char} {found : Resource}
    (routed : ofPath method path = .resource found) : found.answers method = true := by
  unfold ofPath at routed
  split at routed
  · rename_i there _
    cases answered : there.answers method with
    | false => simp [answered] at routed
    | true =>
      simp only [answered, Bool.not_true, Bool.false_eq_true, if_false] at routed
      split at routed
      · cases routed
        exact answered
      · split at routed <;> cases routed
  · dsimp only at routed
    split at routed <;> split at routed <;> cases routed

structure Exchange where
  request : Request
  response : Response
  deriving DecidableEq, Repr

namespace Exchange

/-- A new rule was stored, whatever its identity. -/
def Created (exchange : Exchange) : Prop :=
  exchange.response.Succeeded ∧ exchange.request.Creates
  deriving Decidable

/-- The rule with the identity was stored, and answered with the body. The identity of a new rule
is known from its body alone. -/
def Writes (exchange : Exchange) (id : Int) (body : Value) : Prop :=
  exchange.response.Succeeded ∧ exchange.response.body = some body ∧
    (exchange.request.Creates ∧ body.id? = some id ∨ exchange.request.Updates id)
  deriving Decidable

def Erases (exchange : Exchange) (id : Int) : Prop :=
  exchange.response.Succeeded ∧ exchange.request.Deletes id
  deriving Decidable

def Touches (exchange : Exchange) (id : Int) : Prop :=
  (∃ body, exchange.Writes id body) ∨ exchange.Erases id

instance (exchange : Exchange) (id : Int) : Decidable (exchange.Touches id) :=
  decidable_of_iff ((∃ body ∈ exchange.response.body, exchange.Writes id body) ∨
    exchange.Erases id) <| by
    refine or_congr_left ⟨fun ⟨body, _, writes⟩ => ⟨body, writes⟩, fun ⟨body, writes⟩ => ?_⟩
    exact ⟨body, writes.2.1, writes⟩

/-- The request failed, or it only reads, or it evaluates a rule. -/
def Quiet (exchange : Exchange) : Prop :=
  ¬ exchange.response.Succeeded ∨ exchange.request.verb ∈ ["GET", "HEAD", "OPTIONS"] ∨
    exchange.request.route = .resource .evaluate
  deriving Decidable

theorem not_quiet {exchange : Exchange} (succeeded : exchange.response.Succeeded)
    (asks : exchange.request.Creates ∨
      ∃ id, exchange.request.Updates id ∨ exchange.request.Deletes id) :
    ¬ exchange.Quiet := by
  have acts : exchange.request.verb ∉ ["GET", "HEAD", "OPTIONS"] ∧
      exchange.request.route ≠ .resource .evaluate := by
    rcases asks with ⟨verb, route | route⟩ | ⟨_, ⟨verb, route⟩ | ⟨verb, route⟩⟩
    · simp [verb, route]
    · simp [verb, route]
    · refine ⟨by simp [verb], fun evaluates => ?_⟩
      simp [evaluates, Route.updated?] at route
    · refine ⟨by simp [verb], fun evaluates => ?_⟩
      simp [evaluates, Route.held?] at route
  rintro (failed | reads | evaluates)
  · exact failed succeeded
  · exact acts.1 reads
  · exact acts.2 evaluates

theorem Quiet.not_touches {exchange : Exchange} (quiet : exchange.Quiet) (id : Int) :
    ¬ exchange.Touches id := by
  rintro (⟨body, succeeded, _, ⟨creates, _⟩ | updates⟩ | ⟨succeeded, deletes⟩)
  · exact not_quiet succeeded (.inl creates) quiet
  · exact not_quiet succeeded (.inr ⟨id, .inl updates⟩) quiet
  · exact not_quiet succeeded (.inr ⟨id, .inr deletes⟩) quiet

variable {exchange : Exchange} {id other : Int} {body document : Value}

theorem writes_iff (succeeded : exchange.response.Succeeded)
    (answer : exchange.response.body = some document)
    (asks : exchange.request.Creates ∧ document.id? = some other ∨ exchange.request.Updates other) :
    exchange.Writes id body ↔ id = other ∧ body = document := by
  constructor
  · rintro ⟨_, answered, told⟩
    cases answer.symm.trans answered
    refine ⟨?_, rfl⟩
    rcases asks, told with ⟨⟨creates, identity⟩ | updates, ⟨creates', named⟩ | updates'⟩
    · exact Option.some.inj (named.symm.trans identity)
    · exact absurd (creates.1.symm.trans updates'.1) (by decide)
    · exact absurd (creates'.1.symm.trans updates.1) (by decide)
    · exact Option.some.inj (updates'.2.symm.trans updates.2)
  · rintro ⟨rfl, rfl⟩
    exact ⟨succeeded, answer, asks⟩

theorem not_erases (asks : exchange.request.Creates ∨ exchange.request.Updates other) :
    ¬ exchange.Erases id := by
  rintro ⟨_, verb, _⟩
  rcases asks with creates | updates
  · exact absurd (creates.1.symm.trans verb) (by decide)
  · exact absurd (updates.1.symm.trans verb) (by decide)

theorem touches_of_writes (succeeded : exchange.response.Succeeded)
    (answer : exchange.response.body = some document)
    (asks : exchange.request.Creates ∧ document.id? = some other ∨ exchange.request.Updates other) :
    exchange.Touches id ↔ id = other := by
  simp [Touches, writes_iff succeeded answer asks, not_erases (asks.imp_left And.left)]

theorem not_writes (deletes : exchange.request.Deletes other) : ¬ exchange.Writes id body := by
  rintro ⟨_, _, ⟨creates, _⟩ | updates⟩
  · exact absurd (creates.1.symm.trans deletes.1) (by decide)
  · exact absurd (updates.1.symm.trans deletes.1) (by decide)

theorem touches_of_erases (succeeded : exchange.response.Succeeded)
    (deletes : exchange.request.Deletes other) : exchange.Touches id ↔ id = other := by
  have erases : exchange.Erases id ↔ id = other := by
    constructor
    · rintro ⟨_, again⟩
      exact Option.some.inj (again.2.symm.trans deletes.2)
    · rintro rfl
      exact ⟨succeeded, deletes⟩
  simp [Touches, not_writes deletes, erases]

end Exchange

namespace Service

def exchanges (store : Store) (requests : List Request) : List Exchange :=
  requests.zipWith Exchange.mk (run store requests).2

variable {store : Store}

theorem exchanges_cons (request : Request) (requests : List Request) :
    exchanges store (request :: requests) =
      ⟨request, (respond store request).2⟩ :: exchanges (respond store request).1 requests := rfl

theorem run_concat (requests : List Request) (request : Request) :
    (run store (requests ++ [request])).1 = (respond (run store requests).1 request).1 := by
  induction requests generalizing store with
  | nil => rfl
  | cons first requests ih => exact ih

theorem exchanges_concat (requests : List Request) (request : Request) :
    exchanges store (requests ++ [request]) =
      exchanges store requests ++ [⟨request, (respond (run store requests).1 request).2⟩] := by
  induction requests generalizing store with
  | nil => rfl
  | cons first requests ih =>
    rw [List.cons_append, exchanges_cons, exchanges_cons, ih]
    rfl

end Service

end Rulebook

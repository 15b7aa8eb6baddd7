import Rulebook.Proofs.Formula.Refusal
import Rulebook.Proofs.Service.Combination

/-! When an action fails. Outcomes are put together from those of their steps, and so are the causes
for which they fail. -/
namespace Rulebook

/-- What an action refuses a request with. Requests go astray before they reach an action, and the
faults of arguments and of documents never come up. -/
def Refusal.OfAction : Refusal → Prop
  | .rule error => error.OfText ∨ ∃ fault, error = .evaluation fault
  | .redirect | .unknownMethod => False
  | _ => True

theorem Refusal.OfAction.status {refusal : Refusal} (kept : refusal.OfAction) :
    refusal.status = 400 ∨ refusal.status = 404 ∨ refusal.status = 500 := by
  cases refusal with
  | rule error => cases error <;> simp [Refusal.status]
  | redirect | unknownMethod => exact kept.elim
  | _ => simp [Refusal.status]

/-- An outcome is a success or refused by the action, as a failure exactly if there is a cause. -/
structure FailsIff {α : Type} (cause : Prop) (outcome : Except Refusal α) : Prop where
  admitted : ∀ refusal, outcome = .error refusal → refusal.OfAction
  failed : (∃ refusal, outcome = .error refusal ∧ refusal.status = 500) ↔ cause

namespace FailsIff

variable {α β : Type} {cause other : Prop} {first : Except Refusal α} {next : α → Except Refusal β}
variable {later : α → Prop} {refusal : Refusal}

theorem of_refused (kept : refusal.OfAction) (mild : refusal.status ≠ 500) :
    FailsIff False (Except.error refusal : Except Refusal α) :=
  ⟨by rintro _ ⟨⟩; exact kept, by simp [mild]⟩

theorem of_failed (kept : refusal.OfAction) (status : refusal.status = 500) :
    FailsIff True (Except.error refusal : Except Refusal α) :=
  ⟨by rintro _ ⟨⟩; exact kept, by simp [status]⟩

theorem required (field : String) :
    FailsIff False (Except.error (.required field) : Except Refusal α) :=
  of_refused trivial (by simp [Refusal.status])

theorem failure : FailsIff True (Except.error .failure : Except Refusal α) := of_failed trivial rfl

theorem congr (fails : FailsIff cause first) (same : cause ↔ other) : FailsIff other first :=
  ⟨fails.admitted, fails.failed.trans same⟩

theorem bind (fails : FailsIff cause first)
    (rest : ∀ value, first = .ok value → FailsIff (later value) (next value)) :
    FailsIff (cause ∨ ∃ value, first = .ok value ∧ later value) (first >>= next) := by
  cases first with
  | error refusal =>
    have stuck : (Except.error refusal >>= next) = .error refusal := rfl
    have never : ¬ ∃ value, (Except.error refusal : Except Refusal α) = .ok value ∧ later value := by
      simp
    rw [stuck, or_iff_left never, ← fails.failed]
    exact ⟨by rintro _ ⟨⟩; exact fails.admitted refusal rfl, by simp⟩
  | ok value =>
    have here := rest value rfl
    have never : ¬ cause := by
      rw [← fails.failed]
      simp
    exact here.congr (by simp [never])

theorem after (fails : FailsIff False first)
    (rest : ∀ value, first = .ok value → FailsIff (later value) (next value)) :
    FailsIff (∃ value, first = .ok value ∧ later value) (first >>= next) :=
  (fails.bind rest).congr (by simp)

theorem before (fails : FailsIff cause first)
    (rest : ∀ value, first = .ok value → FailsIff False (next value)) :
    FailsIff cause (first >>= next) :=
  (fails.bind rest).congr (by simp)

end FailsIff

namespace Action

variable {store : Store} {body : Option Value} {fields : Record} {field : String}

end Action

end Rulebook

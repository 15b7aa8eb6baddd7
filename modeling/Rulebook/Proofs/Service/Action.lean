import Rulebook.Service.Handler

/-! What actions tell and what they do to the store. Some only read. Those that write may be refused,
and then they have not changed anything yet, or nothing that shows. -/
namespace Rulebook

theorem bind_eq_ok {ε α β : Type} {x : Except ε α} {f : α → Except ε β} {b : β} :
    (x >>= f) = .ok b ↔ ∃ a, x = .ok a ∧ f a = .ok b := by
  cases x <;> simp [bind, Except.bind]

theorem mapError_eq_ok {ε δ α : Type} {x : Except ε α} {f : ε → δ} {a : α} :
    x.mapError f = .ok a ↔ x = .ok a := by
  cases x with
  | error fault => constructor <;> rintro ⟨⟩
  | ok value =>
    constructor
    all_goals
      rintro ⟨⟩
      rfl

namespace Action

variable {α β : Type} {first : Action α} {next : α → Action β} {store later : Store}

@[simp] theorem perform_pure (value : α) (store : Store) :
    perform (pure value) store = (.ok value, store) := rfl

@[simp] theorem perform_throw (refusal : Refusal) (store : Store) :
    perform (throw refusal : Action α) store = (.error refusal, store) := rfl

@[simp] theorem perform_lift (check : Except Refusal α) (store : Store) :
    perform (liftM check) store = (check, store) := rfl

@[simp] theorem perform_get (store : Store) :
    perform (MonadState.get : Action Store) store = (.ok store, store) := rfl

@[simp] theorem perform_set (store later : Store) :
    perform (set later : Action Unit) store = (.ok (), later) := rfl

@[simp] theorem perform_modify (f : Store → Store) (store : Store) :
    perform (modify f : Action Unit) store = (.ok (), f store) := rfl

theorem lift_bind_of_ok {check : Except Refusal α} {value : α} (done : check = .ok value) :
    (liftM check >>= next) = next value := by
  rw [done]
  rfl

theorem lift_bind_of_error {check : Except Refusal α} {refusal : Refusal}
    (failed : check = .error refusal) : (liftM check >>= next) = throw refusal := by
  rw [failed]
  rfl

theorem perform_bind (first : Action α) (next : α → Action β) (store : Store) :
    (first >>= next).perform store =
      match first.perform store with
      | (.ok value, later) => (next value).perform later
      | (.error refusal, later) => (.error refusal, later) := by
  rcases told : first.perform store with ⟨refusal | value, later⟩
  all_goals
    change first store = _ at told
    change (first >>= next) store = _
    simp only [bind, ExceptT.bind, ExceptT.mk, StateT.bind, told]
    rfl

/-- The store is the same behind the action as before it, whatever the action tells. -/
def Reads (action : Action α) : Prop := ∀ store, (action.perform store).2 = store

/-- The store is the same behind the action if that is refused. -/
def Atomic (action : Action α) : Prop :=
  ∀ store refusal later, action.perform store = (.error refusal, later) → later = store

/-- What the action tells, apart from what it does to the store. -/
def told (action : Action α) (store : Store) : Except Refusal α := (action.perform store).1

@[simp] theorem told_lift (check : Except Refusal α) (store : Store) :
    told (liftM check) store = check := rfl

namespace Reads

theorem perform_eq (reads : first.Reads) (store : Store) :
    first.perform store = (first.told store, store) :=
  Prod.ext rfl (reads store)

theorem atomic (reads : first.Reads) : first.Atomic := by
  intro store refusal later failed
  rw [reads.perform_eq] at failed
  exact (Prod.mk.inj failed).2.symm

theorem lift (check : Except Refusal α) : Reads (liftM check) := fun _ => rfl

theorem pure (value : α) : Reads (Pure.pure value) := fun _ => rfl

theorem throw (refusal : Refusal) : Reads (MonadExcept.throw refusal : Action α) := fun _ => rfl

theorem perform_bind (reads : first.Reads) (next : α → Action β) (store : Store) :
    (first >>= next).perform store =
      match first.told store with
      | .ok value => (next value).perform store
      | .error refusal => (.error refusal, store) := by
  rw [Action.perform_bind, reads.perform_eq]
  cases first.told store <;> rfl

theorem perform_of_ok (reads : first.Reads) {value : α} (done : first.told store = .ok value) :
    (first >>= next).perform store = (next value).perform store := by
  rw [reads.perform_bind, done]

theorem perform_of_error (reads : first.Reads) {refusal : Refusal}
    (failed : first.told store = .error refusal) :
    (first >>= next).perform store = (.error refusal, store) := by
  rw [reads.perform_bind, failed]

theorem bind (reads : first.Reads) (rest : ∀ value, (next value).Reads) : (first >>= next).Reads := by
  intro store
  rw [reads.perform_bind]
  cases first.told store with
  | error refusal => rfl
  | ok value => exact rest value store

theorem told_bind (reads : first.Reads) (next : α → Action β) (store : Store) :
    (first >>= next).told store = first.told store >>= fun value => (next value).told store := by
  rw [told, reads.perform_bind]
  cases first.told store <;> rfl

theorem bind_atomic (reads : first.Reads) (rest : ∀ value, (next value).Atomic) :
    (first >>= next).Atomic := by
  intro store refusal later failed
  rw [reads.perform_bind] at failed
  cases told : first.told store with
  | error fault =>
    rw [told] at failed
    exact (Prod.mk.inj failed).2.symm
  | ok value =>
    rw [told] at failed
    exact rest value store refusal later failed

theorem bind_eq_ok (reads : first.Reads) {value : β} :
    (first >>= next).perform store = (.ok value, later) ↔
      ∃ here, first.told store = .ok here ∧ (next here).perform store = (.ok value, later) := by
  rw [reads.perform_bind]
  cases first.told store <;> simp

end Reads

theorem lift_bind_eq_ok {check : Except Refusal α} {value : β} :
    (liftM check >>= next).perform store = (.ok value, later) ↔
      ∃ here, check = .ok here ∧ (next here).perform store = (.ok value, later) :=
  (Reads.lift check).bind_eq_ok

theorem Atomic.map (atomic : first.Atomic) (f : α → β) :
    Atomic (first >>= fun value => pure (f value)) := by
  intro store refusal later failed
  rw [perform_bind] at failed
  rcases told : first.perform store with ⟨fault | value, between⟩
  · rw [told] at failed
    cases failed
    exact atomic store refusal later told
  · rw [told] at failed
    cases failed

end Action

end Rulebook

import Rulebook.Proofs.Service.Change

/-! What the handlers ask of the body of a request. -/
namespace Rulebook

namespace Action

variable {body : Option Value} {fields : Record} {field : String}

theorem require_eq_ok {α : Type} {take : Value → Option α} {make : α → Value}
    (takes : ∀ {value held}, take value = some held ↔ value = make held) {held : α} :
    require take fields field = .ok held ↔ fields.lookup field = some (make held) := by
  have found : (fields.lookup field).bind take = some held ↔
      fields.lookup field = some (make held) := by
    simp [Option.bind_eq_some_iff, takes]
  rw [← found, require]
  cases (fields.lookup field).bind take <;> simp

theorem requireText_eq_ok {text : String} :
    require Value.text? fields field = .ok text ↔ fields.lookup field = some (.text text) :=
  require_eq_ok Value.text?_eq_some_iff

theorem requireInteger_eq_ok {value : Int} :
    require Value.integer? fields field = .ok value ↔ fields.lookup field = some (.integer value) :=
  require_eq_ok Value.integer?_eq_some_iff

theorem requireList_eq_ok {items : List Value} :
    require Value.list? fields field = .ok items ↔ fields.lookup field = some (.list items) :=
  require_eq_ok Value.list?_eq_some_iff

theorem integers_eq_ok {items : List Value} {ids : List Int} :
    integers items = .ok ids ↔ items = ids.map Value.integer := by
  fun_induction integers items generalizing ids with
  | case1 => cases ids <;> simp
  | case2 id rest ih =>
    rw [bind_eq_ok]
    cases ids with
    | nil => simp [pure, Except.pure]
    | cons first ids => simp [ih, pure, Except.pure, and_comm]
  | case3 item rest other =>
    cases ids with
    | nil => simp
    | cons first ids => simpa using fun same _ => other first same

theorem requireIds_eq_ok {ids : List Int} : requireIds fields = .ok ids ↔
    fields.lookup "ruleIds" = some (.list (ids.map Value.integer)) ∧ ids ≠ [] := by
  rw [requireIds, bind_eq_ok]
  constructor
  · rintro ⟨items, listed, read⟩
    split at read
    · cases read
    · rename_i nonempty
      cases integers_eq_ok.mp read
      exact ⟨requireList_eq_ok.mp listed, by simpa using nonempty⟩
  · rintro ⟨listed, nonempty⟩
    refine ⟨_, requireList_eq_ok.mpr listed, ?_⟩
    rw [if_neg (by simpa using nonempty), integers_eq_ok]

end Action
end Rulebook

import Rulebook.Proofs.Service.Lookup

/-! Reading a rule tells what the requests so far have made of it: the answer to the last one that
stored the rule, unless the rule has been deleted since. -/
namespace Rulebook

/-- The last exchange that touches the rule tells of it by the body. -/
def Remembers (exchanges : List Exchange) (id : Int) (body : Value) : Prop :=
  ∃ before last after, exchanges = before ++ last :: after ∧ last.Writes id body ∧
    ∀ later ∈ after, ¬ later.Touches id

theorem not_remembers_nil (id : Int) (body : Value) : ¬ Remembers [] id body := by
  rintro ⟨before, last, after, split, _⟩
  simp at split

theorem remembers_concat {exchanges : List Exchange} {exchange : Exchange} {id : Int} {body : Value} :
    Remembers (exchanges ++ [exchange]) id body ↔
      exchange.Writes id body ∨ ¬ exchange.Touches id ∧ Remembers exchanges id body := by
  constructor
  · rintro ⟨before, last, after, split, writes, silent⟩
    rcases List.eq_nil_or_concat after with rfl | ⟨earlier, final, rfl⟩
    · obtain ⟨-, same⟩ := List.append_inj' split rfl
      cases same
      exact .inl writes
    · rw [List.concat_eq_append, ← List.cons_append, ← List.append_assoc] at split
      obtain ⟨rfl, same⟩ := List.append_inj' split rfl
      cases same
      refine .inr ⟨silent exchange (by simp), before, last, earlier, rfl, writes, ?_⟩
      intro later inside
      exact silent later (by simp [inside])
  · rintro (writes | ⟨silent, before, last, after, rfl, writes, others⟩)
    · exact ⟨exchanges, exchange, [], rfl, writes, nofun⟩
    · refine ⟨before, last, after ++ [exchange], by simp, writes, ?_⟩
      intro later inside
      rcases List.mem_append.mp inside with inside | inside
      · exact others later inside
      · exact List.mem_singleton.mp inside ▸ silent

/-- After any requests a rule is shown as the exchanges with them remember it. -/
theorem Service.shown?_run (requests : List Request) {id : Int} {body : Value} :
    (run .empty requests).1.shown? id = some body ↔
      Remembers (exchanges .empty requests) id body := by
  -- from the right end, since the last exchange decides
  induction requests using List.reverseRecOn generalizing body with
  | nil => simp [run, exchanges, not_remembers_nil, Store.shown?, Store.find?, Store.empty]
  | append_singleton requests request ih =>
    have sound := run_sound .empty requests
    rw [run_concat, exchanges_concat, remembers_concat,
      Store.shown?_change sound (respond_change sound request), ih]

theorem Row.name_document (row : Row) (formula : Formula) :
    (row.rule formula).document.field? "name" = some (.text row.name) := by
  simp [Rule.document, Row.rule, Value.field?, List.lookup_cons]

def Value.IsRule (id : Int) (body : Value) : Prop :=
  ∃ name text, ∃ formula : Formula, body = .object [("id", .integer id), ("name", .text name),
    ("ruleString", .text text), ("root", formula.document)]

theorem Store.isRule_of_shown? {store : Store} {id : Int} {body : Value}
    (shown : store.shown? id = some body) : body.IsRule id := by
  obtain ⟨row, _, rfl, document⟩ := Store.mem_of_shown? shown
  obtain ⟨formula, _, rfl⟩ := Action.ruleDocument_eq_ok.mp document
  exact ⟨row.name, row.text, formula, rfl⟩

namespace Service

theorem name_of_update {store : Store} {request : Request} {id : Int} {body : Value}
    (sound : store.Sound) (updates : request.Updates id) (unnamed : request.name? = none)
    (answer : (respond store request).2 = ⟨200, some body⟩) :
    ∃ old, store.shown? id = some old ∧ body.field? "name" = old.field? "name" := by
  have change := respond_change sound request
  rw [answer] at change
  generalize (respond store request).1 = next at change
  cases change with
  | quiet quiet =>
    exact absurd quiet (Exchange.not_quiet (Response.succeeded_ok _) (.inr ⟨_, .inl updates⟩))
  | @replace row text formula other found =>
    obtain ⟨held, _⟩ := Action.mem_of_find? found
    cases Option.some.inj (updates.2.symm.trans other.2)
    obtain ⟨document, shown⟩ := sound.ruleDocument held
    refine ⟨document, sound.shown?_of_mem held shown, ?_⟩
    obtain ⟨before, _, rfl⟩ := Action.ruleDocument_eq_ok.mp shown
    rw [Row.name_document, Row.name_document, unnamed]
    rfl
  | erase deletes => exact absurd (deletes.1.symm.trans updates.1) (by decide)

end Service

/-- Whatever requests come, the answer to a request to read a rule is the answer to the last one
that stored it if there is one and no deletion came after it, and else that there is no such rule.
A request that does not touch the rule leaves the answer as it is, and an update without a name that
is a text keeps the name. -/
theorem get_tells_history (requests : List Request) (id : Int) (reach : -2 ^ 63 ≤ id ∧ id < 2 ^ 63) :
    let exchanges := Service.exchanges .empty requests
    let store := (Service.run .empty requests).1
    (∀ body, Remembers exchanges id body →
      (Service.respond store (.get id)).2 = ⟨200, some body⟩ ∧ body.IsRule id) ∧
    ((∀ body, ¬ Remembers exchanges id body) →
      (Service.respond store (.get id)).2.status = 404) ∧
    (∀ request, ¬ Exchange.Touches ⟨request, (Service.respond store request).2⟩ id →
      (Service.respond (Service.respond store request).1 (.get id)).2 =
        (Service.respond store (.get id)).2) ∧
    ∀ (request : Request) (body : Value), request.Updates id → request.name? = none →
      (Service.respond store request).2 = ⟨200, some body⟩ →
      ∃ old, Remembers exchanges id old ∧ body.field? "name" = old.field? "name" := by
  intro exchanges store
  have sound : store.Sound := Service.run_sound .empty requests
  have reach : Action.inReach id = true := by
    simp only [Action.inReach, Bool.and_eq_true, decide_eq_true_eq]
    exact reach
  refine ⟨?_, ?_, ?_, ?_⟩
  · intro body remembers
    have shown := (Service.shown?_run requests).mpr remembers
    exact ⟨(Service.respond_get_iff sound).mpr shown, Store.isRule_of_shown? shown⟩
  · intro forgotten
    have hidden : store.shown? id = none := by
      rw [Option.eq_none_iff_forall_ne_some]
      intro body shown
      exact forgotten body ((Service.shown?_run requests).mp shown)
    rw [Service.respond_get_absent sound reach hidden]
    split <;> rfl
  · intro request untouched
    have change := Service.respond_change sound request
    refine Service.respond_get_congr (sound.change change) sound reach (Option.ext fun body => ?_)
    have silent : ¬ Exchange.Writes ⟨request, (Service.respond store request).2⟩ id body :=
      fun writes => untouched (.inl ⟨body, writes⟩)
    rw [Store.shown?_change sound change]
    simp [silent, untouched]
  · intro request body updates unnamed answer
    obtain ⟨old, shown, same⟩ := Service.name_of_update sound updates unnamed answer
    exact ⟨old, (Service.shown?_run requests).mp shown, same⟩

theorem get_tells_history_combined :
    let body (fields : Record) : Payload := .value (.object fields)
    let create (text : String) : Request :=
      ⟨"POST", "/api/rules/create", body [("name", .text "a"), ("ruleString", .text text)]⟩
    let update (path : String) : Request :=
      ⟨"PUT", path, body [("name", .integer 4), ("ruleString", .text "x < 5")]⟩
    let combine : Request := ⟨"POST", "/api/rules/combine", body [("name", .text "b"),
      ("ruleIds", .list [.integer 1, .integer 2])]⟩
    let requests : List Request := [create "x >", create " x > 1.50 ", create "y = true", combine,
      update "/api/rules/update/01", update "/api/rules/update/4", ⟨"DELETE", "/api/rules/2", .empty⟩,
      ⟨"GET", "/api/rules/3", .empty⟩]
    let exchanges := Service.exchanges .empty requests
    let store := (Service.run .empty requests).1
    let combined : Formula :=
      .join .or (.leaf ⟨"x", .greater, .float (.finite false 4609434218613702656), rfl⟩)
        (.leaf ⟨"y", .equal, .boolean true, rfl⟩)
    let document : Value := .object [("id", .integer 3), ("name", .text "b"),
      ("ruleString", .text "(x > 1.50) OR (y = true)"), ("root", combined.document)]
    Remembers exchanges 3 document ∧ (Service.respond store (.get 3)).2 = ⟨200, some document⟩ ∧
      (Service.respond store (.get 2)).2.status = 404 ∧
      ∃ old, Remembers exchanges 1 old ∧ old.field? "name" = some (.text "a") := by
  intro body create update combine requests exchanges store combined document
  have remembers : Remembers exchanges 3 document := by
    refine ⟨exchanges.take 3, ⟨combine, ⟨201, some document⟩⟩, exchanges.drop 4, ?_⟩
    decide +kernel
  have forgotten (other : Value) : ¬ Remembers exchanges 2 other := by
    have hidden : store.shown? 2 = none := by decide +kernel
    intro remembers
    cases hidden.symm.trans ((Service.shown?_run requests).mpr remembers)
  obtain ⟨told, _⟩ := get_tells_history requests 3 (by decide)
  obtain ⟨_, hidden, _⟩ := get_tells_history requests 2 (by decide)
  obtain ⟨_, _, _, kept⟩ := get_tells_history requests 1 (by decide)
  let revised : Formula := .leaf ⟨"x", .less, .integer 5, rfl⟩
  obtain ⟨old, remembered, same⟩ := kept (update "/api/rules/update/1") (.object [("id", .integer 1),
      ("name", .text "a"), ("ruleString", .text "x < 5"), ("root", revised.document)])
    (by decide +kernel) (by decide +kernel) (by decide +kernel)
  exact ⟨remembers, (told document remembers).1, hidden forgotten, old, remembered, same.symm⟩

end Rulebook

import Rulebook.Proofs.Service.Change
import Rulebook.Proofs.Service.Target

/-! What the service shows of each rule, after each change of the store and in the answers to the
requests that read. -/
namespace Rulebook

theorem Row.ruleDocument {row : Row} {text : String} {formula : Formula}
    (held : row.document = formula.document) (stated : States text formula) :
    Action.ruleDocument row = .ok (row.rule formula).document := by
  rw [Action.ruleDocument_eq_ok]
  exact ⟨formula, Row.root_of_states held stated, rfl⟩

namespace Store

variable {store : Store} {row old : Row} {name text : String} {formula : Formula} {id other : Int}

theorem find?_insert (sound : store.Sound) :
    (store.insert name text formula).1.find? id =
      if id = store.lastId + 1 then some (store.insert name text formula).2
      else store.find? id := by
  have rows : (store.insert name text formula).1.rows =
      store.rows ++ [(store.insert name text formula).2] := rfl
  have new : ((store.insert name text formula).2.id : Int) = store.lastId + 1 := rfl
  rw [find?, rows, List.find?_append]
  split
  · rename_i last
    have fresh : (store.rows.find? fun row => (row.id : Int) = id) = none := by
      rw [List.find?_eq_none]
      intro row held
      have issued := sound.issued row held
      simp only [decide_eq_true_eq]
      omega
    rw [fresh, Option.none_or, List.find?_cons_of_pos (by simp [new, last])]
  · rename_i other
    rw [List.find?_cons_of_neg (by simpa [new] using Ne.symm other), List.find?_nil, Option.or_none]
    rfl

theorem find?_replace (row : Row) (found : store.find? row.id = some old) :
    (store.replace row).find? id = if id = row.id then some row else store.find? id := by
  have same : (fun held : Row => decide ((held.id : Int) = id)) ∘
      (fun held => if held.id = row.id then row else held) =
        fun held => decide ((held.id : Int) = id) := by
    funext held
    by_cases there : held.id = row.id <;> simp [there]
  rw [find?, replace, List.find?_map, same]
  split
  · rename_i here
    have before := Action.mem_of_find? found
    rw [find?, ← here] at found
    have identity : old.id = row.id := by exact_mod_cast before.2
    rw [found, Option.map_some, if_pos identity]
  · rename_i other
    rw [← find?]
    cases held : store.find? id with
    | none => rfl
    | some held =>
      have identity := (Action.mem_of_find? ‹_›).2
      rw [Option.map_some, if_neg fun same => other (by rw [← identity, same])]

theorem find?_erase :
    (store.erase other).find? id = if id = other then none else store.find? id := by
  rw [find?, erase, List.find?_filter]
  split
  · rename_i gone
    rw [List.find?_eq_none]
    intro row _
    simp [gone]
  · rename_i kept
    rw [find?]
    congr 1
    funext row
    by_cases identity : (row.id : Int) = id <;> simp [identity, kept]

def shown? (store : Store) (id : Int) : Option Value :=
  (store.find? id).bind fun row => (Action.ruleDocument row).toOption

theorem shown?_insert (sound : store.Sound) (stated : States text formula) :
    (store.insert name text formula).1.shown? id =
      if id = store.lastId + 1 then some ((store.insert name text formula).2.rule formula).document
      else store.shown? id := by
  rw [shown?, find?_insert sound]
  split
  · rw [Option.bind_some, Row.ruleDocument rfl stated]
    rfl
  · rfl

theorem shown?_replace {given : Option String} (found : store.find? row.id = some old)
    (stated : States text formula) :
    (store.replace (row.revise given text formula)).shown? id =
      if id = row.id then some ((row.revise given text formula).rule formula).document
      else store.shown? id := by
  rw [shown?, find?_replace (row.revise given text formula) found, Row.id_revise]
  split
  · rw [Option.bind_some, Row.ruleDocument rfl stated]
    rfl
  · rfl

theorem shown?_erase :
    (store.erase other).shown? id = if id = other then none else store.shown? id := by
  rw [shown?, find?_erase]
  split <;> rfl

theorem ite_eq_some_iff {place : Prop} [Decidable place] {document body : Value}
    {before : Option Value} : (if place then some document else before) = some body ↔
      place ∧ body = document ∨ ¬ place ∧ before = some body := by
  split <;> simp [*, eq_comm]

/-- After a change a rule is shown as the exchange tells, or as before if it tells nothing of it. -/
theorem shown?_change {next : Store} {request : Request} {response : Response} {body : Value}
    (sound : store.Sound) (change : Change store request next response) :
    next.shown? id = some body ↔ Exchange.Writes ⟨request, response⟩ id body ∨
      ¬ Exchange.Touches ⟨request, response⟩ id ∧ store.shown? id = some body := by
  cases change with
  | quiet quiet =>
    have silent := quiet.not_touches id
    have same : ¬ Exchange.Writes ⟨request, response⟩ id body := fun writes =>
      silent (.inl ⟨_, writes⟩)
    simp [silent, same]
  | @insert name text formula creates _ _ stated =>
    have succeeded := Response.succeeded_created
      (some ((store.insert name text formula).2.rule formula).document)
    have identity := (store.insert name text formula).2.id?_document formula
    rw [shown?_insert sound stated, Exchange.writes_iff succeeded rfl (.inl ⟨creates, identity⟩),
      Exchange.touches_of_writes succeeded rfl (.inl ⟨creates, identity⟩)]
    exact ite_eq_some_iff
  | @replace row text formula updates found _ _ stated =>
    have succeeded := Response.succeeded_ok
      (some ((row.revise request.name? text formula).rule formula).document)
    rw [shown?_replace found stated, Exchange.writes_iff succeeded rfl (.inr updates),
      Exchange.touches_of_writes succeeded rfl (.inr updates)]
    exact ite_eq_some_iff
  | @erase gone message deletes =>
    have same : ¬ Exchange.Writes ⟨request, ⟨200, some message⟩⟩ id body :=
      Exchange.not_writes deletes
    rw [shown?_erase, Exchange.touches_of_erases (Response.succeeded_ok _) deletes]
    simp [same]

theorem Sound.ruleDocument (sound : store.Sound) (held : row ∈ store.rows) :
    ∃ body, Action.ruleDocument row = .ok body := by
  obtain ⟨formula, document, stated⟩ := (sound.inStep row held).stated
  exact ⟨_, Row.ruleDocument document stated⟩

theorem Sound.shown?_of_mem {body : Value} (sound : store.Sound) (held : row ∈ store.rows)
    (document : Action.ruleDocument row = .ok body) : store.shown? row.id = some body := by
  rw [shown?, sound.find?_of_mem held, Option.bind_some, document]
  rfl

theorem mem_of_shown? {body : Value} (shown : store.shown? id = some body) :
    ∃ row ∈ store.rows, (row.id : Int) = id ∧ Action.ruleDocument row = .ok body := by
  obtain ⟨row, found, document⟩ := Option.bind_eq_some_iff.mp shown
  obtain ⟨held, identity⟩ := Action.mem_of_find? found
  cases read : Action.ruleDocument row with
  | error refusal => simp [read, Except.toOption] at document
  | ok held =>
    rw [read] at document
    cases document
    exact ⟨row, ‹_›, identity, read⟩

theorem Sound.find?_eq_none (sound : store.Sound) (hidden : store.shown? id = none) :
    store.find? id = none := by
  cases found : store.find? id with
  | none => rfl
  | some row =>
    obtain ⟨held, rfl⟩ := Action.mem_of_find? found
    obtain ⟨body, document⟩ := sound.ruleDocument held
    rw [sound.shown?_of_mem held document] at hidden
    cases hidden

end Store

namespace Action

variable {store : Store} {id : Nat} {body : Value}

theorem get_of_shown (sound : store.Sound) (shown : store.shown? id = some body) :
    (get id).perform store = (.ok ⟨200, body⟩, store) := by
  obtain ⟨row, held, identity, document⟩ := Store.mem_of_shown? shown
  have found : (find id).told store = .ok row := identity ▸ sound.find held
  exact ((find_reads id).perform_of_ok found).trans ((Reads.lift _).perform_of_ok document)

theorem get_of_hidden (sound : store.Sound) (reach : inReach id = true)
    (hidden : store.shown? id = none) : (get id).perform store = (.error (.absent id), store) := by
  have absent : (find id).told store = .error (.absent id) := by
    rw [find, (find?_reads _).told_bind, told_find?, if_pos reach, sound.find?_eq_none hidden]
    rfl
  exact (find_reads id).perform_of_error absent

end Action

namespace Service

variable {store : Store} {request : Request} {resource : Resource}

theorem respond_resource (routed : request.route = .resource resource)
    (acts : request.verb ≠ "OPTIONS") (whole : request.verb ≠ "HEAD") :
    respond store request =
      finish ((act request.verb resource request.payload).perform store) := by
  have routed : Route.ofPath (request.method.map Char.toUpper) (Target.path request.target) =
      .resource resource := routed
  have acts : request.method.map Char.toUpper ≠ "OPTIONS" := acts
  have whole : request.method.map Char.toUpper ≠ "HEAD" := whole
  simp only [respond, routed, if_neg acts, if_neg whole]
  rfl

theorem respond_unknownPath (routed : request.route = .unknownPath) :
    respond store request = (store, Refusal.unknownPath.response) := by
  have routed : Route.ofPath (request.method.map Char.toUpper) (Target.path request.target) =
      .unknownPath := routed
  simp only [respond, routed]

theorem respond_get_natural {id : Nat} (legible : (Nat.toDigits 10 id).length ≤ digitLimit) :
    respond store (.get id) = finish ((Action.get id).perform store) := by
  have routed := Request.route_get_natural id
  rw [if_pos legible] at routed
  have verb := Request.verb_get id
  rw [respond_resource routed (by simp [verb]) (by simp [verb]), verb, act, if_neg (by decide),
    Route.number_of_isDigit (isDigit_toDigits id), Nat.ofDigitChars_ten_toDigits]

theorem legible_of_lt {id : Nat} (reach : id < 2 ^ 63) :
    (Nat.toDigits 10 id).length ≤ digitLimit := by
  have few : (Nat.toDigits 10 id).length ≤ 19 := by
    rw [Nat.length_toDigits_le_iff (by decide) (by decide)]
    omega
  exact Nat.le_trans few (by decide)

theorem shown_of_respond_get {id : Int} (succeeded : (respond store (.get id)).2.Succeeded) :
    ∃ body, (respond store (.get id)).2 = ⟨200, some body⟩ ∧ store.shown? id = some body := by
  cases id with
  | negSucc id =>
    rw [respond_unknownPath (Request.route_get_negative (Int.negSucc_lt_zero id))] at succeeded
    exact absurd succeeded (Refusal.not_succeeded _)
  | ofNat id =>
    rw [Int.ofNat_eq_natCast] at succeeded ⊢
    by_cases legible : (Nat.toDigits 10 id).length ≤ digitLimit
    · rw [respond_get_natural legible] at succeeded ⊢
      rcases done : (Action.get id).perform store with ⟨refusal | success, later⟩
      · rw [done] at succeeded
        exact absurd succeeded refusal.not_succeeded
      · obtain ⟨row, body, found, document, -, rfl⟩ := Action.get_eq_ok done
        refine ⟨body, rfl, ?_⟩
        rw [Store.shown?, found, Option.bind_some, document]
        rfl
    · have routed := Request.route_get_natural id
      rw [if_neg legible] at routed
      rw [respond_unknownPath routed] at succeeded
      exact absurd succeeded (Refusal.not_succeeded _)

/-- A rule is answered as it is shown, and no other answer looks like this. -/
theorem respond_get_iff (sound : store.Sound) {id : Int} {body : Value} :
    (respond store (.get id)).2 = ⟨200, some body⟩ ↔ store.shown? id = some body := by
  constructor
  · intro answer
    obtain ⟨other, same, shown⟩ := shown_of_respond_get (answer ▸ Response.succeeded_ok (some body))
    cases answer.symm.trans same
    exact shown
  · intro shown
    obtain ⟨row, held, rfl, document⟩ := Store.mem_of_shown? shown
    have issued := sound.issued row held
    have reach := sound.reach
    rw [respond_get_natural (legible_of_lt (by omega)), Action.get_of_shown sound shown]
    rfl

theorem respond_get_absent (sound : store.Sound) {id : Int} (reach : Action.inReach id = true)
    (hidden : store.shown? id = none) :
    (respond store (.get id)).2 =
      (if id < 0 then Refusal.unknownPath else .absent id).response := by
  cases id with
  | negSucc id =>
    rw [respond_unknownPath (Request.route_get_negative (Int.negSucc_lt_zero id)),
      if_pos (Int.negSucc_lt_zero id)]
  | ofNat id =>
    have below : id < 2 ^ 63 := by
      simp only [Action.inReach, Bool.and_eq_true, decide_eq_true_eq, Int.ofNat_eq_natCast] at reach
      omega
    rw [Int.ofNat_eq_natCast, respond_get_natural (legible_of_lt below),
      Action.get_of_hidden sound reach hidden, if_neg (by omega)]
    rfl

theorem respond_get_congr {other : Store} (sound : store.Sound) (others : other.Sound) {id : Int}
    (reach : Action.inReach id = true) (same : store.shown? id = other.shown? id) :
    (respond store (.get id)).2 = (respond other (.get id)).2 := by
  cases shown : store.shown? id with
  | none =>
    rw [respond_get_absent sound reach shown, respond_get_absent others reach (same ▸ shown)]
  | some body =>
    rw [(respond_get_iff sound).mpr shown, (respond_get_iff others).mpr (same ▸ shown)]

end Service

end Rulebook

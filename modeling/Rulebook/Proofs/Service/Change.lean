import Rulebook.Proofs.Formula.Combination
import Rulebook.Proofs.Formula.Document
import Rulebook.Proofs.Service.Action
import Rulebook.Proofs.Service.Exchange

/-! What a request can do to the store, and how it is answered then. A stored text and the formula
stored beside it are in step before a request and after it. -/
namespace Rulebook

/-- The text is trimmed and states the formula that the document holds. -/
structure Row.InStep (row : Row) : Prop where
  trimmed : Text.trim row.text = row.text
  stated : ∃ formula, row.document = Formula.document formula ∧ States row.text formula
  writable : Json.depth row.document ≤ Json.writingLimit

theorem Row.root_of_states {row : Row} {text : String} {formula : Formula}
    (held : row.document = formula.document) (stated : States text formula) :
    row.root = .ok formula := by
  have writable : formula.document.Writable := Formula.document_writable fun c inside =>
    (written_of_parseWithin stated c inside).literal.short
  rw [Row.root, held, Json.readChars_write writable]
  exact mapError_eq_ok.mpr (Formula.ofDocument_document formula)

theorem Row.InStep.root {row : Row} (inStep : row.InStep) :
    ∃ formula, row.root = .ok formula ∧ States row.text formula := by
  obtain ⟨formula, document, stated⟩ := inStep.stated
  exact ⟨formula, Row.root_of_states document stated, stated⟩

/-- Identities ascend from one up to the last one issued, which can still be looked up. -/
structure Store.Sound (store : Store) : Prop where
  ascending : store.rows.Pairwise (·.id < ·.id)
  positive : ∀ row ∈ store.rows, 0 < row.id
  issued : ∀ row ∈ store.rows, row.id ≤ store.lastId
  reach : store.lastId < 2 ^ 63
  inStep : ∀ row ∈ store.rows, row.InStep

theorem Store.Sound.empty : Store.empty.Sound := by
  constructor <;> simp [Store.empty]

def Row.revise (row : Row) (name : Option String) (text : String) (formula : Formula) : Row :=
  ⟨row.id, name.getD row.name, text, formula.document⟩

@[simp] theorem Row.id_revise (row : Row) (name : Option String) (text : String)
    (formula : Formula) : (row.revise name text formula).id = row.id := rfl

/-- The formula does not nest too deeply to be written, and an identity is left for it that can be
looked up. -/
structure Store.Takes (store : Store) (formula : Formula) : Prop where
  writable : Json.depth formula.document ≤ Json.writingLimit
  left : store.lastId + 1 < 2 ^ 63

instance (store : Store) (formula : Formula) : Decidable (store.Takes formula) :=
  decidable_of_iff (_ ∧ _) ⟨fun both => ⟨both.1, both.2⟩, fun takes => ⟨takes.writable, takes.left⟩⟩

/-- A request leaves the store and tells of no rule that is not there, or it adds a rule, or
replaces one, or erases one. -/
inductive Change (store : Store) (request : Request) : Store → Response → Prop
  | quiet {response : Response} : Exchange.Quiet ⟨request, response⟩ →
    (∀ id ∈ response.ids, ∃ row ∈ store.rows, (row.id : Int) = id) →
    Change store request store response
  | insert {name text : String} {formula : Formula} : request.Creates → store.Takes formula →
    Text.trim text = text → States text formula →
    Change store request (store.insert name text formula).1
      ⟨201, some ((store.insert name text formula).2.rule formula).document⟩
  | replace {row : Row} {text : String} {formula : Formula} : request.Updates row.id →
    store.find? row.id = some row → Json.depth formula.document ≤ Json.writingLimit →
    Text.trim text = text → States text formula →
    Change store request (store.replace (row.revise request.name? text formula))
      ⟨200, some ((row.revise request.name? text formula).rule formula).document⟩
  | erase {id : Int} {body : Value} : request.Deletes id → Response.ids ⟨200, some body⟩ = [] →
    Change store request (store.erase id) ⟨200, some body⟩

theorem Store.mem_replace {store : Store} {row held : Row} (inside : held ∈ (store.replace row).rows) :
    held = row ∧ (∃ old ∈ store.rows, old.id = row.id) ∨ held ∈ store.rows := by
  obtain ⟨old, there, equal⟩ := List.mem_map.mp inside
  split at equal
  · exact .inl ⟨equal.symm, old, there, ‹_›⟩
  · exact .inr (equal ▸ there)

theorem Store.ids_replace (store : Store) (row : Row) :
    (store.replace row).rows.map Row.id = store.rows.map Row.id := by
  rw [Store.replace, List.map_map]
  refine List.map_congr_left fun old _ => ?_
  by_cases same : old.id = row.id <;> simp [same]

theorem Store.erase_eq_self {store : Store} {id : Int}
    (kept : store.rows.length ≤ (store.erase id).rows.length) : store.erase id = store := by
  have same := List.filter_sublist.eq_of_length_le kept
  rw [Store.erase, same]

theorem Store.Sound.change {store next : Store} {request : Request} {response : Response}
    (sound : store.Sound) (change : Change store request next response) : next.Sound := by
  cases change with
  | quiet => exact sound
  | @insert name text formula creates takes trimmed stated =>
    refine ⟨?_, ?_, ?_, takes.left, ?_⟩
    · refine List.pairwise_append.mpr ⟨sound.ascending, List.pairwise_singleton .., ?_⟩
      intro row held other last
      cases List.mem_singleton.mp last
      exact Nat.lt_succ_of_le (sound.issued row held)
    all_goals
      intro row held
      rcases List.mem_append.mp held with held | last
    · exact sound.positive row held
    · cases List.mem_singleton.mp last
      exact Nat.succ_pos _
    · exact Nat.le_succ_of_le (sound.issued row held)
    · cases List.mem_singleton.mp last
      exact Nat.le_refl _
    · exact sound.inStep row held
    · cases List.mem_singleton.mp last
      exact ⟨trimmed, ⟨formula, rfl, stated⟩, takes.writable⟩
  | @replace old text formula updates found writable trimmed stated =>
    have ascending : ((store.replace (old.revise request.name? text formula)).rows.map
        Row.id).Pairwise (· < ·) := by
      rw [Store.ids_replace]
      exact List.pairwise_map.mpr sound.ascending
    refine ⟨List.pairwise_map.mp ascending, ?_, ?_, sound.reach, ?_⟩
    all_goals
      intro held inside
      rcases Store.mem_replace inside with ⟨rfl, before, there, same⟩ | there
    · exact same ▸ sound.positive before there
    · exact sound.positive held there
    · exact same ▸ sound.issued before there
    · exact sound.issued held there
    · exact ⟨trimmed, ⟨formula, rfl, stated⟩, writable⟩
    · exact sound.inStep held there
  | @erase id body =>
    have kept {row : Row} (held : row ∈ (store.erase id).rows) : row ∈ store.rows :=
      List.mem_of_mem_filter held
    exact ⟨sound.ascending.filter _, fun row held => sound.positive row (kept held),
      fun row held => sound.issued row (kept held), sound.reach,
      fun row held => sound.inStep row (kept held)⟩

namespace Action

variable {store later : Store} {body : Option Value} {id : Int}

theorem parse_eq_ok {text : String} {formula : Formula} :
    parse text = .ok formula ↔ Formula.parse text = .ok formula := mapError_eq_ok

theorem find?_reads (id : Int) : (find? id).Reads := by
  unfold find?
  split
  · exact fun _ => rfl
  · exact .throw .failure

theorem find_reads (id : Int) : (find id).Reads := by
  refine (find?_reads id).bind fun found => ?_
  cases found with
  | none => exact .throw _
  | some row => exact .pure row

theorem findAll_reads (ids : List Int) : (findAll ids).Reads := by
  induction ids with
  | nil => exact .pure _
  | cons id ids ih =>
    refine (find?_reads id).bind fun found => ?_
    cases found with
    | none => exact ih.bind fun _ => .pure _
    | some row => exact (Reads.lift (root row)).bind fun _ => ih.bind fun _ => .pure _

theorem findEvery_reads (ids : List Int) : (findEvery ids).Reads := by
  refine (findAll_reads ids).bind fun found => ?_
  dsimp only
  split
  · exact .pure _
  · exact .throw _

theorem formulaOf_reads (fields : Record) : (formulaOf fields).Reads := by
  unfold formulaOf
  split
  · exact (Reads.lift _).bind fun _ => .lift _
  · exact (Reads.lift _).bind fun _ => (find_reads _).bind fun _ => .lift _

theorem told_find? (id : Int) (store : Store) :
    (find? id).told store = if inReach id then .ok (store.find? id) else .error .failure := by
  unfold find?
  split <;> rfl

theorem find?_eq_ok {found : Option Row} :
    (find? id).told store = .ok found ↔ inReach id = true ∧ store.find? id = found := by
  rw [told_find?]
  split <;> simp_all

theorem find_eq_ok {row : Row} :
    (find id).told store = .ok row ↔ inReach id = true ∧ store.find? id = some row := by
  rw [find, (find?_reads id).told_bind, bind_eq_ok]
  constructor
  · rintro ⟨_ | found, there, held⟩
    · cases held
    · cases held
      exact find?_eq_ok.mp there
  · intro there
    exact ⟨some row, find?_eq_ok.mpr there, rfl⟩

theorem mem_of_find? {row : Row} (found : store.find? id = some row) :
    row ∈ store.rows ∧ (row.id : Int) = id :=
  ⟨List.mem_of_find?_eq_some found, by simpa using List.find?_some found⟩

theorem told_findAll_cons (id : Int) (ids : List Int) (store : Store) :
    (findAll (id :: ids)).told store = do
      match ← (find? id).told store with
      | none =>
        let (found, absent) ← (findAll ids).told store
        return (found, id :: absent)
      | some row =>
        let formula ← root row
        let (found, absent) ← (findAll ids).told store
        return ((row, formula) :: found, absent) := by
  rw [findAll, (find?_reads id).told_bind]
  congr 1
  funext found
  cases found with
  | none => exact (findAll_reads ids).told_bind _ store
  | some row =>
    dsimp only
    rw [(Reads.lift (root row)).told_bind]
    congr 1
    funext formula
    exact (findAll_reads ids).told_bind _ store

theorem told_findEvery (ids : List Int) (store : Store) :
    (findEvery ids).told store = (findAll ids).told store >>= fun found =>
      if found.2.isEmpty then .ok found.1 else .error (.absentAll found.2) := by
  rw [findEvery, (findAll_reads ids).told_bind]
  congr 1
  funext found
  dsimp only
  split <;> rfl

theorem mem_of_findAll {ids : List Int} {found : List (Row × Formula)} {absent : List Int}
    (done : (findAll ids).told store = .ok (found, absent)) :
    ∀ pair ∈ found, pair.1 ∈ store.rows ∧ pair.1.root = .ok pair.2 := by
  induction ids generalizing found absent with
  | nil =>
    cases done
    nofun
  | cons id ids ih =>
    rw [told_findAll_cons] at done
    obtain ⟨here, looked, done⟩ := bind_eq_ok.mp done
    cases here with
    | none =>
      obtain ⟨⟨others, missing⟩, rest, done⟩ := bind_eq_ok.mp done
      cases done
      exact ih rest
    | some row =>
      obtain ⟨formula, held, done⟩ := bind_eq_ok.mp done
      obtain ⟨⟨others, missing⟩, rest, done⟩ := bind_eq_ok.mp done
      cases done
      intro pair inside
      rcases List.mem_cons.mp inside with rfl | inside
      · exact ⟨(mem_of_find? (find?_eq_ok.mp looked).2).1, mapError_eq_ok.mp held⟩
      · exact ih rest pair inside

theorem mem_of_findEvery {ids : List Int} {found : List (Row × Formula)}
    (every : (findEvery ids).told store = .ok found) :
    ∀ pair ∈ found, pair.1 ∈ store.rows ∧ pair.1.root = .ok pair.2 := by
  rw [told_findEvery] at every
  obtain ⟨⟨rows, absent⟩, done, complete⟩ := bind_eq_ok.mp every
  cases empty : absent.isEmpty with
  | false => simp [empty] at complete
  | true =>
    simp only [empty, if_true] at complete
    cases complete
    exact mem_of_findAll done

section Writing

variable (name text : String) (formula : Formula) (row : Row) (store : Store)

theorem perform_insert : (insert name text formula).perform store =
    if store.Takes formula then
      (.ok (store.insert name text formula).2, (store.insert name text formula).1)
    else (.error .failure, store) := by
  have left : inReach (store.lastId + 1) = true ↔ store.lastId + 1 < 2 ^ 63 := by
    simp only [inReach, Bool.and_eq_true, decide_eq_true_eq]
    omega
  by_cases takes : store.Takes formula
  · simp [insert, perform_bind, writable, takes.writable, left.mpr takes.left, takes, -bind_pure_comp]
  · rw [if_neg takes]
    by_cases shallow : Json.depth formula.document ≤ Json.writingLimit
    · have full : ¬ inReach (store.lastId + 1) = true := fun reach => takes ⟨shallow, left.mp reach⟩
      simp [insert, perform_bind, writable, shallow, full]
    · simp [insert, perform_bind, writable, shallow]

theorem perform_add : (add name text formula).perform store =
    if store.Takes formula then
      (.ok ⟨201, ((store.insert name text formula).2.rule formula).document⟩,
        (store.insert name text formula).1)
    else (.error .failure, store) := by
  rw [add, perform_bind, perform_insert]
  by_cases takes : store.Takes formula
  · rw [if_pos takes, if_pos takes]
    rfl
  · rw [if_neg takes, if_neg takes]

theorem perform_replace : (replace row formula).perform store =
    if Json.depth formula.document ≤ Json.writingLimit then (.ok (), store.replace row)
    else (.error .failure, store) := by
  by_cases shallow : Json.depth formula.document ≤ Json.writingLimit
  · simp [replace, perform_bind, writable, shallow]
  · simp [replace, perform_bind, writable, shallow]

theorem perform_delete (id : Nat) : (delete id).perform store =
    if inReach id then
      (if (store.erase id).rows.length < store.rows.length then
        .ok ⟨200, .object [("message", .text s!"Rule {id} deleted")]⟩
      else .error (.absent id), store.erase id)
    else (.error .failure, store) := by
  by_cases reach : inReach id = true
  · by_cases fewer : (store.erase id).rows.length < store.rows.length
    · simp [delete, erase, perform_bind, reach, fewer]
    · simp [delete, erase, perform_bind, reach, fewer]
  · simp [delete, erase, reach]

end Writing

end Action

namespace Action

variable {store later : Store} {body : Option Value} {success : Success}

theorem add_atomic (name text : String) (formula : Formula) : (add name text formula).Atomic := by
  intro store refusal later failed
  rw [perform_add] at failed
  split at failed
  · cases (Prod.mk.inj failed).1
  · exact (Prod.mk.inj failed).2.symm

theorem replace_atomic (row : Row) (formula : Formula) : (replace row formula).Atomic := by
  intro store refusal later failed
  rw [perform_replace] at failed
  split at failed
  · cases (Prod.mk.inj failed).1
  · exact (Prod.mk.inj failed).2.symm

theorem delete_atomic (id : Nat) : (delete id).Atomic := by
  intro store refusal later failed
  rw [perform_delete] at failed
  split at failed
  · split at failed
    · cases (Prod.mk.inj failed).1
    · rename_i kept
      rw [← (Prod.mk.inj failed).2, Store.erase_eq_self (Nat.le_of_not_lt kept)]
  · exact (Prod.mk.inj failed).2.symm

theorem create_atomic (body : Option Value) : (create body).Atomic :=
  (Reads.lift _).bind_atomic fun _ => (Reads.lift _).bind_atomic fun _ =>
    (Reads.lift _).bind_atomic fun _ => (Reads.lift _).bind_atomic fun _ => add_atomic _ _ _

theorem combine_atomic (body : Option Value) : (combine body).Atomic :=
  (Reads.lift _).bind_atomic fun _ => (Reads.lift _).bind_atomic fun _ =>
    (Reads.lift _).bind_atomic fun _ => (findEvery_reads _).bind_atomic fun _ =>
      (Reads.lift _).bind_atomic fun _ => add_atomic _ _ _

theorem update_atomic (id : Nat) (body : Option Value) : (update id body).Atomic :=
  (Reads.lift _).bind_atomic fun _ => (Reads.lift _).bind_atomic fun _ =>
    (find_reads _).bind_atomic fun _ => (Reads.lift _).bind_atomic fun _ =>
      (Reads.lift _).bind_atomic fun _ => (replace_atomic _ _).map fun _ => _

theorem evaluate_reads (body : Option Value) : (evaluate body).Reads :=
  (Reads.lift _).bind fun _ => (Reads.lift _).bind fun _ => (formulaOf_reads _).bind fun _ =>
    (Reads.lift _).bind fun _ => .pure _

theorem list_reads : list.Reads :=
  Reads.bind (fun _ => rfl) fun _ => (Reads.lift _).bind fun _ => .pure _

theorem get_reads (id : Nat) : (get id).Reads :=
  (find_reads id).bind fun _ => (Reads.lift _).bind fun _ => .pure _

def Inserts (store : Store) (success : Success) (later : Store) : Prop :=
  ∃ name text formula, store.Takes formula ∧ Text.trim text = text ∧ States text formula ∧
    later = (store.insert name text formula).1 ∧
    success = ⟨201, ((store.insert name text formula).2.rule formula).document⟩

theorem add_inserts {name text : String} {formula : Formula} (trimmed : Text.trim text = text)
    (stated : States text formula)
    (done : (add name text formula).perform store = (.ok success, later)) :
    Inserts store success later := by
  rw [perform_add] at done
  split at done
  · rename_i takes
    cases done
    exact ⟨name, text, formula, takes, trimmed, stated, rfl, rfl⟩
  · cases (Prod.mk.inj done).1

theorem create_inserts (done : (create body).perform store = (.ok success, later)) :
    Inserts store success later := by
  obtain ⟨fields, _, done⟩ := lift_bind_eq_ok.mp done
  obtain ⟨name, _, done⟩ := lift_bind_eq_ok.mp done
  obtain ⟨text, _, done⟩ := lift_bind_eq_ok.mp done
  obtain ⟨formula, parsed, done⟩ := lift_bind_eq_ok.mp done
  exact add_inserts (Text.trim_trim text) (states_of_parse (parse_eq_ok.mp parsed)) done

theorem combine_inserts (sound : store.Sound)
    (done : (combine body).perform store = (.ok success, later)) : Inserts store success later := by
  obtain ⟨fields, _, done⟩ := lift_bind_eq_ok.mp done
  obtain ⟨name, _, done⟩ := lift_bind_eq_ok.mp done
  obtain ⟨ids, _, done⟩ := lift_bind_eq_ok.mp done
  obtain ⟨found, every, done⟩ := (findEvery_reads ids).bind_eq_ok.mp done
  obtain ⟨⟨formula, text⟩, combined, done⟩ := lift_bind_eq_ok.mp done
  have rows := mem_of_findEvery every
  have stated : List.Forall₂ (fun text tree => States (Text.trim text) tree)
      (found.map (·.1.text)) (found.map (·.2)) := by
    rw [List.forall₂_map_left_iff, List.forall₂_map_right_iff, List.forall₂_same]
    intro pair inside
    obtain ⟨held, read⟩ := rows pair inside
    have inStep := sound.inStep pair.1 held
    obtain ⟨tree, root, stated⟩ := inStep.root
    cases root.symm.trans read
    exact inStep.trimmed.symm ▸ stated
  obtain ⟨trimmed, whole⟩ := combine_states stated (mapError_eq_ok.mp combined)
  exact add_inserts trimmed whole done

theorem update_replaces {id : Nat}
    (done : (update id body).perform store = (.ok success, later)) :
    ∃ fields row text formula, body = some (.object fields) ∧ store.find? id = some row ∧
      Json.depth (Formula.document formula) ≤ Json.writingLimit ∧
      Text.trim text = text ∧ States text formula ∧
      later = store.replace (row.revise (nameIn? fields) text formula) ∧
      success = ⟨200, ((row.revise (nameIn? fields) text formula).rule formula).document⟩ := by
  obtain ⟨fields, object, done⟩ := lift_bind_eq_ok.mp done
  obtain ⟨text, _, done⟩ := lift_bind_eq_ok.mp done
  obtain ⟨row, found, done⟩ := (find_reads id).bind_eq_ok.mp done
  obtain ⟨_, _, done⟩ := lift_bind_eq_ok.mp done
  obtain ⟨formula, parsed, done⟩ := lift_bind_eq_ok.mp done
  have given : body = some (.object fields) := by
    unfold objectBody at object
    split at object <;> cases object
    rfl
  rw [perform_bind, perform_replace] at done
  split at done
  · rename_i written
    split at written
    · rename_i shallow
      cases written
      refine ⟨fields, row, Text.trim text, formula, given, (find_eq_ok.mp found).2, shallow,
        Text.trim_trim text, states_of_parse (parse_eq_ok.mp parsed), ?_⟩
      cases done
      exact ⟨rfl, rfl⟩
    · cases (Prod.mk.inj written).1
  · cases (Prod.mk.inj done).1

theorem delete_erases {id : Nat} (done : (delete id).perform store = (.ok success, later)) :
    ∃ message, later = store.erase id ∧
      success = ⟨200, .object [("message", .text message)]⟩ := by
  rw [perform_delete] at done
  split at done
  · split at done
    · cases done
      exact ⟨_, rfl, rfl⟩
    · cases (Prod.mk.inj done).1
  · cases (Prod.mk.inj done).1

theorem evaluate_eq_ok (done : (evaluate body).perform store = (.ok success, later)) :
    ∃ truth, later = store ∧ success = ⟨200, .object [("result", .boolean truth)]⟩ := by
  obtain ⟨fields, _, done⟩ := lift_bind_eq_ok.mp done
  obtain ⟨data, _, done⟩ := lift_bind_eq_ok.mp done
  obtain ⟨formula, _, done⟩ := (formulaOf_reads _).bind_eq_ok.mp done
  obtain ⟨truth, _, done⟩ := lift_bind_eq_ok.mp done
  cases done
  exact ⟨truth, rfl, rfl⟩

theorem ruleDocument_eq_ok {row : Row} {body : Value} :
    ruleDocument row = .ok body ↔ ∃ formula, row.root = .ok formula ∧
      (row.rule formula).document = body := by
  rw [ruleDocument, bind_eq_ok]
  simp [root, mapError_eq_ok, pure, Except.pure]

theorem list_eq_ok (done : list.perform store = (.ok success, later)) :
    ∃ items, store.rows.mapM ruleDocument = .ok items ∧ later = store ∧
      success = ⟨200, .list items⟩ := by
  obtain ⟨held, here, done⟩ := Reads.bind_eq_ok (fun _ => rfl) |>.mp done
  cases here
  obtain ⟨items, read, done⟩ := lift_bind_eq_ok.mp done
  cases done
  exact ⟨items, read, rfl, rfl⟩

theorem get_eq_ok {id : Nat} (done : (get id).perform store = (.ok success, later)) :
    ∃ row body, store.find? id = some row ∧ ruleDocument row = .ok body ∧ later = store ∧
      success = ⟨200, body⟩ := by
  obtain ⟨row, found, done⟩ := (find_reads id).bind_eq_ok.mp done
  obtain ⟨body, read, done⟩ := lift_bind_eq_ok.mp done
  cases done
  exact ⟨row, body, (find_eq_ok.mp found).2, read, rfl, rfl⟩

end Action

theorem mem_of_mapM {ε α β : Type} {f : α → Except ε β} {items : List α} {found : List β}
    (read : items.mapM f = .ok found) : ∀ held ∈ found, ∃ item ∈ items, f item = .ok held := by
  have pairs := mapM_eq_ok.mp read
  clear read
  induction pairs with
  | nil => nofun
  | @cons item held items found here _ ih =>
    intro other inside
    rcases List.mem_cons.mp inside with rfl | inside
    · exact ⟨item, List.mem_cons_self, here⟩
    · obtain ⟨before, there, equal⟩ := ih other inside
      exact ⟨before, List.mem_cons_of_mem item there, equal⟩

namespace Service

variable {store : Store} {request : Request} {resource : Resource} {success : Success}

theorem verb_cases (routed : request.route = .resource resource) (acts : request.verb ≠ "OPTIONS") :
    match resource with
    | .create | .combine | .evaluate => request.verb = "POST"
    | .list | .file => request.verb = "GET" ∨ request.verb = "HEAD"
    | .update _ => request.verb = "PUT"
    | .rule _ => request.verb = "GET" ∨ request.verb = "HEAD" ∨ request.verb = "DELETE" := by
  have answered := Route.answers_of_ofPath routed
  cases resource <;> simpa [Resource.answers, Resource.methods, acts] using answered

theorem insert_change {later : Store} (creates : request.Creates)
    (inserts : Action.Inserts store success later) :
    Change store request later ⟨success.status, some success.body⟩ := by
  obtain ⟨name, text, formula, takes, trimmed, stated, rfl, rfl⟩ := inserts
  exact .insert creates takes trimmed stated

theorem reads_change (verb : request.verb = "GET" ∨ request.verb = "HEAD") {body : Value}
    (ids : ∀ id ∈ Response.ids ⟨200, some body⟩, ∃ row ∈ store.rows, (row.id : Int) = id) :
    Change store request store ⟨200, some body⟩ := by
  refine .quiet (.inr (.inl ?_)) ids
  rcases verb with verb | verb <;> simp [verb]

/-- A request that is refused has changed nothing. -/
theorem act_atomic (method : String) (resource : Resource) (payload : Payload) :
    (act method resource payload).Atomic := by
  cases resource with
  | create => exact (Action.Reads.lift _).bind_atomic Action.create_atomic
  | combine => exact (Action.Reads.lift _).bind_atomic Action.combine_atomic
  | evaluate => exact ((Action.Reads.lift _).bind Action.evaluate_reads).atomic
  | list => exact Action.list_reads.atomic
  | update digits => exact (Action.Reads.lift _).bind_atomic fun body => Action.update_atomic _ body
  | rule digits =>
    by_cases deletes : method = "DELETE"
    · simpa only [act, if_pos deletes] using Action.delete_atomic _
    · simpa only [act, if_neg deletes] using (Action.get_reads _).atomic
  | file => exact (Action.Reads.throw _).atomic

theorem act_change (sound : store.Sound) (routed : request.route = .resource resource)
    (acts : request.verb ≠ "OPTIONS") {later : Store}
    (done : (act request.verb resource request.payload).perform store = (.ok success, later)) :
    Change store request later ⟨success.status, some success.body⟩ := by
  have verb := verb_cases routed acts
  cases resource with
  | create =>
    obtain ⟨body, _, done⟩ := Action.lift_bind_eq_ok.mp done
    exact insert_change ⟨verb, .inl routed⟩ (Action.create_inserts done)
  | combine =>
    obtain ⟨body, _, done⟩ := Action.lift_bind_eq_ok.mp done
    exact insert_change ⟨verb, .inr routed⟩ (Action.combine_inserts sound done)
  | evaluate =>
    obtain ⟨body, _, done⟩ := Action.lift_bind_eq_ok.mp done
    obtain ⟨truth, rfl, rfl⟩ := Action.evaluate_eq_ok done
    exact .quiet (.inr (.inr routed)) nofun
  | list =>
    obtain ⟨items, read, rfl, rfl⟩ := Action.list_eq_ok done
    refine reads_change verb fun id listed => ?_
    obtain ⟨item, inside, identity⟩ := List.mem_filterMap.mp listed
    obtain ⟨row, held, shown⟩ := mem_of_mapM read item inside
    obtain ⟨formula, _, rfl⟩ := Action.ruleDocument_eq_ok.mp shown
    exact ⟨row, held, Option.some.inj ((row.id?_document formula).symm.trans identity)⟩
  | update digits =>
    obtain ⟨body, given, done⟩ := Action.lift_bind_eq_ok.mp done
    obtain ⟨fields, row, text, formula, rfl, found, shallow, trimmed, stated, rfl, rfl⟩ :=
      Action.update_replaces done
    obtain ⟨_, identity⟩ := Action.mem_of_find? found
    have named : request.name? = Action.nameIn? fields := by rw [Request.name?, given]
    rw [← named]
    have updated : request.route.updated? = some (row.id : Int) := by rw [routed, identity]; rfl
    exact .replace ⟨verb, updated⟩ (identity ▸ found) shallow trimmed stated
  | rule digits =>
    simp only [act] at done
    split at done
    · rename_i deletes
      obtain ⟨message, rfl, rfl⟩ := Action.delete_erases done
      exact .erase ⟨deletes, by rw [routed]; rfl⟩ (by simp [Response.ids, Value.id?, List.lookup_cons])
    · rename_i other
      obtain ⟨row, body, found, shown, rfl, rfl⟩ := Action.get_eq_ok done
      obtain ⟨formula, _, rfl⟩ := Action.ruleDocument_eq_ok.mp shown
      have reads : request.verb = "GET" ∨ request.verb = "HEAD" :=
        verb.imp_right fun verb => verb.resolve_right other
      refine reads_change reads fun id listed => ?_
      rw [row.ids_document, List.mem_singleton] at listed
      exact ⟨row, (Action.mem_of_find? found).1, listed.symm⟩
  | file => cases (Prod.mk.inj done).1

theorem refusal_change (refusal : Refusal) : Change store request store refusal.response :=
  .quiet (.inl refusal.not_succeeded) (by simp [refusal.ids_response])

theorem finish_change (sound : store.Sound) (routed : request.route = .resource resource)
    (acts : request.verb ≠ "OPTIONS") :
    let finished := finish ((act request.verb resource request.payload).perform store)
    Change store request finished.1 finished.2 := by
  rcases done : (act request.verb resource request.payload).perform store with
    ⟨refusal | success, later⟩
  · cases act_atomic _ _ _ store refusal later done
    exact refusal_change refusal
  · exact act_change sound routed acts done

theorem Change.withoutBody {next : Store} {response : Response} (head : request.verb = "HEAD")
    (change : Change store request next response) :
    Change store request next { response with body := none } := by
  cases change with
  | quiet => exact .quiet (.inr (.inl (by simp [head]))) nofun
  | insert creates => exact absurd (head.symm.trans creates.1) (by decide)
  | replace updates => exact absurd (head.symm.trans updates.1) (by decide)
  | erase deletes => exact absurd (head.symm.trans deletes.1) (by decide)

theorem respond_change (sound : store.Sound) (request : Request) :
    Change store request (respond store request).1 (respond store request).2 := by
  unfold respond
  dsimp only
  split
  · rename_i resource routed
    split
    · rename_i options
      have verb : request.verb = "OPTIONS" := options
      exact .quiet (.inr (.inl (by simp [verb]))) nofun
    · rename_i acts
      have change := finish_change sound routed acts
      split
      · rename_i head
        exact Change.withoutBody head change
      · exact change
  all_goals exact refusal_change _

theorem run_sound (sound : store.Sound) (requests : List Request) : (run store requests).1.Sound := by
  induction requests generalizing store with
  | nil => exact sound
  | cons request requests ih => exact ih (sound.change (respond_change sound request))

end Service

namespace Store.Sound

variable {store : Store} {row : Row}

theorem inReach (sound : store.Sound) (held : row ∈ store.rows) :
    Action.inReach row.id = true := by
  have issued := sound.issued row held
  have reach := sound.reach
  simp only [Action.inReach, Bool.and_eq_true, decide_eq_true_eq]
  omega

theorem find?_of_mem (sound : store.Sound) (held : row ∈ store.rows) :
    store.find? row.id = some row := by
  rw [Store.find?, List.find?_eq_some_iff_append]
  obtain ⟨before, after, rows⟩ := List.append_of_mem held
  refine ⟨decide_eq_true rfl, before, after, rows, ?_⟩
  intro other earlier
  have ascending := sound.ascending
  rw [rows, List.pairwise_append] at ascending
  have less := ascending.2.2 other earlier row List.mem_cons_self
  simp
  omega

theorem find (sound : store.Sound) (held : row ∈ store.rows) :
    (Action.find row.id).told store = .ok row :=
  Action.find_eq_ok.mpr ⟨sound.inReach held, sound.find?_of_mem held⟩

end Store.Sound

end Rulebook

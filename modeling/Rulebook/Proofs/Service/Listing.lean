import Rulebook.Proofs.Service.Lookup

/-! Identities are given out once and in order, and the list of all rules agrees with what is read of
each. -/
namespace Rulebook

def issued (exchanges : List Exchange) : List Int :=
  (exchanges.filter fun exchange => exchange.Created).flatMap (·.response.ids)

def Store.ids (store : Store) : List Int := store.rows.map fun row => (row.id : Int)

theorem issued_concat (exchanges : List Exchange) (exchange : Exchange) :
    issued (exchanges ++ [exchange]) =
      issued exchanges ++ if exchange.Created then exchange.response.ids else [] := by
  rw [issued, List.filter_append, List.flatMap_append, ← issued]
  by_cases created : exchange.Created <;> simp [created]

namespace Change

variable {store next : Store} {request : Request} {response : Response}

/-- A new rule has the identity after the last one, and else none is given out. -/
theorem issues (change : Change store request next response) :
    Exchange.Created ⟨request, response⟩ ∧ next.lastId = store.lastId + 1 ∧
        response.ids = [(next.lastId : Int)] ∨
      ¬ Exchange.Created ⟨request, response⟩ ∧ next.lastId = store.lastId := by
  cases change with
  | quiet quiet =>
    exact .inr ⟨fun created => Exchange.not_quiet created.1 (.inl created.2) quiet, rfl⟩
  | insert creates =>
    exact .inl ⟨⟨Response.succeeded_created _, creates⟩, rfl, Row.ids_document ..⟩
  | replace updates =>
    exact .inr ⟨fun created => absurd (created.2.1.symm.trans updates.1) (by decide), rfl⟩
  | erase deletes =>
    exact .inr ⟨fun created => absurd (created.2.1.symm.trans deletes.1) (by decide), rfl⟩

theorem ids_le (sound : store.Sound) (change : Change store request next response) :
    ∀ id ∈ response.ids, id ≤ next.lastId := by
  intro id told
  cases change with
  | quiet _ known =>
    obtain ⟨row, held, rfl⟩ := known id told
    exact_mod_cast sound.issued row held
  | insert =>
    rw [Row.ids_document, List.mem_singleton] at told
    exact Int.le_of_eq told
  | @replace row text formula updates found =>
    rw [Row.ids_document, List.mem_singleton] at told
    rw [told]
    exact_mod_cast sound.issued row (Action.mem_of_find? found).1
  | erase deletes nameless =>
    rw [nameless] at told
    cases told

theorem ids_sublist (change : Change store request next response) :
    next.ids.Sublist (store.ids ++
      if Exchange.Created ⟨request, response⟩ then response.ids else []) := by
  cases change with
  | quiet => exact List.sublist_append_left ..
  | insert creates =>
    rw [if_pos ⟨Response.succeeded_created _, creates⟩, Row.ids_document, Store.ids, Store.insert,
      List.map_append]
    exact List.Sublist.refl _
  | @replace row text formula =>
    have same : (store.replace (row.revise request.name? text formula)).ids = store.ids := by
      have naturals := congrArg (List.map (Nat.cast : Nat → Int))
        (store.ids_replace (row.revise request.name? text formula))
      rw [List.map_map, List.map_map] at naturals
      exact naturals
    rw [same]
    exact List.sublist_append_left ..
  | erase => exact (List.filter_sublist.map _).trans (List.sublist_append_left ..)

end Change

namespace Service

theorem issued_run (requests : List Request) :
    issued (exchanges .empty requests) =
      (List.range' 1 (run .empty requests).1.lastId).map Nat.cast := by
  induction requests using List.reverseRecOn with
  | nil => rfl
  | append_singleton requests request ih =>
    have change := respond_change (run_sound .empty requests) request
    rw [run_concat, exchanges_concat, issued_concat, ih]
    rcases change.issues with ⟨created, last, ids⟩ | ⟨created, last⟩
    · rw [if_pos created, ids, last, List.range'_1_concat, List.map_append]
      rw [Nat.add_comm]
      rfl
    · rw [if_neg created, last, List.append_nil]

theorem ids_run (requests : List Request) :
    ∀ exchange ∈ exchanges .empty requests, ∀ id ∈ exchange.response.ids,
      id ≤ (run .empty requests).1.lastId := by
  induction requests using List.reverseRecOn with
  | nil => nofun
  | append_singleton requests request ih =>
    have sound := run_sound .empty requests
    have change := respond_change sound request
    rw [run_concat, exchanges_concat]
    intro exchange inside id told
    rcases List.mem_append.mp inside with before | last
    · have below := ih exchange before id told
      rcases change.issues with ⟨_, last, _⟩ | ⟨_, last⟩ <;> omega
    · cases List.mem_singleton.mp last
      exact change.ids_le sound id told

theorem ids_sublist_run (requests : List Request) :
    (run .empty requests).1.ids.Sublist (issued (exchanges .empty requests)) := by
  induction requests using List.reverseRecOn with
  | nil => exact List.Sublist.refl []
  | append_singleton requests request ih =>
    have change := respond_change (run_sound .empty requests) request
    rw [run_concat, exchanges_concat, issued_concat]
    exact change.ids_sublist.trans (ih.append_right _)

end Service

namespace Store

variable {store : Store}

def entries (store : Store) : List (Int × Value) :=
  store.rows.map fun row => ((row.id : Int), (Action.ruleDocument row).toOption.getD .null)

theorem mem_entries (sound : store.Sound) {id : Int} {body : Value} :
    (id, body) ∈ store.entries ↔ store.shown? id = some body := by
  constructor
  · intro inside
    obtain ⟨row, held, equal⟩ := List.mem_map.mp inside
    obtain ⟨document, read⟩ := sound.ruleDocument held
    rw [read] at equal
    cases equal
    exact sound.shown?_of_mem held read
  · intro shown
    obtain ⟨row, held, rfl, read⟩ := mem_of_shown? shown
    refine List.mem_map.mpr ⟨row, held, ?_⟩
    rw [read]
    rfl

theorem Sound.ids_ascending (sound : store.Sound) : store.ids.Pairwise (· < ·) := by
  rw [ids, List.pairwise_map]
  exact sound.ascending.imp fun less => by exact_mod_cast less

theorem Sound.list (sound : store.Sound) :
    Action.list.perform store = (.ok ⟨200, .list (store.entries.map (·.2))⟩, store) := by
  have read : store.rows.mapM Action.ruleDocument = .ok (store.entries.map (·.2)) := by
    rw [mapM_eq_ok, entries, List.map_map, List.forall₂_map_right_iff, List.forall₂_same]
    intro row held
    obtain ⟨document, read⟩ := sound.ruleDocument held
    simp [read, Except.toOption]
  rw [Action.list, Action.perform_bind, Action.perform_get]
  dsimp only
  rw [Action.lift_bind_of_ok read]
  rfl

end Store

namespace Service

theorem respond_list {store : Store} (sound : store.Sound) :
    (respond store .list).2 = ⟨200, some (.list (store.entries.map (·.2)))⟩ := by
  have verb : Request.list.verb = "GET" := by decide +kernel
  rw [respond_resource Request.route_list (by simp [verb]) (by simp [verb]), act, sound.list]
  rfl

end Service

/-- Whatever requests come, the rules that are there have identities of their own, which have been
given out, each above all that any response told of before. The list of all rules has exactly the
rules that can be read, each once, and in the order in which they were made. -/
theorem list_agrees_with_reads (requests : List Request) :
    let exchanges := Service.exchanges .empty requests
    let store := (Service.run .empty requests).1
    ((store.rows.map (·.id)).Nodup ∧ ∀ row ∈ store.rows, 0 < row.id ∧ row.id ≤ store.lastId) ∧
    issued exchanges = (List.range' 1 store.lastId).map Nat.cast ∧
    (∀ request, Exchange.Created ⟨request, (Service.respond store request).2⟩ →
      ∃ id, (Service.respond store request).2.ids = [id] ∧
        ∀ earlier ∈ exchanges, ∀ told ∈ earlier.response.ids, told < id) ∧
    ∃ entries : List (Int × Value),
      (Service.respond store .list).2 = ⟨200, some (.list (entries.map (·.2)))⟩ ∧
      (entries.map (·.1)).Pairwise (· < ·) ∧ (entries.map (·.1)).Sublist (issued exchanges) ∧
      ∀ id, ((Service.respond store (.get id)).2.status = 200 → ∃ body, (id, body) ∈ entries) ∧
        ∀ body, (id, body) ∈ entries ↔ (Service.respond store (.get id)).2 = ⟨200, some body⟩ := by
  intro exchanges store
  have sound : store.Sound := Service.run_sound .empty requests
  have identities : store.entries.map (·.1) = store.ids := by
    rw [Store.entries, List.map_map]
    rfl
  refine ⟨⟨?_, fun row held => ⟨sound.positive row held, sound.issued row held⟩⟩,
    Service.issued_run requests, ?_, store.entries, Service.respond_list sound, ?_, ?_, ?_⟩
  · exact (List.pairwise_map.mpr sound.ascending).imp Nat.ne_of_lt
  · intro request created
    rcases (Service.respond_change sound request).issues with ⟨_, last, ids⟩ | ⟨other, _⟩
    · refine ⟨_, ids, fun earlier inside told known => ?_⟩
      have below : told ≤ store.lastId := Service.ids_run requests earlier inside told known
      omega
    · exact absurd created other
  · exact identities ▸ sound.ids_ascending
  · exact identities ▸ Service.ids_sublist_run requests
  · intro id
    refine ⟨fun answered => ?_, fun body => ?_⟩
    · have succeeded : (Service.respond store (.get id)).2.Succeeded := ⟨by omega, by omega⟩
      obtain ⟨body, _, shown⟩ := Service.shown_of_respond_get succeeded
      exact ⟨body, (Store.mem_entries sound).mpr shown⟩
    · rw [Store.mem_entries sound, Service.respond_get_iff sound]

theorem list_agrees_with_reads_after_deletion :
    let post (path : String) (fields : Record) : Request := ⟨"POST", path, .value (.object fields)⟩
    let create (text : String) : Request :=
      post "/api/rules/create" [("name", .text "a"), ("ruleString", .text text)]
    let requests : List Request := [create "x > 1", create "y = true",
      post "/api/rules/combine" [("name", .text "b"), ("ruleIds", .list [.integer 2, .integer 1])],
      ⟨"DELETE", "/api/rules/3", .empty⟩,
      ⟨"PUT", "/api/rules/update/1", .value (.object [("ruleString", .text "z < 3")])⟩]
    let store := (Service.run .empty requests).1
    (∃ id, (Service.respond store (create "z < 4")).2.ids = [id] ∧ 3 < id) ∧
      ∃ entries : List (Int × Value),
        (Service.respond store .list).2 = ⟨200, some (.list (entries.map (·.2)))⟩ ∧
        (entries.map (·.1)).Pairwise (· < ·) ∧ (∃ body, (1, body) ∈ entries) ∧
        ∀ body, (3, body) ∉ entries := by
  intro post create requests store
  obtain ⟨_, _, fresh, entries, listed, ascending, _, reads⟩ := list_agrees_with_reads requests
  obtain ⟨id, ids, above⟩ := fresh (create "z < 4") (by decide +kernel)
  have combined : ∃ earlier ∈ Service.exchanges .empty requests, 3 ∈ earlier.response.ids := by
    decide +kernel
  obtain ⟨earlier, inside, told⟩ := combined
  refine ⟨⟨id, ids, above earlier inside 3 told⟩, entries, listed, ascending,
    (reads 1).1 (by decide +kernel), fun body there => ?_⟩
  have gone : (Service.respond store (.get 3)).2.status = 404 := by decide +kernel
  rw [((reads 3).2 body).mp there] at gone
  cases gone

end Rulebook

import Rulebook.Proofs.Service.Body
import Rulebook.Proofs.Service.Listing

/-! Combining stored rules: which of them are asked for and missing, and what is stored and answered
if none is. -/
namespace Rulebook

theorem Numeral.repr_eq_ofInt (value : Int) : value.repr = String.ofList (Numeral.ofInt value) := by
  cases value with
  | ofNat size =>
    have positive : ¬ (size : Int) < 0 := by omega
    simp [Numeral.ofInt, Int.repr, Nat.repr, positive]
  | negSucc size => simp [Numeral.ofInt, Int.repr, Nat.repr]

theorem Value.display_integers (values : List Int) :
    (Value.list (values.map Value.integer)).display =
      "[" ++ ", ".intercalate (values.map toString) ++ "]" := by
  have items : displayItems (values.map Value.integer) = ", ".intercalate (values.map toString) := by
    induction values with
    | nil => rfl
    | cons value values ih =>
      cases values with
      | nil => simp [displayItems, display, Literal.display, Numeral.repr_eq_ofInt]
      | cons next values =>
        have split : displayItems ((value :: next :: values).map Value.integer) =
            (Value.integer value).display ++ ", " ++
              displayItems ((next :: values).map Value.integer) := rfl
        rw [split, ih]
        simp [display, Literal.display, Numeral.repr_eq_ofInt]
  rw [display, items]

theorem joinTexts_eq (connective : Connective) {texts : List String}
    (trimmed : ∀ text ∈ texts, Text.trim text = text) :
    joinTexts connective texts =
      (" " ++ connective.name ++ " ").intercalate (texts.map fun text => "(" ++ text ++ ")") := by
  induction texts with
  | nil => rfl
  | cons text texts ih =>
    have here := trimmed text List.mem_cons_self
    have rest := ih fun other inside => trimmed other (List.mem_cons_of_mem text inside)
    cases texts with
    | nil => simp [joinTexts, here]
    | cons next texts =>
      have closing : ") " = ")" ++ " " := rfl
      rw [joinTexts, rest, here, closing, List.map_cons, List.map_cons, List.map_cons,
        String.intercalate_cons_cons]
      · simp only [String.append_assoc]
      · exact List.cons_ne_nil _ _

theorem Store.mem_ids {store : Store} {id : Int} :
    id ∈ store.ids ↔ ∃ row, store.find? id = some row := by
  rw [Store.ids, List.mem_map]
  constructor
  · rintro ⟨row, held, rfl⟩
    rw [← Option.isSome_iff_exists, Store.find?, List.find?_isSome]
    exact ⟨row, held, by simp⟩
  · rintro ⟨row, found⟩
    exact ⟨row, Action.mem_of_find? found⟩

/-- The rule of a row, asked for by its identity, with the formula that the row holds. -/
structure Store.Holds (store : Store) (id : Int) (rule : Row × Formula) : Prop where
  row : store.find? id = some rule.1
  formula : rule.1.root = .ok rule.2

theorem Store.Holds.unique {store : Store} {id : Int} {rule other : Row × Formula}
    (held : store.Holds id rule) (also : store.Holds id other) : rule = other := by
  have rows : rule.1 = other.1 := Option.some.inj (held.row.symm.trans also.row)
  have formulas := held.formula.symm.trans (rows ▸ also.formula)
  exact Prod.ext rows (Except.ok.inj formulas)

def Request.create (name text : String) : Request :=
  ⟨"POST", "/api/rules/create", .value (.object [("name", .text name), ("ruleString", .text text)])⟩

def Request.combine (name : String) (ids : List Int) : Request :=
  ⟨"POST", "/api/rules/combine",
    .value (.object [("name", .text name), ("ruleIds", .list (ids.map Value.integer))])⟩

theorem Request.verb_combine (name : String) (ids : List Int) : (combine name ids).verb = "POST" :=
  show "POST".map Char.toUpper = "POST" by decide +kernel

theorem Request.route_combine (name : String) (ids : List Int) :
    (combine name ids).route = .resource .combine := by
  rw [route, verb_combine]
  show Route.ofPath "POST" (Target.path "/api/rules/combine") = .resource .combine
  decide +kernel

namespace Action

variable {store : Store} {ids : List Int}

theorem findAll_split (sound : store.Sound) (reach : ∀ id ∈ ids, inReach id = true) :
    ∃ found, List.Forall₂ store.Holds (ids.filter (· ∈ store.ids)) found ∧
      (findAll ids).told store = .ok (found, ids.filter (· ∉ store.ids)) := by
  induction ids with
  | nil => exact ⟨[], .nil, rfl⟩
  | cons id ids ih =>
    obtain ⟨found, held, done⟩ := ih fun other inside => reach other (List.mem_cons_of_mem id inside)
    have looked : (find? id).told store = .ok (store.find? id) :=
      find?_eq_ok.mpr ⟨reach id List.mem_cons_self, rfl⟩
    cases here : store.find? id with
    | none =>
      have absent : id ∉ store.ids := by simp [Store.mem_ids, here]
      refine ⟨found, by simpa [absent] using held, ?_⟩
      rw [told_findAll_cons, looked, here]
      simp [done, absent, bind, Except.bind, pure, Except.pure]
    | some row =>
      have present : id ∈ store.ids := Store.mem_ids.mpr ⟨row, here⟩
      obtain ⟨formula, stored, _⟩ := (sound.inStep row (mem_of_find? here).1).root
      refine ⟨(row, formula) :: found, ?_, ?_⟩
      · rw [List.filter_cons_of_pos (by simpa using present)]
        exact .cons ⟨here, stored⟩ held
      · have read : root row = .ok formula := mapError_eq_ok.mpr stored
        rw [told_findAll_cons, looked, here]
        simp [read, done, present, bind, Except.bind, pure, Except.pure]

theorem findEvery_missing (sound : store.Sound) (reach : ∀ id ∈ ids, inReach id = true)
    (missing : ids.filter (· ∉ store.ids) ≠ []) :
    (findEvery ids).told store = .error (.absentAll (ids.filter (· ∉ store.ids))) := by
  obtain ⟨found, _, done⟩ := findAll_split sound reach
  rw [told_findEvery, done]
  simpa [bind, Except.bind] using missing

theorem findEvery_found (sound : store.Sound) (reach : ∀ id ∈ ids, inReach id = true)
    (present : ids.filter (· ∉ store.ids) = []) :
    ∃ found, List.Forall₂ store.Holds ids found ∧ (findEvery ids).told store = .ok found := by
  obtain ⟨found, held, done⟩ := findAll_split sound reach
  have every : ids.filter (· ∈ store.ids) = ids := by
    rw [List.filter_eq_self]
    simpa [List.filter_eq_nil_iff] using present
  rw [every] at held
  refine ⟨found, held, ?_⟩
  rw [told_findEvery, done, present]
  rfl

end Action

/-- AND if more of the rules have it at the top than OR, and else OR. -/
def prevailing (rules : List (Row × Formula)) : Connective :=
  if rules.countP (·.2.top? = some .or) < rules.countP (·.2.top? = some .and) then .and else .or

def joinedTexts (connective : Connective) (rules : List (Row × Formula)) : String :=
  (" " ++ connective.name ++ " ").intercalate (rules.map fun rule => "(" ++ rule.1.text ++ ")")

theorem Tree.majority_eq (rules : List (Row × Formula)) :
    Tree.majority (rules.map (·.2)) = prevailing rules := by
  rw [Tree.majority_eq_ite, List.countP_map, List.countP_map]
  rfl

theorem Tree.joinAll_map (connective : Connective) (first : Formula) (rest : List (Row × Formula)) :
    Tree.joinAll connective first (rest.map (·.2)) =
      rest.foldl (fun tree rule => .join connective tree rule.2) first := by
  rw [Tree.joinAll, List.foldl_map]

namespace Action

section Combining

variable {store : Store} {fields : Record} {name : String} {ids : List Int}

theorem combine_missing (sound : store.Sound) (named : fields.lookup "name" = some (.text name))
    (listed : fields.lookup "ruleIds" = some (.list (ids.map Value.integer))) (nonempty : ids ≠ [])
    (reach : ∀ id ∈ ids, inReach id = true) (missing : ids.filter (· ∉ store.ids) ≠ []) :
    (combine (some (.object fields))).perform store =
      (.error (.absentAll (ids.filter (· ∉ store.ids))), store) := by
  have object : objectBody (some (.object fields)) = .ok fields := rfl
  rw [combine, lift_bind_of_ok object, lift_bind_of_ok (requireText_eq_ok.mpr named),
    lift_bind_of_ok (requireIds_eq_ok.mpr ⟨listed, nonempty⟩)]
  exact (findEvery_reads ids).perform_of_error (findEvery_missing sound reach missing)

theorem combine_found (sound : store.Sound) (named : fields.lookup "name" = some (.text name))
    (listed : fields.lookup "ruleIds" = some (.list (ids.map Value.integer))) (nonempty : ids ≠ [])
    (reach : ∀ id ∈ ids, inReach id = true) (present : ids.filter (· ∉ store.ids) = []) :
    ∃ first rest, List.Forall₂ store.Holds ids (first :: rest) ∧
      (combine (some (.object fields))).perform store =
        (add name (joinedTexts (prevailing (first :: rest)) (first :: rest))
          (rest.foldl (fun tree rule => .join (prevailing (first :: rest)) tree rule.2)
            first.2)).perform store := by
  obtain ⟨found, held, every⟩ := findEvery_found sound reach present
  cases found with
  | nil =>
    cases held
    exact absurd rfl nonempty
  | cons first rest =>
    refine ⟨first, rest, held, ?_⟩
    have trimmed : ∀ text ∈ (first :: rest).map (·.1.text), Text.trim text = text := by
      intro text inside
      obtain ⟨rule, there, rfl⟩ := List.mem_map.mp inside
      exact (sound.inStep rule.1 (mem_of_findEvery every rule there).1).trimmed
    have object : objectBody (some (.object fields)) = .ok fields := rfl
    have joined : Rulebook.combine ((first :: rest).map (·.2)) ((first :: rest).map (·.1.text)) = _ :=
      combine_cons (by simp)
    rw [Tree.joinAll_map, joinTexts_eq _ trimmed, ← List.map_cons, Tree.majority_eq,
      List.map_map] at joined
    rw [combine, lift_bind_of_ok object, lift_bind_of_ok (requireText_eq_ok.mpr named),
      lift_bind_of_ok (requireIds_eq_ok.mpr ⟨listed, nonempty⟩)]
    refine ((findEvery_reads ids).perform_of_ok every).trans ?_
    dsimp only
    rw [lift_bind_of_ok (mapError_eq_ok.mpr joined)]
    rfl

end Combining

end Action

theorem Service.respond_combine {store : Store} {request : Request} {fields : Record}
    (verb : request.verb = "POST") (routed : request.route = .resource .combine)
    (body : request.payload.body = .ok (some (.object fields))) :
    respond store request =
      finish ((Action.combine (some (.object fields))).perform store) := by
  rw [respond_resource routed (by simp [verb]) (by simp [verb]), act, Action.lift_bind_of_ok body]

theorem Formula.depth_document_pos (formula : Formula) : 0 < Json.depth formula.document := by
  cases formula <;> simp

/-- The formula of too many rules nests too deeply, whatever they are. -/
theorem Service.respond_combine_many {store : Store} {name : String} {ids : List Int}
    (sound : store.Sound) (present : ∀ id ∈ ids, id ∈ store.ids)
    (many : Json.writingLimit < ids.length) :
    respond store (.combine name ids) = (store, ⟨500, none⟩) := by
  let fields : Record := [("name", .text name), ("ruleIds", .list (ids.map Value.integer))]
  have body : (Request.combine name ids).payload.body = .ok (some (.object fields)) := rfl
  have reach : ∀ id ∈ ids, Action.inReach id = true := by
    intro id inside
    obtain ⟨row, found⟩ := Store.mem_ids.mp (present id inside)
    obtain ⟨held, rfl⟩ := Action.mem_of_find? found
    exact sound.inReach held
  have nonempty : ids ≠ [] := List.length_pos_iff.mp (by omega)
  have named : fields.lookup "name" = some (.text name) := rfl
  have listed : fields.lookup "ruleIds" = some (.list (ids.map Value.integer)) := rfl
  obtain ⟨first, rest, held, combined⟩ := Action.combine_found sound named listed nonempty reach
    (by simpa [List.filter_eq_nil_iff] using present)
  have length : ids.length = rest.length + 1 := held.length_eq
  have deep := Formula.depth_document_joinAll (prevailing (first :: rest)) first.2 (rest.map (·.2))
  have positive := Formula.depth_document_pos first.2
  rw [Tree.joinAll_map, List.length_map] at deep
  rw [respond_combine (Request.verb_combine name ids) (Request.route_combine name ids) body, combined,
    Action.perform_add, if_neg fun takes => ?_]
  · rfl
  · have writable := takes.writable
    omega

/-- Whatever requests came before, a request to combine rules by their identities is answered with
those that no rule has, if there are any, and stores nothing. Otherwise it adds one row: its formula
is that of the first rule with those of the others joined to it one by one, its text the texts of
the rules in parentheses, both by the connective that prevails. Unless the formula nests too deeply
to be written, or all identities are given out that can be looked up: then it fails, and stores
nothing either. -/
theorem combine_joins_stored_rules (requests : List Request) {request : Request} {fields : Record}
    {name : String} {ids : List Int} (verb : request.verb = "POST")
    (routed : request.route = .resource .combine)
    (body : request.payload.body = .ok (some (.object fields)))
    (named : fields.lookup "name" = some (.text name))
    (listed : fields.lookup "ruleIds" = some (.list (ids.map Value.integer))) (nonempty : ids ≠ [])
    (reach : ∀ id ∈ ids, -2 ^ 63 ≤ id ∧ id < 2 ^ 63) :
    let store := (Service.run .empty requests).1
    let absent := ids.filter (· ∉ store.ids)
    (absent ≠ [] → Service.respond store request = (store, ⟨404, some (.object [("error",
      .text ("Rules not found: [" ++ ", ".intercalate (absent.map toString) ++ "]"))])⟩)) ∧
    (absent = [] → ∃ first rest, List.Forall₂ store.Holds ids (first :: rest) ∧
      let connective := prevailing (first :: rest)
      let root := rest.foldl (fun tree rule => .join connective tree rule.2) first.2
      let row : Row := ⟨store.lastId + 1, name, joinedTexts connective (first :: rest), root.document⟩
      Service.respond store request =
        if Json.depth row.document ≤ Json.writingLimit ∧ row.id < 2 ^ 63 then
          (⟨store.rows ++ [row], row.id⟩, ⟨201, some (row.rule root).document⟩)
        else (store, ⟨500, none⟩)) := by
  intro store absent
  have sound : store.Sound := Service.run_sound .empty requests
  have reach : ∀ id ∈ ids, Action.inReach id = true := by
    intro id inside
    simpa only [Action.inReach, Bool.and_eq_true, decide_eq_true_eq] using reach id inside
  rw [Service.respond_combine verb routed body]
  constructor
  · intro missing
    rw [Action.combine_missing sound named listed nonempty reach missing]
    have message : Refusal.message? (.absentAll absent) = some
        ("Rules not found: [" ++ ", ".intercalate (absent.map toString) ++ "]") := by
      have opening : "Rules not found: [" = "Rules not found: " ++ "[" := rfl
      rw [Refusal.message?, Value.display_integers, opening]
      simp only [String.append_assoc]
    rw [Service.finish, Refusal.response, message]
    rfl
  · intro present
    obtain ⟨first, rest, held, combined⟩ :=
      Action.combine_found sound named listed nonempty reach present
    refine ⟨first, rest, held, ?_⟩
    dsimp only
    rw [combined, Action.perform_add]
    split
    · rename_i takes
      rw [if_pos ⟨takes.writable, takes.left⟩]
      rfl
    · rename_i full
      rw [if_neg fun takes => full ⟨takes.1, takes.2⟩]
      rfl

theorem combine_joins_stored_rules_repeated :
    let requests : List Request := [.create "a" "x > 1", .create "a" " a = 1 AND b = 2 ",
      .create "a" "y = true", ⟨"DELETE", "/api/rules/3", .empty⟩]
    let store := (Service.run .empty requests).1
    let both : Formula := .join .and (.leaf ⟨"a", .equal, .integer 1, rfl⟩)
      (.leaf ⟨"b", .equal, .integer 2, rfl⟩)
    let one : Formula := .leaf ⟨"x", .greater, .integer 1, rfl⟩
    let root : Formula := .join .and (.join .and both one) both
    let row : Row := ⟨4, "b", "(a = 1 AND b = 2) AND (x > 1) AND (a = 1 AND b = 2)", root.document⟩
    Service.respond store (.combine "b" [3, 1, 9, 3]) =
        (store, ⟨404, some (.object [("error", .text "Rules not found: [3, 9, 3]")])⟩) ∧
      Service.respond store (.combine "b" [2, 1, 2]) =
        (⟨store.rows ++ [row], 4⟩, ⟨201, some (row.rule root).document⟩) := by
  intro requests store both one root row
  let single : Row × Formula := (⟨1, "a", "x > 1", one.document⟩, one)
  let twice : Row × Formula := (⟨2, "a", "a = 1 AND b = 2", both.document⟩, both)
  have known : store = ⟨[single.1, twice.1], 3⟩ := by decide +kernel
  have first : store.Holds 1 single := by
    rw [known]
    exact ⟨rfl, by decide +kernel⟩
  have second : store.Holds 2 twice := by
    rw [known]
    exact ⟨rfl, by decide +kernel⟩
  have absent : [3, 1, 9, 3].filter (· ∉ store.ids) = [3, 9, 3] := by
    rw [known]
    decide
  have present : [2, 1, 2].filter (· ∉ store.ids) = [] := by
    rw [known]
    decide
  constructor
  · have missing := (combine_joins_stored_rules requests (Request.verb_combine "b" [3, 1, 9, 3])
      (Request.route_combine _ _) rfl rfl rfl (by decide) (by decide)).1
      (by rw [absent]; exact List.cons_ne_nil _ _)
    have message : "Rules not found: [" ++ ", ".intercalate
        (([3, 1, 9, 3].filter (· ∉ store.ids)).map toString) ++ "]" =
        "Rules not found: [3, 9, 3]" := by rw [absent]; decide +kernel
    rw [message] at missing
    exact missing
  · obtain ⟨rule, rules, held, answer⟩ := (combine_joins_stored_rules requests
      (Request.verb_combine "b" [2, 1, 2]) (Request.route_combine _ _) rfl rfl rfl (by decide)
      (by decide)).2 present
    cases held with
    | cons held more =>
      cases held.unique second
      cases more with
      | cons held more =>
        cases held.unique first
        cases more with
        | cons held more =>
          cases held.unique second
          cases more
          have last : store.lastId = 3 := by rw [known]
          have prevails : prevailing [twice, single, twice] = .and := by decide +kernel
          have joined : joinedTexts .and [twice, single, twice] = row.text := by decide +kernel
          rw [answer, prevails, joined, last]
          rfl

/-- A rule that is there is not combined with itself a thousand times, nor under half a character. -/
theorem combination_cannot_be_stored :
    let store := (Service.run .empty [.create "a" "x > 1"]).1
    store.ids = [1] ∧
      Service.respond store (.combine "b" (List.replicate 1000 1)) = (store, ⟨500, none⟩) ∧
      Service.respond store ⟨"POST", "/api/rules/combine",
        .text "\x7b\"name\": \"\\ud800\", \"ruleIds\": [1]\x7d" "application/json"⟩ =
          (store, ⟨500, none⟩) := by
  intro store
  have sound : store.Sound := Service.run_sound .empty _
  have known : store.ids = [1] := by decide +kernel
  refine ⟨known, Service.respond_combine_many sound ?_ ?_, by decide +kernel⟩
  · intro id inside
    rw [known, List.eq_of_mem_replicate inside]
    exact List.mem_singleton_self 1
  · rw [List.length_replicate]
    decide

end Rulebook

import Rulebook.Proofs.Service.Combination
import Rulebook.Proofs.Service.Lookup

/-! A rule is given the text that it has already: the store stays as it is, unless the text nests
too deeply to be read once more. -/
namespace Rulebook

def Request.update (id : Nat) (text : String) : Request :=
  ⟨"PUT", "/api/rules/" ++ String.ofList ("update/".toList ++ Nat.toDigits 10 id),
    .value (.object [("ruleString", .text text)])⟩

namespace Request

theorem verb_update (id : Nat) (text : String) : (update id text).verb = "PUT" :=
  show "PUT".map Char.toUpper = "PUT" by decide +kernel

theorem route_update {id : Nat} (legible : (Nat.toDigits 10 id).length ≤ digitLimit) (text : String) :
    (update id text).route = .resource (.update (Nat.toDigits 10 id)) := by
  have plain : ∀ c ∈ "update/".toList ++ Nat.toDigits 10 id, Target.isPlain c = true := by
    have front : "update/".toList.all Target.isPlain = true := by decide
    rw [List.forall_mem_append]
    exact ⟨List.all_eq_true.mp front, Target.isPlain_toDigits id⟩
  have path : Target.path (update id text).target =
      Route.base.toList ++ ("/update/".toList ++ Nat.toDigits 10 id) := Target.path_base plain
  have found : Route.resource? (Route.base.toList ++ ("/update/".toList ++ Nat.toDigits 10 id)) =
      some (.update (Nat.toDigits 10 id)) := by
    rw [Route.resource?, Route.after?_append]
    dsimp only
    rw [Route.ruleResource?, Route.after?_append]
    dsimp only
    rw [Route.digits?_of_isDigit Nat.toDigits_ne_nil (isDigit_toDigits id)]
    simp
  rw [route, verb_update, path, Route.ofPath, found]
  simp [Resource.answers, Resource.methods, Resource.isLegible, legible]

end Request

namespace Store.Sound

variable {store : Store} {row : Row}

theorem eq_of_id {other : Row} (sound : store.Sound) (held : row ∈ store.rows)
    (also : other ∈ store.rows) (same : row.id = other.id) : row = other := by
  have found := sound.find?_of_mem held
  rw [same, sound.find?_of_mem also] at found
  exact (Option.some.inj found).symm

theorem replace_self (sound : store.Sound) (held : row ∈ store.rows) : store.replace row = store := by
  have rows : (store.rows.map fun old => if old.id = row.id then row else old) = store.rows := by
    conv_rhs => rw [← List.map_id store.rows]
    refine List.map_congr_left fun old inside => ?_
    split
    · exact (sound.eq_of_id inside held ‹_›).symm
    · rfl
  rw [Store.replace, rows]

end Store.Sound

namespace Action

variable {store : Store} {row : Row} {fields : Record} {formula : Formula}

theorem update_of_found {id : Nat} {text : String} {old : Formula}
    (given : fields.lookup "ruleString" = some (.text text)) (found : (find id).told store = .ok row)
    (held : row.root = .ok old) :
    (update id (some (.object fields))).perform store =
      (do
        let formula ← parse text
        let row := row.revise (nameIn? fields) (Text.trim text) formula
        replace row formula
        return ⟨200, (row.rule formula).document⟩ : Action Success).perform store := by
  have object : objectBody (some (.object fields)) = .ok fields := rfl
  have read : root row = .ok old := mapError_eq_ok.mpr held
  rw [update, lift_bind_of_ok object, lift_bind_of_ok (requireText_eq_ok.mpr given)]
  refine ((find_reads id).perform_of_ok found).trans ?_
  rw [lift_bind_of_ok read]
  rfl

end Action

namespace Service

variable {store : Store} {row : Row} {formula : Formula}

theorem respond_update (sound : store.Sound) (held : row ∈ store.rows) (text : String) :
    respond store (.update row.id text) = finish
      ((Action.update row.id (some (.object [("ruleString", .text text)]))).perform store) := by
  have reach : row.id < 2 ^ 63 := Nat.lt_of_le_of_lt (sound.issued row held) sound.reach
  have routed := Request.route_update (legible_of_lt reach) text
  have verb := Request.verb_update row.id text
  have body : (Request.update row.id text).payload.body =
      .ok (some (.object [("ruleString", .text text)])) := rfl
  rw [respond_resource routed (by simp [verb]) (by simp [verb]), act,
    Route.number_of_isDigit (isDigit_toDigits row.id), Nat.ofDigitChars_ten_toDigits,
    Action.lift_bind_of_ok body]

theorem respond_update_self (sound : store.Sound) (held : row ∈ store.rows)
    (document : row.document = formula.document) (stated : States row.text formula)
    (shallow : Shallow row.text) :
    respond store (.update row.id row.text) = (store, ⟨200, some (row.rule formula).document⟩) := by
  have parsed := (parse_iff_shallow (sound.inStep row held).trimmed stated).mpr shallow
  have read : row.root = .ok formula := Row.root_of_states document stated
  have same : row.revise none (Text.trim row.text) formula = row := by
    rw [(sound.inStep row held).trimmed, Row.revise, ← document]
    rfl
  have unnamed : Action.nameIn? [("ruleString", .text row.text)] = none := rfl
  have shallow : Json.depth formula.document ≤ Json.writingLimit :=
    document ▸ (sound.inStep row held).writable
  rw [respond_update sound held, Action.update_of_found List.lookup_cons_self (sound.find held) read,
    Action.lift_bind_of_ok (Action.parse_eq_ok.mpr parsed), unnamed]
  dsimp only
  rw [same, Action.perform_bind, Action.perform_replace, if_pos shallow, sound.replace_self held]
  rfl

/-- A stored text that can not be parsed again is refused for its depth alone. -/
theorem respond_update_deep (sound : store.Sound) (held : row ∈ store.rows)
    (deep : ¬ Shallow row.text) : respond store (.update row.id row.text) =
      (store, ⟨400, some (.object [("error", .text "Rule is nested too deeply")])⟩) := by
  obtain ⟨trimmed, ⟨formula, document, stated⟩, _⟩ := sound.inStep row held
  have failed : Formula.parse row.text = .error (.malformed .tooDeep none) :=
    ((parse_of_states trimmed stated).resolve_left fun parsed =>
      deep ((parse_iff_shallow trimmed stated).mp parsed)).1
  have read : row.root = .ok formula := Row.root_of_states document stated
  have refused : Action.parse row.text = .error (.rule (.malformed .tooDeep none)) := by
    rw [Action.parse, failed]
    rfl
  rw [respond_update sound held, Action.update_of_found List.lookup_cons_self (sound.find held) read,
    Action.lift_bind_of_error refused]
  rfl

end Service

def enclosed (text : String) : Nat → String
  | 0 => text
  | count + 1 => "(" ++ enclosed text count ++ ")"

theorem nestingFrom_group (depth : Nat) (symbols : List Symbol) :
    nestingFrom (depth + 1) symbols ≤ nestingFrom depth (group symbols) := by
  have inside := le_nestingFrom_append (depth + 1) symbols [.closing]
  simp only [group, nestingFrom, Symbol.depthAfter]
  omega

theorem symbols?_enclosed {text : String} {symbols : List Symbol}
    (read : symbols? text.toList = some symbols) (count : Nat) :
    ∃ around, symbols? (enclosed text count).toList = some around ∧
      ∀ depth, depth + count ≤ nestingFrom depth around := by
  induction count with
  | zero => exact ⟨symbols, read, fun depth => le_nestingFrom depth symbols⟩
  | succ count ih =>
    obtain ⟨around, inside, deep⟩ := ih
    refine ⟨group around, ?_, fun depth => ?_⟩
    · simpa [enclosed] using symbols?_group inside []
    · have outer := nestingFrom_group depth around
      have inner := deep (depth + 1)
      omega

theorem not_shallow_enclosed {text : String} {formula : Formula} (stated : States text formula)
    {count : Nat} (many : Parser.nestingLimit < count) : ¬ Shallow (enclosed text count) := by
  intro shallow
  obtain ⟨symbols, read, _⟩ := states_iff.mp stated
  obtain ⟨around, whole, deep⟩ := symbols?_enclosed read count
  have within := shallow around whole
  have beyond : 0 + count ≤ nesting around := deep 0
  omega

namespace Service

variable {store : Store} {row : Row} {name : String}

theorem respond_combine_alone (sound : store.Sound) (held : row ∈ store.rows)
    (left : store.lastId + 1 < 2 ^ 63) : (respond store (.combine name [(row.id : Int)])).1 =
      ⟨store.rows ++ [⟨store.lastId + 1, name, "(" ++ row.text ++ ")", row.document⟩],
        store.lastId + 1⟩ := by
  obtain ⟨formula, document, stated⟩ := (sound.inStep row held).stated
  have alone : store.Holds row.id (row, formula) :=
    ⟨sound.find?_of_mem held, Row.root_of_states document stated⟩
  have present : [(row.id : Int)].filter (· ∉ store.ids) = [] := by
    have known : (row.id : Int) ∈ store.ids := Store.mem_ids.mpr ⟨row, alone.row⟩
    simp [known]
  have reach : ∀ id ∈ [(row.id : Int)], Action.inReach id = true := by
    simpa using sound.inReach held
  let fields : Record := [("name", .text name), ("ruleIds", .list [.integer row.id])]
  have body : (Request.combine name [(row.id : Int)]).payload.body = .ok (some (.object fields)) := rfl
  have named : fields.lookup "name" = some (.text name) := rfl
  have listed : fields.lookup "ruleIds" = some (.list ([(row.id : Int)].map Value.integer)) := rfl
  obtain ⟨first, rest, found, combined⟩ :=
    Action.combine_found sound named listed (List.cons_ne_nil _ _) reach present
  cases found with
  | cons same none =>
    cases none
    cases same.unique alone
    have takes : store.Takes formula := ⟨document ▸ (sound.inStep row held).writable, left⟩
    rw [respond_combine (Request.verb_combine _ _) (Request.route_combine _ _) body, combined,
      List.foldl_nil, Action.perform_add, if_pos takes]
    simp [finish, Store.insert, joinedTexts, document]

/-- A rule that is combined alone, and what comes of it again and again, ends up in as many
groups. -/
theorem run_combine_alone (name : String) (sound : store.Sound) (held : row ∈ store.rows)
    (last : row.id = store.lastId) (count : Nat) (left : store.lastId + count < 2 ^ 63) :
    let combined := (run store ((List.range count).map fun more =>
      .combine name [((row.id + more : Nat) : Int)])).1
    combined.lastId = row.id + count ∧
      ∃ outer ∈ combined.rows, outer.id = row.id + count ∧ outer.text = enclosed row.text count := by
  induction count with
  | zero => exact ⟨last.symm, row, held, rfl, rfl⟩
  | succ count ih =>
    obtain ⟨issued, outer, inside, identity, text⟩ := ih (by omega)
    rw [List.range_succ, List.map_append, List.map_singleton, run_concat]
    generalize before : (run store ((List.range count).map fun more =>
      .combine name [((row.id + more : Nat) : Int)])).1 = combined at *
    have kept : combined.Sound := before ▸ run_sound sound _
    rw [← identity, respond_combine_alone kept inside (by omega)]
    refine ⟨by simp [issued]; omega, _, List.mem_append_right _ (List.mem_singleton_self _),
      ?_, ?_⟩
    · simp [issued]; omega
    · simp [text, enclosed]

theorem combined_alone_refuses_text (name : String) (sound : store.Sound) (held : row ∈ store.rows)
    (last : row.id = store.lastId) (count : Nat) (left : store.lastId + count < 2 ^ 63)
    (many : Parser.nestingLimit < count) :
    let combined := (run store ((List.range count).map fun more =>
      .combine name [((row.id + more : Nat) : Int)])).1
    ∃ outer ∈ combined.rows, outer.id = row.id + count ∧ outer.text = enclosed row.text count ∧
      respond combined (.update outer.id outer.text) =
        (combined, ⟨400, some (.object [("error", .text "Rule is nested too deeply")])⟩) := by
  intro combined
  obtain ⟨_, outer, inside, identity, text⟩ :=
    run_combine_alone name sound held last count left
  obtain ⟨formula, _, stated⟩ := (sound.inStep row held).stated
  refine ⟨outer, inside, identity, text, ?_⟩
  apply respond_update_deep (run_sound sound _) inside
  rw [text]
  exact not_shallow_enclosed stated many

end Service

/-- Whatever requests came before, a stored rule that is given its own text again is answered as it
is when it is read, and nothing changes, unless its text has more groups open at once than the parser
allows. Then the request is refused, and nothing changes either. -/
theorem own_text_changes_nothing (requests : List Request) :
    let store := (Service.run .empty requests).1
    ∀ row ∈ store.rows,
      (Shallow row.text → ∃ formula, row.root = .ok formula ∧
        Service.respond store (.update row.id row.text) =
          (store, ⟨200, some (row.rule formula).document⟩) ∧
        (Service.respond store (.get row.id)).2 = ⟨200, some (row.rule formula).document⟩) ∧
      (¬ Shallow row.text → Service.respond store (.update row.id row.text) =
        (store, ⟨400, some (.object [("error", .text "Rule is nested too deeply")])⟩)) := by
  intro store row held
  have sound : store.Sound := Service.run_sound .empty requests
  refine ⟨fun shallow => ?_, Service.respond_update_deep sound held⟩
  obtain ⟨formula, document, stated⟩ := (sound.inStep row held).stated
  refine ⟨formula, Row.root_of_states document stated,
    Service.respond_update_self sound held document stated shallow, ?_⟩
  exact (Service.respond_get_iff sound).mpr
    (sound.shown?_of_mem held (Row.ruleDocument document stated))

theorem own_text_changes_nothing_combined :
    let requests : List Request :=
      [.create "a" " x > 1 ", .create "b" "y = true AND z < 2", .combine "c" [1, 2, 1]]
    let store := (Service.run .empty requests).1
    let one : Formula := .leaf ⟨"x", .greater, .integer 1, rfl⟩
    let both : Formula := .join .and (.leaf ⟨"y", .equal, .boolean true, rfl⟩)
      (.leaf ⟨"z", .less, .integer 2, rfl⟩)
    let formula : Formula := .join .and (.join .and one both) one
    let row : Row := ⟨3, "c", "(x > 1) AND (y = true AND z < 2) AND (x > 1)", formula.document⟩
    row ∈ store.rows ∧ Shallow row.text ∧
      Service.respond store (.update 3 row.text) = (store, ⟨200, some (row.rule formula).document⟩) ∧
      (Service.respond store (.get 3)).2 = ⟨200, some (row.rule formula).document⟩ := by
  intro requests store one both formula row
  have held : row ∈ store.rows := by decide +kernel
  have shallow : Shallow row.text := by decide +kernel
  have root : row.root = .ok formula := by decide +kernel
  obtain ⟨found, same, updated, shown⟩ := (own_text_changes_nothing requests row held).1 shallow
  cases root.symm.trans same
  exact ⟨held, shallow, updated, shown⟩

/-- A rule that was combined alone too often can not be given its own text. -/
theorem own_text_refused_at_depth :
    let requests := Request.create "a" "x > 1" ::
      (List.range 1200).map fun more => .combine "a" [((1 + more : Nat) : Int)]
    let store := (Service.run .empty requests).1
    ∃ row ∈ store.rows, row.id = 1201 ∧ row.text = enclosed "x > 1" 1200 ∧
      Service.respond store (.update row.id row.text) =
        (store, ⟨400, some (.object [("error", .text "Rule is nested too deeply")])⟩) := by
  dsimp only
  let created := (Service.respond .empty (.create "a" "x > 1")).1
  have sound : created.Sound := Service.run_sound .empty [.create "a" "x > 1"]
  have issued : created.lastId = 1 := by decide +kernel
  obtain ⟨first, held, identity, text⟩ : ∃ row ∈ created.rows, row.id = 1 ∧ row.text = "x > 1" := by
    decide +kernel
  have refused := Service.combined_alone_refuses_text "a" sound held
    (identity.trans issued.symm) 1200 (by rw [issued]; decide +kernel) (by decide)
  rw [identity, text] at refused
  have whole (rest : List Request) : (Service.run .empty (.create "a" "x > 1" :: rest)).1 =
      (Service.run created rest).1 := rfl
  rw [← whole] at refused
  exact refused

end Rulebook

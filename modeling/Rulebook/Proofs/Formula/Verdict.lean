import Rulebook.Proofs.Formula.Combination
import Rulebook.Proofs.Formula.Evaluation

/-! What a combination of rules comes to. Its rules are gone through from the left up to the first
that settles it, so their order matters for nothing but faults. -/
namespace Rulebook

/-- The first outcome other than the given truth value, or else that value. -/
def verdict {ε : Type} [DecidableEq ε] (neutral : Bool) (outcomes : List (Except ε Bool)) :
    Except ε Bool :=
  (outcomes.find? (· ≠ .ok neutral)).getD (.ok neutral)

def Formula.candidate (formula : Formula) : Candidate := .draft (.ofFormula formula)

section Verdict

variable {ε : Type} [DecidableEq ε] {neutral : Bool} {outcomes others : List (Except ε Bool)}

theorem verdict_cons (outcome : Except ε Bool) (outcomes : List (Except ε Bool)) :
    verdict neutral (outcome :: outcomes) =
      if outcome = .ok neutral then verdict neutral outcomes else outcome := by
  by_cases same : outcome = .ok neutral <;> simp [verdict, same]

theorem verdict_single (outcome : Except ε Bool) : verdict neutral [outcome] = outcome := by
  rw [verdict_cons]
  split
  · rename_i same
    exact same.symm
  · rfl

theorem verdict_append (front back : List (Except ε Bool)) :
    verdict neutral (front ++ back) = verdict neutral (verdict neutral front :: back) := by
  induction front with
  | nil => exact (if_pos rfl).symm.trans (verdict_cons _ _).symm
  | cons outcome front ih =>
    rw [List.cons_append, verdict_cons, verdict_cons outcome front]
    split
    · exact ih
    · rename_i settled
      rw [verdict_cons, if_neg settled]

theorem verdict_cases (neutral : Bool) (outcomes : List (Except ε Bool)) :
    (verdict neutral outcomes = .ok neutral ∧ ∀ outcome ∈ outcomes, outcome = .ok neutral) ∨
      verdict neutral outcomes ≠ .ok neutral ∧ verdict neutral outcomes ∈ outcomes := by
  rw [verdict]
  cases found : outcomes.find? (· ≠ .ok neutral) with
  | none => exact .inl ⟨rfl, by simpa using found⟩
  | some outcome =>
    exact .inr ⟨by simpa using List.find?_some found, List.mem_of_find?_eq_some found⟩

theorem verdict_eq_neutral_iff :
    verdict neutral outcomes = .ok neutral ↔ ∀ outcome ∈ outcomes, outcome = .ok neutral := by
  rcases verdict_cases neutral outcomes with ⟨equal, neutrals⟩ | ⟨settled, inside⟩
  · exact ⟨fun _ => neutrals, fun _ => equal⟩
  · exact ⟨fun equal => absurd equal settled, fun neutrals => neutrals _ inside⟩

theorem verdict_perm_neutral (neutral : Bool) (order : outcomes.Perm others) :
    verdict neutral outcomes = .ok neutral ↔ verdict neutral others = .ok neutral := by
  simp only [verdict_eq_neutral_iff, order.mem_iff]

theorem verdict_perm {first second : Bool} (order : outcomes.Perm others)
    (one : verdict neutral outcomes = .ok first) (other : verdict neutral others = .ok second) :
    first = second := by
  have both := verdict_perm_neutral neutral order
  rw [one, other, Except.ok.injEq, Except.ok.injEq] at both
  cases first <;> cases second <;> cases neutral <;> simp_all

theorem verdict_ok (neutral : Bool) (plain : ∀ outcome ∈ outcomes, ∃ truth, outcome = .ok truth) :
    ∃ truth, verdict neutral outcomes = .ok truth := by
  rcases verdict_cases neutral outcomes with ⟨equal, _⟩ | ⟨_, inside⟩
  · exact ⟨neutral, equal⟩
  · exact plain _ inside

theorem verdict_perm_ok (neutral : Bool) (order : outcomes.Perm others)
    (plain : ∀ outcome ∈ outcomes, ∃ truth, outcome = .ok truth) :
    ∃ truth, verdict neutral outcomes = .ok truth ∧ verdict neutral others = .ok truth := by
  obtain ⟨one, equal⟩ := verdict_ok neutral plain
  obtain ⟨two, other⟩ := verdict_ok neutral fun outcome inside =>
    plain outcome (order.mem_iff.mpr inside)
  cases verdict_perm order equal other
  exact ⟨one, equal, other⟩

end Verdict

namespace Tree

variable {α β ε : Type}

theorem outcome_join [DecidableEq ε] (test : α → Except ε Bool) (connective : Connective)
    (left right : Tree α) :
    (join connective left right).outcome test =
      verdict (!connective.settling) [left.outcome test, right.outcome test] := by
  rw [outcome_settling, verdict_cons, verdict_single]
  cases left.outcome test with
  | error fault => rfl
  | ok truth =>
    dsimp only
    by_cases settled : truth = connective.settling
    · simp [settled]
    · rw [if_neg settled, if_pos (congrArg Except.ok (Bool.eq_not_of_ne settled))]

/-- Trees joined from the left come to the verdict on them: a chain stops at the first of them that
settles it, and none joined behind is reached. -/
theorem outcome_joinAll [DecidableEq ε] (test : α → Except ε Bool) (connective : Connective)
    (first : Tree α) (rest : List (Tree α)) :
    (joinAll connective first rest).outcome test =
      verdict (!connective.settling) ((first :: rest).map (·.outcome test)) := by
  induction rest generalizing first with
  | nil => exact (verdict_single _).symm
  | cons next rest ih =>
    have step : joinAll connective first (next :: rest) =
        joinAll connective (join connective first next) rest := rfl
    rw [step, ih, List.map_cons, outcome_join, ← verdict_append]
    rfl

theorem top?_joinAll (connective : Connective) (first : Tree α) {rest : List (Tree α)}
    (nonempty : rest ≠ []) : (joinAll connective first rest).top? = some connective := by
  cases rest using List.reverseRecOn with
  | nil => exact absurd rfl nonempty
  | append_singleton rest last => simp [joinAll, top?]

theorem top?_map (f : α → β) (tree : Tree α) : (tree.map f).top? = tree.top? := by
  cases tree <;> rfl

theorem majority_map (f : α → β) (trees : List (Tree α)) :
    majority (trees.map (map f)) = majority trees := by
  simp [majority, Function.comp_def, top?_map]

theorem joinAll_map_leaves (f : α → β) (connective : Connective) (first : Tree α)
    (rest : List (Tree α)) :
    joinAll connective (first.map f) (rest.map (map f)) = (joinAll connective first rest).map f := by
  induction rest generalizing first with
  | nil => rfl
  | cons next rest ih => exact ih (join connective first next)

end Tree

namespace Candidate

theorem drafts_map (drafts : List Draft) : Candidate.drafts (drafts.map .draft) = .ok drafts := by
  induction drafts with
  | nil => rfl
  | cons draft drafts ih =>
    rw [List.map_cons, Candidate.drafts, ih]
    rfl

theorem combine_formulas (root : Formula) (roots : List Formula) (texts : Option (List String))
    (counted : ∀ given ∈ texts, given.length = (root :: roots).length) :
    ∃ text, Candidate.combine ((root :: roots).map Formula.candidate)
        (texts.map (·.map Value.text)) =
      .ok (Draft.ofFormula (Tree.joinAll (Tree.majority (root :: roots)) root roots), text) := by
  have read : drafts ((root :: roots).map Formula.candidate) =
      .ok ((root :: roots).map Draft.ofFormula) := by
    have held := drafts_map ((root :: roots).map Draft.ofFormula)
    rwa [List.map_map] at held
  have joined (strings : List String) (length : strings.length = (root :: roots).length) :
      Rulebook.combine ((root :: roots).map Draft.ofFormula) strings =
        .ok (Draft.ofFormula (Tree.joinAll (Tree.majority (root :: roots)) root roots),
          joinTexts (Tree.majority (root :: roots)) strings) := by
    have combined : Rulebook.combine (Draft.ofFormula root :: roots.map Draft.ofFormula) strings = _ :=
      combine_cons (by simpa using length)
    have majority : Tree.majority (Draft.ofFormula root :: roots.map Draft.ofFormula) =
        Tree.majority (root :: roots) := Tree.majority_map some (root :: roots)
    rw [majority] at combined
    rw [List.map_cons, combined]
    exact congrArg (fun tree => Except.ok (tree, _)) (Tree.joinAll_map_leaves some _ root roots)
  rw [Candidate.combine, read]
  cases texts with
  | none => exact ⟨_, joined (((root :: roots).map Draft.ofFormula).map Draft.source) (by simp)⟩
  | some strings =>
    have length := counted strings rfl
    refine ⟨_, Eq.trans ?_ (joined strings length)⟩
    simp [length, Value.texts_map_text, bind, Except.bind]

end Candidate

namespace Formula

variable {root : Formula} {roots : List Formula} {record : Record}

theorem evaluate_joinAll (connective : Connective) (root : Formula) (roots : List Formula)
    (record : Record) : Formula.evaluate (Tree.joinAll connective root roots) record =
      verdict (!connective.settling) ((root :: roots).map (·.evaluate record)) := by
  have outcomes : (root :: roots).map (·.evaluate record) =
      (root :: roots).map (·.outcome (·.test record)) :=
    List.map_congr_left fun tree _ => Tree.evaluate_eq tree
  rw [Formula.evaluate, Tree.evaluate_eq, Tree.outcome_joinAll, outcomes]

end Formula

/-- A combination of formulas goes through what they come to from the left. If more of them have AND
at the top than OR it stops at the first that is not true, a fault or a false value, and else it is
true; otherwise it stops at the first that is not false, and else it is false. Texts that come with
the formulas change nothing in it. -/
theorem combination_evaluates (roots : List Formula) (nonempty : roots ≠ []) :
    ∃ root,
      (∀ texts : Option (List String), (∀ given ∈ texts, given.length = roots.length) →
        ∃ text, Candidate.combine (roots.map Formula.candidate) (texts.map (·.map Value.text)) =
          .ok (.ofFormula root, text)) ∧
      ∀ record,
        let outcomes := roots.map (·.evaluate record)
        root.evaluate record =
          if roots.countP (·.top? = some .or) < roots.countP (·.top? = some .and)
          then (outcomes.find? (· ≠ .ok true)).getD (.ok true)
          else (outcomes.find? (· ≠ .ok false)).getD (.ok false) := by
  obtain ⟨root, roots, rfl⟩ := List.exists_cons_of_ne_nil nonempty
  refine ⟨_, Candidate.combine_formulas root roots, fun record => ?_⟩
  rw [Formula.evaluate_joinAll, Tree.majority_eq_ite]
  split <;> rfl

/-- A fault counts only if the rules before it leave the combination open. -/
theorem combination_evaluates_mixed :
    let side (name : String) (value : Int) (named : isName name = true) : Formula :=
      .leaf ⟨name, .equal, .integer value, named⟩
    let roots : List Formula := [.join .and (side "a" 1 rfl) (side "b" 2 rfl),
      .join .and (side "c" 3 rfl) (side "d" 4 rfl), .join .or (side "e" 5 rfl) (side "f" 6 rfl),
      side "g" 7 rfl]
    let settled : Record := [("a", .integer 1), ("b", .integer 2), ("c", .integer 0)]
    let left : Record := [("a", .integer 1), ("b", .integer 2), ("c", .integer 3), ("d", .integer 4)]
    roots ≠ [] ∧ ∃ root text,
      Candidate.combine (roots.map Formula.candidate) none = .ok (.ofFormula root, text) ∧
      root.evaluate settled = .ok false ∧ root.evaluate left = .error (.missing "e") := by
  intro side roots settled left
  have nonempty : roots ≠ [] := List.cons_ne_nil _ _
  obtain ⟨root, combined, outcome⟩ := combination_evaluates roots nonempty
  obtain ⟨text, joined⟩ := combined none nofun
  exact ⟨nonempty, root, text, joined, (outcome settled).trans (by decide +kernel),
    (outcome left).trans (by decide +kernel)⟩

/-- In another order formulas are combined by the same connective. If none of them comes to a fault,
the combinations come to the same value, and so they do whenever both come to a value at all. -/
theorem combination_of_perm (roots others : List Formula) (order : roots.Perm others) :
    Tree.majority roots = Tree.majority others ∧
    (roots ≠ [] → ∃ root other text reordered,
      Candidate.combine (roots.map Formula.candidate) none = .ok (.ofFormula root, text) ∧
      Candidate.combine (others.map Formula.candidate) none = .ok (.ofFormula other, reordered) ∧
      (1 < roots.length → root.top? = some (Tree.majority roots) ∧
        other.top? = some (Tree.majority roots)) ∧
      ∀ record,
        ((∀ rule ∈ roots, ∃ truth, rule.evaluate record = .ok truth) →
          ∃ truth, root.evaluate record = .ok truth ∧ other.evaluate record = .ok truth) ∧
        ∀ first second, root.evaluate record = .ok first → other.evaluate record = .ok second →
          first = second) := by
  have majority : Tree.majority roots = Tree.majority others := by
    rw [Tree.majority_eq_ite, Tree.majority_eq_ite, order.countP_eq, order.countP_eq]
  refine ⟨majority, fun nonempty => ?_⟩
  have outcomes (record : Record) := order.map (·.evaluate record)
  have length := order.length_eq
  obtain ⟨first, rest, rfl⟩ := List.exists_cons_of_ne_nil nonempty
  cases others with
  | nil => cases length
  | cons front back =>
    obtain ⟨text, combined⟩ := Candidate.combine_formulas first rest none nofun
    obtain ⟨reordered, also⟩ := Candidate.combine_formulas front back none nofun
    rw [← majority] at also
    refine ⟨_, _, text, reordered, combined, also, ?_, fun record => ?_⟩
    · intro several
      have more : 0 < rest.length := by simpa using several
      have further : 0 < back.length := by
        simp only [List.length_cons] at length
        omega
      exact ⟨Tree.top?_joinAll _ first (List.ne_nil_of_length_pos more),
        Tree.top?_joinAll _ front (List.ne_nil_of_length_pos further)⟩
    · rw [Formula.evaluate_joinAll, Formula.evaluate_joinAll]
      constructor
      · exact fun plain => verdict_perm_ok _ (outcomes record) (by simpa using plain)
      · exact fun one other own found => verdict_perm (outcomes record) own found

theorem combination_of_perm_rotated :
    let side (name : String) (value : Int) (named : isName name = true) : Formula :=
      .leaf ⟨name, .equal, .integer value, named⟩
    let both : Formula := .join .and (side "a" 1 rfl) (side "b" 2 rfl)
    let roots : List Formula := [both, side "c" 3 rfl, both, .join .or (side "d" 4 rfl) both]
    let others : List Formula := [.join .or (side "d" 4 rfl) both, both, side "c" 3 rfl, both]
    let record : Record :=
      [("a", .integer 1), ("b", .integer 2), ("c", .integer 0), ("d", .integer 4)]
    roots.Perm others ∧ ∃ root other text reordered truth,
      Candidate.combine (roots.map Formula.candidate) none = .ok (.ofFormula root, text) ∧
      Candidate.combine (others.map Formula.candidate) none = .ok (.ofFormula other, reordered) ∧
      root.top? = some .and ∧ other.top? = some .and ∧
      root.evaluate record = .ok truth ∧ other.evaluate record = .ok truth := by
  intro side both roots others record
  have order : roots.Perm others := by decide
  obtain ⟨root, other, text, reordered, combined, also, tops, outcomes⟩ :=
    (combination_of_perm roots others order).2 (List.cons_ne_nil _ _)
  have top := tops (by decide)
  have plain : ∀ rule ∈ roots, (rule.evaluate record).isOk = true := by decide +kernel
  obtain ⟨truth, value, found⟩ := (outcomes record).1 fun rule inside => by
    have here := plain rule inside
    cases evaluated : rule.evaluate record with
    | ok truth => exact ⟨truth, rfl⟩
    | error fault => simp [evaluated, Except.isOk, Except.toBool] at here
  exact ⟨order, root, other, text, reordered, truth, combined, also, top.1, top.2, value, found⟩

end Rulebook

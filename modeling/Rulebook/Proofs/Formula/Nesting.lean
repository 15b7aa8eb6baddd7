import Rulebook.Proofs.Formula.Fault

/-! What the limit on open groups does. It stops a text that goes beyond it while it is still the
beginning of a rule, and takes no part in what becomes of any other text. -/
namespace Rulebook

def Begins (symbols : List Symbol) : Prop :=
  ∃ more tree, Derives .expression (symbols ++ more) tree

/-- As far as the text begins a rule, more groups are open at once than the limit allows. What follows
need not even be tokens. -/
def Overreaches (limit : Nat) (text : String) : Prop :=
  ∃ front, front <+: (tokenize text).1.map Token.symbol ∧ Begins front ∧ limit < nesting front

theorem Derives.finish_not_mem {category : Category} {symbols : List Symbol} {tree : Formula}
    (derived : Derives category symbols tree) : .finish ∉ symbols := by
  induction derived <;> simp_all

namespace Parser

variable {limit : Nat} {tokens : List Token} {text : String} {state : State}
variable {fault : SyntaxFault} {place : Option Nat}

/-- Without a limit the parser takes what begins a rule and nothing else. -/
theorem feed_iff_begins (written : ∀ token ∈ tokens, token.symbol.Written) :
    (∃ fed, feed none none .start tokens = .ok fed) ↔ Begins (tokens.map Token.symbol) := by
  constructor
  · rintro ⟨⟨last, state⟩, taken⟩
    have reads := Reads.start.feed taken
    rw [List.nil_append] at reads
    have spelled : ∀ symbol ∈ tokens.map Token.symbol, symbol.Written := by
      simpa using written
    obtain ⟨tree, derived⟩ := reads.completed spelled
    exact ⟨state.missing, tree, derived⟩
  · rintro ⟨more, tree, derived⟩
    have spelled : (tokens ++ more.map (Token.mk · 0)).map Token.symbol =
        tokens.map Token.symbol ++ more := by simp [Function.comp_def]
    rw [← spelled] at derived
    obtain ⟨whole, taken, _⟩ := feed_of_derives 0 derived
    rw [feed_append] at taken
    cases fed : feed none none .start tokens with
    | error error => simp [fed] at taken
    | ok front => exact ⟨front, rfl⟩

theorem feed_unlimited (written : ∀ token ∈ tokens, token.symbol.Written)
    (shallow : ∀ front, front <+: tokens → Begins (front.map Token.symbol) →
      nesting (front.map Token.symbol) ≤ limit) :
    feed (some limit) none .start tokens = feed none none .start tokens := by
  cases fed : feed none none .start tokens with
  | ok whole =>
    have begun := (feed_iff_begins written).mp ⟨whole, fed⟩
    exact (feed_within (shallow tokens (List.prefix_refl tokens) begun)).trans fed
  | error error =>
    obtain ⟨front, token, back, last, next, rfl, taken, refused⟩ := feed_error_cases fed
    have spelled : ∀ token ∈ front, token.symbol.Written :=
      fun other inside => written other (List.mem_append_left _ inside)
    have begun := (feed_iff_begins spelled).mp ⟨_, taken⟩
    have bound := shallow front (List.prefix_append front _) begun
    have depth := (depth_le_nestingFrom taken).trans bound
    rw [feed_append, (feed_within bound).trans taken]
    dsimp only
    rw [feed, step_limit depth, refused]
    rfl

theorem step_place {implicitAnd : Bool} {token : Token}
    (failed : state.step none implicitAnd token = .error (.malformed fault place)) :
    place ≠ none := by
  unfold State.step at failed
  dsimp only at failed
  split at failed
  case h_1 => cases failed
  case h_6 => split at failed <;> cases failed
  case h_10 =>
    split at failed
    · cases failed
    · split at failed <;> cases failed <;> nofun
  all_goals first
    | cases failed; done
    | cases failed; nofun

theorem finish_place {position : Nat}
    (failed : state.finish position = .error (.malformed fault place)) : place ≠ none := by
  unfold State.finish at failed
  dsimp only at failed
  split at failed <;> cases failed <;> nofun

theorem content_place
    (content : (Reader.ofText text).content = (tokens, .error (.malformed fault place))) :
    place ≠ none := by
  obtain ⟨_, _, misread, _, _, _, told⟩ := Reader.cut_of_content_error content
  cases misread <;> cases told <;> nofun

theorem parseWithin_place (failed : parseWithin none text = .error (.malformed fault place)) :
    place ≠ none := by
  rcases content : (Reader.ofText text).content with ⟨tokens, ending⟩
  rw [parseWithin_eq, content] at failed
  split at failed
  · cases failed
    nofun
  · rename_i same
    cases same
    unfold conclude at failed
    split at failed
    · rename_i refused _
      cases failed
      obtain ⟨_, _, _, _, _, _, _, stopped⟩ := feed_error_cases refused
      exact step_place stopped
    · cases failed
      exact content_place content
    · exact finish_place failed

theorem prefix_content {front : List Symbol} (begun : Begins front)
    (inside : front <+: (tokenize text).1.map Token.symbol) :
    ∃ first, first <+: (Reader.ofText text).content.1 ∧ first.map Token.symbol = front := by
  have before : front <+: (Reader.ofText text).content.1.map Token.symbol := by
    rcases content : (Reader.ofText text).content with ⟨tokens, error | position⟩
    · rwa [tokenize, Reader.content_eq_error.mp content] at inside
    · rw [tokenize, Reader.tokens_of_content content, List.map_append] at inside
      rcases List.prefix_concat_iff.mp inside with rfl | inside
      · obtain ⟨more, tree, derived⟩ := begun
        exact absurd (by simp) derived.finish_not_mem
      · exact inside
  obtain ⟨first, start, spelled⟩ := List.prefix_map_iff.mp before
  exact ⟨first, start, spelled.symm⟩

theorem parseWithin_overreaching (deep : Overreaches limit text) :
    parseWithin (some limit) text = .error (.malformed .tooDeep none) := by
  obtain ⟨front, inside, begun, beyond⟩ := deep
  obtain ⟨first, ⟨back, split⟩, rfl⟩ := prefix_content begun inside
  rcases content : (Reader.ofText text).content with ⟨tokens, ending⟩
  rw [content] at split
  subst split
  have written : ∀ token ∈ first, token.symbol.Written := fun token held =>
    Reader.written_of_content content token (List.mem_append_left back held)
  have nonempty : first ++ back ≠ [] := by
    intro empty
    cases (List.append_eq_nil_iff.mp empty).1
    cases beyond
  obtain ⟨fed, taken⟩ := (feed_iff_begins written).mpr begun
  rw [parseWithin_of_content content (absurd · nonempty), feed_append,
    feed_beyond taken (Nat.zero_le limit) beyond]
  rfl

theorem parseWithin_unlimited (within : ¬ Overreaches limit text) :
    parseWithin (some limit) text = parseWithin none text := by
  rcases content : (Reader.ofText text).content with ⟨tokens, ending⟩
  have written := Reader.written_of_content content
  have same : feed (some limit) none .start tokens = feed none none .start tokens := by
    apply feed_unlimited written
    intro front inside begun
    by_contra beyond
    obtain ⟨rest, whole⟩ := tokenize_of_content content
    refine within ⟨_, ?_, begun, Nat.lt_of_not_le beyond⟩
    rw [whole]
    exact (inside.trans (List.prefix_append tokens rest)).map Token.symbol
  rw [parseWithin_eq, parseWithin_eq, content]
  split
  · rfl
  · rename_i equal
    cases equal
    rw [same]

end Parser

namespace Formula

/-- A text is refused for its open groups alone, and never for how long it is or for how many groups
stand side by side. -/
theorem parse_tooDeep_iff {text : String} :
    parse text = .error (.malformed .tooDeep none) ↔
      Overreaches Parser.nestingLimit (Text.trim text) := by
  refine ⟨fun deep => ?_, Parser.parseWithin_overreaching⟩
  by_contra within
  rw [parse, Parser.parseWithin_unlimited within] at deep
  exact Parser.parseWithin_place deep rfl

end Formula

end Rulebook

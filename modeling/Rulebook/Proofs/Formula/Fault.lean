import Mathlib.Data.List.Nodup
import Rulebook.Proofs.Formula.Completion
import Rulebook.Proofs.Formula.Refusal

/-! Where a fault is reported. What stands before it begins some rule, and no rule begins with that
and the token at the fault. -/
namespace Rulebook

namespace SyntaxFault

def isLexical : SyntaxFault → Bool
  | .malformedNumber _ | .unterminatedText | .loneSign _ | .foreign _ => true
  | _ => false

/-- Where the faulty text begins. Only a malformed number is reported behind its start. -/
def origin (fault : SyntaxFault) (position : Nat) : Nat :=
  match fault with
  | .malformedNumber digits => position - digits.length
  | _ => position

theorem origin_of_not_isLexical {fault : SyntaxFault} (grammar : fault.isLexical = false)
    (position : Nat) : fault.origin position = position := by
  cases fault <;> first | rfl | cases grammar

end SyntaxFault

namespace Parser

variable {limit : Nat} {cap : Option Nat} {previous last : Option Token.Kind} {state next : State}
variable {tokens : List Token} {token : Token} {error : Error}

theorem step_fault {implicitAnd : Bool} {fault : SyntaxFault} {position : Nat}
    (failed : state.step cap implicitAnd token = .error (.malformed fault (some position))) :
    position = token.position ∧ fault.isLexical = false := by
  have unopened : state.open? cap ≠ .error (.malformed fault (some position)) := by
    unfold State.open?
    split <;> simp
  unfold State.step at failed
  dsimp only at failed
  split at failed
  case h_1 => exact absurd failed unopened
  case h_6 => split at failed <;> cases failed
  case h_10 =>
    split at failed
    · unfold State.open? at failed
      split at failed <;> cases failed
    · split at failed <;> cases failed <;> exact ⟨rfl, rfl⟩
  all_goals first
    | cases failed; done
    | cases failed; exact ⟨rfl, rfl⟩

theorem finish_fault {fault : SyntaxFault} {length position : Nat}
    (failed : state.finish length = .error (.malformed fault (some position))) :
    position = length ∧ fault.isLexical = false := by
  unfold State.finish at failed
  dsimp only at failed
  split at failed <;> cases failed <;> exact ⟨rfl, rfl⟩

theorem step_of_limit {implicitAnd : Bool} {fault : SyntaxFault} {position : Nat}
    (within : state.depth ≤ limit)
    (failed : state.step (some limit) implicitAnd token = .error (.malformed fault (some position))) :
    state.step none implicitAnd token = .error (.malformed fault (some position)) := by
  rw [step_limit within] at failed
  cases stepped : state.step none implicitAnd token with
  | error error => rwa [stepped] at failed
  | ok next =>
    rw [stepped, capped] at failed
    split at failed <;> cases failed

theorem not_derives_of_refused (fed : feed none none .start tokens = .ok (last, state))
    (refused : state.step none (last = some .closing && token.kind = .opening) token = .error error)
    (more : List Symbol) (tree : Formula) :
    ¬ Derives .expression (tokens.map Token.symbol ++ token.symbol :: more) tree := by
  intro derived
  have spelled : (tokens ++ token :: more.map (Token.mk · 0)).map Token.symbol =
      tokens.map Token.symbol ++ token.symbol :: more := by simp [Function.comp_def]
  rw [← spelled] at derived
  obtain ⟨whole, taken, _⟩ := feed_of_derives 0 derived
  rw [feed_append, fed] at taken
  simp [feed, refused] at taken

end Parser

theorem filter_of_ordered {front back : List Token} {token : Token}
    (ordered : (front ++ token :: back).Pairwise (·.position < ·.position)) :
    (front ++ token :: back).filter (·.position ≤ token.position) = front ++ [token] := by
  simp only [List.pairwise_append, List.pairwise_cons, List.mem_cons] at ordered
  obtain ⟨_, ⟨behind, _⟩, before⟩ := ordered
  rw [List.filter_append, List.filter_eq_self.mpr, List.filter_cons_of_pos (by simp),
    List.filter_eq_nil_iff.mpr]
  · intro other inside
    simp [behind other inside]
  · intro other inside
    simp [Nat.le_of_lt (before other inside token (.inl rfl))]

section Stop

variable {text : String} {front back tokens : List Token} {token : Token} {ending : Except Error Nat}

theorem tokenize_of_content (content : (Reader.ofText text).content = (tokens, ending)) :
    ∃ rest, (tokenize text).1 = tokens ++ rest := by
  rw [tokenize]
  cases ending with
  | ok position => exact ⟨_, congrArg Prod.fst (Reader.tokens_of_content content)⟩
  | error error =>
    rw [Reader.content_eq_error.mp content]
    exact ⟨[], (List.append_nil tokens).symm⟩

end Stop

/-- The parser has taken the tokens of a text up to a cut. -/
structure Progress (text : String) (before after : List Char) (tokens : List Token)
    (last : Option Token.Kind) (state : Parser.State) : Prop where
  whole : before ++ after = text.toList
  cut : Cut before (tokens.map Token.symbol) after
  fed : Parser.feed (some Parser.nestingLimit) none .start tokens = .ok (last, state)

/-- What the parser stops at behind the tokens that it has taken: a token that it refuses or the end
of the text, or else text that is no token. -/
inductive Stop (text : String) (tokens : List Token) (last : Option Token.Kind)
    (state : Parser.State) (start : Nat) (after : List Char) (fault : SyntaxFault)
    (position : Nat) : Prop
  | token {back : List Token} {token : Token} : fault.isLexical = false → position = start →
    (tokenize text).1 = tokens ++ token :: back → token.position = start →
    (token.symbol ≠ .finish → ∃ error, state.step none
      (last = some .closing && token.kind = .opening) token = .error error) →
    Stop text tokens last state start after fault position
  | misread {misread : Misread} : (Stretch.ofChars after).found = .error misread →
    .malformed fault (some position) =
      misread.error start (start + (Stretch.ofChars after).lexeme.length) →
    Stop text tokens last state start after fault position

def StopsAt (text : String) (fault : SyntaxFault) (position : Nat) (before after : List Char) : Prop :=
  ∃ tokens last state, Progress text before after tokens last state ∧
    Stop text tokens last state before.length after fault position

section Stops

variable {text : String} {fault : SyntaxFault} {position : Nat} {tokens : List Token}
variable {ending : Except Error Nat} {last : Option Token.Kind} {state : Parser.State}

theorem stopsAt_token (content : (Reader.ofText text).content = (tokens, ending))
    (failed : Parser.feed (some Parser.nestingLimit) none .start tokens =
      .error (.malformed fault (some position))) :
    ∃ before after, StopsAt text fault position before after := by
  obtain ⟨front, token, back, last, state, rfl, fed, refused⟩ := Parser.feed_error_cases failed
  obtain ⟨before, after, whole, cut, place⟩ := Reader.cut_of_content_token content
  obtain ⟨taken, within⟩ := Parser.feed_of_limit (Nat.zero_le _) fed
  have shallow := (Parser.depth_le_nestingFrom taken).trans within
  obtain ⟨rfl, grammar⟩ := Parser.step_fault refused
  obtain ⟨rest, told⟩ := tokenize_of_content content
  rw [List.append_assoc, List.cons_append] at told
  exact ⟨before, after, front, last, state, ⟨whole, cut, fed⟩,
    .token grammar place told place fun _ => ⟨_, Parser.step_of_limit shallow refused⟩⟩

theorem stopsAt_finish (content : (Reader.ofText text).content = (tokens, .ok position))
    (grammar : fault.isLexical = false)
    (fed : Parser.feed (some Parser.nestingLimit) none .start tokens = .ok (last, state)) :
    ∃ before after, StopsAt text fault position before after := by
  obtain ⟨cut, place⟩ := Reader.cut_of_content_ok content
  have told := congrArg Prod.fst (Reader.tokens_of_content content)
  exact ⟨_, [], tokens, last, state, ⟨List.append_nil _, cut, fed⟩,
    .token grammar place told place (absurd rfl)⟩

theorem stopsAt_misread
    (content : (Reader.ofText text).content = (tokens, .error (.malformed fault (some position))))
    (fed : Parser.feed (some Parser.nestingLimit) none .start tokens = .ok (last, state)) :
    ∃ before after, StopsAt text fault position before after := by
  obtain ⟨before, after, misread, whole, cut, found, told⟩ := Reader.cut_of_content_error content
  exact ⟨before, after, tokens, last, state, ⟨whole, cut, fed⟩, .misread found told⟩

theorem exists_stopsAt (failed : Parser.parseWithin (some Parser.nestingLimit) text =
      .error (.malformed fault (some position))) :
    ∃ before after, StopsAt text fault position before after := by
  rcases content : (Reader.ofText text).content with ⟨tokens, ending⟩
  rw [Parser.parseWithin_eq, content] at failed
  split at failed
  · rename_i empty
    cases empty
    cases failed
    exact stopsAt_finish content rfl rfl
  · rename_i same
    cases same
    unfold Parser.conclude at failed
    split at failed
    · rename_i refused _
      cases failed
      exact stopsAt_token content refused
    · rename_i fed _
      cases failed
      exact stopsAt_misread content fed
    · rename_i fed _
      obtain ⟨rfl, grammar⟩ := Parser.finish_fault failed
      exact stopsAt_finish content grammar fed

variable {start : Nat} {after : List Char}

theorem Stop.read (stop : Stop text tokens last state start after fault position) :
    ∃ lexeme rest, after = lexeme ++ rest ∧ position = start + lexeme.length ∧
      fault.origin position = start ∧
      ∀ digits, fault = .malformedNumber digits → lexeme = digits.toList := by
  cases stop with
  | token grammar place told here refused =>
    refine ⟨[], after, rfl, place, (SyntaxFault.origin_of_not_isLexical grammar position).trans place, ?_⟩
    rintro digits rfl
    cases grammar
  | @misread misread found told =>
    have tells := Stretch.ofChars_tells found
    cases misread with
    | number digits =>
      cases told
      refine ⟨_, _, (Stretch.ofChars_append after).symm, rfl, ?_, ?_⟩
      · rw [SyntaxFault.origin, show _ = digits.toList from tells, String.length_toList,
          Nat.add_sub_cancel]
      · rintro other ⟨⟩
        exact tells
    | overlong count => cases told
    | _ =>
      cases told
      exact ⟨[], after, rfl, rfl, rfl, nofun⟩

theorem Stop.refused (stop : Stop text tokens last state start after fault position)
    (grammar : fault.isLexical = false) :
    ∃ token back, (tokenize text).1 = tokens ++ token :: back ∧ token.position = position ∧
      (token.symbol ≠ .finish → ∃ error, state.step none
        (last = some .closing && token.kind = .opening) token = .error error) := by
  cases stop with
  | token _ place told here refused => exact ⟨_, _, told, here.trans place.symm, refused⟩
  | @misread misread found told => cases misread <;> cases told <;> cases grammar

end Stops

/-- A fault is reported within the text, and what stands before it is the beginning of a rule. A
malformed number is reported behind its digits, which begin there. A fault of the grammar is reported
at a token, and unless that is the end no rule begins with the tokens up to it. -/
theorem fault_is_earliest (text : String) (fault : SyntaxFault) (position : Nat)
    (failed : Formula.parse text = .error (.malformed fault (some position))) :
    let chars := (Text.trim text).toList
    let tokens := (tokenize (Text.trim text)).1
    let origin := fault.origin position
    position ≤ chars.length ∧
    (∀ digits, fault = .malformedNumber digits →
      chars.take position = chars.take origin ++ digits.toList) ∧
    (∃ more tree, Formula.parse (String.ofList (chars.take origin ++ more)) = .ok tree) ∧
    (fault.isLexical = false →
      (∃ token ∈ tokens, token.position = position) ∧
      ∀ token ∈ tokens, token.position = position → token.symbol ≠ .finish → ∀ more tree,
        ¬ Derives .expression
          ((tokens.filter (·.position ≤ position)).map Token.symbol ++ more) tree) := by
  intro chars tokens origin
  obtain ⟨before, after, front, last, state, progress, stop⟩ := exists_stopsAt failed
  have whole : before ++ after = chars := progress.whole
  obtain ⟨lexeme, rest, split, place, length, number⟩ := stop.read
  have reached : chars.take origin = before := by
    rw [← whole, show origin = before.length from length, List.take_left]
  refine ⟨?_, ?_, ?_, ?_⟩
  · rw [← whole, split, place]
    simp only [List.length_append]
    omega
  · intro digits malformed
    rw [reached, ← number digits malformed, ← whole, split, place, ← List.append_assoc,
      ← List.length_append, List.take_left]
  · rw [reached]
    exact Formula.exists_completion progress.cut progress.fed
  · intro grammar
    obtain ⟨token, back, told, here, refused⟩ := stop.refused grammar
    have ordered : tokens.Pairwise (·.position < ·.position) := (Reader.tokens_ordered _).2
    have apart := List.inj_on_of_nodup_map (List.pairwise_map.mpr (ordered.imp Nat.ne_of_lt))
    have inside : token ∈ tokens := by
      rw [show tokens = _ from told]
      simp
    refine ⟨⟨token, inside, here⟩, fun other found same unended more tree => ?_⟩
    cases apart found inside (same.trans here.symm)
    obtain ⟨error, failed⟩ := refused unended
    have upto : tokens.filter (·.position ≤ position) = front ++ [token] := by
      rw [show tokens = _ from told] at ordered ⊢
      rw [← here]
      exact filter_of_ordered ordered
    rw [upto, List.map_append, List.append_assoc]
    have taken := (Parser.feed_of_limit (Nat.zero_le _) progress.fed).1
    exact Parser.not_derives_of_refused taken failed more tree

/-- A group that goes on behind its comparison, a number that ends in its point and a group that is
still open at the end. -/
theorem fault_is_earliest_cases :
    let failing : List (String × SyntaxFault × Nat) := [
      (" (a > 1)(b = 2 c = 3)", .unclosed, 14),
      ("a > 1 and b < -12.", .malformedNumber "-12", 17),
      ("(a > 1 or b = 'x'", .unclosed, 17)]
    ∀ entry ∈ failing,
      Formula.parse entry.1 = .error (.malformed entry.2.1 (some entry.2.2)) ∧
      ∃ more tree, Formula.parse (String.ofList
        ((Text.trim entry.1).toList.take (entry.2.1.origin entry.2.2) ++ more)) = .ok tree := by
  intro failing entry inside
  have failed : Formula.parse entry.1 = .error (.malformed entry.2.1 (some entry.2.2)) := by
    revert entry
    decide +kernel
  exact ⟨failed, (fault_is_earliest entry.1 entry.2.1 entry.2.2 failed).2.2.1⟩

end Rulebook

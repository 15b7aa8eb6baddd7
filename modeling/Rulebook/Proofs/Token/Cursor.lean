import Rulebook.Proofs.Token.Symbols
import Rulebook.Token.Cursor

/-! A cursor against the tokens of its whole text. However it is called, it stands between the tokens
that it has stepped over and those that are left, and behind the last one it shows the end again and
again. -/
namespace Rulebook

/-- The token at a place of a text. Behind the end stands the end again, behind an error nothing. -/
def tokenAt? (text : String) (place : Nat) : Option Token :=
  match tokenize text with
  | (tokens, none) => tokens[place]?.or tokens.getLast?
  | (tokens, some _) => tokens[place]?

section Places

variable {text : String} {taken more tokens : List Token} {current last : Token} {place : Nat}

theorem tokenAt?_through (whole : tokenize text = (tokens, none)) (place : Nat) :
    tokenAt? text place = tokens[place]?.or tokens.getLast? := by
  simp only [tokenAt?, whole]

theorem tokenAt?_broken {error : Error} (whole : tokenize text = (tokens, some error))
    (place : Nat) : tokenAt? text place = tokens[place]? := by
  simp only [tokenAt?, whole]

theorem tokenAt?_inside {fault : Option Error}
    (whole : tokenize text = (taken ++ current :: more, fault)) (within : place ≤ taken.length) :
    tokenAt? text place = (taken ++ [current])[place]? := by
  have bound : place < (taken ++ [current]).length := by
    rw [List.length_append, List.length_singleton]
    omega
  have here : (taken ++ current :: more)[place]? = (taken ++ [current])[place]? := by
    rw [List.append_cons, List.getElem?_append_left bound]
  cases fault with
  | none => rw [tokenAt?_through whole, here, List.getElem?_eq_getElem bound, Option.some_or]
  | some error => rw [tokenAt?_broken whole, here]

theorem tokenAt?_finish (whole : tokenize text = (tokens ++ [last], none)) {again : Nat}
    (within : place ≤ (tokens ++ List.replicate again last).length) :
    tokenAt? text place = (tokens ++ List.replicate again last ++ [last])[place]? := by
  rw [List.length_append, List.length_replicate] at within
  rw [tokenAt?_through whole, List.append_assoc, ← List.replicate_succ']
  by_cases front : place < tokens.length
  · rw [List.getElem?_append_left front, List.getElem?_append_left front,
      List.getElem?_eq_getElem front, Option.some_or]
  · have behind := Nat.le_of_not_lt front
    have repeated : place - tokens.length < again + 1 := by omega
    rw [List.getElem?_append_right behind, List.getElem?_append_right behind,
      List.getElem?_replicate_of_lt repeated, List.getLast?_append, List.getLast?_singleton]
    cases place - tokens.length <;> rfl

end Places

theorem Reader.next_again {reader later : Reader} {token : Token}
    (read : reader.next = (.ok token, later)) (last : token.symbol = .finish) :
    later.next = (.ok token, later) := by
  have found := found_of_next read
  rw [last] at found
  have empty := Stretch.ofChars_finish found
  simp only [next, empty] at read
  cases read
  rfl

def Error.isRefusal : Error → Bool
  | .malformed (.mismatch _ _) _ => true
  | _ => false

theorem Reader.not_isRefusal {reader later : Reader} {error : Error}
    (read : reader.next = (.error error, later)) : error.isRefusal = false := by
  obtain ⟨_, _, fault, _, _, _, rfl⟩ := next_fault read
  cases fault <;> rfl

namespace Cursor

def calls (cursor : Cursor) : List Token.Kind → List (Except Error Token) × Cursor
  | [] => ([], cursor)
  | wanted :: more =>
    let (outcome, later) := cursor.consume wanted
    let (outcomes, last) := later.calls more
    (outcome :: outcomes, last)

/-- Where the current token stands behind those that were taken: before tokens that the reader has
still to read, or at the end, which may have been stepped over already. -/
inductive Stands (text : String) (taken : List Token) (current : Token) (reader : Reader) : Prop
  | inside (unended : current.symbol ≠ .finish)
    (whole : tokenize text = (taken ++ current :: reader.tokens.1, reader.tokens.2))
  | finished (tokens : List Token) (again : Nat) (last : current.symbol = .finish)
    (whole : tokenize text = (tokens ++ [current], none))
    (passed : taken = tokens ++ List.replicate again current)
    (stays : reader.next = (.ok current, reader))

/-- A cursor that has stepped over some tokens of a text. -/
structure Along (text : String) (taken : List Token) (cursor : Cursor) : Prop where
  previous : cursor.previous = taken.getLast?.map Token.kind
  stands : Stands text taken cursor.current cursor.reader

section Steps

variable {text : String} {taken : List Token} {cursor : Cursor}

theorem ofText_error {error : Error} (refused : ofText text = .error error) :
    tokenize text = ([], some error) := by
  unfold ofText at refused
  split at refused
  · cases refused
  · rename_i found reader read
    cases refused
    exact Reader.tokens_error read

theorem stands_of_next {reader later : Reader} {token : Token}
    (whole : tokenize text = (taken ++ reader.tokens.1, reader.tokens.2))
    (read : reader.next = (.ok token, later)) : Stands text taken token later := by
  by_cases last : token.symbol = .finish
  · rw [Reader.tokens_finish read last] at whole
    exact .finished taken 0 last whole (List.append_nil taken).symm (Reader.next_again read last)
  · rw [Reader.tokens_more read last] at whole
    exact .inside last whole

theorem Along.start (begun : ofText text = .ok cursor) : Along text [] cursor := by
  unfold ofText at begun
  split at begun
  · rename_i token reader read
    cases begun
    exact ⟨rfl, stands_of_next rfl read⟩
  · cases begun

theorem Along.place (along : Along text taken cursor) {place : Nat}
    (within : place ≤ taken.length) :
    tokenAt? text place = (taken ++ [cursor.current])[place]? := by
  cases along.stands with
  | inside more whole => exact tokenAt?_inside whole within
  | finished tokens again last whole passed stays =>
    subst passed
    exact tokenAt?_finish whole within

theorem Along.current (along : Along text taken cursor) :
    tokenAt? text taken.length = some cursor.current := by
  rw [along.place (Nat.le_refl _), List.getElem?_concat_length]

theorem Along.advance (along : Along text taken cursor) :
    (∃ later, cursor.advance = (.ok cursor.current, later) ∧
      Along text (taken ++ [cursor.current]) later) ∨
    ∃ error later, cursor.advance = (.error error, later) ∧ error.isRefusal = false ∧
      later.current = cursor.current ∧
      tokenize text = (taken ++ [cursor.current], some error) := by
  have previous : some cursor.current.kind =
      (taken ++ [cursor.current]).getLast?.map Token.kind := by
    rw [List.getLast?_concat, Option.map_some]
  cases along.stands with
  | inside more whole =>
    rw [List.append_cons] at whole
    rcases read : cursor.reader.next with ⟨error | token, reader⟩
    · rw [Reader.tokens_error read, List.append_nil] at whole
      exact .inr ⟨error, _, advance_error read, Reader.not_isRefusal read, rfl, whole⟩
    · exact .inl ⟨_, advance_ok read, previous, stands_of_next whole read⟩
  | finished tokens again last whole passed stays =>
    have further : taken ++ [cursor.current] =
        tokens ++ List.replicate (again + 1) cursor.current := by
      rw [passed, List.append_assoc, ← List.replicate_succ']
    exact .inl ⟨_, advance_ok stays, previous,
      .finished tokens (again + 1) last whole further stays⟩

def given (outcomes : List (Except Error Token)) : List Token :=
  outcomes.filterMap Except.toOption

@[simp] theorem given_ok (token : Token) (outcomes : List (Except Error Token)) :
    given (.ok token :: outcomes) = token :: given outcomes := rfl

@[simp] theorem given_error (error : Error) (outcomes : List (Except Error Token)) :
    given (.error error :: outcomes) = given outcomes := rfl

theorem Along.calls (along : Along text taken cursor) (wanted : List Token.Kind)
    (refused : ∀ error, .error error ∈ (cursor.calls wanted).1 → error.isRefusal = true) :
    Along text (taken ++ given (cursor.calls wanted).1) (cursor.calls wanted).2 := by
  induction wanted generalizing cursor taken with
  | nil => simpa [Cursor.calls, given] using along
  | cons kind wanted ih =>
    by_cases same : kind = cursor.current.kind
    · subst same
      rcases along.advance with ⟨later, moved, further⟩ | ⟨error, later, stuck, fault, _⟩
      · simp only [Cursor.calls, consume_current, moved] at refused ⊢
        have rest := ih further fun error inside => refused error (List.mem_cons_of_mem _ inside)
        rwa [given_ok, List.append_cons]
      · simp only [Cursor.calls, consume_current, stuck] at refused
        have refusal := refused error List.mem_cons_self
        rw [fault] at refusal
        cases refusal
    · simp only [Cursor.calls, consume_other same] at refused ⊢
      rw [given_error]
      exact ih along fun error inside => refused error (List.mem_cons_of_mem _ inside)

end Steps

end Cursor

open Cursor (given)

/-- Up to the first token that cannot be read, a cursor stands behind the tokens that its calls have
given, which are the first ones of its text. It remembers the kind of the last of them and changes
only in a call for the kind of its current token. Such a call fails exactly as reading all tokens
does. -/
theorem cursor_follows_tokens (text : String) :
    (∀ error, Cursor.ofText text = .error error → tokenize text = ([], some error)) ∧
    ∀ start wanted outcomes cursor, Cursor.ofText text = .ok start →
      Cursor.calls start wanted = (outcomes, cursor) →
      (∀ error, .error error ∈ outcomes → error.isRefusal = true) →
      let taken := given outcomes
      (∀ place < taken.length, tokenAt? text place = taken[place]?) ∧
      tokenAt? text taken.length = some cursor.current ∧
      cursor.previous = taken.getLast?.map Token.kind ∧
      (cursor.implicitAnd = true ↔
        taken.getLast?.map Token.kind = some .closing ∧ cursor.current.kind = .opening) ∧
      (∀ other, other ≠ cursor.current.kind → cursor.consume other =
        (.error (.malformed (.mismatch other cursor.current.kind) (some cursor.current.position)),
          cursor)) ∧
      match cursor.consume cursor.current.kind with
      | (.ok token, later) =>
        token = cursor.current ∧ tokenAt? text (taken.length + 1) = some later.current
      | (.error error, later) =>
        later.current = cursor.current ∧ tokenize text = (taken ++ [cursor.current], some error) := by
  refine ⟨fun error => Cursor.ofText_error, ?_⟩
  intro start wanted outcomes cursor begun called refused taken
  have along : Cursor.Along text taken cursor := by
    have reached := (Cursor.Along.start begun).calls wanted
    rw [called] at reached
    exact reached refused
  refine ⟨?_, along.current, along.previous, ?_, ?_, ?_⟩
  · intro place before
    rw [along.place (Nat.le_of_lt before), List.getElem?_append_left before]
  · rw [Cursor.implicitAnd, along.previous, Bool.and_eq_true, decide_eq_true_iff,
      decide_eq_true_iff]
  · intro other differs
    exact Cursor.consume_other differs
  · rw [Cursor.consume_current]
    rcases along.advance with ⟨later, moved, further⟩ | ⟨error, later, stuck, _, stays, whole⟩
    · rw [moved]
      have next := further.current
      rw [List.length_append, List.length_singleton] at next
      exact ⟨rfl, next⟩
    · rw [stuck]
      exact ⟨stays, whole⟩

/-- Two groups side by side, and a sign that no token begins with behind them. -/
theorem cursor_follows_tokens_refused :
    let text := "a) (&x"
    let name : Token := ⟨.name "a", 0⟩
    let closing : Token := ⟨.closing, 1⟩
    let opening : Token := ⟨.opening, 3⟩
    let fault : Error := .malformed (.loneSign '&') (some 4)
    let start : Cursor := ⟨⟨[')', ' ', '(', '&', 'x'], 1⟩, name, none⟩
    let cursor : Cursor := ⟨⟨['&', 'x'], 4⟩, opening, some .closing⟩
    let wanted : List Token.Kind := [.number, .identifier, .finish, .closing]
    let outcomes : List (Except Error Token) :=
      [.error (.malformed (.mismatch .number .identifier) (some 0)), .ok name,
        .error (.malformed (.mismatch .finish .closing) (some 1)), .ok closing]
    Cursor.ofText text = .ok start ∧ start.calls wanted = (outcomes, cursor) ∧
    (∀ error, .error error ∈ outcomes → error.isRefusal = true) ∧
    given outcomes = [name, closing] ∧
    tokenAt? text 0 = some name ∧ tokenAt? text 1 = some closing ∧
    tokenAt? text 2 = some opening ∧ cursor.implicitAnd = true ∧
    cursor.consume .closing =
      (.error (.malformed (.mismatch .closing .opening) (some 3)), cursor) ∧
    (cursor.consume .opening).1 = .error fault ∧ (cursor.consume .opening).2.current = opening ∧
    tokenize text = ([name, closing, opening], some fault) := by
  intro text name closing opening fault start cursor wanted outcomes
  have begun : Cursor.ofText text = .ok start := by decide +kernel
  have called : start.calls wanted = (outcomes, cursor) := by decide +kernel
  have refused : ∀ error, .error error ∈ outcomes → error.isRefusal = true := by
    simp [outcomes, Error.isRefusal]
  obtain ⟨first, current, _, implicit, other, next⟩ :=
    (cursor_follows_tokens text).2 start wanted outcomes cursor begun called refused
  exact ⟨begun, called, refused, rfl, first 0 (by decide), first 1 (by decide), current,
    implicit.mpr ⟨rfl, rfl⟩, other .closing (by decide), rfl, next⟩

end Rulebook

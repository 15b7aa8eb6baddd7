import Rulebook.Proofs.Token.Cut
import Rulebook.Proofs.Token.Segmentation

/-! Texts put together. Tokens keep their order and only change their places, provided that nothing
runs on from one text into the next. -/
namespace Rulebook

def Token.shift (offset : Nat) (token : Token) : Token :=
  ⟨token.symbol, token.position + offset⟩

namespace Reader

variable {reader later : Reader} {token : Token} {tokens : List Token} {position : Nat}
variable {more : List Char}

theorem tokens_congr {other : Reader} (same : reader.next = other.next) :
    reader.tokens = other.tokens := by
  rcases read : other.next with ⟨error | token, later⟩
  · rw [tokens_error (same.trans read), tokens_error read]
  · by_cases last : token.symbol = .finish
    · rw [tokens_finish (same.trans read) last, tokens_finish read last]
    · rw [tokens_more (same.trans read) last, tokens_more read last]

theorem content_gap {gap : List Char} (gaps : ∀ c ∈ gap, Stretch.isGap c = true) (more : List Char)
    (position : Nat) :
    (mk (gap ++ more) position).content = (mk more (position + gap.length)).content := by
  have same : (mk (gap ++ more) position).next = (mk more (position + gap.length)).next := by
    simp only [next, List.takeWhile_append_of_pos gaps, List.dropWhile_append_of_pos gaps,
      List.length_append, Nat.add_assoc]
  rw [content, tokens_congr same, content]

theorem next_shift (read : reader.next = (.ok token, later)) (offset : Nat) :
    (mk reader.rest (reader.position + offset)).next =
      (.ok (token.shift offset), ⟨later.rest, later.position + offset⟩) := by
  simp only [next, Prod.mk.injEq] at read ⊢
  obtain ⟨found, rfl⟩ := read
  split at found
  · rename_i symbol spelled
    cases found
    simp only [Token.shift, Nat.add_right_comm _ offset, and_self]
  · cases found

theorem content_shift (content : reader.content = (tokens, .ok position)) (offset : Nat) :
    (mk reader.rest (reader.position + offset)).content =
      (tokens.map (Token.shift offset), .ok (position + offset)) := by
  induction tokens generalizing reader with
  | nil =>
    obtain ⟨later, read⟩ := next_of_content_ok content
    exact content_finish (next_shift read offset) rfl
  | cons token tokens ih =>
    obtain ⟨later, read, further, rest⟩ := next_of_content_cons content
    have moved := content_more (next_shift read offset) further
    rw [moved, ih rest, List.map_cons]

/-- A token is read alike if more text follows, unless it runs on into that. -/
theorem next_append (read : reader.next = (.ok token, later)) (further : token.symbol ≠ .finish)
    (apart : Separated more) :
    (mk (reader.rest ++ more) reader.position).next =
      (.ok token, ⟨later.rest ++ more, later.position⟩) := by
  obtain ⟨gap, lexeme, whole, gaps, stretch, start, finish⟩ := next_token read further
  have found := congrArg Stretch.found stretch
  have here : lexeme ++ later.rest ≠ [] := by
    intro empty
    rw [empty] at found
    exact further (Except.ok.inj found).symm
  have extended := Stretch.ofChars_extend found here apart
  rw [stretch] at extended
  have next := next_of_ok gaps (Stretch.head_of_found (congrArg Stretch.found extended)) extended
    reader.position
  rw [whole, List.append_assoc, next, ← start, finish, ← start]

theorem content_append (content : reader.content = (tokens, .ok position))
    (apart : Separated more) :
    (mk (reader.rest ++ more) reader.position).content =
      (tokens ++ (mk more position).content.1, (mk more position).content.2) := by
  induction tokens generalizing reader with
  | nil =>
    obtain ⟨later, read⟩ := next_of_content_ok content
    obtain ⟨gaps, rfl⟩ := next_finish read
    exact content_gap gaps more reader.position
  | cons token tokens ih =>
    obtain ⟨later, read, further, rest⟩ := next_of_content_cons content
    have moved := content_more (next_append read further apart) further
    rw [moved, ih rest, List.cons_append]

end Reader

theorem exists_content {text : String} (through : (tokenize text).2 = none) :
    ∃ tokens, (Reader.ofText text).content = (tokens, .ok text.length) := by
  obtain ⟨symbols, read⟩ := symbols?_of_tokenize through
  obtain ⟨tokens, position, content, _⟩ := symbols?_eq_some_iff.mp read
  obtain ⟨_, rfl⟩ := Reader.cut_of_content_ok content
  exact ⟨tokens, content⟩

section Texts

variable {first gap second : String} {front back : List Token}

theorem content_further {text : String} {tokens : List Token} {position : Nat}
    (content : (Reader.ofText text).content = (tokens, .ok position)) (offset : Nat) :
    (Reader.mk text.toList offset).content =
      (tokens.map (Token.shift offset), .ok (position + offset)) := by
  simpa [Reader.ofText] using Reader.content_shift content offset

theorem tokenize_set_apart (before : (Reader.ofText first).content = (front, .ok first.length))
    (after : (Reader.ofText second).content = (back, .ok second.length)) (nonempty : gap ≠ "")
    (blank : ∀ c ∈ gap.toList, Stretch.isGap c = true) :
    tokenize (first ++ gap ++ second) =
      (front ++ (back ++ [Token.mk .finish second.length]).map
        (Token.shift (first.length + gap.length)), none) := by
  have apart : Separated (gap.toList ++ second.toList) := by
    cases chars : gap.toList with
    | nil => exact absurd (String.toList_eq_nil_iff.mp chars) nonempty
    | cons c rest => exact separated_gap (blank c (by simp [chars])) _
  have joined := Reader.content_append before apart
  rw [Reader.content_gap blank, String.length_toList, content_further after] at joined
  have whole : Reader.ofText (first ++ gap ++ second) =
      ⟨(Reader.ofText first).rest ++ (gap.toList ++ second.toList),
        (Reader.ofText first).position⟩ := by
    simp [Reader.ofText, List.append_assoc]
  rw [tokenize, whole, Reader.tokens_of_content joined]
  simp [Token.shift]

theorem tokenize_enclosed (before : (Reader.ofText first).content = (front, .ok first.length)) :
    tokenize ("(" ++ first ++ ")") =
      (⟨.opening, 0⟩ :: front.map (Token.shift 1) ++
        [⟨.closing, first.length + 1⟩, ⟨.finish, first.length + 2⟩], none) := by
  have inside := Reader.content_append (content_further before 1) (separated_closing [])
  have closing : (Reader.mk [')'] (first.length + 1)).next =
      (.ok ⟨.closing, first.length + 1⟩, ⟨[], first.length + 2⟩) := rfl
  have finish : (Reader.mk [] (first.length + 2)).next =
      (.ok ⟨.finish, first.length + 2⟩, ⟨[], first.length + 2⟩) := rfl
  rw [Reader.content_more closing (by simp), Reader.content_finish finish rfl] at inside
  have opening : (Reader.ofText ("(" ++ first ++ ")")).next =
      (.ok ⟨.opening, 0⟩, ⟨first.toList ++ [')'], 1⟩) := by
    have whole : Reader.ofText ("(" ++ first ++ ")") = ⟨'(' :: (first.toList ++ [')']), 0⟩ := by
      simp [Reader.ofText]
    rw [whole]
    rfl
  rw [tokenize, Reader.tokens_more opening (by simp), Reader.tokens_of_content inside]
  simp

end Texts

/-- A gap between two texts sets them apart: the tokens of both come in a row. And a text in
parentheses has its own tokens between two more. -/
theorem tokenize_composes (first gap second : String) (through : (tokenize first).2 = none)
    (further : (tokenize second).2 = none) (nonempty : gap ≠ "")
    (blank : ∀ c ∈ gap.toList, Stretch.isGap c = true) :
    ∃ front back,
      tokenize first = (front ++ [⟨.finish, first.length⟩], none) ∧
      tokenize second = (back ++ [⟨.finish, second.length⟩], none) ∧
      tokenize (first ++ gap ++ second) =
        (front ++ (tokenize second).1.map (Token.shift (first.length + gap.length)), none) ∧
      tokenize ("(" ++ first ++ ")") =
        (⟨.opening, 0⟩ :: front.map (Token.shift 1) ++
          [⟨.closing, first.length + 1⟩, ⟨.finish, first.length + 2⟩], none) := by
  obtain ⟨front, before⟩ := exists_content through
  obtain ⟨back, after⟩ := exists_content further
  have alone : tokenize second = (back ++ [⟨.finish, second.length⟩], none) :=
    Reader.tokens_of_content after
  refine ⟨front, back, Reader.tokens_of_content before, alone, ?_, tokenize_enclosed before⟩
  rw [alone]
  exact tokenize_set_apart before after nonempty blank

/-- Tokens that would run on into what follows, were there no gap. -/
theorem tokenize_composes_apart :
    let first := "n<=-1"
    let gap := "\t \n"
    let second := "5.25='it'"
    (tokenize first).2 = none ∧ (tokenize second).2 = none ∧ gap ≠ "" ∧
    (∀ c ∈ gap.toList, Stretch.isGap c = true) ∧
    ∃ front back,
      tokenize first = (front ++ [⟨.finish, first.length⟩], none) ∧
      tokenize second = (back ++ [⟨.finish, second.length⟩], none) ∧
      tokenize (first ++ gap ++ second) =
        (front ++ (tokenize second).1.map (Token.shift (first.length + gap.length)), none) ∧
      tokenize ("(" ++ first ++ ")") =
        (⟨.opening, 0⟩ :: front.map (Token.shift 1) ++
          [⟨.closing, first.length + 1⟩, ⟨.finish, first.length + 2⟩], none) := by
  intro first gap second
  have through : (tokenize first).2 = none := by decide +kernel
  have further : (tokenize second).2 = none := by decide +kernel
  have nonempty : gap ≠ "" := by decide
  have blank : ∀ c ∈ gap.toList, Stretch.isGap c = true := List.all_eq_true.mp (by decide)
  have composed := tokenize_composes first gap second through further nonempty blank
  exact ⟨through, further, nonempty, blank, composed⟩

end Rulebook

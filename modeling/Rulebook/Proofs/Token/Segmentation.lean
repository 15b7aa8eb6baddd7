import Rulebook.Proofs.Token.Lexeme
import Rulebook.Proofs.Token.Symbols

/-! Texts cut into gaps and lexemes. The tokens of a text are those of any segmentation that reaches
its end, and where they stop before it none goes on. -/
namespace Rulebook

structure Segment where
  gap : List Char
  lexeme : List Char
  token : Token

namespace Segment

def chars (segment : Segment) : List Char := segment.gap ++ segment.lexeme

def plain (segment : Segment) : List Char :=
  if segment.token.kind = .string then segment.gap else segment.chars

end Segment

/-- A lexeme can begin with these characters and goes on behind them. -/
def Unfinished (chars : List Char) : Prop := ∃ c more symbol, Lexeme (chars ++ c :: more) symbol

/-- The text from a position on is cut into segments, up to what is left of it. Every lexeme is as
long as it can be, and its token says where it starts. -/
inductive Segmented : Nat → List Char → List Segment → List Char → Prop
  | done (start : Nat) (rest : List Char) : Segmented start rest [] rest
  | next {start : Nat} {gap lexeme text rest : List Char} {symbol : Symbol}
    {segments : List Segment} :
    (∀ c ∈ gap, Stretch.isGap c = true) → Lexeme lexeme symbol → Longest lexeme text →
    Segmented (start + gap.length + lexeme.length) text segments rest →
    Segmented start (gap ++ (lexeme ++ text))
      (⟨gap, lexeme, ⟨symbol, start + gap.length⟩⟩ :: segments) rest

namespace Segmented

variable {start : Nat} {text rest : List Char} {segments : List Segment}

theorem whole (cut : Segmented start text segments rest) :
    segments.flatMap Segment.chars ++ rest = text := by
  induction cut with
  | done => rfl
  | next gaps spelled longest cut ih => simp [Segment.chars, ih]

theorem toNat_lt (cut : Segmented start text segments rest) :
    ∀ c ∈ segments.flatMap Segment.plain, c.toNat < 128 := by
  induction cut with
  | done => nofun
  | @next start gap lexeme text rest symbol segments gaps spelled longest cut ih =>
    have blank : ∀ c ∈ gap, c.toNat < 128 := fun c inside => toNat_lt_of_isGap (gaps c inside)
    refine List.forall_mem_append.mpr ⟨?_, ih⟩
    unfold Segment.plain
    split
    · exact blank
    · rename_i plain
      exact List.forall_mem_append.mpr ⟨blank, spelled.toNat_lt plain⟩

end Segmented

namespace Stretch

variable {chars : List Char} {fault : Misread}

theorem unfinished_number {negative : Bool} {digits : String}
    (digit : startsWithDigit chars = true)
    (found : (number negative chars).found = .error (.number digits)) :
    Unfinished (number negative chars).lexeme := by
  have nonempty : chars.takeWhile Char.isDigit ≠ [] := by
    cases chars with
    | nil => cases digit
    | cons c chars => simp [show c.isDigit = true from digit]
  have longer := Lexeme.pointed negative nonempty (List.cons_ne_nil '0' []) (isDigit_takeWhile chars)
    (List.forall_mem_singleton.mpr rfl)
  rw [← signed_append] at longer
  unfold number at found ⊢
  dsimp only at found ⊢
  split at found
  · rename_i after point
    split at found
    · rename_i bare
      simpa only [point, bare, if_true] using ⟨'.', ['0'], _, longer⟩
    · cases found
  · split at found <;> cases found

theorem unfinished_nil : Unfinished [] := ⟨'(', [], _, .sign .opening⟩

theorem unfinished_of_found {start position : Nat} {cause : SyntaxFault}
    (found : (ofChars chars).found = .error fault)
    (told : .malformed cause (some position) =
      fault.error start (start + (ofChars chars).lexeme.length)) :
    ∃ unfinished left, chars = unfinished ++ left ∧ Unfinished unfinished ∧
      position = start + unfinished.length := by
  cases fault with
  | overlong count => cases told
  | number digits =>
    cases told
    refine ⟨_, _, (ofChars_append chars).symm, ?_, rfl⟩
    obtain ⟨negative, _, _, digit, read⟩ := number_of_fault found (.inl ⟨digits, rfl⟩)
    rw [read] at found ⊢
    exact unfinished_number digit found
  | _ =>
    cases told
    exact ⟨[], chars, rfl, unfinished_nil, rfl⟩

theorem head_of_found {symbol : Symbol}
    (found : (ofChars chars).found = .ok symbol) : ∀ c ∈ chars.head?, isGap c = false := by
  intro c first
  obtain ⟨rest, rfl⟩ := List.head?_eq_some_iff.mp first
  by_contra gap
  rw [Bool.not_eq_false] at gap
  cases (ofChars_gap gap rest).symm.trans found

end Stretch

namespace Reader

variable {reader later : Reader} {token : Token} {error : Error}

section Gap

variable {gap chars lexeme rest : List Char} (gaps : ∀ c ∈ gap, Stretch.isGap c = true)
variable (solid : ∀ c ∈ chars.head?, Stretch.isGap c = false)

include gaps solid

theorem next_of_ok {symbol : Symbol} (read : Stretch.ofChars chars = ⟨.ok symbol, lexeme, rest⟩)
    (position : Nat) :
    let start := position + gap.length
    (mk (gap ++ chars) position).next = (.ok ⟨symbol, start⟩, ⟨rest, start + lexeme.length⟩) := by
  simp only [next, takeWhile_append_all gaps solid, dropWhile_append_all gaps solid, read]

theorem next_of_error {fault : Misread}
    (read : Stretch.ofChars chars = ⟨.error fault, lexeme, rest⟩) (position : Nat) :
    let start := position + gap.length
    let finish := start + lexeme.length
    (mk (gap ++ chars) position).next = (.error (fault.error start finish), ⟨rest, finish⟩) := by
  simp only [next, takeWhile_append_all gaps solid, dropWhile_append_all gaps solid, read]

end Gap

theorem next_segment (read : reader.next = (.ok token, later)) (unended : token.symbol ≠ .finish) :
    ∃ gap lexeme, reader.rest = gap ++ (lexeme ++ later.rest) ∧
      (∀ c ∈ gap, Stretch.isGap c = true) ∧
      Lexeme lexeme token.symbol ∧ Longest lexeme later.rest ∧
      token.position = reader.position + gap.length ∧
      later.position = reader.position + gap.length + lexeme.length := by
  obtain ⟨gap, lexeme, whole, gaps, stretch, start, finish⟩ := next_token read unended
  obtain ⟨spelled, longest⟩ := Stretch.spelled_of_ofChars stretch unended
  exact ⟨gap, lexeme, whole, gaps, spelled, longest, start, finish⟩

theorem next_error_cases (read : reader.next = (.error error, later)) :
    (∃ cause position, error = .malformed cause (some position)) ∨
      ∃ count, error = .numeral count ∧ digitLimit < count := by
  obtain ⟨gap, after, fault, _, _, found, rfl⟩ := next_fault read
  cases fault with
  | overlong count => exact .inr ⟨count, rfl, Stretch.ofChars_tells found⟩
  | _ => exact .inl ⟨_, _, rfl⟩

theorem unfinished_of_next {cause : SyntaxFault} {position : Nat}
    (read : reader.next = (.error (.malformed cause (some position)), later)) :
    ∃ gap unfinished left, reader.rest = gap ++ (unfinished ++ left) ∧
      (∀ c ∈ gap, Stretch.isGap c = true) ∧ Unfinished unfinished ∧
      position = reader.position + gap.length + unfinished.length := by
  obtain ⟨gap, after, fault, split, gaps, found, told⟩ := next_fault read
  obtain ⟨unfinished, left, rfl, begun, place⟩ := Stretch.unfinished_of_found found told
  exact ⟨gap, unfinished, left, split, gaps, begun, place⟩

/-- The reader goes through a segmentation up to the end of the text or a fault. -/
theorem exists_segmented (reader : Reader) : ∃ segments rest,
    Segmented reader.position reader.rest segments rest ∧
    let behind := mk rest (reader.position + (segments.flatMap Segment.chars).length)
    reader.tokens = (segments.map Segment.token ++ behind.tokens.1, behind.tokens.2) ∧
    ∀ token later, behind.next = (.ok token, later) → token.symbol = .finish := by
  induction reader using Reader.tokens.induct with
  | case1 reader error later read =>
    refine ⟨[], reader.rest, .done _ _, rfl, fun token after found => ?_⟩
    cases found.symm.trans read
  | case2 reader token later read last =>
    refine ⟨[], reader.rest, .done _ _, rfl, fun other after found => ?_⟩
    cases found.symm.trans read
    exact last
  | case3 reader token later read unended ih =>
    obtain ⟨segments, rest, cut, tokens, last⟩ := ih
    obtain ⟨gap, lexeme, whole, gaps, spelled, longest, start, finish⟩ := next_segment read unended
    obtain ⟨symbol, position⟩ := token
    cases start
    rw [finish] at cut tokens last
    have place : reader.position + gap.length + lexeme.length +
        (segments.flatMap Segment.chars).length = reader.position +
        ((⟨gap, lexeme, ⟨symbol, reader.position + gap.length⟩⟩ :: segments).flatMap
          Segment.chars).length := by
      simp only [List.flatMap_cons, Segment.chars, List.length_append]
      omega
    rw [place] at tokens last
    refine ⟨_, rest, whole ▸ .next gaps spelled longest cut, ?_, last⟩
    rw [tokens_more read unended, tokens]
    rfl

theorem next_lexeme {gap lexeme rest : List Char} {symbol : Symbol}
    (gaps : ∀ c ∈ gap, Stretch.isGap c = true) (spelled : Lexeme lexeme symbol)
    (longest : Longest lexeme rest) (position : Nat) :
    let start := position + gap.length
    let later := mk rest (start + lexeme.length)
    (mk (gap ++ (lexeme ++ rest)) position).next = (.ok ⟨symbol, start⟩, later) ∨
      ∃ count, digitLimit < count ∧
        (mk (gap ++ (lexeme ++ rest)) position).next = (.error (.numeral count), later) := by
  have read := Stretch.ofChars_lexeme spelled longest
  have solid : ∀ c ∈ (lexeme ++ rest).head?, Stretch.isGap c = false := by
    intro c first
    by_contra gap
    rw [Bool.not_eq_false] at gap
    obtain ⟨left, whole⟩ := List.head?_eq_some_iff.mp first
    have foreign := Stretch.ofChars_gap gap left
    rw [← whole] at foreign
    rcases read with read | ⟨count, _, read⟩ <;> rw [read] at foreign <;> cases foreign
  rcases read with read | ⟨count, long, read⟩
  · exact .inl (next_of_ok gaps solid read position)
  · exact .inr ⟨count, long, next_of_error gaps solid read position⟩

/-- If a text is cut into segments and a gap, its tokens are those of the segments, or one of them is
a whole number with too many digits. -/
theorem tokens_segmented {start : Nat} {text gap : List Char} {segments : List Segment}
    (cut : Segmented start text segments gap) (gaps : ∀ c ∈ gap, Stretch.isGap c = true) :
    (mk text start).tokens =
        (segments.map Segment.token ++ [⟨.finish, start + text.length⟩], none) ∨
      ∃ count, digitLimit < count ∧ (mk text start).tokens.2 = some (.numeral count) := by
  induction cut with
  | done start gap =>
    have last : ∀ c ∈ ([] : List Char).head?, Stretch.isGap c = false := nofun
    have read := next_of_ok gaps last rfl start
    rw [List.append_nil] at read
    exact .inl (tokens_finish read rfl)
  | @next start gap lexeme text rest symbol segments before spelled longest cut ih =>
    rcases next_lexeme before spelled longest start with read | ⟨count, long, read⟩
    · rw [tokens_more read spelled.ne_finish]
      rcases ih gaps with through | unread
      · have length : start + gap.length + lexeme.length + text.length =
            start + (gap ++ (lexeme ++ text)).length := by
          simp only [List.length_append, Nat.add_assoc]
        rw [through, length]
        exact .inl rfl
      · exact .inr unread
    · rw [tokens_error read]
      exact .inr ⟨count, long, rfl⟩

theorem not_segmented_of_fault {cause : SyntaxFault} {place : Option Nat} {left : List Char}
    {segments : List Segment} (read : reader.next = (.error (.malformed cause place), later))
    (cut : Segmented reader.position reader.rest segments left) : segments = [] := by
  obtain ⟨chars, position⟩ := reader
  dsimp only at cut
  cases cut with
  | done => rfl
  | next gaps spelled longest cut =>
    rcases next_lexeme gaps spelled longest position with found | ⟨count, _, found⟩ <;>
      cases found.symm.trans read

end Reader

theorem tokenize_single {text : String} {symbol : Symbol}
    (read : Stretch.ofChars text.toList = ⟨.ok symbol, text.toList, []⟩) (unended : symbol ≠ .finish) :
    tokenize text = ([⟨symbol, 0⟩, ⟨.finish, text.length⟩], none) := by
  have blank : ∀ c ∈ ([] : List Char), Stretch.isGap c = true := nofun
  have found := congrArg Stretch.found read
  have next := Reader.next_of_ok blank (Stretch.head_of_found found) read 0
  simp only [List.nil_append, List.length_nil, Nat.zero_add, String.length_toList] at next
  have last : (Reader.mk [] text.length).next =
      (.ok ⟨.finish, text.length⟩, ⟨[], text.length⟩) := rfl
  rw [tokenize, Reader.ofText, Reader.tokens_more next unended, Reader.tokens_finish last rfl]

/-- The tokens of a text cut it into gaps and lexemes, nothing is lost and nothing but texts in
quotes goes beyond ASCII. The end comes behind the last character. If a fault is reported instead, at
most a gap and the beginning of a lexeme lie before it, the cut does not go on from there, and no other
one reaches the end. -/
theorem tokenize_segments (text : String) :
    let chars := text.toList
    let tokens := (tokenize text).1
    ∃ segments rest,
      let read := segments.flatMap Segment.chars
      Segmented 0 chars segments rest ∧ read ++ rest = chars ∧
      tokens.Pairwise (·.position < ·.position) ∧
      (∀ c ∈ segments.flatMap Segment.plain, c.toNat < 128) ∧
      match (tokenize text).2 with
      | none =>
        tokens = segments.map Segment.token ++ [⟨.finish, chars.length⟩] ∧
        ∀ c ∈ rest, Stretch.isGap c = true
      | some (.malformed _ (some position)) =>
        tokens = segments.map Segment.token ∧
        (∃ gap unfinished left, rest = gap ++ (unfinished ++ left) ∧
          (∀ c ∈ gap, Stretch.isGap c = true) ∧ Unfinished unfinished ∧
          position = (read ++ gap ++ unfinished).length) ∧
        (∀ others left, Segmented read.length rest others left → others = []) ∧
        ¬ ∃ others gap, Segmented 0 chars others gap ∧ ∀ c ∈ gap, Stretch.isGap c = true
      | some (.numeral count) => tokens = segments.map Segment.token ∧ digitLimit < count
      | some _ => False := by
  intro chars tokens
  obtain ⟨segments, rest, cut, whole, last⟩ := (Reader.ofText text).exists_segmented
  have ordered : tokens.Pairwise (·.position < ·.position) := (Reader.tokens_ordered _).2
  refine ⟨segments, rest, cut, cut.whole, ordered, cut.toNat_lt, ?_⟩
  have through : segments.flatMap Segment.chars ++ rest = chars := cut.whole
  have start : (Reader.ofText text).position + (segments.flatMap Segment.chars).length =
      (segments.flatMap Segment.chars).length := Nat.zero_add _
  rw [start] at whole last
  subst tokens
  rw [tokenize, whole]
  rcases read : (Reader.mk rest (segments.flatMap Segment.chars).length).next with
    ⟨error | token, later⟩
  · rw [Reader.tokens_error read, List.append_nil]
    rcases Reader.next_error_cases read with ⟨cause, position, rfl⟩ | ⟨count, rfl, long⟩
    · obtain ⟨gap, unfinished, left, split, gaps, begun, place⟩ := Reader.unfinished_of_next read
      have reached : position =
          (segments.flatMap Segment.chars ++ gap ++ unfinished).length := by
        simp only [place, List.length_append]
      refine ⟨rfl, ⟨gap, unfinished, left, split, gaps, begun, reached⟩, ?_, ?_⟩
      · intro others left further
        exact Reader.not_segmented_of_fault read further
      · rintro ⟨others, gap, other, gaps⟩
        have complete := Reader.tokens_segmented other gaps
        rw [show Reader.mk chars 0 = Reader.ofText text from rfl, whole,
          Reader.tokens_error read] at complete
        simp at complete
    · exact ⟨rfl, long⟩
  · obtain ⟨symbol, position⟩ := token
    cases last _ _ read
    obtain ⟨blank, place⟩ := Reader.next_finish read
    rw [Reader.tokens_finish read rfl, place, ← through, List.length_append]
    exact ⟨rfl, blank⟩

/-- The digits before the point would be a lexeme, but not as long as they can be. -/
example : tokenize "a<=-1.x" =
    ([⟨.name "a", 0⟩, ⟨.relation .atMost, 1⟩],
      some (.malformed (.malformedNumber "-1") (some 5))) := by
  decide +kernel

end Rulebook

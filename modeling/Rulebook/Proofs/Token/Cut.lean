import Rulebook.Proofs.Text.Blank
import Rulebook.Proofs.Token.Symbols

/-! Cuts of a text between its tokens. What stands before a cut is read alike whatever stands behind
it, unless its last token runs on; so texts can be changed at a cut, and trimmed. -/
namespace Rulebook

/-- Reading `before ++ after` comes, over the symbols of `before`, to the point between the two. -/
inductive Cut : List Char → List Symbol → List Char → Prop
  | start (text : List Char) : Cut [] [] text
  | gap {before after : List Char} {symbols : List Symbol} {c : Char} :
    Cut before symbols (c :: after) → Stretch.isGap c = true → Cut (before ++ [c]) symbols after
  | token {before lexeme after : List Char} {symbols : List Symbol} {symbol : Symbol} :
    Cut before symbols (lexeme ++ after) →
    Stretch.ofChars (lexeme ++ after) = ⟨.ok symbol, lexeme, after⟩ → symbol ≠ .finish →
    Cut (before ++ lexeme) (symbols ++ [symbol]) after

namespace Stretch

theorem solid_sign {chars : List Char} {symbol : Symbol} (found : (sign chars).found = .ok symbol)
    (here : (sign chars).lexeme ≠ []) : Text.Solid (sign chars).lexeme := by
  fun_cases sign chars with
  | case8 | case10 | case12 | case15 => simp [sign, *] at found
  | case16 => contradiction
  | _ => exact Text.solid_of_none (List.cons_ne_nil _ _) rfl

theorem solid_lexeme {chars : List Char} {symbol : Symbol}
    (found : (ofChars chars).found = .ok symbol) (unended : symbol ≠ .finish) :
    Text.Solid (ofChars chars).lexeme := by
  have here := lexeme_ne_nil found unended
  have number (negative : Bool) {chars : List Char}
      (found : (number negative chars).found = .ok symbol)
      (here : (number negative chars).lexeme ≠ []) :
      Text.Solid (number negative chars).lexeme := by
    apply Text.solid_of_all here
    rcases number_cases found with
      ⟨whole, places, rest, rfl, before, after, nonempty, stop⟩ |
        ⟨whole, rest, rfl, numeric, short, stop⟩
    · rw [number_pointed negative before after nonempty stop]
      apply Text.isBlank_signed
      intro c inside
      rw [List.mem_append, List.mem_cons] at inside
      rcases inside with inside | point | inside
      · exact .inl (before c inside)
      · exact .inr point
      · exact .inl (after c inside)
    · rw [number_bare negative numeric short stop]
      exact Text.isBlank_signed fun c inside => .inl (numeric c inside)
  cases chars with
  | nil => contradiction
  | cons c rest =>
    rcases ofChars_cases c rest with
      ⟨_, read⟩ | ⟨_, _, read⟩ | ⟨quote, read⟩ | ⟨_, read⟩ | read <;> rw [read] at found here ⊢
    · exact number false found here
    · exact number true found here
    · have mark : Text.Solid [c] := by
        rcases quote with rfl | rfl <;> exact Text.solid_of_none (by decide) (by decide)
      obtain ⟨held, left, rfl, free⟩ := text_cases found
      rw [text_closed free]
      exact mark.append held mark
    · apply Text.solid_of_all here
      exact fun d inside => Text.isBlank_of_isNameChar (List.mem_takeWhile_imp inside)
    · exact solid_sign found here

end Stretch

namespace Cut

variable {before after other : List Char} {symbols : List Symbol}

theorem follow (cut : Cut before symbols after) (follows : Follows after other) :
    Cut before symbols other := by
  -- each step back only sees a first character that stays, so what follows it is as before
  induction cut generalizing other with
  | start text => exact .start other
  | gap cut gap ih => exact .gap (ih (.inr rfl)) gap
  | @token before lexeme after symbols symbol cut read unended ih =>
    have here : lexeme ≠ [] := by
      have := Stretch.lexeme_ne_nil (congrArg Stretch.found read) unended
      rwa [read] at this
    obtain ⟨c, chars, rfl⟩ := List.exists_cons_of_ne_nil here
    exact .token (ih (.inr rfl)) (Stretch.ofChars_follow unended read follows) unended

theorem symbols? (cut : Cut before symbols after) :
    Rulebook.symbols? (before ++ after) = (Rulebook.symbols? after).map (symbols ++ ·) := by
  induction cut with
  | start text => simp
  | gap cut gap ih =>
    rw [List.append_assoc, List.singleton_append, ih, symbols?_gap gap]
  | token cut read unended ih =>
    rw [List.append_assoc, ih, symbols?_stretch read unended, Option.map_map]
    congr 1
    funext more
    simp

theorem written (cut : Cut before symbols after) : ∀ symbol ∈ symbols, symbol.Written := by
  induction cut with
  | start text => nofun
  | gap cut gap ih => exact ih
  | token cut read unended ih =>
    intro symbol inside
    rcases List.mem_append.mp inside with inside | inside
    · exact ih symbol inside
    · cases List.mem_singleton.mp inside
      exact Stretch.ofChars_written (congrArg Stretch.found read)

theorem gaps {gap : List Char} (cut : Cut before symbols (gap ++ after))
    (gaps : ∀ c ∈ gap, Stretch.isGap c = true) : Cut (before ++ gap) symbols after := by
  induction gap generalizing before with
  | nil => simpa using cut
  | cons c gap ih =>
    have first := Cut.gap cut (gaps c List.mem_cons_self)
    simpa using ih first fun d inside => gaps d (List.mem_cons_of_mem c inside)

theorem front (cut : Cut before symbols after) :
    before = [] ∧ symbols = [] ∨
    (∃ c rest, before = c :: rest ∧ Stretch.isGap c = true ∧ Cut rest symbols after) ∨
    ∃ lexeme rest symbol more, before = lexeme ++ rest ∧ lexeme ≠ [] ∧ symbols = symbol :: more ∧
      Stretch.ofChars (lexeme ++ (rest ++ after)) = ⟨.ok symbol, lexeme, rest ++ after⟩ ∧
      Cut rest more after := by
  induction cut with
  | start text => exact .inl ⟨rfl, rfl⟩
  | @gap before after symbols c cut gap ih =>
    rcases ih with ⟨rfl, rfl⟩ | ⟨d, rest, rfl, first, cut⟩ |
      ⟨lexeme, rest, symbol, more, rfl, here, rfl, read, cut⟩
    · exact .inr (.inl ⟨c, [], rfl, gap, .start after⟩)
    · exact .inr (.inl ⟨d, rest ++ [c], rfl, first, .gap cut gap⟩)
    · refine .inr (.inr ⟨lexeme, rest ++ [c], symbol, more, by simp, here, rfl, ?_, .gap cut gap⟩)
      simpa using read
  | @token before lexeme after symbols symbol cut read unended ih =>
    have here := Stretch.lexeme_ne_nil (congrArg Stretch.found read) unended
    rw [read] at here
    rcases ih with ⟨rfl, rfl⟩ | ⟨d, rest, rfl, first, cut⟩ |
      ⟨first, rest, own, others, rfl, nonempty, rfl, spelled, cut⟩
    · exact .inr (.inr ⟨lexeme, [], symbol, [], by simp, here, rfl, read, .start after⟩)
    · exact .inr (.inl ⟨d, rest ++ lexeme, rfl, first, .token cut read unended⟩)
    · refine .inr (.inr ⟨first, rest ++ lexeme, own, others ++ [symbol], by simp, nonempty, rfl, ?_,
        .token cut read unended⟩)
      simpa using spelled

/-- Of two cuts of a text the later one cuts what follows the earlier one. -/
theorem split {other left : List Char} {others : List Symbol} (cut : Cut before symbols after)
    (later : Cut other others left) (whole : before ++ after = other ++ left)
    (order : before.length ≤ other.length) :
    ∃ middle more, other = before ++ middle ∧ after = middle ++ left ∧ Cut middle more left := by
  -- along the earlier cut: the gap or token that it takes is also the first one of the later cut
  induction cut with
  | start text => exact ⟨other, others, rfl, whole, later⟩
  | @gap before after symbols c cut gap ih =>
    rw [List.length_append, List.length_singleton] at order
    obtain ⟨middle, more, rfl, equal, further⟩ := ih (by simpa using whole) (by omega)
    rcases further.front with ⟨rfl, _⟩ | ⟨d, rest, rfl, _, last⟩ |
      ⟨lexeme, rest, symbol, more, rfl, _, _, read, _⟩
    · rw [List.append_nil] at order
      omega
    · cases equal
      exact ⟨rest, more, by simp, rfl, last⟩
    · rw [← List.append_assoc, ← equal] at read
      cases (Stretch.ofChars_gap gap after).symm.trans (congrArg Stretch.found read)
  | @token before lexeme after symbols symbol cut read unended ih =>
    have here := Stretch.lexeme_ne_nil (congrArg Stretch.found read) unended
    rw [read] at here
    have nonempty := List.length_pos_iff.mpr here
    rw [List.length_append] at order
    obtain ⟨middle, more, rfl, equal, further⟩ := ih (by simpa using whole) (by omega)
    rcases further.front with ⟨rfl, _⟩ | ⟨d, rest, rfl, gap, _⟩ |
      ⟨first, rest, own, more, rfl, _, _, spelled, last⟩
    · rw [List.append_nil] at order
      dsimp only at nonempty
      omega
    · rw [equal, List.cons_append] at read
      cases (Stretch.ofChars_gap gap _).symm.trans (congrArg Stretch.found read)
    · rw [← List.append_assoc, ← equal, read] at spelled
      cases spelled
      exact ⟨rest, more, by simp, rfl, last⟩

/-- No cut falls within a token. -/
theorem outside {lexeme rest other left : List Char} {others : List Symbol} {symbol : Symbol}
    (cut : Cut before symbols (lexeme ++ rest)) (later : Cut other others left)
    (read : Stretch.ofChars (lexeme ++ rest) = ⟨.ok symbol, lexeme, rest⟩)
    (whole : before ++ (lexeme ++ rest) = other ++ left) :
    other.length ≤ before.length ∨ (before ++ lexeme).length ≤ other.length := by
  rcases Nat.le_total other.length before.length with order | order
  · exact .inl order
  · obtain ⟨middle, more, rfl, equal, further⟩ := cut.split later whole order
    rcases further.front with ⟨rfl, _⟩ | ⟨d, rest, rfl, gap, _⟩ |
      ⟨first, rest, own, more, rfl, _, _, spelled, _⟩
    · exact .inl (by simp)
    · rw [equal, List.cons_append] at read
      cases (Stretch.ofChars_gap gap _).symm.trans (congrArg Stretch.found read)
    · rw [← List.append_assoc, ← equal, read] at spelled
      cases spelled
      exact .inr (by simp)

end Cut

namespace Reader

variable {reader later : Reader} {before : List Char} {symbols : List Symbol}
variable {tokens front back : List Token} {token : Token} {ending : Except Error Nat}

theorem next_of_content_cons (content : reader.content = (token :: tokens, ending)) :
    ∃ later, reader.next = (.ok token, later) ∧ token.symbol ≠ .finish ∧
      later.content = (tokens, ending) := by
  rcases read : reader.next with ⟨_ | first, later⟩
  · rw [content_error read] at content
    cases content
  · by_cases last : first.symbol = .finish
    · rw [content_finish read last] at content
      cases content
    · rw [content_more read last] at content
      simp only [Prod.mk.injEq, List.cons.injEq] at content
      obtain ⟨⟨rfl, rest⟩, equal⟩ := content
      exact ⟨later, rfl, last, Prod.ext rest equal⟩

theorem next_of_content_error {error : Error} (content : reader.content = ([], .error error)) :
    ∃ later, reader.next = (.error error, later) := by
  rcases read : reader.next with ⟨fault | first, later⟩
  · rw [content_error read] at content
    cases content
    exact ⟨later, rfl⟩
  · by_cases last : first.symbol = .finish
    · rw [content_finish read last] at content
      cases content
    · rw [content_more read last] at content
      cases content

theorem next_of_content_ok {position : Nat} (content : reader.content = ([], .ok position)) :
    ∃ later, reader.next = (.ok ⟨.finish, position⟩, later) := by
  rcases read : reader.next with ⟨fault | first, later⟩
  · rw [content_error read] at content
    cases content
  · by_cases last : first.symbol = .finish
    · rw [content_finish read last] at content
      obtain ⟨symbol, place⟩ := first
      cases last
      cases content
      exact ⟨later, rfl⟩
    · rw [content_more read last] at content
      cases content

theorem tokens_of_content {position : Nat} (content : reader.content = (tokens, .ok position)) :
    reader.tokens = (tokens ++ [⟨.finish, position⟩], none) := by
  induction tokens generalizing reader with
  | nil =>
    obtain ⟨later, read⟩ := next_of_content_ok content
    exact tokens_finish read rfl
  | cons token tokens ih =>
    obtain ⟨later, read, unended, rest⟩ := next_of_content_cons content
    rw [tokens_more read unended, ih rest]
    rfl

structure Behind (reader : Reader) (before : List Char) (symbols : List Symbol) : Prop where
  cut : Cut before symbols reader.rest
  position : reader.position = before.length

theorem behind_start (text : List Char) : Behind ⟨text, 0⟩ [] [] := ⟨.start text, rfl⟩

theorem Behind.gaps {gap after : List Char} (behind : reader.Behind before symbols)
    (whole : reader.rest = gap ++ after) (gaps : ∀ c ∈ gap, Stretch.isGap c = true) :
    Cut (before ++ gap) symbols after ∧ (before ++ gap).length = reader.position + gap.length := by
  refine ⟨.gaps (whole ▸ behind.cut) gaps, ?_⟩
  rw [behind.position, List.length_append]

theorem Behind.next_token (behind : reader.Behind before symbols)
    (read : reader.next = (.ok token, later)) (unended : token.symbol ≠ .finish) :
    ∃ gap lexeme, gap ++ (lexeme ++ later.rest) = reader.rest ∧
      Cut (before ++ gap) symbols (lexeme ++ later.rest) ∧
      token.position = (before ++ gap).length ∧ lexeme ≠ [] ∧
      later.Behind (before ++ gap ++ lexeme) (symbols ++ [token.symbol]) := by
  obtain ⟨gap, lexeme, whole, gaps, stretch, start, finish⟩ := Reader.next_token read unended
  obtain ⟨cut, place⟩ := behind.gaps whole gaps
  have here := Stretch.lexeme_ne_nil (congrArg Stretch.found stretch) unended
  rw [stretch] at here
  refine ⟨gap, lexeme, whole.symm, cut, start.trans place.symm, here, .token cut stretch unended, ?_⟩
  rw [finish, List.length_append, place]

theorem Behind.next_finish {position : Nat} (behind : reader.Behind before symbols)
    (read : reader.next = (.ok ⟨.finish, position⟩, later)) :
    Cut (before ++ reader.rest) symbols [] ∧ position = (before ++ reader.rest).length := by
  obtain ⟨gaps, finish⟩ := Reader.next_finish read
  obtain ⟨cut, place⟩ := behind.gaps (List.append_nil _).symm gaps
  exact ⟨cut, finish.trans place.symm⟩

theorem Behind.next_fault {error : Error} (behind : reader.Behind before symbols)
    (read : reader.next = (.error error, later)) :
    ∃ gap rest fault, gap ++ rest = reader.rest ∧ Cut (before ++ gap) symbols rest ∧
      (Stretch.ofChars rest).found = .error fault ∧
      error = fault.error (before ++ gap).length
        ((before ++ gap).length + (Stretch.ofChars rest).lexeme.length) := by
  obtain ⟨gap, rest, fault, whole, gaps, found, told⟩ := Reader.next_fault read
  obtain ⟨cut, place⟩ := behind.gaps whole gaps
  exact ⟨gap, rest, fault, whole.symm, cut, found, place ▸ told⟩

theorem Behind.content (behind : reader.Behind before symbols)
    (content : reader.content = (front ++ back, ending)) :
    ∃ (read : List Char) (later : Reader), read ++ later.rest = reader.rest ∧
      later.Behind (before ++ read) (symbols ++ front.map Token.symbol) ∧
      later.content = (back, ending) := by
  induction front generalizing reader before symbols with
  | nil => exact ⟨[], reader, rfl, by simpa using behind, content⟩
  | cons token front ih =>
    obtain ⟨next, read, unended, rest⟩ := next_of_content_cons content
    obtain ⟨gap, lexeme, whole, _, _, _, moved⟩ := behind.next_token read unended
    obtain ⟨further, later, joined, last, left⟩ := ih moved rest
    refine ⟨gap ++ lexeme ++ further, later, ?_, by simpa using last, left⟩
    rw [← whole, ← joined, List.append_assoc, List.append_assoc]

section Content

variable {chars : List Char}

theorem cut_of_content_token (content : (mk chars 0).content = (front ++ token :: back, ending)) :
    ∃ before after, before ++ after = chars ∧ Cut before (front.map Token.symbol) after ∧
      token.position = before.length := by
  obtain ⟨read, reader, whole, behind, rest⟩ := (behind_start chars).content content
  obtain ⟨later, next, unended, _⟩ := next_of_content_cons rest
  obtain ⟨gap, lexeme, split, cut, place, _, _⟩ := behind.next_token next unended
  rw [List.nil_append] at cut place
  refine ⟨_, _, ?_, cut, place⟩
  rw [List.append_assoc, split, whole]

theorem cut_of_content_ok {position : Nat} (content : (mk chars 0).content = (tokens, .ok position)) :
    Cut chars (tokens.map Token.symbol) [] ∧ position = chars.length := by
  rw [← List.append_nil tokens] at content
  obtain ⟨read, reader, whole, behind, rest⟩ := (behind_start chars).content content
  obtain ⟨later, next⟩ := next_of_content_ok rest
  have finish := behind.next_finish next
  rwa [List.nil_append, whole] at finish

theorem cut_of_content_error {error : Error}
    (content : (mk chars 0).content = (tokens, .error error)) :
    ∃ before after fault, before ++ after = chars ∧ Cut before (tokens.map Token.symbol) after ∧
      (Stretch.ofChars after).found = .error fault ∧
      error = fault.error before.length (before.length + (Stretch.ofChars after).lexeme.length) := by
  rw [← List.append_nil tokens] at content
  obtain ⟨read, reader, whole, behind, rest⟩ := (behind_start chars).content content
  obtain ⟨later, next⟩ := next_of_content_error rest
  obtain ⟨gap, after, fault, split, cut, found, told⟩ := behind.next_fault next
  rw [List.nil_append] at cut told
  refine ⟨_, after, fault, ?_, cut, found, told⟩
  rw [List.append_assoc, split, whole]

end Content

end Reader

theorem cut_of_symbols? {chars : List Char} {symbols : List Symbol}
    (read : symbols? chars = some symbols) : Cut chars symbols [] := by
  obtain ⟨tokens, position, content, rfl⟩ := symbols?_eq_some_iff.mp read
  exact (Reader.cut_of_content_ok content).1

theorem symbols?_iff_cut {chars : List Char} {symbols : List Symbol} :
    symbols? chars = some symbols ↔ Cut chars symbols [] := by
  refine ⟨cut_of_symbols?, fun cut => ?_⟩
  simpa using cut.symbols?

theorem Cut.last_blank {before after : List Char} {symbols : List Symbol} {c : Char}
    (cut : Cut (before ++ [c]) symbols after) (blank : Text.isBlank c = true) :
    Stretch.isGap c = true ∧ Cut before symbols (c :: after) := by
  generalize whole : before ++ [c] = text at cut
  cases cut with
  | start => simp at whole
  | gap cut gap =>
    obtain ⟨rfl, equal⟩ := List.append_inj' whole rfl
    cases equal
    exact ⟨gap, cut⟩
  | @token _ lexeme _ _ symbol cut read unended =>
    have solid := Stretch.solid_lexeme (congrArg Stretch.found read) unended
    rw [read] at solid
    obtain ⟨d, last, plain⟩ := solid.last
    have same := congrArg List.getLast? whole
    rw [List.getLast?_append, List.getLast?_append, Option.mem_def.mp last] at same
    simp only [List.getLast?_singleton, Option.some_or, Option.some.injEq] at same
    rw [same, plain] at blank
    cases blank

theorem isGap_of_symbols? {chars : List Char} {symbols : List Symbol} {c : Char}
    (read : symbols? (c :: chars) = some symbols) (blank : Text.isBlank c = true) :
    Stretch.isGap c = true := by
  cases gap : Stretch.isGap c with
  | true => rfl
  | false =>
    have here : front (c :: chars) = .ofChars (c :: chars) := by simp [front, gap]
    cases found : (front (c :: chars)).found with
    | error fault => simp [symbols?_of_fault found] at read
    | ok symbol =>
      rw [here] at found
      have last : symbol ≠ .finish := by
        rintro rfl
        exact absurd (Stretch.ofChars_finish found) (List.cons_ne_nil c chars)
      obtain ⟨d, first, plain⟩ := (Stretch.solid_lexeme found last).first
      obtain ⟨rest, lexeme⟩ := List.head?_eq_some_iff.mp first
      have whole := Stretch.ofChars_append (c :: chars)
      rw [lexeme, List.cons_append, List.cons.injEq] at whole
      rw [← whole.1, plain] at blank
      cases blank

theorem symbols?_dropWhile {chars : List Char} {symbols : List Symbol}
    (read : symbols? chars = some symbols) :
    symbols? (chars.dropWhile Text.isBlank) = some symbols := by
  induction chars with
  | nil => exact read
  | cons c chars ih =>
    cases blank : Text.isBlank c with
    | false => simpa [blank] using read
    | true =>
      rw [symbols?_gap (isGap_of_symbols? read blank)] at read
      simpa [blank] using ih read

theorem symbols?_rdropWhile {chars : List Char} {symbols : List Symbol}
    (read : symbols? chars = some symbols) :
    symbols? (chars.rdropWhile Text.isBlank) = some symbols := by
  induction chars using List.reverseRecOn with
  | nil => exact read
  | append_singleton chars c ih =>
    cases blank : Text.isBlank c with
    | false => rwa [List.rdropWhile_concat_neg _ _ _ (by simp [blank])]
    | true =>
      rw [List.rdropWhile_concat_pos _ _ _ blank]
      have shorter := ((cut_of_symbols? read).last_blank blank).2.follow (.inl separated_nil)
      exact ih (symbols?_iff_cut.mpr shorter)

theorem symbols?_trimChars {chars : List Char} {symbols : List Symbol}
    (read : symbols? chars = some symbols) : symbols? (Text.trimChars chars) = some symbols := by
  rw [Text.trimChars_eq]
  exact symbols?_rdropWhile (symbols?_dropWhile read)

end Rulebook

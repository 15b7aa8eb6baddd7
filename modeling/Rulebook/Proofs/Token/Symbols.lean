import Rulebook.Proofs.Token.Stretch
import Rulebook.Token.Reader

/-! The symbols of a text, whatever their positions. Reading is compositional: what follows a text
does not change its symbols, if it is apart from them. -/
namespace Rulebook

namespace Reader

theorem next_of_symbol (reader : Reader) {symbol : Symbol}
    (found : (Stretch.ofChars (reader.rest.dropWhile Stretch.isGap)).found = .ok symbol) :
    ∃ start finish, reader.next = (.ok ⟨symbol, start⟩,
      ⟨(Stretch.ofChars (reader.rest.dropWhile Stretch.isGap)).rest, finish⟩) := by
  simp [next, found]

theorem next_of_fault (reader : Reader) {fault : Misread}
    (found : (Stretch.ofChars (reader.rest.dropWhile Stretch.isGap)).found = .error fault) :
    ∃ error later, reader.next = (.error error, later) := by
  simp [next, found]

theorem found_of_next {reader later : Reader} {token : Token}
    (read : reader.next = (.ok token, later)) :
    (Stretch.ofChars (reader.rest.dropWhile Stretch.isGap)).found = .ok token.symbol := by
  cases found : (Stretch.ofChars (reader.rest.dropWhile Stretch.isGap)).found with
  | error fault =>
    obtain ⟨error, later, unread⟩ := next_of_fault reader found
    simp [unread] at read
  | ok symbol =>
    obtain ⟨start, finish, spelled⟩ := next_of_symbol reader found
    rw [spelled] at read
    cases read
    rfl

theorem next_split (reader : Reader) : ∃ gap after, gap ++ after = reader.rest ∧
    (∀ c ∈ gap, Stretch.isGap c = true) ∧
    let stretch := Stretch.ofChars after
    let start := reader.position + gap.length
    let finish := start + stretch.lexeme.length
    reader.next = (match stretch.found with
      | .ok symbol => .ok ⟨symbol, start⟩
      | .error fault => .error (fault.error start finish), ⟨stretch.rest, finish⟩) :=
  ⟨_, _, List.takeWhile_append_dropWhile, fun _ inside => List.mem_takeWhile_imp inside, rfl⟩

theorem next_token {reader later : Reader} {token : Token}
    (read : reader.next = (.ok token, later)) (unended : token.symbol ≠ .finish) :
    ∃ gap lexeme, reader.rest = gap ++ (lexeme ++ later.rest) ∧
      (∀ c ∈ gap, Stretch.isGap c = true) ∧
      Stretch.ofChars (lexeme ++ later.rest) = ⟨.ok token.symbol, lexeme, later.rest⟩ ∧
      token.position = reader.position + gap.length ∧
      later.position = reader.position + gap.length + lexeme.length := by
  obtain ⟨gap, after, whole, gaps, next⟩ := reader.next_split
  have split := Stretch.ofChars_append after
  rcases stretch : Stretch.ofChars after with ⟨found, lexeme, left⟩
  rw [stretch] at next split
  dsimp only at next split
  subst split
  rw [read] at next
  cases found with
  | error fault => cases next
  | ok symbol =>
    cases next
    exact ⟨gap, lexeme, whole.symm, gaps, stretch, rfl, rfl⟩

theorem next_finish {reader later : Reader} {position : Nat}
    (read : reader.next = (.ok ⟨.finish, position⟩, later)) :
    (∀ c ∈ reader.rest, Stretch.isGap c = true) ∧
      position = reader.position + reader.rest.length := by
  obtain ⟨gap, after, whole, gaps, next⟩ := reader.next_split
  rw [read] at next
  cases found : (Stretch.ofChars after).found with
  | error fault => simp [found] at next
  | ok symbol =>
    simp only [found, Prod.mk.injEq, Except.ok.injEq, Token.mk.injEq] at next
    obtain ⟨⟨rfl, rfl⟩, _⟩ := next
    cases Stretch.ofChars_finish found
    rw [← whole, List.append_nil]
    exact ⟨gaps, rfl⟩

theorem next_fault {reader later : Reader} {error : Error}
    (read : reader.next = (.error error, later)) :
    ∃ gap after fault, reader.rest = gap ++ after ∧ (∀ c ∈ gap, Stretch.isGap c = true) ∧
      (Stretch.ofChars after).found = .error fault ∧
      error = fault.error (reader.position + gap.length)
        (reader.position + gap.length + (Stretch.ofChars after).lexeme.length) := by
  obtain ⟨gap, after, whole, gaps, next⟩ := reader.next_split
  rw [read] at next
  cases found : (Stretch.ofChars after).found with
  | ok symbol => simp [found] at next
  | error fault =>
    simp only [found, Prod.mk.injEq, Except.error.injEq] at next
    exact ⟨gap, after, fault, whole.symm, gaps, found, next.1⟩

theorem position_next {reader later : Reader} {token : Token}
    (read : reader.next = (.ok token, later)) :
    reader.position ≤ token.position ∧
      (token.symbol ≠ .finish → token.position < later.position) := by
  simp only [next, Prod.mk.injEq] at read
  obtain ⟨found, rfl⟩ := read
  split at found
  · rename_i symbol spelled
    cases found
    refine ⟨Nat.le_add_right _ _, fun unended => ?_⟩
    exact Nat.lt_add_of_pos_right (List.length_pos_iff.mpr (Stretch.lexeme_ne_nil spelled unended))
  · cases found

theorem tokens_ordered (reader : Reader) :
    (∀ token ∈ reader.tokens.1, reader.position ≤ token.position) ∧
      reader.tokens.1.Pairwise (·.position < ·.position) := by
  induction reader using Reader.tokens.induct with
  | case1 reader error later read => simp [tokens_error read]
  | case2 reader token later read last => simp [tokens_finish read last, (position_next read).1]
  | case3 reader token later read unended ih =>
    obtain ⟨start, moved⟩ := position_next read
    have behind : ∀ other ∈ later.tokens.1, token.position < other.position :=
      fun other inside => Nat.lt_of_lt_of_le (moved unended) (ih.1 other inside)
    rw [tokens_more read unended]
    refine ⟨?_, List.pairwise_cons.mpr ⟨behind, ih.2⟩⟩
    rintro other (_ | ⟨_, inside⟩)
    · exact start
    · exact Nat.le_of_lt (Nat.lt_of_le_of_lt start (behind other inside))

theorem tokens_ne_nil {reader : Reader} (through : reader.tokens.2 = none) :
    reader.tokens.1 ≠ [] := by
  induction reader using Reader.tokens.induct with
  | case1 reader error later read => simp [tokens_error read] at through
  | case2 reader token later read last => simp [tokens_finish read last]
  | case3 reader token later read unended ih => simp [tokens_more read unended]

/-- The tokens before the end of the text and where the end is, or those before the first error and
that error. -/
def content (reader : Reader) : List Token × Except Error Nat :=
  match reader.tokens with
  | (tokens, some error) => (tokens, .error error)
  | (tokens, none) => (tokens.dropLast, .ok ((tokens.getLast?.map Token.position).getD 0))

theorem content_error {reader later : Reader} {error : Error}
    (read : reader.next = (.error error, later)) : reader.content = ([], .error error) := by
  simp [content, tokens_error read]

theorem content_finish {reader later : Reader} {token : Token}
    (read : reader.next = (.ok token, later)) (last : token.symbol = .finish) :
    reader.content = ([], .ok token.position) := by
  simp [content, tokens_finish read last]

theorem content_more {reader later : Reader} {token : Token}
    (read : reader.next = (.ok token, later)) (unended : token.symbol ≠ .finish) :
    reader.content = (token :: later.content.1, later.content.2) := by
  simp only [content, tokens_more read unended]
  cases through : later.tokens.2 with
  | some error =>
    rw [show later.tokens = (later.tokens.1, some error) from Prod.ext rfl through]
  | none =>
    have nonempty := tokens_ne_nil through
    rw [show later.tokens = (later.tokens.1, none) from Prod.ext rfl through]
    simp [List.dropLast_cons_of_ne_nil nonempty, List.getLast?_cons,
      List.getLast?_eq_some_getLast nonempty]

theorem content_of_tokenize {text : String} {tokens : List Token} {position : Nat}
    (lexed : tokenize text = (tokens ++ [⟨.finish, position⟩], none)) :
    (ofText text).content = (tokens, .ok position) := by
  rw [tokenize] at lexed
  simp [content, lexed]

theorem content_written (reader : Reader) : ∀ token ∈ reader.content.1, token.symbol.Written := by
  induction reader using Reader.tokens.induct with
  | case1 reader error later read => simp [content_error read]
  | case2 reader token later read last => simp [content_finish read last]
  | case3 reader token later read unended ih =>
    rw [content_more read unended]
    intro found inside
    rcases List.mem_cons.mp inside with rfl | inside
    · exact Stretch.ofChars_written (found_of_next read)
    · exact ih found inside

theorem written_of_content {reader : Reader} {tokens : List Token} {ending : Except Error Nat}
    (content : reader.content = (tokens, ending)) : ∀ token ∈ tokens, token.symbol.Written := by
  have written := reader.content_written
  rwa [content] at written

def symbols? (reader : Reader) : Option (List Symbol) :=
  match reader.content with
  | (tokens, .ok _) => some (tokens.map Token.symbol)
  | (_, .error _) => none

theorem symbols?_error {reader later : Reader} {error : Error}
    (read : reader.next = (.error error, later)) : reader.symbols? = none := by
  simp [symbols?, content_error read]

theorem symbols?_finish {reader later : Reader} {token : Token}
    (read : reader.next = (.ok token, later)) (last : token.symbol = .finish) :
    reader.symbols? = some [] := by
  simp [symbols?, content_finish read last]

theorem symbols?_more {reader later : Reader} {token : Token}
    (read : reader.next = (.ok token, later)) (unended : token.symbol ≠ .finish) :
    reader.symbols? = later.symbols?.map (token.symbol :: ·) := by
  simp only [symbols?, content_more read unended]
  rcases later.content with ⟨tokens, ending⟩
  cases ending <;> rfl

end Reader

/-- The symbols of a text before its end, if it can be read through. -/
def symbols? (chars : List Char) : Option (List Symbol) := (Reader.mk chars 0).symbols?

abbrev front (chars : List Char) : Stretch := .ofChars (chars.dropWhile Stretch.isGap)

theorem length_rest_front {chars : List Char} {symbol : Symbol}
    (found : (front chars).found = .ok symbol) (unended : symbol ≠ .finish) :
    (front chars).rest.length < chars.length := by
  obtain ⟨start, finish, read⟩ := Reader.next_of_symbol ⟨chars, 0⟩ found
  exact Reader.length_rest_lt read unended

theorem Reader.symbols?_eq (reader : Reader) : reader.symbols? = Rulebook.symbols? reader.rest := by
  obtain ⟨chars, position⟩ := reader
  unfold Rulebook.symbols?
  dsimp only
  generalize 0 = origin
  induction length : chars.length using Nat.strongRecOn generalizing chars position origin with
  | ind size ih =>
    cases found : (front chars).found with
    | error fault =>
      obtain ⟨a, later, unread⟩ := next_of_fault ⟨chars, position⟩ found
      obtain ⟨b, last, stuck⟩ := next_of_fault ⟨chars, origin⟩ found
      rw [symbols?_error unread, symbols?_error stuck]
    | ok symbol =>
      obtain ⟨a, later, read⟩ := next_of_symbol ⟨chars, position⟩ found
      obtain ⟨b, last, again⟩ := next_of_symbol ⟨chars, origin⟩ found
      by_cases ended : symbol = .finish
      · rw [symbols?_finish read ended, symbols?_finish again ended]
      · rw [symbols?_more read ended, symbols?_more again ended]
        have shorter := length_rest_front found ended
        exact congrArg _ (ih _ (length ▸ shorter) (front chars).rest later last rfl)

theorem symbols?_of_fault {chars : List Char} {fault : Misread}
    (found : (front chars).found = .error fault) : symbols? chars = none := by
  obtain ⟨error, later, read⟩ := Reader.next_of_fault ⟨chars, 0⟩ found
  exact Reader.symbols?_error read

theorem symbols?_of_finish {chars : List Char} (found : (front chars).found = .ok .finish) :
    symbols? chars = some [] := by
  obtain ⟨start, finish, read⟩ := Reader.next_of_symbol ⟨chars, 0⟩ found
  exact Reader.symbols?_finish read rfl

theorem symbols?_of_symbol {chars : List Char} {symbol : Symbol}
    (found : (front chars).found = .ok symbol) (unended : symbol ≠ .finish) :
    symbols? chars = (symbols? (front chars).rest).map (symbol :: ·) := by
  obtain ⟨start, finish, read⟩ := Reader.next_of_symbol ⟨chars, 0⟩ found
  rw [symbols?, Reader.symbols?_more read unended, Reader.symbols?_eq]

@[simp] theorem symbols?_nil : symbols? [] = some [] := symbols?_of_finish rfl

theorem symbols?_gap {c : Char} (gap : Stretch.isGap c = true) (rest : List Char) :
    symbols? (c :: rest) = symbols? rest := by
  have same : front (c :: rest) = front rest := by simp [front, gap]
  cases found : (front rest).found with
  | error fault => rw [symbols?_of_fault found, symbols?_of_fault (same ▸ found)]
  | ok symbol =>
    by_cases ended : symbol = .finish
    · subst ended
      rw [symbols?_of_finish found, symbols?_of_finish (same ▸ found)]
    · rw [symbols?_of_symbol found ended, symbols?_of_symbol (same ▸ found) ended, same]

theorem symbols?_stretch {chars rest lexeme : List Char} {symbol : Symbol}
    (read : Stretch.ofChars chars = ⟨.ok symbol, lexeme, rest⟩) (unended : symbol ≠ .finish) :
    symbols? chars = (symbols? rest).map (symbol :: ·) := by
  have here : front chars = ⟨.ok symbol, lexeme, rest⟩ := by
    cases chars with
    | nil =>
      cases read
      contradiction
    | cons c chars =>
      cases gap : Stretch.isGap c with
      | true => simpa [read] using Stretch.ofChars_gap gap chars
      | false => simpa [front, gap] using read
  rw [symbols?_of_symbol (by rw [here]) unended, here]

/-- What follows a text and is apart from it does not change the symbols of the text. -/
theorem symbols?_append {chars more : List Char} {symbols : List Symbol}
    (read : symbols? chars = some symbols) (apart : Separated more) :
    symbols? (chars ++ more) = (symbols? more).map (symbols ++ ·) := by
  -- on the length, for a symbol takes any number of characters
  induction length : chars.length using Nat.strongRecOn generalizing chars symbols with
  | ind size ih =>
    cases chars with
    | nil => simp_all
    | cons c chars =>
      cases gap : Stretch.isGap c with
      | true =>
        rw [symbols?_gap gap] at read
        rw [List.cons_append, symbols?_gap gap]
        exact ih _ (length ▸ Nat.lt_succ_self _) read rfl
      | false =>
        have here : front (c :: chars) = .ofChars (c :: chars) := by simp [front, gap]
        cases found : (front (c :: chars)).found with
        | error fault => simp [symbols?_of_fault found] at read
        | ok symbol =>
          have last : symbol ≠ .finish := by
            rintro rfl
            exact absurd (Stretch.ofChars_finish (here ▸ found)) (List.cons_ne_nil c chars)
          have shorter := length_rest_front found last
          rw [symbols?_of_symbol found last] at read
          obtain ⟨others, left, rfl⟩ := Option.map_eq_some_iff.mp read
          have same := Stretch.ofChars_extend (here ▸ found) (List.cons_ne_nil c chars) apart
          rw [symbols?_stretch (same.trans (by rw [← here, Stretch.extend, found])) last,
            ih _ (length ▸ shorter) left rfl, Option.map_map]
          rfl

theorem symbols?_eq_some_iff {chars : List Char} {symbols : List Symbol} :
    symbols? chars = some symbols ↔ ∃ tokens position,
      (Reader.mk chars 0).content = (tokens, .ok position) ∧ tokens.map Token.symbol = symbols := by
  unfold symbols? Reader.symbols?
  rcases (Reader.mk chars 0).content with ⟨tokens, _ | position⟩ <;> simp

theorem symbols?_written {chars : List Char} {symbols : List Symbol}
    (read : symbols? chars = some symbols) : ∀ symbol ∈ symbols, symbol.Written := by
  obtain ⟨tokens, position, content, rfl⟩ := symbols?_eq_some_iff.mp read
  intro symbol inside
  obtain ⟨token, held, rfl⟩ := List.mem_map.mp inside
  exact Reader.written_of_content content token held

theorem symbols?_of_tokenize {text : String} (through : (tokenize text).2 = none) :
    ∃ symbols, symbols? text.toList = some symbols := by
  have tokens : (Reader.mk text.toList 0).tokens = ((tokenize text).1, none) := Prod.ext rfl through
  simp [symbols?, Reader.symbols?, Reader.content, tokens]

@[simp] theorem symbols?_opening (rest : List Char) :
    symbols? ('(' :: rest) = (symbols? rest).map (.opening :: ·) :=
  symbols?_stretch rfl nofun

@[simp] theorem symbols?_closing (rest : List Char) :
    symbols? (')' :: rest) = (symbols? rest).map (.closing :: ·) :=
  symbols?_stretch rfl nofun

@[simp] theorem symbols?_space (rest : List Char) : symbols? (' ' :: rest) = symbols? rest :=
  symbols?_gap rfl rest

theorem symbols?_single {chars : List Char} {symbol : Symbol}
    (read : Stretch.ofChars chars = ⟨.ok symbol, chars, []⟩) (unended : symbol ≠ .finish) :
    symbols? chars = some [symbol] := by
  rw [symbols?_stretch read unended, symbols?_nil]
  rfl

theorem symbols?_connective (connective : Connective) :
    symbols? connective.name.toList = some [.connective connective] := by
  cases connective <;> exact symbols?_single rfl nofun

theorem symbols?_relation (relation : Relation) :
    symbols? relation.sign.toList = some [.relation relation] := by
  cases relation <;> exact symbols?_single rfl nofun

end Rulebook

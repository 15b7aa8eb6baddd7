import Rulebook.Proofs.Token.Stretch

/-! Lexemes and what they spell, said without reading them. The stretch at the front of a text is a
lexeme that does not go on with the next character, and every such lexeme is found, unless it is a
whole number with too many digits. -/
namespace Rulebook

inductive Word : List Char → Symbol → Prop
  | truth : Word "true".toList (.literal (.boolean true))
  | falsehood : Word "false".toList (.literal (.boolean false))
  | connective {chars : List Char} {connective : Connective} :
    chars.map Char.toUpper = connective.name.toList → Word chars (.connective connective)
  | name {name : String} : isName name = true → isReserved name = false →
    Word name.toList (.name name)

inductive Sign : List Char → Symbol → Prop
  | relation (relation : Relation) : Sign relation.sign.toList (.relation relation)
  | equality : Sign ['='] (.relation .equal)
  | conjunction : Sign ['&', '&'] (.connective .and)
  | disjunction : Sign ['|', '|'] (.connective .or)
  | opening : Sign ['('] .opening
  | closing : Sign [')'] .closing

/-- A text in quotes holds the characters up to the next such quote. A number with a point has
digits on either side of it and is the binary64 number nearest to the decimal that it spells. -/
inductive Lexeme : List Char → Symbol → Prop
  | word {chars : List Char} {symbol : Symbol} : Word chars symbol → Lexeme chars symbol
  | whole (negative : Bool) {digits : List Char} : digits ≠ [] →
    (∀ c ∈ digits, c.isDigit = true) →
    Lexeme (Stretch.signed negative digits) (.literal (.integer
      (if negative then -(Nat.ofDigitChars 10 digits 0 : Int)
        else (Nat.ofDigitChars 10 digits 0 : Int))))
  | pointed (negative : Bool) {whole places : List Char} : whole ≠ [] → places ≠ [] →
    (∀ c ∈ whole, c.isDigit = true) → (∀ c ∈ places, c.isDigit = true) →
    Lexeme (Stretch.signed negative (whole ++ '.' :: places)) (.literal (.float
      (Decimal.nearest ⟨negative, Nat.ofDigitChars 10 (whole ++ places) 0, -places.length⟩)))
  | quoted {mark : Char} {held : List Char} : mark = '\'' ∨ mark = '"' → mark ∉ held →
    Lexeme (mark :: held ++ [mark]) (.literal (.text (String.ofList held)))
  | sign {chars : List Char} {symbol : Symbol} : Sign chars symbol → Lexeme chars symbol

/-- No lexeme goes on from this one with the next character. -/
def Longest (lexeme rest : List Char) : Prop :=
  ∀ c ∈ rest.head?, ∀ more symbol, ¬ Lexeme (lexeme ++ c :: more) symbol

theorem longest_nil (lexeme : List Char) : Longest lexeme [] := nofun

theorem all_append_single {p : Char → Bool} {chars : List Char} {c : Char}
    (holds : ∀ d ∈ chars, p d = true) (last : p c = true) : ∀ d ∈ chars ++ [c], p d = true := by
  intro d inside
  rcases List.mem_append.mp inside with inside | inside
  · exact holds d inside
  · rwa [List.mem_singleton.mp inside]

namespace Word

variable {chars rest : List Char} {symbol : Symbol}

theorem cases_chars (word : Word chars symbol) : ∃ c rest,
    chars = c :: rest ∧ isNameStart c = true ∧ ∀ d ∈ rest, isNameChar d = true := by
  cases word with
  | truth => exact ⟨'t', ['r', 'u', 'e'], rfl, rfl, List.all_eq_true.mp rfl⟩
  | falsehood => exact ⟨'f', ['a', 'l', 's', 'e'], rfl, rfl, List.all_eq_true.mp rfl⟩
  | @connective _ connective spelled =>
    have letters := Stretch.isAlpha_connective spelled
    cases chars with
    | nil => cases connective <;> cases spelled
    | cons c rest =>
      refine ⟨c, rest, rfl, by simp [isNameStart, letters c List.mem_cons_self], fun d inside => ?_⟩
      apply isNameChar_of_isNameStart
      simp [isNameStart, letters d (List.mem_cons_of_mem c inside)]
  | name named plain => exact name_cases named

theorem wordSymbol_eq (word : Word chars symbol) : Stretch.wordSymbol chars = symbol := by
  cases word with
  | truth => rfl
  | falsehood => rfl
  | connective spelled => exact Stretch.wordSymbol_connective spelled
  | @name name named plain =>
    have read := Stretch.ofChars_name named plain
    obtain ⟨c, rest, chars, start, inside⟩ := name_cases named
    rw [chars, Stretch.ofChars_word start inside, Stretch.mk.injEq] at read
    rw [chars]
    exact Except.ok.inj read.1

theorem of_chars {c : Char} {rest : List Char} (start : isNameStart c = true)
    (inside : ∀ d ∈ rest, isNameChar d = true) :
    Word (c :: rest) (Stretch.wordSymbol (c :: rest)) := by
  unfold Stretch.wordSymbol
  split
  · rename_i equal
    rw [equal]
    exact .truth
  split
  · rename_i equal
    rw [equal]
    exact .falsehood
  split
  · exact .connective ‹_›
  split
  · exact .connective ‹_›
  · rename_i notTrue notFalse notAnd notOr
    have spelled : (String.ofList (c :: rest)).toList = c :: rest := String.toList_ofList
    have word : Word (String.ofList (c :: rest)).toList (.name (String.ofList (c :: rest))) := by
      apply Word.name
      · simpa [isName, start] using inside
      · simp_all [isReserved, ← String.toList_inj]
    rwa [spelled] at word

theorem stop (word : Word chars symbol) (longest : Longest chars rest) :
    ∀ d ∈ rest.head?, isNameChar d = false := by
  intro d next
  obtain ⟨c, inner, rfl, start, inside⟩ := word.cases_chars
  by_contra further
  rw [Bool.not_eq_false] at further
  have longer := of_chars start (all_append_single inside further)
  exact longest d next [] _ (.word longer)

theorem read (word : Word chars symbol) (longest : Longest chars rest) :
    Stretch.ofChars (chars ++ rest) = ⟨.ok symbol, chars, rest⟩ := by
  have stop := word.stop longest
  have symbol := word.wordSymbol_eq
  obtain ⟨c, inner, rfl, start, inside⟩ := word.cases_chars
  rw [Stretch.ofChars_word_append start inside stop, symbol]

end Word

namespace Stretch

variable {chars lexeme rest : List Char} {symbol : Symbol} {negative : Bool}

theorem ofChars_whole (nonempty : chars ≠ []) (numeric : ∀ c ∈ chars, c.isDigit = true)
    (longest : Longest (signed negative chars) rest) :
    let size : Int := Nat.ofDigitChars 10 chars 0
    ofChars (signed negative chars ++ rest) =
      ⟨if digitLimit < chars.length then .error (.overlong chars.length)
        else .ok (.literal (.integer (if negative then -size else size))),
        signed negative chars, rest⟩ := by
  have stop : ∀ c ∈ rest.head?, c.isDigit = false ∧ c ≠ '.' := by
    intro c next
    constructor
    · by_contra digit
      rw [Bool.not_eq_false] at digit
      have longer := Lexeme.whole negative (List.append_ne_nil_of_left_ne_nil nonempty [c])
        (all_append_single numeric digit)
      rw [← signed_append] at longer
      exact longest c next [] _ longer
    · rintro rfl
      have longer := Lexeme.pointed negative nonempty (List.cons_ne_nil '0' []) numeric
        (List.forall_mem_singleton.mpr rfl)
      rw [← signed_append] at longer
      exact longest '.' next ['0'] _ longer
  have bare : ∀ after, rest ≠ '.' :: after := by
    rintro after rfl
    exact (stop '.' rfl).2 rfl
  have apart : ∀ c ∈ rest.head?, c.isDigit = false := fun c next => (stop c next).1
  rw [signed_append, ofChars_signed _ (startsWithDigit_append
    (startsWithDigit_of_digits numeric nonempty)),
    number_of_whole (dropWhile_append_all numeric apart) bare, takeWhile_append_all numeric apart]

theorem ofChars_pointed {places : List Char} (nonempty : chars ≠ []) (broken : places ≠ [])
    (numeric : ∀ c ∈ chars, c.isDigit = true) (after : ∀ c ∈ places, c.isDigit = true)
    (longest : Longest (signed negative (chars ++ '.' :: places)) rest) :
    ofChars (signed negative (chars ++ '.' :: places) ++ rest) =
      ⟨.ok (.literal (.float (Decimal.nearest
          ⟨negative, Nat.ofDigitChars 10 (chars ++ places) 0, -places.length⟩))),
        signed negative (chars ++ '.' :: places), rest⟩ := by
  have stop : ∀ c ∈ rest.head?, c.isDigit = false := by
    intro c next
    by_contra digit
    rw [Bool.not_eq_false] at digit
    have longer := Lexeme.pointed negative nonempty
      (List.append_ne_nil_of_left_ne_nil broken [c]) numeric
      (all_append_single after digit)
    rw [show chars ++ '.' :: (places ++ [c]) = chars ++ '.' :: places ++ [c] by simp,
      ← signed_append] at longer
    exact longest c next [] _ longer
  rw [signed_append, ofChars_signed _ (startsWithDigit_append (startsWithDigit_append
    (startsWithDigit_of_digits numeric nonempty))), List.append_assoc, List.cons_append,
    number_pointed negative numeric after broken stop]

theorem ofChars_sign (spelled : Sign chars symbol) (longest : Longest chars rest) :
    ofChars (chars ++ rest) = ⟨.ok symbol, chars, rest⟩ := by
  have alone (c : Char) {other : Symbol} (double : Sign [c, '='] other)
      (longest : Longest [c] rest) : ∀ left, rest ≠ '=' :: left := by
    rintro left rfl
    exact longest '=' rfl [] other (.sign double)
  cases spelled with
  | equality =>
    change sign ('=' :: rest) = _
    rw [sign]
    exact alone '=' (.relation .equal) longest
  | relation relation =>
    cases relation with
    | greater =>
      change sign ('>' :: rest) = _
      rw [sign]
      · rfl
      · exact alone '>' (.relation .atLeast) longest
    | less =>
      change sign ('<' :: rest) = _
      rw [sign]
      · rfl
      · exact alone '<' (.relation .atMost) longest
    | _ => rfl
  | _ => rfl

/-- A lexeme that does not go on is read, or refused as a whole number with too many digits. -/
theorem ofChars_lexeme (spelled : Lexeme lexeme symbol) (longest : Longest lexeme rest) :
    ofChars (lexeme ++ rest) = ⟨.ok symbol, lexeme, rest⟩ ∨ ∃ count, digitLimit < count ∧
      ofChars (lexeme ++ rest) = ⟨.error (.overlong count), lexeme, rest⟩ := by
  cases spelled with
  | word word => exact .inl (word.read longest)
  | sign sign => exact .inl (ofChars_sign sign longest)
  | quoted quote free =>
    left
    rw [List.cons_append, List.cons_append, List.append_assoc, List.singleton_append]
    rcases quote with rfl | rfl <;> exact text_closed free rest
  | pointed negative nonempty broken numeric after =>
    exact .inl (ofChars_pointed nonempty broken numeric after longest)
  | whole negative nonempty numeric =>
    have read := ofChars_whole nonempty numeric longest
    split at read
    · exact .inr ⟨_, ‹_›, read⟩
    · exact .inl read

theorem lexeme_of_lexeme (spelled : Lexeme lexeme symbol) : (ofChars lexeme).lexeme = lexeme := by
  have read := ofChars_lexeme spelled (longest_nil lexeme)
  rw [List.append_nil] at read
  rcases read with read | ⟨count, _, read⟩ <;> rw [read]

theorem lexeme_number (digit : startsWithDigit chars = true)
    (found : (number negative chars).found = .ok symbol) :
    Lexeme (number negative chars).lexeme symbol := by
  rcases number_cases found with
    ⟨whole, places, rest, rfl, before, after, nonempty, stop⟩ |
      ⟨whole, rest, rfl, numeric, short, stop⟩
  · have here : whole ≠ [] := by
      rintro rfl
      cases digit
    rw [number_pointed negative before after nonempty stop] at found ⊢
    cases found
    exact .pointed negative here nonempty before after
  · have here : whole ≠ [] := by
      rintro rfl
      cases rest with
      | nil => cases digit
      | cons c rest => exact absurd digit (by simp [startsWithDigit, (stop c rfl).1])
    rw [number_bare negative numeric short stop] at found ⊢
    cases found
    exact .whole negative here numeric

theorem lexeme_sign (found : (sign chars).found = .ok symbol) (unended : symbol ≠ .finish) :
    Sign (sign chars).lexeme symbol := by
  unfold sign at found ⊢
  split at found <;> cases found
  · exact .relation .atMost
  · exact .relation .less
  · exact .relation .atLeast
  · exact .relation .greater
  · exact .relation .equal
  · exact .equality
  · exact .relation .notEqual
  · exact .conjunction
  · exact .disjunction
  · exact .opening
  · exact .closing
  · contradiction

theorem lexeme_of_found (found : (ofChars chars).found = .ok symbol) (unended : symbol ≠ .finish) :
    Lexeme (ofChars chars).lexeme symbol := by
  cases chars with
  | nil =>
    cases found
    contradiction
  | cons c rest =>
    rcases ofChars_cases c rest with
      ⟨digit, read⟩ | ⟨_, digit, read⟩ | ⟨quote, read⟩ | ⟨start, read⟩ | read <;>
      rw [read] at found ⊢
    · exact lexeme_number digit found
    · exact lexeme_number digit found
    · obtain ⟨held, left, rfl, free⟩ := text_cases found
      rw [text_closed free] at found ⊢
      cases found
      exact .quoted quote free
    · cases found
      have name := isNameChar_of_isNameStart start
      have shape : (c :: rest).takeWhile isNameChar = c :: rest.takeWhile isNameChar :=
        List.takeWhile_cons_of_pos name
      rw [word, shape]
      exact .word (.of_chars start fun d inside => List.mem_takeWhile_imp inside)
    · exact .sign (lexeme_sign found unended)

/-- What is read is a lexeme that does not go on. -/
theorem spelled_of_ofChars (read : ofChars (lexeme ++ rest) = ⟨.ok symbol, lexeme, rest⟩)
    (unended : symbol ≠ .finish) : Lexeme lexeme symbol ∧ Longest lexeme rest := by
  constructor
  · have spelled := lexeme_of_found (congrArg found read) unended
    rwa [read] at spelled
  · -- a longer lexeme would be read as a whole, yet its first characters are read as before
    intro c next further other longer
    have follow := ofChars_follow unended read
      (.inr (show (c :: further).head? = rest.head? from next.symm))
    have whole := lexeme_of_lexeme longer
    rw [follow] at whole
    simpa using congrArg List.length whole

end Stretch

theorem Lexeme.ne_finish {chars : List Char} {symbol : Symbol} (spelled : Lexeme chars symbol) :
    symbol ≠ .finish := by
  cases spelled with
  | word word => cases word <;> nofun
  | sign sign => cases sign <;> nofun
  | _ => nofun

theorem toNat_lt_of_isNameChar {c : Char} (char : isNameChar c = true) : c.toNat < 128 := by
  rcases isNameChar_cases char with start | digit
  · have := toNat_of_isNameStart start
    omega
  · have := toNat_of_isDigit digit
    omega

theorem toNat_lt_of_isGap {c : Char} (gap : Stretch.isGap c = true) : c.toNat < 128 := by
  simp only [Stretch.isGap, Bool.or_eq_true, decide_eq_true_eq] at gap
  rcases gap with ((rfl | rfl) | rfl) | rfl <;> decide

theorem toNat_lt_signed {negative : Bool} {chars : List Char}
    (numeric : ∀ c ∈ chars, c.isDigit = true ∨ c = '.') :
    ∀ c ∈ Stretch.signed negative chars, c.toNat < 128 := by
  have inner : ∀ c ∈ chars, c.toNat < 128 := by
    intro c inside
    rcases numeric c inside with digit | rfl
    · exact toNat_lt_of_isNameChar (isNameChar_of_isDigit digit)
    · decide
  cases negative with
  | false => exact inner
  | true => exact List.forall_mem_cons.mpr ⟨by decide, inner⟩

theorem Sign.toNat_lt {chars : List Char} {symbol : Symbol} (sign : Sign chars symbol) :
    ∀ c ∈ chars, c.toNat < 128 := by
  have ascii : chars.all (fun c => decide (c.toNat < 128)) = true := by
    cases sign with
    | relation relation => cases relation <;> rfl
    | _ => rfl
  simpa only [List.all_eq_true, decide_eq_true_eq] using ascii

theorem Lexeme.toNat_lt {chars : List Char} {symbol : Symbol} (spelled : Lexeme chars symbol)
    (plain : symbol.kind ≠ .string) : ∀ c ∈ chars, c.toNat < 128 := by
  cases spelled with
  | word word =>
    obtain ⟨c, rest, rfl, start, inside⟩ := word.cases_chars
    have first := toNat_lt_of_isNameChar (isNameChar_of_isNameStart start)
    exact List.forall_mem_cons.mpr ⟨first, fun d held => toNat_lt_of_isNameChar (inside d held)⟩
  | whole negative nonempty numeric => exact toNat_lt_signed fun c inside => .inl (numeric c inside)
  | pointed negative nonempty broken numeric after =>
    apply toNat_lt_signed
    intro c inside
    rw [List.mem_append, List.mem_cons] at inside
    rcases inside with inside | point | inside
    · exact .inl (numeric c inside)
    · exact .inr point
    · exact .inl (after c inside)
  | quoted quote free => exact absurd rfl plain
  | sign sign => exact sign.toNat_lt

end Rulebook

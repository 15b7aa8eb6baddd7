import Mathlib.Data.List.Induction
import Mathlib.Data.List.TakeWhile
import Rulebook.Token.Stretch

/-! Stretches do not depend on what follows a token, as long as the token cannot run on into it, and
they find only names and literals that a rule can be written with. -/
namespace Rulebook

/-- Characters that no token before them runs on into. -/
def Separated (chars : List Char) : Prop :=
  ∀ c ∈ chars.head?, isNameChar c = false ∧ c ≠ '.' ∧ c ≠ '='

theorem separated_nil : Separated [] := nofun

theorem separated_closing (rest : List Char) : Separated (')' :: rest) := by
  rintro c ⟨⟩
  decide

theorem separated_space (rest : List Char) : Separated (' ' :: rest) := by
  rintro c ⟨⟩
  decide

theorem separated_gap {c : Char} (gap : Stretch.isGap c = true) (rest : List Char) :
    Separated (c :: rest) := by
  rintro d ⟨⟩
  simp only [Stretch.isGap, Bool.or_eq_true, decide_eq_true_eq] at gap
  rcases gap with ((rfl | rfl) | rfl) | rfl <;> decide

def isReserved (name : String) : Bool :=
  name = "true" || name = "false" || name.toList.map Char.toUpper = ['A', 'N', 'D'] ||
    name.toList.map Char.toUpper = ['O', 'R']

def Literal.Written : Literal → Prop
  | .boolean _ => True
  | .integer value => (Nat.toDigits 10 value.natAbs).length ≤ digitLimit
  | .float value => value ≠ .nan
  | .text value => '\'' ∉ value.toList ∨ '"' ∉ value.toList

def Symbol.Written : Symbol → Prop
  | .name spelling => isName spelling = true ∧ isReserved spelling = false
  | .literal held => held.Written
  | _ => True

/-- What a misread tells about the characters read for it: those before the bare point of a number,
or more digits than are read. -/
def Misread.Tells (lexeme : List Char) : Misread → Prop
  | .number digits => lexeme = digits.toList
  | .overlong count => digitLimit < count
  | _ => True

theorem takeWhile_append_stop {p : Char → Bool} (chars : List Char) {rest : List Char}
    (stop : ∀ c ∈ rest.head?, p c = false) :
    (chars ++ rest).takeWhile p = chars.takeWhile p := by
  induction chars with
  | nil => cases rest <;> simp_all
  | cons c chars ih => simp [List.takeWhile_cons, ih]

theorem dropWhile_append_stop {p : Char → Bool} (chars : List Char) {rest : List Char}
    (stop : ∀ c ∈ rest.head?, p c = false) :
    (chars ++ rest).dropWhile p = chars.dropWhile p ++ rest := by
  induction chars with
  | nil => cases rest <;> simp_all
  | cons c chars ih =>
    simp only [List.cons_append, List.dropWhile_cons, ih]
    split <;> rfl

theorem toNat_of_isDigit {c : Char} (digit : c.isDigit = true) : 48 ≤ c.toNat ∧ c.toNat ≤ 57 := by
  simp only [Char.isDigit, Bool.and_eq_true, decide_eq_true_eq, ge_iff_le,
    UInt32.le_iff_toNat_le] at digit
  exact digit

theorem toNat_of_isNameStart {c : Char} (start : isNameStart c = true) :
    65 ≤ c.toNat ∧ c.toNat ≤ 90 ∨ 97 ≤ c.toNat ∧ c.toNat ≤ 122 ∨ c.toNat = 95 := by
  have spelled : isNameStart c = ((decide (c.val ≥ 65 ∧ c.val ≤ 90) ||
      decide (c.val ≥ 97) && decide (c.val ≤ 122)) || decide (c = '_')) := rfl
  simp only [spelled, Bool.or_eq_true, Bool.and_eq_true, decide_eq_true_eq, ← Char.toNat_inj,
    ge_iff_le, UInt32.le_iff_toNat_le] at start
  change ((65 ≤ c.toNat ∧ c.toNat ≤ 90) ∨ (97 ≤ c.toNat ∧ c.toNat ≤ 122)) ∨ c.toNat = 95 at start
  omega

theorem isNameChar_cases {c : Char} (char : isNameChar c = true) :
    isNameStart c = true ∨ c.isDigit = true := by
  simp only [isNameChar, Char.isAlphanum, isNameStart, Bool.or_eq_true] at char ⊢
  tauto

theorem name_cases {name : String} (named : isName name = true) : ∃ c rest,
    name.toList = c :: rest ∧ isNameStart c = true ∧ ∀ d ∈ rest, isNameChar d = true := by
  unfold isName at named
  split at named
  · cases named
  · rename_i c rest chars
    simp only [Bool.and_eq_true, List.all_eq_true] at named
    exact ⟨c, rest, chars, named⟩

theorem isNameChar_of_isName {name : String} (named : isName name = true) :
    ∀ c ∈ name.toList, isNameChar c = true := by
  obtain ⟨c, rest, chars, start, inside⟩ := name_cases named
  rw [chars]
  rintro d (_ | ⟨_, held⟩)
  · exact isNameChar_of_isNameStart start
  · exact inside d held

theorem isNameChar_of_isDigit {c : Char} (digit : c.isDigit = true) : isNameChar c = true := by
  simp [isNameChar, Char.isAlphanum, digit]

theorem Separated.digit {rest : List Char} (apart : Separated rest) :
    ∀ c ∈ rest.head?, c.isDigit = false := by
  intro c first
  cases digit : c.isDigit with
  | false => rfl
  | true => exact absurd (isNameChar_of_isDigit digit) (by simp [(apart c first).1])

/-- What may stand in the place of the text behind a token: text that no token runs on into, or text
with the same first character. -/
def Follows (rest other : List Char) : Prop := Separated other ∨ other.head? = rest.head?

theorem head?_dropWhile {p : Char → Bool} (chars : List Char) :
    ∀ c ∈ (chars.dropWhile p).head?, p c = false := by
  intro c first
  have stop := List.head?_dropWhile_not p chars
  rw [Option.mem_def.mp first] at stop
  simpa using stop

theorem Follows.stop {p : Char → Bool} {rest other : List Char} (follows : Follows rest other)
    (apart : Separated other → ∀ c ∈ other.head?, p c = false)
    (stop : ∀ c ∈ rest.head?, p c = false) : ∀ c ∈ other.head?, p c = false := by
  rcases follows with separated | same
  · exact apart separated
  · rw [same]
    exact stop

theorem takeWhile_append_all {p : Char → Bool} {chars rest : List Char}
    (holds : ∀ c ∈ chars, p c = true) (stop : ∀ c ∈ rest.head?, p c = false) :
    (chars ++ rest).takeWhile p = chars := by
  rw [takeWhile_append_stop chars stop, List.takeWhile_eq_self_iff.mpr holds]

theorem dropWhile_append_all {p : Char → Bool} {chars rest : List Char}
    (holds : ∀ c ∈ chars, p c = true) (stop : ∀ c ∈ rest.head?, p c = false) :
    (chars ++ rest).dropWhile p = rest := by
  rw [dropWhile_append_stop chars stop, List.dropWhile_eq_nil_iff.mpr holds, List.nil_append]

namespace Stretch

def extend (stretch : Stretch) (more : List Char) : Stretch :=
  { stretch with rest := stretch.rest ++ more }

theorem number_of_point {negative : Bool} {chars after : List Char}
    (point : chars.dropWhile Char.isDigit = '.' :: after) (place : startsWithDigit after = true) :
    number negative chars =
      let whole := chars.takeWhile Char.isDigit
      let places := after.takeWhile Char.isDigit
      let coefficient := Nat.ofDigitChars 10 (whole ++ places) 0
      ⟨.ok (.literal (.float (Decimal.mk negative coefficient (-places.length)).nearest)),
        signed negative whole ++ '.' :: places, after.dropWhile Char.isDigit⟩ := by
  cases after with
  | nil => simp [startsWithDigit] at place
  | cons c after =>
    have digit : c.isDigit = true := place
    simp [number, point, digit]

theorem number_of_whole {negative : Bool} {chars rest : List Char}
    (left : chars.dropWhile Char.isDigit = rest) (whole : ∀ after, rest ≠ '.' :: after) :
    number negative chars =
      let digits := chars.takeWhile Char.isDigit
      let size : Int := Nat.ofDigitChars 10 digits 0
      ⟨if digitLimit < digits.length then .error (.overlong digits.length)
        else .ok (.literal (.integer (if negative then -size else size))),
        signed negative digits, rest⟩ := by
  unfold number
  dsimp only
  rw [left]
  split
  · exact absurd rfl (whole _)
  · split <;> rfl

theorem ofChars_cases (c : Char) (rest : List Char) :
    c.isDigit = true ∧ ofChars (c :: rest) = number false (c :: rest) ∨
    c = '-' ∧ startsWithDigit rest = true ∧ ofChars (c :: rest) = number true rest ∨
    (c = '\'' ∨ c = '"') ∧ ofChars (c :: rest) = text c rest ∨
    isNameStart c = true ∧ ofChars (c :: rest) = word (c :: rest) ∨
    ofChars (c :: rest) = sign (c :: rest) := by
  by_cases digit : c.isDigit = true
  · simp [ofChars, digit]
  by_cases minus : c = '-' ∧ startsWithDigit rest = true
  · simp [ofChars, minus]
  by_cases quote : c = '\'' ∨ c = '"'
  · simp [ofChars, digit, minus, quote]
  by_cases letter : isNameStart c = true
  · simp [ofChars, digit, minus, quote, letter]
  · simp [ofChars, digit, minus, quote, letter]

theorem number_of_fault {chars : List Char} {fault : Misread}
    (found : (ofChars chars).found = .error fault)
    (kind : (∃ digits, fault = .number digits) ∨ ∃ count, fault = .overlong count) :
    ∃ negative digits, chars = signed negative digits ∧ startsWithDigit digits = true ∧
      ofChars chars = number negative digits := by
  cases chars with
  | nil => cases found
  | cons c rest =>
    rcases ofChars_cases c rest with
      ⟨digit, read⟩ | ⟨rfl, digit, read⟩ | ⟨_, read⟩ | ⟨_, read⟩ | read
    · exact ⟨false, c :: rest, rfl, digit, read⟩
    · exact ⟨true, rest, rfl, digit, read⟩
    · rw [read, text] at found
      split at found
      · cases found
        simp at kind
      · cases found
    · rw [read] at found
      cases found
    · rw [read] at found
      unfold sign at found
      split at found <;> cases found <;> simp at kind

theorem startsWithDigit_append {chars more : List Char} (digit : startsWithDigit chars = true) :
    startsWithDigit (chars ++ more) = true := by
  cases chars with
  | nil => simp [startsWithDigit] at digit
  | cons c chars => exact digit

theorem ofChars_signed (negative : Bool) {chars : List Char}
    (digit : startsWithDigit chars = true) :
    ofChars (signed negative chars) = number negative chars := by
  cases chars with
  | nil => simp [startsWithDigit] at digit
  | cons c chars =>
    have first : c.isDigit = true := digit
    cases negative with
    | false => simp [signed, ofChars, first]
    | true => simp [signed, ofChars, startsWithDigit, first]

theorem startsWithDigit_of_digits {digits : List Char} (numeric : ∀ c ∈ digits, c.isDigit = true)
    (nonempty : digits ≠ []) : startsWithDigit digits = true := by
  cases digits with
  | nil => exact absurd rfl nonempty
  | cons c digits =>
    have digit : c.isDigit = true := numeric c List.mem_cons_self
    rw [startsWithDigit, digit]

theorem signed_inj {negative : Bool} {first second : List Char}
    (same : signed negative first = signed negative second) : first = second := by
  cases negative with
  | false => exact same
  | true => exact (List.cons.inj same).2

theorem isDigit_takeWhile (chars : List Char) :
    ∀ c ∈ chars.takeWhile Char.isDigit, c.isDigit = true :=
  fun _ inside => List.mem_takeWhile_imp inside

theorem number_pointed (negative : Bool) {whole places rest : List Char}
    (before : ∀ c ∈ whole, c.isDigit = true) (after : ∀ c ∈ places, c.isDigit = true)
    (nonempty : places ≠ []) (stop : ∀ c ∈ rest.head?, c.isDigit = false) :
    number negative (whole ++ '.' :: (places ++ rest)) =
      ⟨.ok (.literal (.float (Decimal.nearest
          ⟨negative, Nat.ofDigitChars 10 (whole ++ places) 0, -places.length⟩))),
        signed negative (whole ++ '.' :: places), rest⟩ := by
  have bare : ∀ c ∈ ('.' :: (places ++ rest)).head?, c.isDigit = false := by
    rintro c ⟨⟩
    rfl
  have place : startsWithDigit (places ++ rest) = true := by
    cases places with
    | nil => exact absurd rfl nonempty
    | cons c places => exact after c List.mem_cons_self
  rw [number_of_point (dropWhile_append_all before bare) place, takeWhile_append_all before bare]
  simp only [takeWhile_append_all after stop, dropWhile_append_all after stop, signed_append]

theorem number_bare (negative : Bool) {whole rest : List Char}
    (numeric : ∀ c ∈ whole, c.isDigit = true) (short : whole.length ≤ digitLimit)
    (stop : ∀ c ∈ rest.head?, c.isDigit = false ∧ c ≠ '.') :
    number negative (whole ++ rest) =
      let size : Int := Nat.ofDigitChars 10 whole 0
      ⟨.ok (.literal (.integer (if negative then -size else size))), signed negative whole, rest⟩ := by
  have apart : ∀ c ∈ rest.head?, c.isDigit = false := fun c first => (stop c first).1
  have bare : ∀ after, rest ≠ '.' :: after := by
    rintro after rfl
    exact (stop '.' rfl).2 rfl
  rw [number_of_whole (dropWhile_append_all numeric apart) bare, takeWhile_append_all numeric apart]
  dsimp only
  rw [if_neg (Nat.not_lt.mpr short)]

theorem number_cases {negative : Bool} {chars : List Char} {symbol : Symbol}
    (read : (number negative chars).found = .ok symbol) :
    (∃ whole places rest, chars = whole ++ '.' :: (places ++ rest) ∧
      (∀ c ∈ whole, c.isDigit = true) ∧ (∀ c ∈ places, c.isDigit = true) ∧ places ≠ [] ∧
      ∀ c ∈ rest.head?, c.isDigit = false) ∨
    ∃ whole rest, chars = whole ++ rest ∧ (∀ c ∈ whole, c.isDigit = true) ∧
      whole.length ≤ digitLimit ∧ ∀ c ∈ rest.head?, c.isDigit = false ∧ c ≠ '.' := by
  have split := List.takeWhile_append_dropWhile (p := Char.isDigit) (l := chars)
  have stop := head?_dropWhile (p := Char.isDigit) chars
  unfold number at read
  dsimp only at read
  generalize chars.dropWhile Char.isDigit = left at *
  split at read
  · rename_i after
    have places := List.takeWhile_append_dropWhile (p := Char.isDigit) (l := after)
    split at read
    · cases read
    · rename_i nonempty
      rw [List.isEmpty_iff] at nonempty
      exact .inl ⟨_, _, _, by rw [places, split], isDigit_takeWhile chars, isDigit_takeWhile after,
        nonempty, head?_dropWhile after⟩
  · rename_i bare
    split at read
    · cases read
    · rename_i short
      refine .inr ⟨_, left, split.symm, isDigit_takeWhile chars, Nat.le_of_not_lt short, ?_⟩
      intro c first
      refine ⟨stop c first, ?_⟩
      rintro rfl
      obtain ⟨after, equal⟩ := List.head?_eq_some_iff.mp first
      exact bare after equal

theorem number_follow {negative : Bool} {digits rest other : List Char} {symbol : Symbol}
    (read : number negative (digits ++ rest) = ⟨.ok symbol, signed negative digits, rest⟩)
    (follows : Follows rest other) :
    number negative (digits ++ other) = ⟨.ok symbol, signed negative digits, other⟩ := by
  rcases number_cases (congrArg found read) with
    ⟨whole, places, left, shape, before, after, nonempty, stop⟩ |
      ⟨whole, left, shape, numeric, short, stop⟩
  · rw [shape, number_pointed negative before after nonempty stop] at read
    simp only [mk.injEq] at read
    obtain ⟨found, lexeme, rfl⟩ := read
    rw [← found, ← signed_inj lexeme, List.append_assoc, List.cons_append]
    exact number_pointed negative before after nonempty (follows.stop Separated.digit stop)
  · rw [shape, number_bare negative numeric short stop] at read
    simp only [mk.injEq] at read
    obtain ⟨found, lexeme, rfl⟩ := read
    rw [← found, ← signed_inj lexeme]
    refine number_bare negative numeric short ?_
    rcases follows with apart | same
    · exact fun c first => ⟨apart.digit c first, (apart c first).2.1⟩
    · rw [same]
      exact stop

theorem startsWithDigit_lexeme {negative : Bool} {digits rest : List Char} {symbol : Symbol}
    (read : number negative (digits ++ rest) = ⟨.ok symbol, signed negative digits, rest⟩)
    (digit : startsWithDigit (digits ++ rest) = true) : startsWithDigit digits = true := by
  cases digits with
  | cons c digits => exact digit
  | nil =>
    exfalso
    rcases number_cases (congrArg found read) with
      ⟨whole, places, left, shape, before, after, nonempty, stop⟩ |
        ⟨whole, left, shape, numeric, short, stop⟩
    · rw [shape, number_pointed negative before after nonempty stop] at read
      simpa using signed_inj (congrArg lexeme read)
    · rw [shape, number_bare negative numeric short stop] at read
      simp only [mk.injEq] at read
      obtain ⟨_, lexeme, rfl⟩ := read
      cases left with
      | nil => cases digit
      | cons c left =>
        have here : c.isDigit = true := digit
        rw [(stop c rfl).1] at here
        cases here

theorem word_follow {chars rest other : List Char} {symbol : Symbol}
    (read : word (chars ++ rest) = ⟨.ok symbol, chars, rest⟩) (follows : Follows rest other) :
    word (chars ++ other) = ⟨.ok symbol, chars, other⟩ := by
  simp only [word, mk.injEq] at read ⊢
  obtain ⟨found, taken, left⟩ := read
  rw [taken] at found
  have named : ∀ c ∈ chars, isNameChar c = true := by
    intro c inside
    rw [← taken] at inside
    exact List.mem_takeWhile_imp inside
  have stop : ∀ c ∈ other.head?, isNameChar c = false :=
    follows.stop (fun apart c first => (apart c first).1) (left ▸ head?_dropWhile _)
  rw [takeWhile_append_all named stop, dropWhile_append_all named stop]
  exact ⟨found, rfl, rfl⟩

theorem text_closed {mark : Char} {held : List Char} (free : mark ∉ held) (rest : List Char) :
    text mark (held ++ mark :: rest) =
      ⟨.ok (.literal (.text (String.ofList held))), mark :: held ++ [mark], rest⟩ := by
  have inside : ∀ c ∈ held, (c != mark) = true := by
    intro c found
    exact bne_iff_ne.mpr fun same => free (same ▸ found)
  have stop : ∀ c ∈ (mark :: rest).head?, (c != mark) = false := by
    rintro c ⟨⟩
    simp
  simp only [text, takeWhile_append_all inside stop, dropWhile_append_all inside stop]

theorem text_cases {mark : Char} {chars : List Char} {symbol : Symbol}
    (found : (text mark chars).found = .ok symbol) :
    ∃ held rest, chars = held ++ mark :: rest ∧ mark ∉ held := by
  have whole := List.takeWhile_append_dropWhile (p := (· != mark)) (l := chars)
  unfold text at found
  split at found
  · cases found
  · rename_i closing rest left
    have stop := head?_dropWhile (p := (· != mark)) chars closing (by rw [left]; rfl)
    have equal : closing = mark := by simpa using stop
    refine ⟨_, rest, by rw [← equal, ← left]; exact whole.symm, ?_⟩
    intro inside
    simpa using List.mem_takeWhile_imp inside

theorem text_follow {mark : Char} {chars rest : List Char} {symbol : Symbol}
    (read : text mark (chars ++ rest) = ⟨.ok symbol, mark :: chars, rest⟩) (other : List Char) :
    text mark (chars ++ other) = ⟨.ok symbol, mark :: chars, other⟩ := by
  obtain ⟨held, left, whole, free⟩ := text_cases (congrArg found read)
  rw [whole, text_closed free] at read
  simp only [mk.injEq, List.cons_append, List.cons.injEq, true_and] at read
  obtain ⟨found, rfl, rfl⟩ := read
  rw [List.append_assoc, List.singleton_append, text_closed free, found]
  rfl

theorem sign_follow {chars rest other : List Char} {symbol : Symbol} (here : chars ≠ [])
    (read : sign (chars ++ rest) = ⟨.ok symbol, chars, rest⟩) (follows : Follows rest other) :
    sign (chars ++ other) = ⟨.ok symbol, chars, other⟩ := by
  have single (alone : ∀ left, rest ≠ '=' :: left) : ∀ left, other ≠ '=' :: left := by
    rintro left rfl
    rcases follows with apart | same
    · exact (apart '=' rfl).2.2 rfl
    · obtain ⟨more, rfl⟩ := List.head?_eq_some_iff.mp same.symm
      exact alone more rfl
  generalize whole : chars ++ rest = text at read
  fun_cases sign text with
  | case2 left alone | case4 left alone | case6 left alone =>
    simp only [sign, mk.injEq] at read
    obtain ⟨found, rfl, rfl⟩ := read
    simpa [sign, single alone] using found
  | case8 | case10 | case12 | case15 => simp [sign, *] at read
  | case16 =>
    cases read
    contradiction
  | _ =>
    cases read
    rfl

theorem ofChars_follow {lexeme rest other : List Char} {symbol : Symbol} (unended : symbol ≠ .finish)
    (read : ofChars (lexeme ++ rest) = ⟨.ok symbol, lexeme, rest⟩) (follows : Follows rest other) :
    ofChars (lexeme ++ other) = ⟨.ok symbol, lexeme, other⟩ := by
  have here := lexeme_ne_nil (congrArg found read) unended
  rw [read] at here
  cases lexeme with
  | nil => contradiction
  | cons c chars =>
    simp only [List.cons_append, ofChars] at read ⊢
    by_cases digit : c.isDigit = true
    · rw [if_pos digit] at read ⊢
      have number : number false (c :: chars ++ rest) =
          ⟨.ok symbol, signed false (c :: chars), rest⟩ := read
      exact number_follow number follows
    rw [if_neg digit] at read ⊢
    by_cases dash : c = '-'
    · subst dash
      cases start : startsWithDigit (chars ++ rest) with
      | true =>
        simp only [start] at read
        have number : number true (chars ++ rest) = ⟨.ok symbol, signed true chars, rest⟩ := read
        simp only [startsWithDigit_append (startsWithDigit_lexeme number start)]
        exact number_follow number follows
      | false =>
        simp [start, isNameStart, sign] at read
    simp only [dash, decide_false, Bool.false_and, Bool.false_eq_true, if_false] at read ⊢
    by_cases quote : (c = '\'' || c = '"') = true
    · rw [if_pos quote] at read ⊢
      exact text_follow read other
    rw [if_neg quote] at read ⊢
    by_cases letter : isNameStart c = true
    · rw [if_pos letter] at read ⊢
      have word : word (c :: chars ++ rest) = ⟨.ok symbol, c :: chars, rest⟩ := read
      exact word_follow word follows
    · rw [if_neg letter] at read ⊢
      exact sign_follow (List.cons_ne_nil c chars) read follows

theorem wordSymbol_ne_finish (chars : List Char) : wordSymbol chars ≠ .finish := by
  unfold wordSymbol
  repeat' split
  all_goals nofun

theorem number_ne_finish (negative : Bool) (chars : List Char) :
    (number negative chars).found ≠ .ok .finish := by
  unfold number
  dsimp only
  repeat' split
  all_goals nofun

theorem text_ne_finish (mark : Char) (chars : List Char) :
    (text mark chars).found ≠ .ok .finish := by
  unfold text
  split <;> nofun

theorem ofChars_finish {chars : List Char} (found : (ofChars chars).found = .ok .finish) :
    chars = [] := by
  cases chars with
  | nil => rfl
  | cons c rest =>
    rcases ofChars_cases c rest with
      ⟨_, read⟩ | ⟨_, _, read⟩ | ⟨_, read⟩ | ⟨_, read⟩ | read <;> rw [read] at found
    · exact absurd found (number_ne_finish _ _)
    · exact absurd found (number_ne_finish _ _)
    · exact absurd found (text_ne_finish _ _)
    · exact absurd (Except.ok.inj found) (wordSymbol_ne_finish _)
    · unfold sign at found
      split at found
      all_goals first | contradiction | cases found

theorem ofChars_extend {chars more : List Char} {symbol : Symbol}
    (found : (ofChars chars).found = .ok symbol) (here : chars ≠ []) (apart : Separated more) :
    ofChars (chars ++ more) = (ofChars chars).extend more := by
  have whole := ofChars_append chars
  have last : symbol ≠ .finish := by
    rintro rfl
    exact here (ofChars_finish found)
  rcases read : ofChars chars with ⟨result, lexeme, rest⟩
  rw [read] at found whole
  subst found whole
  have follows : Follows rest (rest ++ more) := by
    cases rest with
    | nil => exact .inl apart
    | cons c rest => exact .inr rfl
  rw [List.append_assoc]
  exact ofChars_follow last read follows

theorem nearest_ne_nan (d : Decimal) : d.nearest ≠ .nan := by
  unfold Decimal.nearest Binary64.ofRatio
  split <;> dsimp only <;> split <;> nofun

theorem wordSymbol_written {chars : List Char} {c : Char} {rest : List Char}
    (word : chars = c :: rest) (start : isNameStart c = true)
    (inside : ∀ d ∈ rest, isNameChar d = true) : (wordSymbol chars).Written := by
  unfold wordSymbol
  split
  · trivial
  split
  · trivial
  split
  · trivial
  split
  · trivial
  · rename_i notTrue notFalse notAnd notOr
    subst word
    refine ⟨by simpa [isName, start] using inside, ?_⟩
    simp_all [isReserved, ← String.toList_inj]

theorem isAlpha_of_toUpper {c : Char} (letter : c.toUpper.isAlpha = true) : c.isAlpha = true := by
  unfold Char.toUpper at letter
  split at letter
  · rename_i lower
    have small : c.isLower = true :=
      Bool.and_eq_true_iff.mpr ⟨decide_eq_true lower.1, decide_eq_true lower.2⟩
    exact Bool.or_eq_true_iff.mpr (.inr small)
  · exact letter

theorem isAlpha_connective {connective : Connective} {chars : List Char}
    (spelled : chars.map Char.toUpper = connective.name.toList) : ∀ c ∈ chars, c.isAlpha = true := by
  intro c inside
  have letters : connective.name.toList.all Char.isAlpha = true := by cases connective <;> decide
  apply isAlpha_of_toUpper
  apply List.all_eq_true.mp letters
  rw [← spelled]
  exact List.mem_map_of_mem inside

theorem wordSymbol_connective {connective : Connective} {chars : List Char}
    (spelled : chars.map Char.toUpper = connective.name.toList) :
    wordSymbol chars = .connective connective := by
  have notTrue : chars ≠ ['t', 'r', 'u', 'e'] := by
    rintro rfl
    revert spelled
    cases connective <;> decide
  have notFalse : chars ≠ ['f', 'a', 'l', 's', 'e'] := by
    rintro rfl
    revert spelled
    cases connective <;> decide
  rw [wordSymbol, if_neg notTrue, if_neg notFalse, spelled]
  cases connective <;> rfl

theorem ofChars_word_append {c : Char} {rest more : List Char} (start : isNameStart c = true)
    (inside : ∀ d ∈ rest, isNameChar d = true) (stop : ∀ d ∈ more.head?, isNameChar d = false) :
    ofChars (c :: rest ++ more) = ⟨.ok (wordSymbol (c :: rest)), c :: rest, more⟩ := by
  have named : ∀ d ∈ c :: rest, isNameChar d = true := by
    rintro d (_ | ⟨_, held⟩)
    · exact isNameChar_of_isNameStart start
    · exact inside d held
  have range := toNat_of_isNameStart start
  have digit : c.isDigit = false := by
    cases digit : c.isDigit with
    | false => rfl
    | true =>
      have := toNat_of_isDigit digit
      omega
  have dash : c ≠ '-' := by
    rintro rfl
    cases start
  have quote : c ≠ '\'' ∧ c ≠ '"' := by
    constructor <;> rintro rfl <;> cases start
  have front : ofChars (c :: rest ++ more) = word (c :: rest ++ more) := by
    simp [ofChars, digit, dash, quote.1, quote.2, start]
  rw [front, word, takeWhile_append_all named stop, dropWhile_append_all named stop]

theorem ofChars_word {c : Char} {rest : List Char} (start : isNameStart c = true)
    (inside : ∀ d ∈ rest, isNameChar d = true) :
    ofChars (c :: rest) = ⟨.ok (wordSymbol (c :: rest)), c :: rest, []⟩ := by
  have stop : ∀ d ∈ ([] : List Char).head?, isNameChar d = false := nofun
  simpa using ofChars_word_append start inside stop

theorem ofChars_name {name : String} (named : isName name = true)
    (plain : isReserved name = false) :
    ofChars name.toList = ⟨.ok (.name name), name.toList, []⟩ := by
  obtain ⟨c, rest, chars, start, inside⟩ := name_cases named
  have symbol : wordSymbol name.toList = .name name := by
    simp only [isReserved, Bool.or_eq_false_iff, decide_eq_false_iff_not, ← String.toList_inj] at plain
    obtain ⟨⟨⟨notTrue, notFalse⟩, notAnd⟩, notOr⟩ := plain
    rw [wordSymbol, if_neg (show name.toList ≠ ['t', 'r', 'u', 'e'] from notTrue),
      if_neg (show name.toList ≠ ['f', 'a', 'l', 's', 'e'] from notFalse), if_neg notAnd,
      if_neg notOr, String.ofList_toList]
  rw [chars] at symbol ⊢
  rw [ofChars_word start inside, symbol]

theorem ofDigitChars_lt {chars : List Char} (digits : ∀ c ∈ chars, c.isDigit = true) :
    Nat.ofDigitChars 10 chars 0 < 10 ^ chars.length := by
  induction chars using List.reverseRecOn with
  | nil => simp
  | append_singleton chars c ih =>
    have before := ih fun d inside => digits d (by simp [inside])
    have digit := digits c (by simp)
    have place : c.toNat - '0'.toNat < 10 := by
      change c.toNat - 48 < 10
      have := toNat_of_isDigit digit
      omega
    simp only [Nat.ofDigitChars_append, Nat.ofDigitChars_cons, Nat.ofDigitChars_nil,
      List.length_append, List.length_singleton, Nat.pow_succ]
    omega

theorem number_written {negative : Bool} {chars : List Char} {symbol : Symbol}
    (found : (number negative chars).found = .ok symbol) : symbol.Written := by
  rcases number_cases found with
    ⟨whole, places, rest, rfl, before, after, nonempty, stop⟩ |
      ⟨whole, rest, rfl, numeric, short, stop⟩
  · rw [number_pointed negative before after nonempty stop] at found
    cases found
    exact nearest_ne_nan _
  · rw [number_bare negative numeric short stop] at found
    cases found
    have size := ofDigitChars_lt numeric
    have bound := Nat.pow_le_pow_right (show 0 < 10 by decide) short
    simp only [Symbol.Written, Literal.Written]
    rw [Nat.length_toDigits_le_iff (by decide) (by decide)]
    split <;> simpa using Nat.lt_of_lt_of_le size bound

theorem text_written {mark : Char} {chars : List Char} {symbol : Symbol}
    (quote : mark = '\'' ∨ mark = '"') (found : (text mark chars).found = .ok symbol) :
    symbol.Written := by
  obtain ⟨held, rest, rfl, free⟩ := text_cases found
  rw [text_closed free] at found
  cases found
  simp only [Symbol.Written, Literal.Written, String.toList_ofList]
  rcases quote with rfl | rfl
  · exact .inl free
  · exact .inr free

theorem sign_written {chars : List Char} {symbol : Symbol}
    (found : (sign chars).found = .ok symbol) : symbol.Written := by
  unfold sign at found
  split at found
  all_goals first | cases found; trivial | cases found

theorem ofChars_written {chars : List Char} {symbol : Symbol}
    (found : (ofChars chars).found = .ok symbol) : symbol.Written := by
  cases chars with
  | nil =>
    cases found
    trivial
  | cons c rest =>
    rcases ofChars_cases c rest with
      ⟨_, read⟩ | ⟨_, _, read⟩ | ⟨quote, read⟩ | ⟨start, read⟩ | read <;> rw [read] at found
    · exact number_written found
    · exact number_written found
    · exact text_written quote found
    · cases found
      have name := isNameChar_of_isNameStart start
      apply wordSymbol_written (List.takeWhile_cons_of_pos name) start
      intro d inside
      exact List.mem_takeWhile_imp inside
    · exact sign_written found

section Tells

variable {chars : List Char} {fault : Misread}

theorem number_tells {negative : Bool} (found : (number negative chars).found = .error fault) :
    fault.Tells (number negative chars).lexeme := by
  unfold number at found ⊢
  dsimp only at found ⊢
  split at found
  · rename_i after point
    split at found
    · cases found
      simp [*, Misread.Tells]
    · cases found
  · split at found
    · cases found
      assumption
    · cases found

theorem sign_tells (found : (sign chars).found = .error fault) (lexeme : List Char) :
    fault.Tells lexeme := by
  unfold sign at found
  split at found <;> cases found <;> trivial

theorem text_tells {mark : Char} (found : (text mark chars).found = .error fault)
    (lexeme : List Char) : fault.Tells lexeme := by
  unfold text at found
  split at found <;> cases found
  trivial

theorem ofChars_tells (found : (ofChars chars).found = .error fault) :
    fault.Tells (ofChars chars).lexeme := by
  cases chars with
  | nil => cases found
  | cons c rest =>
    rcases ofChars_cases c rest with
      ⟨_, read⟩ | ⟨_, _, read⟩ | ⟨_, read⟩ | ⟨_, read⟩ | read <;> rw [read] at found ⊢
    · exact number_tells found
    · exact number_tells found
    · exact text_tells found _
    · cases found
    · exact sign_tells found _

end Tells

theorem ofChars_gap {c : Char} (gap : isGap c = true) (rest : List Char) :
    (ofChars (c :: rest)).found = .error (.foreign c) := by
  simp only [isGap, Bool.or_eq_true, decide_eq_true_eq] at gap
  rcases gap with ((rfl | rfl) | rfl) | rfl <;> rfl

end Stretch

end Rulebook

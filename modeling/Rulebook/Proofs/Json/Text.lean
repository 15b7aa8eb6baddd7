import Rulebook.Json.Writer

/-! The characters of a text are read back from its JSON text. -/
namespace Rulebook

namespace Text

theorem hexadecimal_digit {value : Nat} (small : value < 16) :
    hexadecimal 1 value = [Nat.digitChar value] := by
  rw [hexadecimal, Nat.toDigits_of_lt_base small]
  rfl

theorem hexadecimal_succ {width value : Nat} (nonzero : width ≠ 0) :
    hexadecimal (width + 1) value =
      hexadecimal width (value / 16) ++ [Nat.digitChar (value % 16)] := by
  rw [hexadecimal, hexadecimal]
  by_cases small : value < 16
  · rw [Nat.toDigits_of_lt_base small, Nat.div_eq_of_lt small, Nat.mod_eq_of_lt small,
      Nat.toDigits_of_lt_base (by decide : 0 < 16)]
    obtain ⟨width, rfl⟩ := Nat.exists_eq_succ_of_ne_zero nonzero
    simp [List.replicate_succ']
  · rw [Nat.toDigits_of_base_le (by decide) (by omega)]
    simp [Nat.add_sub_add_right]

theorem hexDigit?_digitChar {digit : Nat} (small : digit < 16) :
    hexDigit? (Nat.digitChar digit) = some digit := by
  have each : ∀ digit : Fin 16, hexDigit? (Nat.digitChar digit) = some digit.val := by decide
  exact each ⟨digit, small⟩

end Text

namespace Json

theorem hexUnit?_hexadecimal {unit : Nat} (small : unit < 0x10000) :
    ∃ a b c d, Text.hexadecimal 4 unit = [a, b, c, d] ∧ hexUnit? a b c d = some unit := by
  refine ⟨Nat.digitChar (unit / 16 / 16 / 16), Nat.digitChar (unit / 16 / 16 % 16),
    Nat.digitChar (unit / 16 % 16), Nat.digitChar (unit % 16), ?_, ?_⟩
  · rw [Text.hexadecimal_succ (by decide), Text.hexadecimal_succ (by decide),
      Text.hexadecimal_succ (by decide), Text.hexadecimal_digit (by omega)]
    rfl
  · rw [hexUnit?, Text.hexDigit?_digitChar (by omega), Text.hexDigit?_digitChar (by omega),
      Text.hexDigit?_digitChar (by omega), Text.hexDigit?_digitChar (by omega)]
    refine congrArg some ?_
    omega

/-- No character lies among the halves of surrogate pairs. -/
theorem toNat_cases (c : Char) :
    c.toNat < 0xd800 ∨ 0xdfff < c.toNat ∧ c.toNat < 0x110000 := by
  have valid := c.valid
  simpa only [UInt32.isValidChar, Nat.isValidChar, Char.toNat] using valid

theorem units_lt (c : Char) : ∀ unit ∈ units c, unit < 0x10000 := by
  have valid := toNat_cases c
  unfold units
  split
  · intro unit inside
    rw [List.mem_singleton.mp inside]
    assumption
  · intro unit inside
    simp only [List.mem_cons, List.not_mem_nil, or_false] at inside
    rcases inside with high | low <;> omega

theorem codes_units {found : List Nat} (more : List Char) (small : ∀ unit ∈ found, unit < 0x10000) :
    codes (found.flatMap (fun unit => '\\' :: 'u' :: Text.hexadecimal 4 unit) ++ more) =
      (codes more).map fun read => (found ++ read.1, read.2) := by
  induction found with
  | nil => simp
  | cons unit found ih =>
    obtain ⟨a, b, c, d, shown, read⟩ := hexUnit?_hexadecimal (small unit List.mem_cons_self)
    have rest := ih fun other inside => small other (List.mem_cons_of_mem unit inside)
    simp only [List.flatMap_cons, shown, List.cons_append, List.nil_append]
    rw [codes, read, rest, Option.bind_some, Option.map_map]
    rfl

theorem codes_escape (c : Char) (more : List Char) :
    codes (escape c ++ more) = (codes more).map fun read => (units c ++ read.1, read.2) := by
  unfold escape
  split
  · rename_i special
    simp only [Bool.or_eq_true, decide_eq_true_eq] at special
    rcases special with rfl | rfl <;> rfl
  iterate 5
    split
    · subst_vars
      rfl
  split
  · rename_i mark _ _ _ _ _ plain
    simp only [Bool.or_eq_true, decide_eq_true_eq, not_or] at mark
    simp only [Bool.and_eq_true, decide_eq_true_eq] at plain
    have small : ¬ c.toNat < 0x20 := by omega
    rw [List.singleton_append, codes, if_neg small, units, if_pos (by omega)]
    · rfl
    · exact mark.1
    all_goals
      intros
      exact mark.2 ‹_›
  · exact codes_units more (units_lt c)

theorem codes_quoted (chars more : List Char) :
    codes (chars.flatMap escape ++ '"' :: more) = some (chars.flatMap units, more) := by
  induction chars with
  | nil => simp [codes]
  | cons c chars ih =>
    rw [List.flatMap_cons, List.append_assoc, codes_escape, ih]
    rfl

theorem characters?_units (c : Char) (more : List Nat) :
    characters? (units c ++ more) = (characters? more).map (c :: ·) := by
  have valid := toNat_cases c
  unfold units
  split
  · have single : ¬ (0xd800 ≤ c.toNat ∧ c.toNat < 0xe000) := by omega
    have high : ¬ (0xd800 ≤ c.toNat ∧ c.toNat < 0xdc00) := by omega
    cases more with
    | nil => simp [characters?, single]
    | cons low more => simp [characters?, single, high]
  · rename_i pair
    simp only [List.cons_append, List.nil_append, characters?]
    rw [if_pos (by simp only [Bool.and_eq_true, decide_eq_true_eq]; omega)]
    have joined : 0x10000 + (0xd800 + (c.toNat - 0x10000) / 0x400 - 0xd800) * 0x400 +
        (0xdc00 + (c.toNat - 0x10000) % 0x400 - 0xdc00) = c.toNat := by omega
    rw [joined, Char.ofNat_toNat]

theorem characters?_flatMap (chars : List Char) :
    characters? (chars.flatMap units) = some chars := by
  induction chars with
  | nil => rfl
  | cons c chars ih => rw [List.flatMap_cons, characters?_units, ih, Option.map_some]

end Json

end Rulebook

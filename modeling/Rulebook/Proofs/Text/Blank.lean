import Mathlib.Data.List.DropRight
import Rulebook.Proofs.Token.Stretch
import Rulebook.Text.Blank

/-! Trimming leaves no blank at either end, and it leaves such texts as they are. -/
namespace Rulebook.Text

theorem isBlank_of_isNameChar {c : Char} (char : isNameChar c = true) : isBlank c = false := by
  rcases isNameChar_cases char with start | digit
  · have := toNat_of_isNameStart start
    simp [isBlank]
    omega
  · have := toNat_of_isDigit digit
    simp [isBlank]
    omega

theorem isBlank_of_isGap {c : Char} (gap : Stretch.isGap c = true) : isBlank c = true := by
  simp only [Stretch.isGap, Bool.or_eq_true, decide_eq_true_eq] at gap
  rcases gap with ((rfl | rfl) | rfl) | rfl <;> rfl

variable {chars : List Char}

theorem trimChars_eq (chars : List Char) :
    trimChars chars = (chars.dropWhile isBlank).rdropWhile isBlank := rfl

theorem trimChars_of_ends (first : ∀ c ∈ chars.head?, isBlank c = false)
    (last : ∀ c ∈ chars.getLast?, isBlank c = false) : trimChars chars = chars := by
  have front : chars.dropWhile isBlank = chars := by
    cases chars with
    | nil => rfl
    | cons c chars => simp [first c rfl]
  rw [trimChars_eq, front, List.rdropWhile_eq_self_iff]
  intro nonempty
  simp [last _ (List.getLast?_eq_some_getLast nonempty)]

theorem head?_trimChars (chars : List Char) : ∀ c ∈ (trimChars chars).head?, isBlank c = false := by
  intro c first
  have kept := List.rdropWhile_prefix isBlank (chars.dropWhile isBlank)
  obtain ⟨rest, whole⟩ := List.head?_eq_some_iff.mp first
  rw [trimChars_eq] at whole
  rw [whole] at kept
  obtain ⟨more, equal⟩ := kept
  have stop := List.head?_dropWhile_not isBlank chars
  rw [← equal] at stop
  simpa using stop

theorem getLast?_trimChars (chars : List Char) :
    ∀ c ∈ (trimChars chars).getLast?, isBlank c = false := by
  intro c last
  rw [trimChars, List.getLast?_reverse] at last
  have stop := List.head?_dropWhile_not isBlank (chars.dropWhile isBlank).reverse
  rw [Option.mem_def.mp last] at stop
  simpa using stop

@[simp] theorem trimChars_trimChars (chars : List Char) :
    trimChars (trimChars chars) = trimChars chars :=
  trimChars_of_ends (head?_trimChars chars) (getLast?_trimChars chars)

@[simp] theorem trim_trim (text : String) : trim (trim text) = trim text := by
  simp [← String.toList_inj]

theorem trimChars_pad {lead trail : List Char} (before : ∀ c ∈ lead, isBlank c = true)
    (behind : ∀ c ∈ trail, isBlank c = true) :
    trimChars (lead ++ chars ++ trail) = trimChars chars := by
  have dropped : trail.dropWhile isBlank = [] := List.dropWhile_eq_nil_iff.mpr behind
  have last (chars : List Char) : (chars ++ trail).rdropWhile isBlank = chars.rdropWhile isBlank := by
    have reversed : ∀ c ∈ trail.reverse, isBlank c = true := by simpa using behind
    rw [List.rdropWhile, List.reverse_append, List.dropWhile_append_of_pos reversed, List.rdropWhile]
  rw [trimChars_eq, trimChars_eq, List.append_assoc, List.dropWhile_append_of_pos before,
    List.dropWhile_append]
  split
  · rename_i empty
    rw [dropped, List.isEmpty_iff.mp empty]
  · exact last _

/-- A text has two ends, neither of them blank. -/
structure Solid (chars : List Char) : Prop where
  first : ∃ c ∈ chars.head?, isBlank c = false
  last : ∃ c ∈ chars.getLast?, isBlank c = false

theorem Solid.trimChars (solid : Solid chars) : trimChars chars = chars := by
  obtain ⟨⟨a, first, front⟩, ⟨b, last, back⟩⟩ := solid
  apply trimChars_of_ends
  · intro c found
    cases first.symm.trans found
    exact front
  · intro c found
    cases last.symm.trans found
    exact back

theorem solid_of_all (nonempty : chars ≠ []) (visible : ∀ c ∈ chars, isBlank c = false) :
    Solid chars := by
  refine ⟨⟨chars.head nonempty, List.head?_eq_some_head nonempty, visible _ (List.head_mem nonempty)⟩,
    ⟨chars.getLast nonempty, List.getLast?_eq_some_getLast nonempty,
      visible _ (List.getLast_mem nonempty)⟩⟩

theorem solid_of_none {chars : List Char} (nonempty : chars ≠ []) (plain : chars.any isBlank = false) :
    Solid chars := by
  apply solid_of_all nonempty
  intro c inside
  rw [List.any_eq_false] at plain
  exact Bool.eq_false_iff.mpr (plain c inside)

theorem isBlank_signed {negative : Bool} {chars : List Char}
    (numeric : ∀ c ∈ chars, c.isDigit = true ∨ c = '.') :
    ∀ c ∈ Stretch.signed negative chars, isBlank c = false := by
  have plain : ∀ c ∈ chars, isBlank c = false := by
    intro c inside
    rcases numeric c inside with digit | rfl
    · exact isBlank_of_isNameChar (isNameChar_of_isDigit digit)
    · rfl
  cases negative with
  | false => exact plain
  | true =>
    rintro c (_ | ⟨_, inside⟩)
    · rfl
    · exact plain c inside

theorem Solid.append {after : List Char} (before : Solid chars) (inner : List Char)
    (behind : Solid after) : Solid (chars ++ inner ++ after) := by
  obtain ⟨a, first, front⟩ := before.first
  obtain ⟨b, last, back⟩ := behind.last
  refine ⟨⟨a, ?_, front⟩, ⟨b, ?_, back⟩⟩
  · rw [List.append_assoc, List.head?_append, Option.mem_def.mp first]
    rfl
  · rw [List.getLast?_append, Option.mem_def.mp last]
    rfl

end Rulebook.Text

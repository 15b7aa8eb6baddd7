import Mathlib.Data.List.Basic
import Rulebook.Proofs.Number.Numeral
import Rulebook.Proofs.Service.Exchange

/-! Targets of plain characters name themselves as paths, so the target that ends in an identity
leads to the rule with that identity. -/
namespace Rulebook

namespace Target

theorem loop_toList (bytes : ByteArray) (i : Nat) (read : List UInt8) :
    ByteArray.toList.loop bytes i read = read.reverse ++ bytes.data.toList.drop i := by
  fun_induction ByteArray.toList.loop bytes i read with
  | case1 i read more ih =>
    rw [ih, List.drop_eq_getElem_cons (i := i) (by simpa using more)]
    simp [ByteArray.get!, more]
  | case2 i read done =>
    rw [List.drop_eq_nil_of_le (by simpa using done), List.append_nil]

theorem toList_eq_data (bytes : ByteArray) : bytes.toList = bytes.data.toList := by
  rw [ByteArray.toList, loop_toList]
  rfl

theorem characters_toUTF8 (text : String) : characters text.toUTF8.toList = text.toList := by
  have bytes : (⟨text.toUTF8.toList.toArray⟩ : ByteArray) = text.toUTF8 := by
    rw [toList_eq_data]
  have valid : text.toUTF8.IsValidUTF8 := text.isValidUTF8
  rw [characters, bytes, String.fromUTF8?, dif_pos valid]
  rfl

theorem percentDecode_of_not_mem {bytes : List UInt8} (plain : 0x25 ∉ bytes) :
    percentDecode bytes = bytes := by
  fun_induction percentDecode bytes with
  | case1 high low rest => simp at plain
  | case2 => simp at plain
  | case3 byte rest other ih => 
    rw [ih fun inside => plain (List.mem_cons_of_mem byte inside)]
  | case4 => rfl

def isPlain (c : Char) : Bool := isNameChar c || c = '/' || c = '-'

theorem toNat_of_isPlain {c : Char} (plain : isPlain c = true) :
    0x2d ≤ c.toNat ∧ c.toNat < 0x80 := by
  simp only [isPlain, Bool.or_eq_true, decide_eq_true_eq] at plain
  rcases plain with (name | rfl) | rfl
  · rcases isNameChar_cases name with start | digit
    · have := toNat_of_isNameStart start
      omega
    · have := toNat_of_isDigit digit
      omega
  · decide
  · decide

theorem ne_of_isPlain {c : Char} (other : Char) (plain : isPlain c = true)
    (special : isPlain other = false) : c ≠ other := by
  rintro rfl
  simp [plain] at special

theorem utf8EncodeChar_of_isPlain {c : Char} (plain : isPlain c = true) :
    String.utf8EncodeChar c = [c.val.toUInt8] := by
  apply String.utf8EncodeChar_eq_singleton
  have small : c.val ≤ 0x7f := by
    have := (toNat_of_isPlain plain).2
    rw [UInt32.le_iff_toNat_le]
    exact Nat.le_of_lt_succ this
  simp [Char.utf8Size, small]

variable {chars : List Char}

theorem percent_not_mem_toUTF8 (plain : ∀ c ∈ chars, isPlain c = true) :
    0x25 ∉ (String.ofList chars).toUTF8.toList := by
  intro inside
  rw [toList_eq_data, String.toUTF8_eq_toByteArray, String.toByteArray_ofList, List.utf8Encode,
    List.toList_data_toByteArray, List.mem_flatMap] at inside
  obtain ⟨c, held, byte⟩ := inside
  rw [utf8EncodeChar_of_isPlain (plain c held), List.mem_singleton] at byte
  have range := toNat_of_isPlain (plain c held)
  have value : 0x25 = c.toNat % 256 := congrArg UInt8.toNat byte
  omega

theorem inner_plain {c : Char} (plain : ∀ other ∈ '/' :: c :: chars, isPlain other = true)
    (single : c ≠ '/') : inner ('/' :: c :: chars) = '/' :: c :: chars := by
  have shown : (('/' :: c :: chars).dropWhile (·.toNat ≤ 0x20)).filter
      (fun c => !(c = '\t' || c = '\n' || c = '\r')) = '/' :: c :: chars := by
    rw [List.dropWhile_cons_of_neg (by decide), List.filter_eq_self]
    intro other inside
    have plain := plain other inside
    simp [ne_of_isPlain '\t' plain rfl, ne_of_isPlain '\n' plain rfl,
      ne_of_isPlain '\r' plain rfl]
  have scheme : afterScheme ('/' :: c :: chars) = '/' :: c :: chars := by
    simp [afterScheme, isSchemeChar]
  have host : afterHost ('/' :: c :: chars) = '/' :: c :: chars := by
    simp [afterHost, single]
  rw [inner]
  dsimp only
  rw [shown, scheme, host, List.takeWhile_eq_self_iff]
  intro other inside
  have plain := plain other inside
  simp [ne_of_isPlain '?' plain rfl, ne_of_isPlain '#' plain rfl]

theorem path_plain {c : Char} (plain : ∀ other ∈ '/' :: c :: chars, isPlain other = true)
    (single : c ≠ '/') : path (String.ofList ('/' :: c :: chars)) = '/' :: c :: chars := by
  have decoded : percentDecode (String.ofList ('/' :: c :: chars)).toUTF8.toList =
      (String.ofList ('/' :: c :: chars)).toUTF8.toList :=
    percentDecode_of_not_mem (percent_not_mem_toUTF8 plain)
  rw [path, String.toList_ofList, inner_plain plain single, inner_plain plain single, decoded,
    characters_toUTF8, String.toList_ofList]
  simp [single]

/-- What stands behind the base of a target is read as it is. -/
theorem path_base (plain : ∀ c ∈ chars, isPlain c = true) :
    path ("/api/rules/" ++ String.ofList chars) = Route.base.toList ++ '/' :: chars := by
  have whole : ∀ c ∈ '/' :: 'a' :: ("pi/rules/".toList ++ chars), isPlain c = true := by
    have front : ('/' :: 'a' :: "pi/rules/".toList).all isPlain = true := by decide
    rw [← List.cons_append, ← List.cons_append, List.forall_mem_append]
    exact ⟨List.all_eq_true.mp front, plain⟩
  have target : "/api/rules/" ++ String.ofList chars =
      String.ofList ('/' :: 'a' :: ("pi/rules/".toList ++ chars)) := by
    rw [← String.toList_inj]
    simp
  rw [target, path_plain whole (by decide)]
  rfl

theorem isPlain_toDigits (id : Nat) : ∀ c ∈ Nat.toDigits 10 id, isPlain c = true := by
  intro c inside
  simp [isPlain, isNameChar_of_isDigit (isDigit_toDigits id c inside)]

end Target

namespace Route

theorem after?_append (front : String) (rest : List Char) :
    after? front (front.toList ++ rest) = some rest := by
  have starts : front.toList.isPrefixOf (front.toList ++ rest) = true :=
    List.isPrefixOf_iff_prefix.mpr (List.prefix_append _ _)
  rw [after?, if_pos starts, ← String.length_toList, List.drop_left]

theorem digitValue?_of_isDigit {c : Char} (digit : c.isDigit = true) :
    Text.digitValue? c = some (c.toNat - 48) := by
  have range := toNat_of_isDigit digit
  have first : (decide (48 ≤ c.toNat) && decide (c.toNat < 58)) = true := by
    rw [Bool.and_eq_true, decide_eq_true_eq, decide_eq_true_eq]
    omega
  simp [Text.digitValue?, Text.zeros, first]

variable {digits : List Char}

theorem digits?_of_isDigit (nonempty : digits ≠ []) (numeric : ∀ c ∈ digits, c.isDigit = true) :
    digits? digits = .some digits := by
  have values : (digits.all fun c => (Text.digitValue? c).isSome) = true := by
    rw [List.all_eq_true]
    intro c inside
    rw [digitValue?_of_isDigit (numeric c inside), Option.isSome_some]
  simp [digits?, nonempty, values]

theorem number_of_isDigit (numeric : ∀ c ∈ digits, c.isDigit = true) :
    number digits = Nat.ofDigitChars 10 digits 0 := by
  rw [number, Nat.ofDigitChars_eq_foldl]
  refine List.foldl_ext _ _ _ ?_
  intro value c inside
  rw [digitValue?_of_isDigit (numeric c inside), Option.getD_some]
  rfl

theorem mergeSlashes_of_not_mem (plain : '/' ∉ digits) : mergeSlashes digits = digits := by
  induction digits with
  | nil => rfl
  | cons c digits ih =>
    have first : c ≠ '/' := fun same => plain (by simp [same])
    rw [mergeSlashes, ih fun inside => plain (List.mem_cons_of_mem c inside)]
    rintro rest same
    exact absurd same first

theorem ruleResource?_cons {c : Char} (create : c ≠ 'c') (evaluate : c ≠ 'e') (update : c ≠ 'u') :
    ruleResource? ('/' :: c :: digits) = (digits? (c :: digits)).map .rule := by
  simp [ruleResource?, after?, List.isPrefixOf, create, evaluate, update.symm]
  rfl

end Route

namespace Request

theorem verb_get (id : Int) : (get id).verb = "GET" :=
  show "GET".map Char.toUpper = "GET" by decide +kernel

theorem isPlain_ofInt (id : Int) : ∀ c ∈ Numeral.ofInt id, Target.isPlain c = true := by
  intro c inside
  have sign : c = '-' ∨ c ∈ Nat.toDigits 10 id.natAbs := by
    rw [Numeral.ofInt] at inside
    split at inside
    · exact List.mem_cons.mp inside
    · exact .inr inside
  rcases sign with rfl | digit
  · rfl
  · exact Target.isPlain_toDigits _ c digit

theorem path_get (id : Int) :
    Target.path (get id).target = Route.base.toList ++ '/' :: Numeral.ofInt id :=
  Target.path_base (isPlain_ofInt id)

theorem route_get_natural (id : Nat) :
    (get id).route =
      if (Nat.toDigits 10 id).length ≤ digitLimit then .resource (.rule (Nat.toDigits 10 id))
      else .unknownPath := by
  have numeric := isDigit_toDigits id
  have found : Route.resource? (Route.base.toList ++ '/' :: Nat.toDigits 10 id) =
      some (.rule (Nat.toDigits 10 id)) := by
    rw [Route.resource?, Route.after?_append]
    have nonempty := Nat.toDigits_ne_nil (n := id) (b := 10)
    generalize Nat.toDigits 10 id = digits at nonempty numeric
    cases digits with
    | nil => contradiction
    | cons c rest =>
      have digit := numeric c List.mem_cons_self
      have other {word : Char} (letter : word.isDigit = false) : c ≠ word := by
        rintro rfl
        simp [digit] at letter
      dsimp only
      rw [Route.ruleResource?_cons (other rfl) (other rfl) (other rfl),
        Route.digits?_of_isDigit nonempty numeric]
      rfl
  have numeral : Numeral.ofInt (id : Int) = Nat.toDigits 10 id := by simp [Numeral.ofInt]
  rw [route, verb_get, path_get, numeral, Route.ofPath, found]
  simp [Resource.answers, Resource.methods, Resource.isLegible]

theorem route_get_negative {id : Int} (negative : id < 0) : (get id).route = .unknownPath := by
  have numeral : Numeral.ofInt id = '-' :: Nat.toDigits 10 id.natAbs := by
    simp [Numeral.ofInt, negative]
  have unknown : Route.resource? (Route.base.toList ++ '/' :: Numeral.ofInt id) = none := by
    rw [numeral, Route.resource?, Route.after?_append]
    dsimp only
    have sign : Text.digitValue? '-' = none := by decide +kernel
    rw [Route.ruleResource?_cons (by decide) (by decide) (by decide), Route.digits?]
    simp [sign]
  have merged : Route.mergeSlashes (Route.base.toList ++ '/' :: Numeral.ofInt id) =
      Route.base.toList ++ '/' :: Numeral.ofInt id := by
    have slash : '/' ∉ Nat.toDigits 10 id.natAbs := fun inside =>
      absurd (isDigit_toDigits _ '/' inside) (by decide)
    rw [numeral]
    simp [Route.base, Route.mergeSlashes, Route.mergeSlashes_of_not_mem slash]
  rw [route, verb_get, path_get, Route.ofPath, unknown]
  dsimp only
  rw [merged, unknown]
  simp

theorem route_list : list.route = .resource .list := by decide +kernel

end Request

end Rulebook

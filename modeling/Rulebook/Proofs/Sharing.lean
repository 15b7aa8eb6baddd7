import Mathlib.Logic.Relation
import Rulebook.Proofs.Formula.Combination
import Rulebook.Proofs.Text.Blank
import Rulebook.Settings

/-! A text that lists origins allows those it names. Its commas cut it into pieces; blanks around a
piece and blank pieces say nothing, and neither does the order of the pieces. -/
namespace Rulebook

/-- A text lists these pieces, with a comma between one and the next. -/
structure Listing (text : String) (pieces : List String) : Prop where
  nonempty : pieces ≠ []
  plain : ∀ piece ∈ pieces, ',' ∉ piece.toList
  joined : text = ",".intercalate pieces

/-- Changes of a list of pieces that do not matter. -/
inductive Relisted : List String → List String → Prop
  | blank {piece : String} (before after : List String) (empty : Text.trim piece = "") :
    Relisted (before ++ after) (before ++ piece :: after)
  | pad {lead trail : String} (before after : List String) (piece : String)
    (front : ∀ c ∈ lead.toList, Text.isBlank c = true)
    (back : ∀ c ∈ trail.toList, Text.isBlank c = true) :
    Relisted (before ++ piece :: after) (before ++ (lead ++ piece ++ trail) :: after)
  | again {piece : String} (before after : List String) (there : piece ∈ before ++ after) :
    Relisted (before ++ after) (before ++ piece :: after)
  | order {pieces others : List String} (same : pieces.Perm others) : Relisted pieces others

def named (pieces : List String) : List String := (pieces.map Text.trim).filter (· ≠ "")

theorem mem_named {pieces : List String} {name : String} :
    name ∈ named pieces ↔ (∃ piece ∈ pieces, Text.trim piece = name) ∧ name ≠ "" := by
  simp [named]

theorem exists_mem_named {pieces : List String} {property : String → Prop} :
    (∃ name ∈ named pieces, property name) ↔
      ∃ piece ∈ pieces, Text.trim piece ≠ "" ∧ property (Text.trim piece) := by
  simp [named, and_assoc]

theorem Text.trim_pad {lead piece trail : String} (front : ∀ c ∈ lead.toList, isBlank c = true)
    (back : ∀ c ∈ trail.toList, isBlank c = true) : trim (lead ++ piece ++ trail) = trim piece := by
  rw [← String.toList_inj, toList_trim, toList_trim, String.toList_append, String.toList_append]
  exact trimChars_pad front back

theorem Relisted.mem_named_iff {pieces others : List String} (relisted : Relisted pieces others)
    (name : String) : name ∈ named pieces ↔ name ∈ named others := by
  cases relisted with
  | blank before after empty => simp [named, empty]
  | pad before after piece front back => simp [named, Text.trim_pad front back]
  | again before after there =>
    have already := List.mem_map_of_mem (f := Text.trim) there
    simp only [mem_named, List.mem_append, List.mem_cons, List.mem_map] at already ⊢
    grind
  | order same => exact ((same.map Text.trim).filter _).mem_iff

theorem mem_named_iff {pieces others : List String} (relisted : Relation.EqvGen Relisted pieces others)
    (name : String) : name ∈ named pieces ↔ name ∈ named others := by
  induction relisted with
  | rel _ _ once => exact once.mem_named_iff name
  | refl _ => rfl
  | symm _ _ _ ih => exact ih.symm
  | trans _ _ _ _ _ first second => exact first.trans second

namespace Origins

theorem pieces_eq_splitOn (chars : List Char) : pieces chars = chars.splitOn ',' := by
  induction chars with
  | nil => rfl
  | cons c rest ih =>
    rw [List.splitOn_cons_eq_if_modifyHead, ← ih, pieces]
    cases cut : pieces rest with
    | nil => exact absurd (ih.symm.trans cut) (List.splitOn_ne_nil ',' rest)
    | cons first others => simp

theorem comma_notMem_pieces (chars : List Char) : ∀ piece ∈ pieces chars, ',' ∉ piece := by
  induction chars with
  | nil => simp [pieces]
  | cons c rest ih =>
    rw [pieces]
    cases cut : pieces rest with
    | nil => exact absurd (pieces_eq_splitOn rest ▸ cut) (List.splitOn_ne_nil ',' rest)
    | cons first others =>
      rw [cut] at ih
      by_cases comma : c = ','
      · simpa [comma] using ih
      · simpa [comma, Ne.symm comma] using ih

theorem listing_iff {text : String} {pieces : List String} :
    Listing text pieces ↔ pieces = (Origins.pieces text.toList).map String.ofList := by
  rw [pieces_eq_splitOn]
  constructor
  · rintro ⟨nonempty, plain, rfl⟩
    have cut : (",".intercalate pieces).toList.splitOn ',' = pieces.map String.toList := by
      rw [String.toList_intercalate]
      apply List.splitOn_intercalate
      · simpa using plain
      · simpa using nonempty
    rw [cut]
    simp [Function.comp_def]
  · rintro rfl
    refine ⟨by simp, ?_, ?_⟩
    · rw [← pieces_eq_splitOn]
      intro piece inside
      obtain ⟨chars, among, rfl⟩ := List.mem_map.mp inside
      simpa using comma_notMem_pieces text.toList chars among
    · rw [← String.toList_inj, String.toList_intercalate]
      simp [Function.comp_def, List.intercalate_splitOn]

theorem names_eq {text : String} {pieces : List String} (cut : Listing text pieces) :
    names text = named pieces := by
  have trimmed : Text.trim ∘ String.ofList = String.ofList ∘ Text.trimChars := by
    funext chars
    simp [Text.trim]
  have filled : (fun name => decide (name ≠ "")) ∘ String.ofList = fun chars => !chars.isEmpty := by
    funext chars
    cases chars <;> simp
  rw [listing_iff.mp cut, named, List.map_map, trimmed, ← List.map_map, List.filter_map, filled]
  rfl

end Origins

namespace Entry

/-- The entry that a name stands for allows that origin and no other, whatever the letter case. -/
structure StandsFor (name : String) (entry : Entry) : Prop where
  read : ofText name = .ok entry
  exact (origin : String) (given : origin ≠ "") :
    entry.allows origin = true ↔ Text.foldCase name = Text.foldCase origin

theorem standsFor_name {name : String} (plain : name.toList.any isPatternChar = false) :
    StandsFor name (.name name) := by
  have notAll : ¬(name = "*" ∨ name = ".*") := by
    rintro (rfl | rfl) <;> contradiction
  refine ⟨?_, ?_⟩
  · simp [ofText, notAll, plain]
  · intro origin _
    exact decide_eq_true_iff

theorem StandsFor.ne_all {name : String} {entry : Entry} (stands : StandsFor name entry) :
    entry ≠ .all := by
  rintro rfl
  have zero := (stands.exact "0" (by decide)).mp rfl
  have one := (stands.exact "1" (by decide)).mp rfl
  exact absurd (zero.symm.trans one) (by decide)

variable {names : List String} {entries : List Entry}

theorem ofEntries_eq (stand : List.Forall₂ StandsFor names entries) :
    Origins.ofEntries entries = .listed entries := by
  have limited : .all ∉ entries := by
    induction stand with
    | nil => exact List.not_mem_nil
    | cons first _ ih => simp [first.ne_all.symm, ih]
  simp [Origins.ofEntries, limited]

theorem any_allows_iff (stand : List.Forall₂ StandsFor names entries) {origin : String}
    (given : origin ≠ "") : entries.any (·.allows origin) = true ↔
      ∃ name ∈ names, Text.foldCase name = Text.foldCase origin := by
  induction stand with
  | nil => simp
  | cons first _ ih => simp [first.exact origin given, ih]

end Entry

/-- Where origins are listed, an answer names the origin of the request if an entry allows it. -/
def Sharing.Echoes (allow : Sharing → String → Option String) : Prop :=
  ∀ (sharing : Sharing) (entries : List Entry), sharing.origins = .listed entries → ∀ origin ≠ "",
    allow sharing origin = if entries.any (·.allows origin) then some origin else none

theorem Sharing.echoes_allow? : Echoes allow? := by
  intro sharing entries listed origin given
  simp [allow?, listed, given, Origins.allows]

namespace Settings

/-- The service can start, as far as its socket goes, and this text states the origins. -/
structure States (environment : List (String × String)) (configuration : Record)
    (text : String) : Prop where
  socket : ∃ port, Text.integer ((environment.lookup "PORT").getD "5001") = .ok port
  origins : (configuration.lookup "CORS_ORIGINS").getD
    (.text ((environment.lookup "RULE_ENGINE_CORS_ORIGINS").getD "*")) = .text text

variable {environment : List (String × String)} {configuration : Record} {text : String}
variable {allow : Sharing → String → Option String}

theorem States.read_ok (states : States environment configuration text) {entries : List Entry}
    (listed : Origins.ofSetting (.text text) = .ok (.listed entries)) :
    ∃ settings, read environment configuration = .ok settings ∧
      settings.sharing.origins = .listed entries := by
  obtain ⟨port, socket⟩ := states.socket
  simp only [read, socket, states.origins, listed]
  exact ⟨_, rfl, rfl⟩

theorem States.starts (echoes : Sharing.Echoes allow)
    (states : States environment configuration text) {pieces : List String} (cut : Listing text pieces)
    (stand : ∀ name ∈ named pieces, ∃ entry, Entry.StandsFor name entry) :
    ∃ settings, read environment configuration = .ok settings ∧ ∀ origin ≠ "",
      allow settings.sharing origin =
        if ∃ name ∈ named pieces, Text.foldCase name = Text.foldCase origin then some origin
        else none := by
  obtain ⟨entries, stand⟩ := exists_forall₂ stand
  have listed : Origins.ofSetting (.text text) = .ok (.listed entries) := by
    have found : (Origins.names text).mapM Entry.ofText = .ok entries := by
      rw [Origins.names_eq cut]
      exact mapM_eq_ok.mpr (stand.imp fun _ _ here => here.read)
    rw [Origins.ofSetting, Origins.entries, found]
    exact congrArg Except.ok (Entry.ofEntries_eq stand)
  obtain ⟨settings, done, origins⟩ := states.read_ok listed
  refine ⟨settings, done, fun origin given => ?_⟩
  simp only [echoes _ _ origins origin given, Entry.any_allows_iff stand given]

/-- Whatever answers for the origins by the entries of a list: an origin is allowed if some piece of
the text that is not blank equals it but for the letter case. What changes the list of pieces only in
blanks, repetition or order allows the same origins, and blank pieces alone allow none. -/
theorem origins_allowed_as_listed (echoes : Sharing.Echoes allow)
    (states : States environment configuration text) {pieces : List String} (cut : Listing text pieces)
    (noStar : ∀ piece ∈ pieces, Text.trim piece ≠ "*")
    (stand : ∀ piece ∈ pieces, Text.trim piece ≠ "" → Text.trim piece ≠ "*" →
      ∃ entry, Entry.StandsFor (Text.trim piece) entry) :
    ∃ settings, read environment configuration = .ok settings ∧
      (∀ origin ≠ "", allow settings.sharing origin =
        if ∃ piece ∈ pieces, Text.trim piece ≠ "" ∧
          Text.foldCase (Text.trim piece) = Text.foldCase origin then some origin else none) ∧
      (∀ others, Relation.EqvGen Relisted pieces others → ∀ environment configuration text,
        States environment configuration text → Listing text others →
        ∃ later, read environment configuration = .ok later ∧
          ∀ origin ≠ "", allow later.sharing origin = allow settings.sharing origin) ∧
      ((∀ piece ∈ pieces, Text.trim piece = "") →
        ∀ origin ≠ "", allow settings.sharing origin = none) := by
  have stand : ∀ name ∈ named pieces, ∃ entry, Entry.StandsFor name entry := by
    intro name inside
    obtain ⟨⟨piece, among, rfl⟩, filled⟩ := mem_named.mp inside
    exact stand piece among filled (noStar piece among)
  obtain ⟨settings, starts, allowed⟩ := states.starts echoes cut stand
  refine ⟨settings, starts, ?_, ?_, ?_⟩
  · intro origin given
    simp only [allowed origin given, exists_mem_named]
  · intro others relisted environment configuration text states cut
    have same := mem_named_iff relisted
    obtain ⟨later, starts, alike⟩ :=
      states.starts echoes cut fun name inside => stand name ((same name).mpr inside)
    refine ⟨later, starts, fun origin given => ?_⟩
    simp only [alike origin given, allowed origin given, same]
  · intro blank origin given
    have empty : named pieces = [] := by simpa [named] using blank
    simp [allowed origin given, empty]

theorem origins_allowed_among_blanks :
    ∃ settings, read [("RULE_ENGINE_CORS_ORIGINS", ", HTTP://A.io,,\u2003b.io ,")] [] = .ok settings ∧
      settings.sharing.allow? "http://a.io" = some "http://a.io" ∧
      settings.sharing.allow? "http://c.io" = none := by
  have states : States [("RULE_ENGINE_CORS_ORIGINS", ", HTTP://A.io,,\u2003b.io ,")] []
      ", HTTP://A.io,,\u2003b.io ," := ⟨⟨5001, by decide⟩, rfl⟩
  have cut : Listing ", HTTP://A.io,,\u2003b.io ," ["", " HTTP://A.io", "", "\u2003b.io ", ""] :=
    ⟨by decide, by decide, by decide⟩
  have plain : ∀ piece ∈ ["", " HTTP://A.io", "", "\u2003b.io ", ""],
      (Text.trim piece).toList.any Entry.isPatternChar = false := by decide
  obtain ⟨settings, starts, allowed, _⟩ := origins_allowed_as_listed
    Sharing.echoes_allow? states cut (by decide)
    fun piece inside _ _ => ⟨_, Entry.standsFor_name (plain piece inside)⟩
  refine ⟨settings, starts, ?_, ?_⟩
  · rw [allowed _ (by decide)]
    decide +kernel
  · rw [allowed _ (by decide)]
    decide +kernel

end Settings

end Rulebook

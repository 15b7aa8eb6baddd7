import Rulebook.Proofs.Json.Scalar

/-! A value is read back from its JSON text, if its objects hold each key once and its integers are
short. -/
namespace Rulebook

namespace Value

mutual
/-- Whether the JSON text of a value can be read. -/
def Writable : Value → Prop
  | .null => True
  | .scalar literal => literal.Short
  | .list items => WritableItems items
  | .object fields => (fields.map Prod.fst).Nodup ∧ WritableFields fields

def WritableItems : List Value → Prop
  | [] => True
  | item :: rest => item.Writable ∧ WritableItems rest

def WritableFields : List (String × Value) → Prop
  | [] => True
  | (_, value) :: rest => value.Writable ∧ WritableFields rest
end

end Value

namespace Json

theorem tokens_eq (chars : List Char) :
    tokens chars =
      match chars.dropWhile isSpace with
      | [] => []
      | c :: others =>
        match Token.read? (c :: others) with
        | none => [none]
        | some (token, rest) => some token :: tokens rest := by
  rw [tokens]
  split
  · rename_i front
    rw [front]
  · rename_i front
    rw [front]
    dsimp only
    split <;> simp_all

theorem tokens_space (chars : List Char) : tokens (' ' :: chars) = tokens chars := by
  rw [tokens_eq, tokens_eq chars]
  rfl

theorem tokens_of_read? {chars rest : List Char} {token : Token}
    (front : ∀ c ∈ chars.head?, isSpace c = false) (read : Token.read? chars = some (token, rest)) :
    tokens chars = some token :: tokens rest := by
  cases chars with
  | nil => cases read
  | cons c more =>
    have kept : (c :: more).dropWhile isSpace = c :: more :=
      List.dropWhile_cons_of_neg (by simp [front c rfl])
    rw [tokens_eq, kept]
    dsimp only
    rw [read]

def State.along (state : State) (chars : List Char) : Except Fault State :=
  (tokens chars).foldlM (State.step none) state

section Steps

variable {chars rest : List Char} {state next : State} {frames : List Frame}
variable {items : List Value} {fields : List (String × Value)} {key : String} {held : Value}

theorem State.along_token {token : Token} (front : ∀ c ∈ chars.head?, isSpace c = false)
    (read : Token.read? chars = some (token, rest))
    (step : State.step none state (some token) = .ok next) : state.along chars = next.along rest := by
  rw [along, tokens_of_read? front read, List.foldlM_cons, step]
  rfl

theorem State.along_mark {c : Char} {token : Token} (front : isSpace c = false)
    (read : Token.read? (c :: rest) = some (token, rest))
    (step : State.step none state (some token) = .ok next) :
    state.along (c :: rest) = next.along rest :=
  State.along_token (by rintro d ⟨⟩; exact front) read step

theorem State.along_space (state : State) (rest : List Char) :
    state.along (' ' :: rest) = state.along rest := by
  rw [along, tokens_space, along]

theorem along_value {first : Bool} (read : Token.read? chars = some (.value held, rest) ∧
    ∀ c ∈ chars.head?, isSpace c = false) :
    (⟨.value first, frames⟩ : State).along chars = (⟨.after held, frames⟩ : State).along rest :=
  State.along_token read.2 read.1 rfl

theorem along_openList {first : Bool} :
    (⟨.value first, frames⟩ : State).along ('[' :: rest) =
      (⟨.value true, .list [] :: frames⟩ : State).along rest :=
  State.along_mark rfl rfl rfl

theorem along_emptyList :
    (⟨.value true, .list [] :: frames⟩ : State).along (']' :: rest) =
      (⟨.after (.list []), frames⟩ : State).along rest :=
  State.along_mark rfl rfl rfl

theorem along_nextItem :
    (⟨.after held, .list items :: frames⟩ : State).along (',' :: ' ' :: rest) =
      (⟨.value false, .list (held :: items) :: frames⟩ : State).along rest :=
  (State.along_mark rfl rfl rfl).trans (State.along_space _ rest)

theorem along_closeList :
    (⟨.after held, .list items :: frames⟩ : State).along (']' :: rest) =
      (⟨.after (.list (held :: items).reverse), frames⟩ : State).along rest :=
  State.along_mark rfl rfl rfl

theorem along_openObject {first : Bool} :
    (⟨.value first, frames⟩ : State).along ('\x7b' :: rest) =
      (⟨.key [] true, frames⟩ : State).along rest :=
  State.along_mark rfl rfl rfl

theorem along_emptyObject :
    (⟨.key fields true, frames⟩ : State).along ('\x7d' :: rest) =
      (⟨.after (.object fields), frames⟩ : State).along rest :=
  State.along_mark rfl rfl rfl

theorem along_key {first : Bool} :
    (⟨.key fields first, frames⟩ : State).along (quoted key ++ ':' :: ' ' :: rest) =
      (⟨.value false, .object fields key :: frames⟩ : State).along rest := by
  obtain ⟨token, front⟩ := Token.read?_quoted key
  calc (⟨.key fields first, frames⟩ : State).along (quoted key ++ ':' :: ' ' :: rest)
    _ = (⟨.colon fields key, frames⟩ : State).along (':' :: ' ' :: rest) :=
      State.along_token front token rfl
    _ = (⟨.value false, .object fields key :: frames⟩ : State).along (' ' :: rest) :=
      State.along_mark rfl rfl rfl
    _ = _ := State.along_space _ rest

theorem along_nextField :
    (⟨.after held, .object fields key :: frames⟩ : State).along (',' :: ' ' :: rest) =
      (⟨.key (setField key held fields) false, frames⟩ : State).along rest :=
  (State.along_mark rfl rfl rfl).trans (State.along_space _ rest)

theorem along_closeObject :
    (⟨.after held, .object fields key :: frames⟩ : State).along ('\x7d' :: rest) =
      (⟨.after (.object (setField key held fields)), frames⟩ : State).along rest :=
  State.along_mark rfl rfl rfl

end Steps

theorem setField_new {key : String} {value : Value} {fields : List (String × Value)}
    (new : key ∉ fields.map Prod.fst) : setField key value fields = fields ++ [(key, value)] := by
  induction fields with
  | nil => rfl
  | cons field fields ih =>
    simp only [List.map_cons, List.mem_cons, not_or] at new
    rw [setField, if_neg (Ne.symm new.1), ih new.2]
    rfl

theorem stops_comma (rest : List Char) : Stops (',' :: rest) := by
  rintro c ⟨⟩
  exact .inl rfl

theorem stops_closeList (rest : List Char) : Stops (']' :: rest) := by
  rintro c ⟨⟩
  exact .inr (.inl rfl)

theorem stops_closeObject (rest : List Char) : Stops ('\x7d' :: rest) := by
  rintro c ⟨⟩
  exact .inr (.inr rfl)

theorem new_key {before later : List (String × Value)} {key : String} {held : Value}
    (distinct : ((before ++ (key, held) :: later).map Prod.fst).Nodup) :
    key ∉ before.map Prod.fst := by
  rw [List.map_append, List.nodup_append] at distinct
  exact fun inside => distinct.2.2 key inside key (by simp) rfl

mutual
/-- The characters of a value leave the state in which it has been read, whatever follows. -/
theorem along_write (value : Value) (writable : value.Writable) (first : Bool)
    (frames : List Frame) {rest : List Char} (stops : Stops rest) :
    (⟨.value first, frames⟩ : State).along (write value ++ rest) =
      (⟨.after value, frames⟩ : State).along rest := by
  match value with
  | .null => exact along_value (Token.read?_of_scalar? rfl)
  | .scalar literal => exact along_value (Token.read?_writeLiteral writable stops)
  | .list [] => exact along_openList.trans along_emptyList
  | .list (item :: items) =>
    rw [write, List.cons_append, List.append_assoc, List.singleton_append, along_openList,
      along_items (item :: items) (List.cons_ne_nil item items) writable [] true frames rest]
    rfl
  | .object [] => exact along_openObject.trans along_emptyObject
  | .object (field :: fields) =>
    rw [write, List.cons_append, List.append_assoc, List.singleton_append, along_openObject,
      along_fields (field :: fields) (List.cons_ne_nil field fields) writable.2 [] writable.1 true
        frames rest]
    rfl

theorem along_items (items : List Value) (nonempty : items ≠ []) (writable : Value.WritableItems items)
    (before : List Value) (first : Bool) (frames : List Frame) (rest : List Char) :
    (⟨.value first, .list before :: frames⟩ : State).along (writeItems items ++ ']' :: rest) =
      (⟨.after (.list (before.reverse ++ items)), frames⟩ : State).along rest := by
  match items with
  | [item] =>
    rw [writeItems, along_write item writable.1 first _ (stops_closeList rest), along_closeList,
      List.reverse_cons]
  | item :: next :: others =>
    rw [writeItems, List.append_assoc, List.cons_append, List.cons_append,
      along_write item writable.1 first _ (stops_comma _), along_nextItem,
      along_items (next :: others) (List.cons_ne_nil next others) writable.2 (item :: before) false
        frames rest, List.reverse_cons, List.append_assoc]
    · rfl
    · nofun

theorem along_fields (fields : List (String × Value)) (nonempty : fields ≠ [])
    (writable : Value.WritableFields fields) (before : List (String × Value))
    (distinct : ((before ++ fields).map Prod.fst).Nodup) (first : Bool) (frames : List Frame)
    (rest : List Char) :
    (⟨.key before first, frames⟩ : State).along (writeFields fields ++ '\x7d' :: rest) =
      (⟨.after (.object (before ++ fields)), frames⟩ : State).along rest := by
  match fields with
  | [(key, held)] =>
    rw [writeFields, List.append_assoc, List.cons_append, List.cons_append, along_key,
      along_write held writable.1 false _ (stops_closeObject rest), along_closeObject,
      setField_new (new_key distinct)]
  | (key, held) :: field :: others =>
    rw [writeFields, List.append_assoc, List.append_assoc, List.cons_append, List.cons_append,
      List.cons_append, List.cons_append, along_key,
        along_write held writable.1 false _ (stops_comma _),
      along_nextField, setField_new (new_key distinct),
      along_fields (field :: others) (List.cons_ne_nil field others) writable.2
        (before ++ [(key, held)]) (by simpa using distinct) false frames rest, List.append_assoc]
    · rfl
    · nofun
end

theorem halved_notMem {limit : Option Nat} {found : List (Option Token)} {state last : State}
    (done : found.foldlM (State.step limit) state = .ok last) : some .halved ∉ found := by
  induction found generalizing state with
  | nil => exact List.not_mem_nil
  | cons token found ih =>
    rw [List.foldlM_cons] at done
    cases taken : State.step limit state token with
    | error fault => simp [taken, bind, Except.bind] at done
    | ok next =>
      rw [taken] at done
      rw [List.mem_cons, not_or]
      refine ⟨?_, ih done⟩
      rintro rfl
      simp [State.step] at taken

theorem readChars_of_steps {limit : Option Nat} {chars : List Char} {value : Value}
    (done : (tokens chars).foldlM (State.step limit) ⟨.value false, []⟩ = .ok ⟨.after value, []⟩) :
    readChars limit chars = .ok value := by
  have whole := halved_notMem done
  have filled : (tokens chars).map (·.map Token.filled) = tokens chars := by
    conv_rhs => rw [← List.map_id (tokens chars)]
    refine List.map_congr_left fun token inside => ?_
    cases token with
    | none => rfl
    | some token =>
      cases token with
      | halved => exact absurd inside whole
      | _ => rfl
  rw [readChars, filled, done]
  exact if_neg whole

/-- A value is read back from its JSON text. -/
theorem readChars_write {value : Value} (writable : value.Writable) :
    readChars none (write value) = .ok value := by
  have read := along_write value writable false [] (show Stops [] from nofun)
  have done : (⟨.after value, []⟩ : State).along [] = .ok ⟨.after value, []⟩ := by
    rw [State.along, tokens_eq]
    rfl
  rw [List.append_nil, done] at read
  exact readChars_of_steps read

end Json

end Rulebook

import DialogueIndex.Proofs.Data.JsonScalar

/-! # Reading back values

A value that is spread over lines is read back with nothing of the text left over, provided that its
measured numbers are. Reading goes down one unit of fuel for each item and field as well as for each
level, so the length of the text is always enough.
-/

namespace DialogueIndex

/-- Whether the written form of a number is read as the same number. -/
def Binary64.ReadsBack (x : Binary64) : Prop :=
  Json.readNumber (x.toText jsonNumbers) = some (.number x, [])

/-- The number that the written form of a number is read as. -/
def Binary64.reread? (x : Binary64) : Option Binary64 :=
  match Json.readNumber (x.toText jsonNumbers) with
  | some (.number y, []) => some y
  | _ => none

theorem Binary64.readsBack_iff {x : Binary64} : x.ReadsBack ↔ x.reread? = some x := by
  unfold ReadsBack reread?
  constructor
  · intro h
    rw [h]
  · intro h
    split at h
    next y hread =>
      cases h
      exact hread
    next => exact absurd h nofun

instance (x : Binary64) : Decidable x.ReadsBack := decidable_of_iff _ Binary64.readsBack_iff.symm

/-- The values whose measured numbers read back. -/
inductive Data.IsReadable : Data → Prop
  | null : IsReadable .null
  | bool (value : Bool) : IsReadable (.bool value)
  | nat (value : Nat) : IsReadable (.nat value)
  | number {x : Binary64} (hx : x.ReadsBack) : IsReadable (.number x)
  | text (value : String) : IsReadable (.text value)
  | list {items : List Data} (h : ∀ item ∈ items, IsReadable item) : IsReadable (.list items)
  | record {fields : List (String × Data)} (h : ∀ field ∈ fields, IsReadable field.2) :
    IsReadable (.record fields)

namespace Data

attribute [simp] IsReadable.nat IsReadable.text

@[simp] theorem isReadable_number_iff {x : Binary64} : (number x).IsReadable ↔ x.ReadsBack :=
  ⟨fun | .number hx => hx, .number⟩

@[simp] theorem isReadable_list_iff {items : List Data} :
    (list items).IsReadable ↔ ∀ item ∈ items, item.IsReadable :=
  ⟨fun | .list h => h, .list⟩

@[simp] theorem isReadable_record_iff {fields : List (String × Data)} :
    (record fields).IsReadable ↔ ∀ field ∈ fields, field.2.IsReadable :=
  ⟨fun | .record h => h, .record⟩

end Data

namespace Json

/-! ## Between tokens -/

theorem skip_newline (level : Nat) (cs : List Char) : skip (newline level ++ cs) = skip cs := by
  have hblank : ∀ n, skip (List.replicate n ' ' ++ cs) = skip cs := by
    intro n
    induction n with
    | zero => rfl
    | succ n ih => exact ih
  exact hblank (2 * level)

/-- Whether the text of a value may begin with a character: it neither stands between tokens nor
closes a list. -/
def isValueHead (c : Char) : Bool := !isBetween c && c != ']'

theorem skip_cons {c : Char} (hc : isValueHead c = true) (cs : List Char) :
    skip (c :: cs) = c :: cs := by
  have hbetween : isBetween c = false := by
    simp only [isValueHead, Bool.and_eq_true, Bool.not_eq_true'] at hc
    exact hc.1
  simp [skip, hbetween]

theorem isValueHead_of_isNumberHead {c : Char} (hc : isNumberHead c = true) :
    isValueHead c = true := by
  have hne : ∀ d, isNumberHead d = false → c ≠ d := by
    rintro d hd rfl
    exact absurd hc (by simp [hd])
  simp [isValueHead, isBetween, hne ' ' (by decide), hne '\n' (by decide), hne '\t' (by decide),
    hne '\r' (by decide), hne ']' (by decide)]

theorem any_head?_spread {value : Data} (h : value.IsReadable) (level : Nat) :
    (spread level value).head?.any isValueHead = true := by
  have hnumber : ∀ {cs value}, readNumber cs = some (value, []) →
      cs.head?.any isValueHead = true := by
    intro cs value hread
    obtain ⟨c, cs, rfl, hc⟩ := exists_head_of_readNumber hread
    exact isValueHead_of_isNumberHead hc
  cases h with
  | null => simp [spread, scalar, isValueHead, isBetween]
  | bool value => cases value <;> simp [spread, scalar, isValueHead, isBetween]
  | nat value =>
    simp only [spread, scalar]
    exact hnumber (readNumber_toDigits value)
  | number hx =>
    simp only [spread, scalar]
    exact hnumber hx
  | text value => simp [spread, scalar, quote, isValueHead, isBetween]
  | @list items h => cases items <;> simp [spread, scalar, isValueHead, isBetween]
  | @record fields h => cases fields <;> simp [spread, scalar, isValueHead, isBetween]

theorem exists_head_spread {value : Data} (h : value.IsReadable) (level : Nat) :
    ∃ c cs, spread level value = c :: cs ∧ isValueHead c = true := by
  have hhead := any_head?_spread h level
  cases htext : spread level value with
  | nil => exact absurd (htext ▸ hhead) nofun
  | cons c cs => exact ⟨c, cs, rfl, by simpa [htext] using hhead⟩

/-- Nothing stands in front of a value that has to be skipped. -/
theorem skip_spread {value : Data} (h : value.IsReadable) (level : Nat) (cs : List Char) :
    skip (spread level value ++ cs) = spread level value ++ cs := by
  obtain ⟨c, tail, htext, hc⟩ := exists_head_spread h level
  rw [htext, List.cons_append, skip_cons hc]

/-! ## Items, fields and values -/

/-- Whether the text of a value is read as that value, in front of whatever may follow a number. -/
def Reads (value : Data) : Prop :=
  ∀ level fuel rest, EndsNumber rest → (spread level value).length < fuel →
    readValue fuel (spread level value ++ rest) = some (value, rest)

theorem readValue_number {cs rest : List Char} {value : Data} (fuel : Nat)
    (h : readNumber cs = some (value, [])) (hrest : EndsNumber rest) :
    readValue (fuel + 1) (cs ++ rest) = some (value, rest) := by
  obtain ⟨c, tail, rfl, hc⟩ := exists_head_of_readNumber h
  have hne : ∀ d, isNumberHead d = false → c ≠ d := by
    rintro d hd rfl
    exact absurd hc (by simp [hd])
  rw [← hrest.readNumber_append h, List.cons_append]
  simp [readValue, hne '\"' rfl, hne '[' rfl, hne '\x7b' rfl, hne 't' rfl, hne 'f' rfl, hne 'n' rfl]

/-- What follows a value: the start of the next line or the comma before it. -/
theorem endsNumber_spreadItems (level outer : Nat) (items : List Data) (cs : List Char) :
    EndsNumber (spreadItems level items ++ (newline outer ++ cs)) := by
  cases items with
  | nil => exact endsNumber_cons (by decide)
  | cons item items =>
    rw [spreadItems]
    exact endsNumber_cons (by decide)

theorem endsNumber_spreadFields (level outer : Nat) (fields : List (String × Data))
    (cs : List Char) : EndsNumber (spreadFields level fields ++ (newline outer ++ cs)) := by
  cases fields with
  | nil => exact endsNumber_cons (by decide)
  | cons field fields =>
    rw [spreadFields]
    exact endsNumber_cons (by decide)

/-- The items of a list are read up to its closing bracket. -/
theorem readItems_spreadItems {items : List Data} (level outer : Nat) (rest : List Char) :
    ∀ {item fuel}, (∀ i ∈ item :: items, i.IsReadable ∧ Reads i) →
      (spread level item).length + (spreadItems level items).length + 1 < fuel →
      readItems fuel
          (spread level item ++ (spreadItems level items ++ (newline outer ++ ']' :: rest))) =
        some (item :: items, rest) := by
  induction items with
  | nil =>
    intro item fuel h hfuel
    obtain ⟨fuel, rfl⟩ : ∃ k, fuel = k + 1 := ⟨fuel - 1, by omega⟩
    have hitem := (h item List.mem_cons_self).2 level fuel _
      (endsNumber_spreadItems level outer [] (']' :: rest)) (by omega)
    have hclose : skip (spreadItems level [] ++ (newline outer ++ ']' :: rest)) = ']' :: rest :=
      skip_newline outer _
    simp [readItems, hitem, hclose]
  | cons next items ih =>
    intro item fuel h hfuel
    obtain ⟨fuel, rfl⟩ : ∃ k, fuel = k + 1 := ⟨fuel - 1, by omega⟩
    have hitem := (h item List.mem_cons_self).2 level fuel _
      (endsNumber_spreadItems level outer (next :: items) (']' :: rest)) (by omega)
    have hcomma : skip (spreadItems level (next :: items) ++ (newline outer ++ ']' :: rest)) =
        ',' :: (newline level ++ (spread level next ++
          (spreadItems level items ++ (newline outer ++ ']' :: rest)))) := by
      simp [spreadItems, skip_cons (c := ',') rfl]
    -- The comma in front of an item pays for the fuel that goes with the item before it.
    have hlength : (spread level next).length + (spreadItems level items).length + 1 <
        (spreadItems level (next :: items)).length := by
      simp only [spreadItems, newline, List.length_append, List.length_cons]
      omega
    have hitems : readItems fuel (spread level next ++ (spreadItems level items ++
        (newline outer ++ ']' :: rest))) = some (next :: items, rest) :=
      ih (fun i hi => h i (.tail _ hi)) (by omega)
    simp [readItems, hitem, hcomma, skip_newline, skip_spread (h next (by simp)).1, hitems]

theorem quote_append (text : String) (cs : List Char) :
    quote text ++ cs = '\"' :: (text.toList.flatMap escapeChar ++ '\"' :: cs) := by
  simp [quote]

/-- The fields of a record are read up to its closing brace. -/
theorem readFields_spreadFields {fields : List (String × Data)} (level outer : Nat)
    (rest : List Char) :
    ∀ {name value fuel}, (∀ f ∈ (name, value) :: fields, f.2.IsReadable ∧ Reads f.2) →
      (spread level value).length + (spreadFields level fields).length + 1 < fuel →
      readFields fuel (quote name ++ (':' :: ' ' :: (spread level value ++
          (spreadFields level fields ++ (newline outer ++ '\x7d' :: rest))))) =
        some ((name, value) :: fields, rest) := by
  have hcolon : ∀ cs, skip (':' :: cs) = ':' :: cs := skip_cons rfl
  have hblank : ∀ cs, skip (' ' :: cs) = skip cs := fun cs => rfl
  induction fields with
  | nil =>
    intro name value fuel h hfuel
    obtain ⟨fuel, rfl⟩ : ∃ k, fuel = k + 1 := ⟨fuel - 1, by omega⟩
    have hreadable : value.IsReadable := (h (name, value) List.mem_cons_self).1
    have hvalue := (h (name, value) List.mem_cons_self).2 level fuel _
      (endsNumber_spreadFields level outer [] ('\x7d' :: rest)) (by simp only; omega)
    have hclose : skip (spreadFields level [] ++ (newline outer ++ '\x7d' :: rest)) =
        '\x7d' :: rest :=
      skip_newline outer _
    simp [quote_append name, readFields, readString_quoted, hcolon, hblank, skip_spread hreadable,
      hvalue, hclose]
  | cons next fields ih =>
    intro name value fuel h hfuel
    obtain ⟨fuel, rfl⟩ : ∃ k, fuel = k + 1 := ⟨fuel - 1, by omega⟩
    have hreadable : value.IsReadable := (h (name, value) List.mem_cons_self).1
    have hvalue := (h (name, value) List.mem_cons_self).2 level fuel _
      (endsNumber_spreadFields level outer (next :: fields) ('\x7d' :: rest)) (by simp only; omega)
    have hcomma : skip (spreadFields level (next :: fields) ++ (newline outer ++ '\x7d' :: rest)) =
        ',' :: (newline level ++ (quote next.1 ++ (':' :: ' ' :: (spread level next.2 ++
          (spreadFields level fields ++ (newline outer ++ '\x7d' :: rest)))))) := by
      simp [spreadFields, skip_cons (c := ',') rfl]
    have hname : ∀ cs, skip (quote next.1 ++ cs) = quote next.1 ++ cs := by
      intro cs
      rw [quote_append, skip_cons rfl]
    have hlength : (spread level next.2).length + (spreadFields level fields).length + 1 <
        (spreadFields level (next :: fields)).length := by
      simp only [spreadFields, newline, List.length_append, List.length_cons]
      omega
    have hfields : readFields fuel (quote next.1 ++ (':' :: ' ' :: (spread level next.2 ++
        (spreadFields level fields ++ (newline outer ++ '\x7d' :: rest))))) =
          some (next :: fields, rest) :=
      ih (fun f hf => h f (.tail _ hf)) (by omega)
    simp [quote_append name, readFields, readString_quoted, hcolon, hblank, skip_newline,
      skip_spread hreadable, hvalue, hcomma, hname, hfields]

theorem Reads.of_succ {value : Data}
    (h : ∀ level fuel rest, EndsNumber rest → (spread level value).length ≤ fuel →
      readValue (fuel + 1) (spread level value ++ rest) = some (value, rest)) : Reads value := by
  intro level fuel rest hrest hfuel
  cases fuel with
  | zero => omega
  | succ fuel => exact h level fuel rest hrest (by omega)

/-- Every value whose numbers read back is read from its text. -/
theorem reads_of_isReadable {value : Data} (h : value.IsReadable) : Reads value := by
  refine Reads.of_succ fun level fuel rest hrest hfuel => ?_
  induction h generalizing level fuel rest with
  | null => simp [spread, scalar, readValue, readWord]
  | bool value => cases value <;> simp [spread, scalar, readValue, readWord]
  | nat n =>
    simp only [spread, scalar]
    exact readValue_number fuel (readNumber_toDigits n) hrest
  | number hx =>
    simp only [spread, scalar]
    exact readValue_number fuel hx hrest
  | text value => simp [spread, scalar, quote_append, readValue, readString_quoted]
  | @list items h ih =>
    cases items with
    | nil => simp [spread, scalar, readValue, skip, isBetween]
    | cons item items =>
      -- The list is seen to have items by the first character of the first one.
      obtain ⟨c, cs, htext, hc⟩ := exists_head_spread (h item List.mem_cons_self) (level + 1)
      have hbracket : c ≠ ']' := by
        rintro rfl
        exact absurd hc (by decide)
      have hitems : readItems fuel (spread (level + 1) item ++ (spreadItems (level + 1) items ++
          (newline level ++ ']' :: rest))) = some (item :: items, rest) := by
        refine readItems_spreadItems _ _ _ (fun i hi => ⟨h i hi, .of_succ (ih i hi)⟩) ?_
        simp only [spread, newline, List.length_append, List.length_cons] at hfuel
        omega
      rw [htext, List.cons_append] at hitems
      simp [spread, readValue, htext, skip_newline, skip_cons hc, hbracket, hitems]
  | @record fields h ih =>
    cases fields with
    | nil => simp [spread, scalar, readValue, skip, isBetween]
    | cons field fields =>
      have hfields : readFields fuel (quote field.1 ++ (':' :: ' ' :: (spread (level + 1) field.2 ++
          (spreadFields (level + 1) fields ++ (newline level ++ '\x7d' :: rest))))) =
            some (field :: fields, rest) := by
        refine readFields_spreadFields _ _ _ (fun f hf => ⟨h f hf, .of_succ (ih f hf)⟩) ?_
        simp only [spread, newline, List.length_append, List.length_cons] at hfuel
        omega
      rw [quote_append] at hfields
      simp [spread, readValue, quote_append, skip_newline, skip_cons (c := '\"') rfl, hfields]

end Json

/-- Reading undoes writing. -/
theorem Data.ofJson?_toJson {value : Data} (h : value.IsReadable) :
    Data.ofJson? value.toJson = some value := by
  have hread := Json.reads_of_isReadable h 0 ((Json.spread 0 value).length + 1) []
    Json.endsNumber_nil (by omega)
  have hskip := Json.skip_spread h 0 []
  have hend : Json.skip [] = [] := rfl
  rw [List.append_nil] at hread hskip
  simp [Data.ofJson?, Data.toJson, hskip, hread, hend]

end DialogueIndex

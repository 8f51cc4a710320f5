import DialogueIndex.Data.Json
import DialogueIndex.Data.JsonReader
import Mathlib.Data.List.Forall2
import Mathlib.Data.List.TakeWhile

/-! # Reading back numbers and strings

A number is read to its end, whatever follows, as long as that does not go on with it. A count reads
back from its decimal digits, and a text from its quoted form, since every escape stands for the
character that it was written for.
-/

namespace DialogueIndex

namespace Json

/-! ## Digits -/

theorem head?_toDigits_ne_zero {n : Nat} (hn : 0 < n) : (Nat.toDigits 10 n).head? ≠ some '0' := by
  induction n using Nat.strongRecOn with
  | ind n ih =>
    rw [Nat.toDigits_eq_if (by decide)]
    split
    next hlt =>
      have hdigit : ∀ m < 10, 0 < m → Nat.digitChar m ≠ '0' := by decide
      simpa using hdigit n hlt hn
    next hge =>
      rw [List.head?_append, Option.or_of_isSome (by simp)]
      exact ih (n / 10) (by omega) (by omega)

theorem digitsValue_toDigits (n : Nat) : digitsValue (Nat.toDigits 10 n) = n := by
  have h := Nat.ofDigitChars_toDigits (n := n) (show 1 < 10 by decide) (by decide)
  rw [Nat.ofDigitChars_eq_foldl] at h
  simpa only [digitsValue, Nat.mul_comm] using h

theorem isDigit_of_mem_toDigits {n : Nat} {c : Char} (hc : c ∈ Nat.toDigits 10 n) :
    c.isDigit = true :=
  Nat.isDigit_of_mem_toDigits (by decide) (by decide) hc

/-- The decimal digits of a count are read as that count. -/
theorem readUnsigned_toDigits (n : Nat) :
    readUnsigned false (Nat.toDigits 10 n) = some (.nat n, []) := by
  have hwhole : (Nat.toDigits 10 n).takeWhile Char.isDigit = Nat.toDigits 10 n :=
    List.takeWhile_eq_self_iff.mpr fun _ => isDigit_of_mem_toDigits
  have hrest : (Nat.toDigits 10 n).dropWhile Char.isDigit = [] :=
    List.dropWhile_eq_nil_iff.mpr fun _ => isDigit_of_mem_toDigits
  have hlead : ¬ ((Nat.toDigits 10 n).length > 1 ∧ (Nat.toDigits 10 n).head? = some '0') := by
    rintro ⟨hlength, hzero⟩
    rcases Nat.eq_zero_or_pos n with rfl | hn
    · exact absurd hlength (by decide)
    · exact head?_toDigits_ne_zero hn hzero
  simp [readUnsigned, hwhole, hrest, hlead, readFraction, readExponent, digitsValue_toDigits,
    Nat.toDigits_ne_nil]

/-- Whether the text of a number may begin with a character. -/
def isNumberHead (c : Char) : Bool := c == '-' || c.isDigit

theorem readNumber_of_ne {c : Char} (hc : c ≠ '-') (cs : List Char) :
    readNumber (c :: cs) = readUnsigned false (c :: cs) := by
  unfold readNumber
  split
  next heq => exact absurd (List.cons.inj heq).1 hc
  next => rfl

theorem exists_toDigits_eq_cons (n : Nat) :
    ∃ c cs, Nat.toDigits 10 n = c :: cs ∧ c.isDigit = true := by
  obtain ⟨c, cs, hdigits⟩ := List.exists_cons_of_ne_nil (Nat.toDigits_ne_nil (n := n) (b := 10))
  exact ⟨c, cs, hdigits, isDigit_of_mem_toDigits (hdigits ▸ List.mem_cons_self)⟩

theorem readNumber_toDigits (n : Nat) : readNumber (Nat.toDigits 10 n) = some (.nat n, []) := by
  obtain ⟨c, cs, hdigits, hc⟩ := exists_toDigits_eq_cons n
  have hne : c ≠ '-' := by
    rintro rfl
    exact absurd hc (by decide)
  rw [hdigits, readNumber_of_ne hne, ← hdigits, readUnsigned_toDigits]

/-! ## Numbers in front of something else -/

/-- Whether a number does not go on with a text. -/
def EndsNumber (rest : List Char) : Prop :=
  ∀ c ∈ rest.head?, c.isDigit = false ∧ c ≠ '.' ∧ c ≠ 'e' ∧ c ≠ 'E'

theorem endsNumber_nil : EndsNumber [] := fun _ h => nomatch h

theorem endsNumber_cons {c : Char} {cs : List Char}
    (h : c.isDigit = false ∧ c ≠ '.' ∧ c ≠ 'e' ∧ c ≠ 'E') : EndsNumber (c :: cs) := by
  rintro _ ⟨⟩
  exact h

variable {rest : List Char}

theorem EndsNumber.takeWhile_append (hrest : EndsNumber rest) (cs : List Char) :
    (cs ++ rest).takeWhile Char.isDigit = cs.takeWhile Char.isDigit := by
  induction cs with
  | nil =>
    cases rest with
    | nil => rfl
    | cons c rest => simp [(hrest c rfl).1]
  | cons c cs ih => simp only [List.cons_append, List.takeWhile_cons, ih]

theorem EndsNumber.dropWhile_append (hrest : EndsNumber rest) (cs : List Char) :
    (cs ++ rest).dropWhile Char.isDigit = cs.dropWhile Char.isDigit ++ rest := by
  induction cs with
  | nil =>
    cases rest with
    | nil => rfl
    | cons c rest => simp [(hrest c rfl).1]
  | cons c cs ih =>
    simp only [List.cons_append, List.dropWhile_cons, ih]
    split <;> rfl

theorem EndsNumber.head?_ne (hrest : EndsNumber rest) :
    rest.head? ≠ some '.' ∧ rest.head? ≠ some 'e' ∧ rest.head? ≠ some 'E' :=
  ⟨fun h => (hrest _ h).2.1 rfl, fun h => (hrest _ h).2.2.1 rfl, fun h => (hrest _ h).2.2.2 rfl⟩

theorem readFraction_of_head?_ne {cs : List Char} (h : cs.head? ≠ some '.') :
    readFraction cs = some ([], cs) := by
  unfold readFraction
  split
  next => exact absurd rfl h
  next => rfl

theorem EndsNumber.readFraction_append (hrest : EndsNumber rest) {cs digits after : List Char}
    (h : readFraction cs = some (digits, after)) :
    readFraction (cs ++ rest) = some (digits, after ++ rest) := by
  by_cases hpoint : cs.head? = some '.'
  · obtain ⟨tail, rfl⟩ := List.head?_eq_some_iff.mp hpoint
    simp only [readFraction, List.cons_append] at h ⊢
    rw [hrest.takeWhile_append, hrest.dropWhile_append]
    split at h
    next => exact absurd h nofun
    next hsome =>
      cases h
      rw [if_neg hsome]
  · rw [readFraction_of_head?_ne hpoint] at h
    cases h
    refine readFraction_of_head?_ne ?_
    cases cs with
    | nil => exact hrest.head?_ne.1
    | cons c cs => exact hpoint

theorem EndsNumber.readExponentDigits_append (hrest : EndsNumber rest) {negative : Bool}
    {cs after : List Char} {exponent : Option Int}
    (h : readExponentDigits negative cs = some (exponent, after)) :
    readExponentDigits negative (cs ++ rest) = some (exponent, after ++ rest) := by
  simp only [readExponentDigits] at h ⊢
  rw [hrest.takeWhile_append, hrest.dropWhile_append]
  split at h
  next => exact absurd h nofun
  next hsome =>
    cases h
    rw [if_neg hsome]

theorem EndsNumber.readExponent_append (hrest : EndsNumber rest) {cs after : List Char}
    {exponent : Option Int} (h : readExponent cs = some (exponent, after)) :
    readExponent (cs ++ rest) = some (exponent, after ++ rest) := by
  cases cs with
  | nil =>
    cases h
    cases rest with
    | nil => rfl
    | cons c rest =>
      have hc : ¬ (c = 'e' ∨ c = 'E') := by
        have hends := (hrest c rfl).2.2
        exact fun h => h.elim hends.1 hends.2
      simp only [List.nil_append, readExponent, if_neg hc]
  | cons e cs =>
    unfold readExponent at h ⊢
    rw [List.cons_append]
    dsimp only at h ⊢
    split at h
    next hmark =>
      rw [if_pos hmark]
      cases cs with
      | nil => exact absurd h nofun
      | cons sign cs =>
        rw [List.cons_append]
        split at h
        next digits heq =>
          cases heq
          exact hrest.readExponentDigits_append h
        next digits heq =>
          cases heq
          exact hrest.readExponentDigits_append h
        next hplus hminus =>
          split
          next digits heq => exact absurd (by rw [(List.cons.inj heq).1]) (hplus cs)
          next digits heq => exact absurd (by rw [(List.cons.inj heq).1]) (hminus cs)
          next => exact hrest.readExponentDigits_append h
    next hmark =>
      cases h
      rw [if_neg hmark, List.cons_append]

theorem EndsNumber.readUnsigned_append (hrest : EndsNumber rest) {negative : Bool}
    {cs after : List Char} {value : Data} (h : readUnsigned negative cs = some (value, after)) :
    readUnsigned negative (cs ++ rest) = some (value, after ++ rest) := by
  unfold readUnsigned at h ⊢
  rw [hrest.takeWhile_append, hrest.dropWhile_append]
  dsimp only at h ⊢
  split at h
  next => exact absurd h nofun
  next hwhole =>
    rw [if_neg hwhole]
    simp only [Option.bind_eq_bind, Option.bind_eq_some_iff, Prod.exists] at h ⊢
    obtain ⟨fraction, afterFraction, hfraction, exponent, afterExponent, hexponent, h⟩ := h
    refine ⟨fraction, afterFraction ++ rest, hrest.readFraction_append hfraction,
      exponent, afterExponent ++ rest, hrest.readExponent_append hexponent, ?_⟩
    split at h
    next hcount =>
      cases h
      rw [if_pos hcount]
      rfl
    next hcount =>
      rw [if_neg hcount]
      obtain ⟨number, hnumber, h⟩ := Option.bind_eq_some_iff.mp h
      cases h
      rw [hnumber]
      rfl

theorem exists_digit_of_readUnsigned {negative : Bool} {cs after : List Char} {value : Data}
    (h : readUnsigned negative cs = some (value, after)) :
    ∃ c tail, cs = c :: tail ∧ c.isDigit = true := by
  cases cs with
  | nil => exact absurd h nofun
  | cons c tail =>
    refine ⟨c, tail, rfl, ?_⟩
    by_cases hc : c.isDigit
    · exact hc
    · rw [readUnsigned, List.takeWhile_cons_of_neg hc] at h
      exact absurd h nofun

/-- A number that is read on its own is read in front of anything that it does not go on with. -/
theorem EndsNumber.readNumber_append (hrest : EndsNumber rest) {cs : List Char} {value : Data}
    (h : readNumber cs = some (value, [])) : readNumber (cs ++ rest) = some (value, rest) := by
  unfold readNumber at h
  split at h
  next tail => exact hrest.readUnsigned_append h
  next hminus =>
    obtain ⟨c, tail, rfl, -⟩ := exists_digit_of_readUnsigned h
    have hc : c ≠ '-' := by
      rintro rfl
      exact hminus tail rfl
    rw [List.cons_append, readNumber_of_ne hc]
    exact hrest.readUnsigned_append h

theorem exists_head_of_readNumber {cs after : List Char} {value : Data}
    (h : readNumber cs = some (value, after)) :
    ∃ c tail, cs = c :: tail ∧ isNumberHead c = true := by
  unfold readNumber at h
  split at h
  next tail => exact ⟨'-', tail, rfl, rfl⟩
  next =>
    obtain ⟨c, tail, rfl, hc⟩ := exists_digit_of_readUnsigned h
    exact ⟨c, tail, rfl, by simp [isNumberHead, hc]⟩

/-! ## Strings -/

/-- Whether a part of a string literal stands for a character, whatever parts follow. -/
inductive StringPart.StandsFor : StringPart → Char → Prop
  | char (c : Char) : StandsFor (.char c) c
  | unit {c : Char} (hc : c.toNat < 0xD800) : StandsFor (.unit c.toNat) c

/-- Parts that stand for one character each join to these characters: none is half of a pair. -/
theorem joinParts_of_standsFor {parts : List StringPart} {cs : List Char}
    (h : List.Forall₂ StringPart.StandsFor parts cs) : joinParts parts = some cs := by
  induction h with
  | nil => rfl
  | @cons part c parts cs hpart hparts ih =>
    cases hpart with
    | char => simp [joinParts, ih]
    | unit hc =>
      have hhigh : ¬ (0xD800 ≤ c.toNat ∧ c.toNat < 0xDC00) := by omega
      have hlow : ¬ (0xDC00 ≤ c.toNat ∧ c.toNat < 0xE000) := by omega
      have hpair : ¬ (0xD800 ≤ c.toNat ∧ c.toNat < 0xE000) := by omega
      -- What a unit joins to depends on whether the next part is a unit as well.
      cases parts with
      | nil =>
        cases hparts
        simp [joinParts, hpair]
      | cons next parts =>
        cases next with
        | char d => simp_all [joinParts]
        | unit number => simp [joinParts, ih, hhigh, hlow]

theorem hexValue?_control {n : Nat} (hn : n < 0x20) :
    hexValue? ['0', '0', Nat.digitChar (n / 16), Nat.digitChar (n % 16)] = some n := by
  have hall : ∀ n < 0x20,
      hexValue? ['0', '0', Nat.digitChar (n / 16), Nat.digitChar (n % 16)] = some n := by
    decide
  exact hall n hn

/-- Whether a text inside a string literal is read as one part that stands for a character. -/
def ReadsAs (text : List Char) (c : Char) : Prop :=
  ∃ part : StringPart, part.StandsFor c ∧ ∀ {cs parts after},
    readParts cs = some (parts, after) → readParts (text ++ cs) = some (part :: parts, after)

theorem readsAs_escape {e c : Char} (h : unescape? e = some c) : ReadsAs ['\\', e] c := by
  refine ⟨.char c, .char c, fun hread => ?_⟩
  have hu : e ≠ 'u' := by
    rintro rfl
    exact absurd h nofun
  simp [readParts, hu, h, hread]

theorem readsAs_control {c : Char} (hc : c.toNat < 0x20) :
    ReadsAs ['\\', 'u', '0', '0', Nat.digitChar (c.toNat / 16), Nat.digitChar (c.toNat % 16)] c :=
  ⟨.unit c.toNat, .unit (by omega), fun hread => by simp [readParts, hexValue?_control hc, hread]⟩

theorem readsAs_plain {c : Char} (hquote : c ≠ '\"') (hslash : c ≠ '\\') (hc : ¬ c.toNat < 0x20) :
    ReadsAs [c] c :=
  ⟨.char c, .char c, fun hread => by simp [readParts, hslash, hc, hread]⟩

theorem readsAs_escapeChar (c : Char) : ReadsAs (escapeChar c) c := by
  unfold escapeChar
  split_ifs with hquote hslash hfeed hreturn htab hback hform hcontrol
  · subst hquote
    exact readsAs_escape rfl
  · subst hslash
    exact readsAs_escape rfl
  · subst hfeed
    exact readsAs_escape rfl
  · subst hreturn
    exact readsAs_escape rfl
  · subst htab
    exact readsAs_escape rfl
  · subst hback
    exact readsAs_escape rfl
  · subst hform
    exact readsAs_escape rfl
  · exact readsAs_control hcontrol
  · exact readsAs_plain hquote hslash hcontrol

theorem exists_readParts_flatMap (cs rest : List Char) :
    ∃ parts, List.Forall₂ StringPart.StandsFor parts cs ∧
      readParts (cs.flatMap escapeChar ++ '\"' :: rest) = some (parts, rest) := by
  induction cs with
  | nil => exact ⟨[], .nil, by simp [readParts]⟩
  | cons c cs ih =>
    obtain ⟨parts, hparts, hread⟩ := ih
    obtain ⟨part, hpart, hstep⟩ := readsAs_escapeChar c
    refine ⟨part :: parts, .cons hpart hparts, ?_⟩
    rw [List.flatMap_cons, List.append_assoc, hstep hread]

/-- A quoted text is read as that text, whatever follows. -/
theorem readString_quoted (text : String) (rest : List Char) :
    readString (text.toList.flatMap escapeChar ++ '\"' :: rest) = some (text, rest) := by
  obtain ⟨parts, hparts, hread⟩ := exists_readParts_flatMap text.toList rest
  simp [readString, hread, joinParts_of_standsFor hparts]

end Json

end DialogueIndex

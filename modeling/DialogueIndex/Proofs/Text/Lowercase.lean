import DialogueIndex.Proofs.Text.CodeRanges
import DialogueIndex.Text.Blank
import DialogueIndex.Text.Lowercase

/-! # Texts in lower case

Lower-casing a text that is in lower case changes nothing, since no run of the case table gives a
form that a run changes further. Lower-casing makes neither white space nor anything that comes
before the small letters. The tables are checked run by run, not character by character.
-/

namespace DialogueIndex

namespace CaseRun

/-- The code point of the lower-case form that a run gives to a code point. -/
def lower (run : CaseRun) (n : Nat) : Nat := (n + run.offset).toNat

/-- Whether the lower-case forms of a run are characters and none comes before the small letters. -/
def givesLetters (run : CaseRun) : Bool :=
  Nat.ble 'a'.toNat (run.lower run.first) &&
    (Nat.blt (run.lower run.last) 0xD800 ||
      Nat.blt 0xDFFF (run.lower run.first) && Nat.blt (run.lower run.last) 0x110000)

/-- Whether another run covers none of the lower-case forms of a run, either because they are out
of its reach or because it covers every second code point and steps over them. -/
def misses (run other : CaseRun) : Bool :=
  Nat.blt other.last (run.lower run.first) || Nat.blt (run.lower run.last) other.first ||
    other.step == 2 && (run.step == 2 || run.first == run.last) &&
      (run.lower run.first + other.first) % 2 == 1

variable {run other : CaseRun} {n : Nat}

theorem covers_iff :
    run.covers n ↔ run.first ≤ n ∧ n ≤ run.last ∧ (n - run.first) % run.step = 0 := by
  simp [covers, and_assoc]

theorem lower_bounds (hn : run.covers n) :
    run.lower run.first ≤ run.lower n ∧ run.lower n ≤ run.lower run.last := by
  obtain ⟨hfirst, hlast, _⟩ := covers_iff.mp hn
  simp only [lower]
  omega

theorem small_le_lower (hgives : run.givesLetters) (hn : run.covers n) :
    'a'.toNat ≤ run.lower n := by
  simp only [givesLetters, Bool.and_eq_true, Nat.ble_eq] at hgives
  exact Nat.le_trans hgives.1 (lower_bounds hn).1

theorem isValidChar_lower (hgives : run.givesLetters) (hn : run.covers n) :
    (run.lower n).isValidChar := by
  have hbounds := lower_bounds hn
  simp only [givesLetters, Bool.and_eq_true, Bool.or_eq_true, Nat.blt_eq] at hgives
  unfold Nat.isValidChar
  omega

theorem not_covers_lower (hgives : run.givesLetters) (hmisses : run.misses other)
    (hn : run.covers n) : ¬ other.covers (run.lower n) := by
  have hbounds := lower_bounds hn
  have hsmall := small_le_lower hgives hn
  obtain ⟨hfirst, hlast, hstep⟩ := covers_iff.mp hn
  rw [covers_iff]
  rintro ⟨hotherFirst, hotherLast, hotherStep⟩
  simp only [misses, Bool.or_eq_true, Bool.and_eq_true, Nat.blt_eq, beq_iff_eq] at hmisses
  rcases hmisses with (hbefore | hbehind) | ⟨⟨htwo, hown⟩, hodd⟩
  · omega
  · omega
  · -- Every form of the run is as far from its first as the character is, an even number.
    have heven : (n - run.first) % 2 = 0 := by
      rcases hown with hown | hown
      · rwa [hown] at hstep
      · omega
    simp only [givesLetters, Bool.and_eq_true, Nat.ble_eq] at hgives
    have hpositive : 'a'.toNat = 97 := rfl
    rw [htwo] at hotherStep
    simp only [lower] at *
    omega

end CaseRun

theorem givesLetters_lowerRuns : lowerRuns.all CaseRun.givesLetters := by decide +kernel

theorem misses_lowerRuns : lowerRuns.all fun run => lowerRuns.all run.misses := by decide +kernel

/-- No lower-case form is the capital letter that becomes two characters. -/
theorem misses_dotted : lowerRuns.all (·.misses ⟨'İ'.toNat, 'İ'.toNat, 1, 0⟩) := by decide +kernel

theorem misses_spaceRanges :
    lowerRuns.all fun run => spaceRanges.all fun range => run.misses ⟨range.1, range.2, 1, 0⟩ := by
  decide +kernel

/-! ## Single characters -/

/-- A character that lower-casing leaves as it is, wherever it stands. -/
structure IsLower (c : Char) : Prop where
  lowerChar_eq : lowerChar c = [c]
  ne_sigma : c ≠ 'Σ'

/-- What the forms that lower-casing makes have in common. -/
structure IsLowerForm (c : Char) : Prop where
  isLower : IsLower c
  large : 'a'.toNat ≤ c.toNat
  notSpace : isSpace c = false

theorem lowerRun?_eq_some {n : Nat} {run : CaseRun} (hrun : lowerRun? n = some run) :
    run ∈ lowerRuns ∧ run.covers n := by
  rw [lowerRun?, Option.filter_eq_some_iff] at hrun
  exact ⟨List.mem_of_find?_eq_some hrun.1, hrun.2⟩

theorem isLower_of_lowerRun? {c : Char} (hdotted : c ≠ 'İ') (hrun : lowerRun? c.toNat = none) :
    IsLower c := by
  refine ⟨by rw [lowerChar, if_neg hdotted, hrun], ?_⟩
  rintro rfl
  revert hrun
  decide +kernel

/-- What a run of the case table gives is a lower-case form. -/
theorem isLowerForm_lower {run : CaseRun} (hrun : run ∈ lowerRuns) {n : Nat} (hn : run.covers n) :
    IsLowerForm (Char.ofNat (run.lower n)) := by
  have hgives := List.all_eq_true.mp givesLetters_lowerRuns run hrun
  have htoNat : (Char.ofNat (run.lower n)).toNat = run.lower n := by
    rw [Char.ofNat, dif_pos (CaseRun.isValidChar_lower hgives hn)]
    rfl
  refine ⟨isLower_of_lowerRun? ?_ ?_, ?_, ?_⟩
  · intro hdotted
    have hmisses := List.all_eq_true.mp misses_dotted run hrun
    apply CaseRun.not_covers_lower hgives hmisses hn
    rw [← htoNat, hdotted]
    decide
  · rw [htoNat, Option.eq_none_iff_forall_ne_some]
    intro other hother
    obtain ⟨hmem, hcovers⟩ := lowerRun?_eq_some hother
    have hmisses := List.all_eq_true.mp (List.all_eq_true.mp misses_lowerRuns run hrun) other hmem
    exact CaseRun.not_covers_lower hgives hmisses hn hcovers
  · rw [htoNat]
    exact CaseRun.small_le_lower hgives hn
  · by_contra hspace
    rw [Bool.not_eq_false, isSpace, htoNat] at hspace
    obtain ⟨range, hrange, hbounds⟩ := CodeRanges.exists_of_contains hspace
    have hmisses :=
      List.all_eq_true.mp (List.all_eq_true.mp misses_spaceRanges run hrun) range hrange
    refine CaseRun.not_covers_lower hgives hmisses hn (CaseRun.covers_iff.mpr ?_)
    exact ⟨hbounds.1, hbounds.2, Nat.mod_one _⟩

/-- The forms that stand in no run are lower-case forms as well. -/
theorem isLowerForm_of_mem : ∀ c ∈ ['i', '\u0307', 'σ', 'ς'], IsLowerForm c := by
  have hforms : ['i', '\u0307', 'σ', 'ς'].all fun c => c ≠ 'İ' ∧ lowerRun? c.toNat = none ∧
      'a'.toNat ≤ c.toNat ∧ isSpace c = false := by decide +kernel
  intro c hc
  obtain ⟨hdotted, hrun, hlarge, hspace⟩ := of_decide_eq_true (List.all_eq_true.mp hforms c hc)
  exact ⟨isLower_of_lowerRun? hdotted hrun, hlarge, hspace⟩

/-- What stands for a character in lower case is the character or a form of it. -/
theorem mem_lowerChar {c d : Char} (hd : d ∈ lowerChar c) : d = c ∧ IsLower c ∨ IsLowerForm d := by
  rw [lowerChar] at hd
  split at hd
  next =>
    refine Or.inr (isLowerForm_of_mem d ?_)
    exact List.mem_append_left ['σ', 'ς'] hd
  next hdotted =>
    split at hd
    next run hrun =>
      obtain ⟨hmem, hcovers⟩ := lowerRun?_eq_some hrun
      cases List.mem_singleton.mp hd
      exact Or.inr (isLowerForm_lower hmem hcovers)
    next hrun =>
      exact Or.inl ⟨List.mem_singleton.mp hd, isLower_of_lowerRun? hdotted hrun⟩

theorem lowerChar_ne_nil (c : Char) : lowerChar c ≠ [] := by
  rw [lowerChar]
  split
  · exact List.cons_ne_nil _ _
  · split <;> exact List.cons_ne_nil _ _

/-! ## Texts -/

theorem mem_lowerFrom {cs : List Char} {afterCased : Bool} {d : Char}
    (hd : d ∈ lowerFrom afterCased cs) : d ∈ cs ∧ IsLower d ∨ IsLowerForm d := by
  induction cs generalizing afterCased with
  | nil => cases hd
  | cons c rest ih =>
      rw [lowerFrom, List.mem_append] at hd
      rcases hd with hfirst | hrest
      · split at hfirst
        next =>
          refine Or.inr (isLowerForm_of_mem d ?_)
          split at hfirst <;> simp_all
        next =>
          refine (mem_lowerChar hfirst).imp_left ?_
          rintro ⟨rfl, hlower⟩
          exact ⟨List.mem_cons_self, hlower⟩
      · exact (ih hrest).imp_left (And.imp_left (List.mem_cons_of_mem _))

theorem lowerFrom_of_forall {cs : List Char} (hcs : ∀ c ∈ cs, IsLower c) (afterCased : Bool) :
    lowerFrom afterCased cs = cs := by
  induction cs generalizing afterCased with
  | nil => rfl
  | cons c rest ih =>
      obtain ⟨hc, hrest⟩ := List.forall_mem_cons.mp hcs
      rw [lowerFrom, ih hrest]
      simp only [if_neg hc.ne_sigma, hc.lowerChar_eq, List.singleton_append]

/-- Lower-casing twice is lower-casing once. -/
theorem lowercase_lowercase (cs : List Char) : lowercase (lowercase cs) = lowercase cs := by
  refine lowerFrom_of_forall ?_ false
  -- Neither what was kept nor what was made is changed again, the two small sigmas included.
  intro c hc
  exact (mem_lowerFrom hc).elim And.right IsLowerForm.isLower

/-- What comes before the small letters is not made by lower-casing. -/
theorem mem_of_mem_lowercase {cs : List Char} {d : Char} (hd : d ∈ lowercase cs)
    (hsmall : d.toNat < 'a'.toNat) : d ∈ cs :=
  (mem_lowerFrom hd).elim And.left fun hform => absurd hsmall (Nat.not_lt.mpr hform.large)

/-- White space is not made by lower-casing. -/
theorem isSpace_eq_false_of_mem_lowercase {cs : List Char} (hcs : ∀ c ∈ cs, isSpace c = false)
    {d : Char} (hd : d ∈ lowercase cs) : isSpace d = false :=
  (mem_lowerFrom hd).elim (fun hmem => hcs d hmem.1) IsLowerForm.notSpace

theorem lowercase_eq_nil_iff {cs : List Char} : lowercase cs = [] ↔ cs = [] := by
  cases cs with
  | nil => simp [lowercase, lowerFrom]
  | cons c rest =>
      rw [lowercase, lowerFrom]
      simp only [List.append_eq_nil_iff, reduceCtorEq, iff_false, not_and]
      intro hlower
      split at hlower
      · cases hlower
      · exact absurd hlower (lowerChar_ne_nil c)

end DialogueIndex

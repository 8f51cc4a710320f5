import DialogueIndex.Reference
import DialogueIndex.Proofs.Text.Offset
import Mathlib.Data.List.Basic

/-! # Tokens under a cursor

The runs of a line are its maximal sequences of token characters. Two runs never touch each other,
so a cursor touches at most one of them, and that one is the token under the cursor.
-/

namespace DialogueIndex

/-- A sequence of token characters that what stands before and after it cannot make longer. -/
structure IsMaximalRun (before run after : List Char) : Prop where
  nonempty : run ≠ []
  inside : ∀ c ∈ run, isTokenChar c
  left : ∀ c ∈ before.getLast?, isTokenChar c = false
  right : ∀ c ∈ after.head?, isTokenChar c = false

theorem IsMaximalRun.takeWhile {before run after : List Char}
    (hrun : IsMaximalRun before run after) : (run ++ after).takeWhile isTokenChar = run := by
  rw [List.takeWhile_append_of_pos hrun.inside]
  cases after with
  | nil => exact List.append_nil run
  | cons c after =>
      rw [List.takeWhile_cons_of_neg (by simp [hrun.right c rfl]), List.append_nil]

/-- A character that is not part of tokens bounds a run as the start of the text does. -/
theorem isMaximalRun_append_cons_iff (front : List Char) {c : Char} (hc : isTokenChar c = false)
    (before run after : List Char) :
    IsMaximalRun (front ++ c :: before) run after ↔ IsMaximalRun before run after := by
  have hleft : (∀ d ∈ (front ++ c :: before).getLast?, isTokenChar d = false) ↔
      ∀ d ∈ before.getLast?, isTokenChar d = false := by
    cases before with
    | nil => simp [hc]
    | cons d before => rw [List.getLast?_append_cons, List.getLast?_cons_cons]
  constructor
  · intro hrun
    exact ⟨hrun.nonempty, hrun.inside, hleft.mp hrun.left, hrun.right⟩
  · intro hrun
    exact ⟨hrun.nonempty, hrun.inside, hleft.mpr hrun.left, hrun.right⟩

/-- A run in front of which there are only token characters has nothing in front of it. -/
theorem IsMaximalRun.before_eq_nil {before run after : List Char}
    (hrun : IsMaximalRun before run after) (hbefore : ∀ c ∈ before, isTokenChar c) :
    before = [] := by
  by_contra hne
  have hlast := hrun.left _ (List.getLast?_eq_some_getLast hne)
  rw [hbefore _ (List.getLast_mem hne)] at hlast
  cases hlast

/-- The run is maximal in a text whose first character starts at a byte. -/
def Run.StandsIn (run : Run) (text : List Char) (start : Nat) : Prop :=
  ∃ before after, text = before ++ (run.chars ++ after) ∧ IsMaximalRun before run.chars after ∧
    run.start = start + byteLength before ∧ run.stop = run.start + byteLength run.chars

theorem Run.ext_of_bytes {run : Run} {start : Nat} (hstart : run.start = start + byteLength [])
    (hstop : run.stop = run.start + byteLength run.chars) :
    run = ⟨run.chars, start, start + byteLength run.chars⟩ := by
  obtain ⟨chars, first, stop⟩ := run
  simp only [byteLength_nil, Nat.add_zero] at hstart hstop
  rw [hstop, hstart]

theorem Run.mem_consNonempty_iff {chars : List Char} {start : Nat} {runs : List Run} {run : Run} :
    run ∈ Run.consNonempty chars start runs ↔
      (chars ≠ [] ∧ run = ⟨chars, start, start + byteLength chars⟩) ∨ run ∈ runs := by
  cases chars with
  | nil => simp [Run.consNonempty]
  | cons c chars => simp [Run.consNonempty]

/-- Among nothing but token characters there is only the run of all of them. -/
theorem Run.standsIn_of_forall {text : List Char} (htext : ∀ c ∈ text, isTokenChar c) {start : Nat}
    {run : Run} : run.StandsIn text start ↔
      text ≠ [] ∧ run = ⟨text, start, start + byteLength text⟩ := by
  constructor
  · rintro ⟨before, after, rfl, hrun, hstart, hstop⟩
    cases hrun.before_eq_nil fun c hc => htext c (List.mem_append_left _ hc)
    have hchars : run.chars = run.chars ++ after :=
      hrun.takeWhile.symm.trans (List.takeWhile_eq_self_iff.mpr htext)
    rw [List.nil_append, ← hchars]
    exact ⟨hrun.nonempty, Run.ext_of_bytes hstart hstop⟩
  · rintro ⟨hne, rfl⟩
    exact ⟨[], [], (List.append_nil text).symm, ⟨hne, htext, nofun, nofun⟩, rfl, rfl⟩

/-- A character that is not part of tokens parts the runs before it from those after it. -/
theorem Run.standsIn_append_cons {front : List Char} (hfront : ∀ c ∈ front, isTokenChar c)
    {c : Char} (hc : isTokenChar c = false) {rest : List Char} {start : Nat} {run : Run} :
    run.StandsIn (front ++ c :: rest) start ↔
      (front ≠ [] ∧ run = ⟨front, start, start + byteLength front⟩) ∨
        run.StandsIn rest (start + byteLength front + c.utf8Size) := by
  constructor
  · rintro ⟨before, after, heq, hrun, hstart, hstop⟩
    rcases List.append_eq_append_iff.mp heq with ⟨between, rfl, htail⟩ | ⟨between, rfl, htail⟩
    · cases between with
      | nil =>
          -- the run would begin with the parting character
          obtain ⟨d, chars, hchars⟩ := List.exists_cons_of_ne_nil hrun.nonempty
          rw [List.nil_append, hchars, List.cons_append, List.cons.injEq] at htail
          have hd := hrun.inside d (hchars ▸ List.mem_cons_self)
          rw [← htail.1, hc] at hd
          cases hd
      | cons d between =>
          rw [List.cons_append, List.cons.injEq] at htail
          obtain ⟨rfl, rfl⟩ := htail
          rw [isMaximalRun_append_cons_iff front hc] at hrun
          refine Or.inr ⟨between, after, rfl, hrun, ?_, hstop⟩
          rw [hstart, byteLength_append, byteLength_cons]
          omega
    · cases hrun.before_eq_nil fun d hd => hfront d (List.mem_append_left _ hd)
      have hchars : run.chars = between := by
        rw [← hrun.takeWhile, htail, List.takeWhile_append_of_pos (by simpa using hfront),
          List.takeWhile_cons_of_neg (by simp [hc]), List.append_nil]
      rw [List.nil_append, ← hchars]
      exact Or.inl ⟨hrun.nonempty, Run.ext_of_bytes hstart hstop⟩
  · rintro (⟨hne, rfl⟩ | ⟨before, after, rfl, hrun, hstart, hstop⟩)
    · refine ⟨[], c :: rest, rfl, ⟨hne, hfront, nofun, ?_⟩, rfl, rfl⟩
      rintro d hd
      cases hd
      exact hc
    · rw [← isMaximalRun_append_cons_iff front hc] at hrun
      refine ⟨front ++ c :: before, after, by simp, hrun, ?_, hstop⟩
      rw [hstart, byteLength_append, byteLength_cons]
      omega

theorem mem_runsFrom_iff {current : List Char} (hcurrent : ∀ c ∈ current, isTokenChar c)
    {start : Nat} {rest : List Char} {run : Run} :
    run ∈ runsFrom current start rest ↔ run.StandsIn (current.reverse ++ rest) start := by
  induction rest generalizing current start with
  | nil =>
      rw [runsFrom, Run.mem_consNonempty_iff, List.append_nil,
        Run.standsIn_of_forall (by simpa using hcurrent)]
      simp
  | cons c rest ih =>
      rw [runsFrom]
      split
      next hc =>
        rw [ih (List.forall_mem_cons.mpr ⟨hc, hcurrent⟩), List.reverse_cons, List.append_assoc,
          List.singleton_append]
      next hc =>
        rw [Run.mem_consNonempty_iff, ih (List.forall_mem_nil _),
          Run.standsIn_append_cons (by simpa using hcurrent) (by simpa using hc),
          byteLength_reverse]
        rfl

/-- Runs are listed from left to right, and between two of them stands something else. -/
theorem runsFrom_pairwise {current : List Char} (hcurrent : ∀ c ∈ current, isTokenChar c)
    (start : Nat) (rest : List Char) :
    (runsFrom current start rest).Pairwise fun a b => a.stop < b.start := by
  induction rest generalizing current start with
  | nil =>
      rw [runsFrom, Run.consNonempty]
      split
      next => exact List.Pairwise.nil
      next => exact List.pairwise_singleton _ _
  | cons c rest ih =>
      rw [runsFrom]
      split
      next hc => exact ih (List.forall_mem_cons.mpr ⟨hc, hcurrent⟩) start
      next hc =>
        have hlater := ih (List.forall_mem_nil _) (start + byteLength current + c.utf8Size)
        rw [Run.consNonempty]
        split
        next => exact hlater
        next =>
          refine List.pairwise_cons.mpr ⟨?_, hlater⟩
          intro run hrun
          obtain ⟨before, after, _, _, hstart, _⟩ :=
            (mem_runsFrom_iff (List.forall_mem_nil _)).mp hrun
          have hpos := c.utf8Size_pos
          simp only [byteLength_reverse]
          omega

/-! ## The token under a cursor -/

/-- Of runs that are parted from each other, the search finds the one that touches the cursor. -/
theorem find?_takeWhile_eq_some_iff {runs : List Run}
    (hparted : runs.Pairwise fun a b => a.stop < b.start)
    (hspan : ∀ run ∈ runs, run.start ≤ run.stop) (cursor : Nat) (run : Run) :
    (runs.takeWhile (·.start ≤ cursor)).find? (cursor ≤ ·.stop) = some run ↔
      run ∈ runs ∧ run.start ≤ cursor ∧ cursor ≤ run.stop := by
  induction runs with
  | nil => simp
  | cons first rest ih =>
      obtain ⟨hfirst, hrest⟩ := List.pairwise_cons.mp hparted
      obtain ⟨hfirstSpan, hrestSpan⟩ := List.forall_mem_cons.mp hspan
      by_cases hstart : first.start ≤ cursor
      · rw [List.takeWhile_cons_of_pos (by simpa using hstart)]
        by_cases hstop : cursor ≤ first.stop
        · rw [List.find?_cons_of_pos (by simpa using hstop)]
          constructor
          · intro heq
            cases heq
            exact ⟨List.mem_cons_self, hstart, hstop⟩
          · rintro ⟨hmem, hrunStart, _⟩
            rcases List.mem_cons.mp hmem with rfl | hmem
            · rfl
            · have hafter := hfirst run hmem
              omega
        · rw [List.find?_cons_of_neg (by simpa using hstop), ih hrest hrestSpan]
          constructor
          · rintro ⟨hmem, htouch⟩
            exact ⟨List.mem_cons_of_mem _ hmem, htouch⟩
          · rintro ⟨hmem, htouch⟩
            rcases List.mem_cons.mp hmem with rfl | hmem
            · exact absurd htouch.2 hstop
            · exact ⟨hmem, htouch⟩
      · rw [List.takeWhile_cons_of_neg (by simpa using hstart), List.find?_nil]
        constructor
        · intro heq
          cases heq
        · rintro ⟨hmem, hrunStart, _⟩
          rcases List.mem_cons.mp hmem with rfl | hmem
          · exact absurd hrunStart hstart
          · have hafter := hfirst run hmem
            omega

theorem mem_tokenRuns_iff {line : List Char} {run : Run} :
    run ∈ tokenRuns line ↔ run.StandsIn line 0 := mem_runsFrom_iff (List.forall_mem_nil _)

/-- A cursor touches a run by bytes as it does by characters. -/
theorem touches_iff (before run after : List Char) (character : Nat) :
    (byteLength before ≤ byteOffset (before ++ (run ++ after)) character ∧
        byteOffset (before ++ (run ++ after)) character ≤ byteLength before + byteLength run) ↔
      before.length ≤ min character (before ++ (run ++ after)).length ∧
        min character (before ++ (run ++ after)).length ≤ before.length + run.length := by
  have hstart := byteOffset_length_append before (run ++ after)
  have hstop := byteOffset_length_append (before ++ run) after
  rw [List.append_assoc, byteLength_append, List.length_append] at hstop
  rw [← hstop, ← hstart, byteOffset_le_byteOffset_iff, byteOffset_le_byteOffset_iff]
  simp only [List.length_append]
  omega

/-- The token under a cursor is the maximal run that the cursor touches, if there is one. -/
theorem tokenAt_eq_some_iff (line : List Char) (character : Nat) (token : Token) :
    tokenAt line character = some token ↔
      ∃ before run after, line = before ++ (run ++ after) ∧ IsMaximalRun before run after ∧
        before.length ≤ min character line.length ∧
        min character line.length ≤ before.length + run.length ∧
        token = ⟨String.ofList run, before.length, before.length + run.length⟩ := by
  have hspan : ∀ run ∈ tokenRuns line, run.start ≤ run.stop := by
    intro run hrun
    obtain ⟨_, _, _, _, _, hstop⟩ := mem_tokenRuns_iff.mp hrun
    exact hstop ▸ Nat.le_add_right _ _
  have hparted : (tokenRuns line).Pairwise fun a b => a.stop < b.start :=
    runsFrom_pairwise (List.forall_mem_nil _) 0 line
  have hoffsets : ∀ before run after : List Char,
      charOffset (before ++ (run ++ after)) (byteLength before) = before.length ∧
        charOffset (before ++ (run ++ after)) (byteLength before + byteLength run) =
          before.length + run.length := by
    intro before run after
    refine ⟨charOffset_byteLength_append before (run ++ after), ?_⟩
    rw [← byteLength_append, ← List.append_assoc, charOffset_byteLength_append,
      List.length_append]
  rw [tokenAt, Option.map_eq_some_iff]
  constructor
  · rintro ⟨⟨chars, start, stop⟩, hfind, rfl⟩
    rw [find?_takeWhile_eq_some_iff hparted hspan, mem_tokenRuns_iff] at hfind
    obtain ⟨⟨before, after, rfl, hrun, hstart, hstop⟩, htouch⟩ := hfind
    simp only [Nat.zero_add] at hstart hstop htouch hrun
    subst hstart hstop
    rw [touches_iff] at htouch
    refine ⟨before, chars, after, rfl, hrun, htouch.1, htouch.2, ?_⟩
    simp only [hoffsets]
  · rintro ⟨before, run, after, rfl, hrun, hstart, hstop, rfl⟩
    refine ⟨⟨run, byteLength before, byteLength before + byteLength run⟩, ?_, ?_⟩
    · rw [find?_takeWhile_eq_some_iff hparted hspan, mem_tokenRuns_iff, touches_iff]
      exact ⟨⟨before, after, rfl, hrun, (Nat.zero_add _).symm, rfl⟩, hstart, hstop⟩
    · simp only [hoffsets]

/-! ## Runs by their positions -/

/-- A maximal run of a line from one character up to another, which is no part of it. -/
structure IsRunBetween (line : List Char) (start stop : Nat) : Prop where
  stop_le_length : stop ≤ line.length
  isMaximalRun : IsMaximalRun (line.take start) (line.extract start stop) (line.drop stop)

theorem IsRunBetween.start_lt_stop {line : List Char} {start stop : Nat}
    (hrun : IsRunBetween line start stop) : start < stop := by
  have hlength := List.length_pos_of_ne_nil hrun.isMaximalRun.nonempty
  rw [List.extract_eq_take_drop, List.length_take] at hlength
  omega

theorem extract_middle (before run after : List Char) :
    (before ++ (run ++ after)).extract before.length (before.length + run.length) = run := by
  rw [List.extract_eq_take_drop, List.drop_left, Nat.add_sub_cancel_left, List.take_left]

theorem isRunBetween_iff {line : List Char} {start stop : Nat} :
    IsRunBetween line start stop ↔
      ∃ before run after, line = before ++ (run ++ after) ∧ IsMaximalRun before run after ∧
        start = before.length ∧ stop = before.length + run.length := by
  constructor
  · intro hrun
    have hlt := hrun.start_lt_stop
    have hle := hrun.stop_le_length
    refine ⟨_, _, _, ?_, hrun.isMaximalRun, ?_, ?_⟩
    · have hdrop : line.drop stop = (line.drop start).drop (stop - start) := by
        rw [List.drop_drop, Nat.add_sub_cancel' hlt.le]
      rw [hdrop, List.extract_eq_take_drop, List.take_append_drop, List.take_append_drop]
    · rw [List.length_take]
      omega
    · rw [List.extract_eq_take_drop, List.length_take, List.length_take, List.length_drop]
      omega
  · rintro ⟨before, run, after, rfl, hrun, rfl, rfl⟩
    refine ⟨?_, ?_⟩
    · rw [List.length_append, List.length_append]
      omega
    · rw [List.take_left, extract_middle, List.drop_length_add_append, List.drop_left]
      exact hrun

/-- Whether a cursor stands at a character from one to another, the other included. A cursor beyond
the end of the line stands at the end. -/
def StandsBetween (line : List Char) (start stop character : Nat) : Prop :=
  start ≤ min character line.length ∧ min character line.length ≤ stop

theorem tokenAt_eq_some_iff_between {line : List Char} {character : Nat} {token : Token} :
    tokenAt line character = some token ↔
      ∃ start stop, IsRunBetween line start stop ∧ StandsBetween line start stop character ∧
        token = ⟨String.ofList (line.extract start stop), start, stop⟩ := by
  rw [tokenAt_eq_some_iff]
  constructor
  · rintro ⟨before, run, after, rfl, hrun, hstart, hstop, rfl⟩
    refine ⟨_, _, isRunBetween_iff.mpr ⟨before, run, after, rfl, hrun, rfl, rfl⟩,
      ⟨hstart, hstop⟩, ?_⟩
    rw [extract_middle]
  · rintro ⟨start, stop, hrun, ⟨hstart, hstop⟩, rfl⟩
    obtain ⟨before, run, after, rfl, hmaximal, rfl, rfl⟩ := isRunBetween_iff.mp hrun
    refine ⟨before, run, after, rfl, hmaximal, hstart, hstop, ?_⟩
    rw [extract_middle]

/-- A cursor beyond a line finds what a cursor at the end finds. -/
theorem tokenAt_of_length_le {line : List Char} {character : Nat}
    (hbeyond : line.length ≤ character) : tokenAt line character = tokenAt line line.length := by
  have hoffset : byteOffset line character = byteOffset line line.length := by
    rw [byteOffset, byteOffset, List.take_of_length_le hbeyond, List.take_length]
  rw [tokenAt, tokenAt, hoffset]

/-- There is a token under a cursor if and only if the cursor touches a maximal run. The token spans
the run and has its characters, no other run is touched, and every cursor that touches the run finds
the same token. Beyond the end of the line all cursors find the same. -/
theorem token_spans_touched_run (line : List Char) (character : Nat) :
    ((tokenAt line character).isSome ↔
      ∃ start stop, IsRunBetween line start stop ∧ StandsBetween line start stop character) ∧
    (∀ start stop, IsRunBetween line start stop → StandsBetween line start stop character →
      tokenAt line character = some ⟨String.ofList (line.extract start stop), start, stop⟩ ∧
      (∀ first last, IsRunBetween line first last → StandsBetween line first last character →
        first = start ∧ last = stop) ∧
      ∀ other, StandsBetween line start stop other →
        tokenAt line other = tokenAt line character) ∧
    (line.length ≤ character → ∀ other, line.length ≤ other →
      tokenAt line other = tokenAt line character) := by
  have hfound : ∀ {start stop cursor}, IsRunBetween line start stop →
      StandsBetween line start stop cursor →
      tokenAt line cursor = some ⟨String.ofList (line.extract start stop), start, stop⟩ :=
    fun hrun htouch => tokenAt_eq_some_iff_between.mpr ⟨_, _, hrun, htouch, rfl⟩
  refine ⟨?_, ?_, ?_⟩
  · rw [Option.isSome_iff_exists]
    constructor
    · rintro ⟨token, htoken⟩
      obtain ⟨start, stop, hrun, htouch, _⟩ := tokenAt_eq_some_iff_between.mp htoken
      exact ⟨start, stop, hrun, htouch⟩
    · rintro ⟨start, stop, hrun, htouch⟩
      exact ⟨_, hfound hrun htouch⟩
  · intro start stop hrun htouch
    have htoken := hfound hrun htouch
    refine ⟨htoken, ?_, ?_⟩
    · -- Of two runs that are touched each would be the token.
      intro first last hother hotherTouch
      have hsame := Option.some.inj ((hfound hother hotherTouch).symm.trans htoken)
      exact ⟨congrArg Token.start hsame, congrArg Token.stop hsame⟩
    · intro other hotherTouch
      rw [htoken]
      exact hfound hrun hotherTouch
  · intro hbeyond other hother
    rw [tokenAt_of_length_le hother, tokenAt_of_length_le hbeyond]

example : tokenAt ['ä', ' ', '=', '>', ' ', 'c', 'a', 'f', 'é'] 12 = some ⟨"café", 5, 9⟩ := by
  decide +kernel

end DialogueIndex

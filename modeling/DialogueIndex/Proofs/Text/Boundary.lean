import DialogueIndex.Proofs.Text.Offset

/-! # Character boundaries

Up to the end of a line, its characters and the byte offsets at which they start go together one to
one, in the same order. These offsets, and the end of the line, are the boundaries: at them, and
nowhere else, the line can be cut into two texts.
-/

namespace DialogueIndex

variable {line : List Char} {byte : Nat}

/-! ## Boundaries -/

/-- A line can be cut at a boundary. -/
theorem isBoundary_iff_exists :
    IsBoundary line byte ↔ ∃ before after, line = before ++ after ∧ byteLength before = byte := by
  constructor
  · rintro ⟨n, _, hbyte⟩
    exact ⟨line.take n, line.drop n, (List.take_append_drop n line).symm, hbyte⟩
  · rintro ⟨before, after, rfl, hbyte⟩
    exact ⟨before.length, by simp, by rwa [List.take_left]⟩

theorem isBoundary_append (before after : List Char) :
    IsBoundary (before ++ after) (byteLength before) :=
  isBoundary_iff_exists.mpr ⟨before, after, rfl, rfl⟩

theorem IsBoundary.le_byteLength (hbyte : IsBoundary line byte) : byte ≤ byteLength line := by
  obtain ⟨before, after, rfl, rfl⟩ := isBoundary_iff_exists.mp hbyte
  rw [byteLength_append]
  exact Nat.le_add_right _ _

theorem byteLength_eq_utf8ByteSize (line : List Char) :
    byteLength line = (String.ofList line).utf8ByteSize := by
  induction line with
  | nil => rfl
  | cons c rest ih =>
      rw [String.ofList_cons, String.utf8ByteSize_append, byteLength_cons, ih,
        String.utf8ByteSize_singleton]

/-- The boundaries of a line are the places in its UTF-8 form between characters. -/
theorem isBoundary_iff_isValid :
    IsBoundary line byte ↔ String.Pos.Raw.IsValid (String.ofList line) ⟨byte⟩ := by
  rw [isBoundary_iff_exists, String.Pos.Raw.isValid_iff_exists_append]
  constructor
  · rintro ⟨before, after, rfl, rfl⟩
    refine ⟨String.ofList before, String.ofList after, String.ofList_append, ?_⟩
    rw [byteLength_eq_utf8ByteSize]
    rfl
  · rintro ⟨before, after, hline, hbyte⟩
    refine ⟨before.toList, after.toList, ?_, ?_⟩
    · rw [← String.toList_append, ← hline, String.toList_ofList]
    · rw [byteLength_eq_utf8ByteSize, String.ofList_toList]
      exact (congrArg String.Pos.Raw.byteIdx hbyte).symm

/-! ## From characters to bytes and back -/

theorem isBoundary_byteOffset (line : List Char) (character : Nat) :
    IsBoundary line (byteOffset line character) :=
  isBoundary_iff_exists.mpr ⟨_, _, (List.take_append_drop character line).symm, rfl⟩

theorem byteOffset_lt_byteOffset {first second : Nat} (hlt : first < second)
    (hle : second ≤ line.length) : byteOffset line first < byteOffset line second := by
  rw [← Nat.not_le, byteOffset_le_byteOffset_iff]
  omega

/-- All places beyond the end of a line are the end. -/
theorem byteOffset_of_length_le {character : Nat} (hle : line.length ≤ character) :
    byteOffset line character = byteLength line := by
  rw [byteOffset, List.take_of_length_le hle]

theorem charOffset_byteOffset (line : List Char) (character : Nat) :
    charOffset line (byteOffset line character) = min character line.length := by
  have hcut := charOffset_byteLength_append (line.take character) (line.drop character)
  rwa [List.take_append_drop, List.length_take] at hcut

theorem byteOffset_charOffset (hbyte : IsBoundary line byte) :
    byteOffset line (charOffset line byte) = byte := by
  obtain ⟨before, after, rfl, rfl⟩ := isBoundary_iff_exists.mp hbyte
  rw [charOffset_byteLength_append, byteOffset_length_append]

theorem charOffset_le_length (hbyte : IsBoundary line byte) :
    charOffset line byte ≤ line.length := by
  obtain ⟨before, after, rfl, rfl⟩ := isBoundary_iff_exists.mp hbyte
  rw [charOffset_byteLength_append, List.length_append]
  exact Nat.le_add_right _ _

/-- Boundaries compare by bytes as they do by characters. -/
theorem le_iff_charOffset_le {other : Nat} (hbyte : IsBoundary line byte)
    (hother : IsBoundary line other) :
    byte ≤ other ↔ charOffset line byte ≤ charOffset line other := by
  have hle := charOffset_le_length hbyte
  have hotherLe := charOffset_le_length hother
  have hcompare := byteOffset_le_byteOffset_iff line (charOffset line byte) (charOffset line other)
  rwa [byteOffset_charOffset hbyte, byteOffset_charOffset hother, Nat.min_eq_left hle,
    Nat.min_eq_left hotherLe] at hcompare

/-! ## Cuts -/

/-- The part of a line in front of a byte offset. There is none if the offset is no boundary. -/
def cut? : List Char → Nat → Option (List Char)
  | _, 0 => some []
  | [], _ + 1 => none
  | c :: rest, byte + 1 =>
    if byte + 1 < c.utf8Size then none else (cut? rest (byte + 1 - c.utf8Size)).map (c :: ·)

theorem cut?_append (before after : List Char) :
    cut? (before ++ after) (byteLength before) = some before := by
  induction before with
  | nil => cases after <;> rfl
  | cons c before ih =>
      obtain ⟨size, hsize⟩ := Nat.exists_eq_add_one.mpr c.utf8Size_pos
      have hbytes : byteLength (c :: before) = size + byteLength before + 1 := by
        rw [byteLength_cons, hsize]
        omega
      have hrest : size + byteLength before + 1 - c.utf8Size = byteLength before := by omega
      rw [hbytes, List.cons_append, cut?, if_neg (by omega), hrest, ih]
      rfl

/-- A line is cut at its boundaries and nowhere else. -/
theorem cut?_eq_some_iff {before : List Char} :
    cut? line byte = some before ↔ ∃ after, line = before ++ after ∧ byteLength before = byte := by
  constructor
  · intro hcut
    induction line generalizing byte before with
    | nil =>
        cases byte with
        | zero =>
            cases hcut
            exact ⟨[], rfl, rfl⟩
        | succ byte => cases hcut
    | cons c rest ih =>
        cases byte with
        | zero =>
            cases hcut
            exact ⟨c :: rest, rfl, rfl⟩
        | succ byte =>
            rw [cut?, Option.ite_none_left_eq_some] at hcut
            obtain ⟨hsize, hcut⟩ := hcut
            obtain ⟨tail, htail, rfl⟩ := Option.map_eq_some_iff.mp hcut
            obtain ⟨after, rfl, hbytes⟩ := ih htail
            refine ⟨after, rfl, ?_⟩
            rw [byteLength_cons, hbytes]
            omega
  · rintro ⟨after, rfl, rfl⟩
    exact cut?_append before after

theorem isSome_cut?_iff : (cut? line byte).isSome ↔ IsBoundary line byte := by
  rw [Option.isSome_iff_exists, isBoundary_iff_exists]
  exact exists_congr fun _ => cut?_eq_some_iff

/-- In front of a boundary there are as many characters as are counted. -/
theorem exists_cut? (hbyte : IsBoundary line byte) :
    ∃ before, cut? line byte = some before ∧ before.length = charOffset line byte := by
  obtain ⟨before, after, rfl, rfl⟩ := isBoundary_iff_exists.mp hbyte
  exact ⟨before, cut?_append before after, (charOffset_byteLength_append before after).symm⟩

end DialogueIndex

import DialogueIndex.Text.Offset
import Mathlib.Data.List.TakeWhile

/-! # Offsets in bytes and in characters

Comparing two places of a line by bytes is the same as comparing them by characters, and going from
characters to bytes and back changes nothing but a place beyond the end of the line, which becomes
the end.
-/

namespace DialogueIndex

@[simp] theorem byteLength_nil : byteLength [] = 0 := rfl

@[simp] theorem byteLength_cons (c : Char) (cs : List Char) :
    byteLength (c :: cs) = c.utf8Size + byteLength cs := rfl

@[simp] theorem byteLength_append (cs ds : List Char) :
    byteLength (cs ++ ds) = byteLength cs + byteLength ds := by
  induction cs with
  | nil => rw [List.nil_append, byteLength_nil, Nat.zero_add]
  | cons c cs ih => rw [List.cons_append, byteLength_cons, byteLength_cons, ih, Nat.add_assoc]

@[simp] theorem byteLength_reverse (cs : List Char) : byteLength cs.reverse = byteLength cs := by
  induction cs with
  | nil => rfl
  | cons c cs ih =>
      rw [List.reverse_cons, byteLength_append, ih, byteLength_cons, byteLength_cons]
      exact Nat.add_comm _ _

theorem byteOffset_length_append (before after : List Char) :
    byteOffset (before ++ after) before.length = byteLength before := by
  rw [byteOffset, List.take_left]

/-- Places compare by bytes as they do by characters. Beyond the end all places are one. -/
theorem byteOffset_le_byteOffset_iff (line : List Char) (m n : Nat) :
    byteOffset line m ≤ byteOffset line n ↔ min m line.length ≤ min n line.length := by
  induction line generalizing m n with
  | nil => simp [byteOffset]
  | cons c rest ih =>
      cases m with
      | zero => simp [byteOffset]
      | succ m =>
          cases n with
          | zero =>
              have hpos := c.utf8Size_pos
              simp only [byteOffset, List.take_succ_cons, List.take_zero, byteLength_cons,
                byteLength_nil, List.length_cons]
              omega
          | succ n =>
              have hrest := ih m n
              simp only [byteOffset, List.take_succ_cons, byteLength_cons,
                List.length_cons] at hrest ⊢
              omega

theorem charOffset_zero (line : List Char) : charOffset line 0 = 0 := by
  cases line <;> rfl

/-- As many characters start before the end of a part of a line as the part has. -/
theorem charOffset_byteLength_append (before after : List Char) :
    charOffset (before ++ after) (byteLength before) = before.length := by
  induction before with
  | nil => exact charOffset_zero after
  | cons c before ih =>
      obtain ⟨size, hsize⟩ := Nat.exists_eq_add_one.mpr c.utf8Size_pos
      have hbytes : byteLength (c :: before) = size + byteLength before + 1 := by
        rw [byteLength_cons, hsize]
        omega
      rw [hbytes, List.cons_append, charOffset, List.length_cons, hsize, ← ih]
      congr 2
      omega

end DialogueIndex

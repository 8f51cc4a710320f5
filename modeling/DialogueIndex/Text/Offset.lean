/-! # Offsets within a line

Searches in a line report byte offsets into its UTF-8 form; positions count characters. The two
functions here go from one to the other and are inverse to each other on character boundaries.
-/

namespace DialogueIndex

/-- The number of bytes of the UTF-8 form of a text. -/
def byteLength : List Char → Nat
  | [] => 0
  | c :: rest => c.utf8Size + byteLength rest

/-- The byte offset of the character at an index, or the end of the line when there is none. -/
def byteOffset (line : List Char) (character : Nat) : Nat := byteLength (line.take character)

/-- The number of characters that start before a byte offset. -/
def charOffset : List Char → Nat → Nat
  | [], _ => 0
  | _ :: _, 0 => 0
  | c :: rest, byte + 1 => charOffset rest (byte + 1 - c.utf8Size) + 1

/-- A byte offset at which a character starts or the line ends. -/
def IsBoundary (line : List Char) (byte : Nat) : Prop :=
  ∃ n ≤ line.length, byteLength (line.take n) = byte

end DialogueIndex

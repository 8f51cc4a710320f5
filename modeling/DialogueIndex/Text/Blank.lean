import DialogueIndex.Text.CodeRanges

/-! # White space and blanks

White space is the Unicode property of that name; it ends a name and separates words. A blank is
white space or a byte-order mark, and may stand around a section marker.
-/

namespace DialogueIndex

/-- The code points of `White_Space`. -/
def spaceRanges : CodeRanges :=
  [(0x9, 0xD), (0x20, 0x20), (0x85, 0x85), (0xA0, 0xA0), (0x1680, 0x1680), (0x2000, 0x200A),
   (0x2028, 0x2029), (0x202F, 0x202F), (0x205F, 0x205F), (0x3000, 0x3000)]

def isSpace (c : Char) : Bool := spaceRanges.contains c.toNat

/-- The byte-order mark, U+FEFF. -/
def byteOrderMark : Char := '\uFEFF'

/-- Whether a character may stand between the start of a line and its marker. -/
def isBlank (c : Char) : Bool := isSpace c || c == byteOrderMark

/-- A text without its trailing characters that satisfy `p`. -/
def dropRightWhile (p : Char → Bool) (cs : List Char) : List Char :=
  (cs.reverse.dropWhile p).reverse

/-- A text without the white space at either end. -/
def trim (cs : List Char) : List Char := dropRightWhile isSpace (cs.dropWhile isSpace)

end DialogueIndex

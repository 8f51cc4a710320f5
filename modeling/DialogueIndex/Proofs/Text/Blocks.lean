/-! # Texts of lines and blocks of lines

A text whose lines all end in a line feed has these lines only, and lines that stand in blocks with
an empty line between each two have these blocks only.
-/

namespace DialogueIndex

end DialogueIndex

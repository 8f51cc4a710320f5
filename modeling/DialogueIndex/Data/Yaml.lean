import DialogueIndex.Data.YamlScalar

/-! # YAML text

Records and lists in block style. The fields of a record inside a record stand two columns further
right; the items of a list stand below the field's name. The names of fields are plain words.
-/

namespace DialogueIndex

/-- How YAML writes numbers. -/
def yamlNumbers : NumberLayout := ⟨-5, 15, false⟩

namespace Yaml

/-- The text of a value without parts, up to the start of the next line. Further lines of a text
begin at column `margin`. -/
def leaf (margin : Nat) : Data → List Char
  | .null => "null\n".toList
  | .bool true => "true\n".toList
  | .bool false => "false\n".toList
  | .nat n => Nat.toDigits 10 n ++ ['\n']
  | .number x => x.toText yamlNumbers ++ ['\n']
  | .text s => scalar margin s
  | .list _ => ['[', ']', '\n']
  | .record _ => ['\x7b', '\x7d', '\n']

mutual

/-- A value whose first line is begun at column `indent`. -/
def inPlace (indent : Nat) : Data → List Char
  | .list (item :: items) =>
    '-' :: ' ' :: inPlace (indent + 2) item ++ moreItems indent items
  | .record ((name, value) :: fields) =>
    name.toList ++ ':' :: afterName indent value ++ moreFields indent fields
  | value => leaf (max indent 2) value

/-- The further items of a list at column `indent`. -/
def moreItems (indent : Nat) : List Data → List Char
  | [] => []
  | item :: items =>
    List.replicate indent ' ' ++ '-' :: ' ' :: inPlace (indent + 2) item ++ moreItems indent items

/-- The further fields of a record at column `indent`. -/
def moreFields (indent : Nat) : List (String × Data) → List Char
  | [] => []
  | (name, value) :: fields =>
    List.replicate indent ' ' ++ name.toList ++ ':' :: afterName indent value ++
      moreFields indent fields

/-- The value of a field of a record at column `indent`, from behind the colon on. -/
def afterName (indent : Nat) : Data → List Char
  | .list (item :: items) =>
    '\n' :: List.replicate indent ' ' ++ '-' :: ' ' :: inPlace (indent + 2) item ++
      moreItems indent items
  | .record ((name, value) :: fields) =>
    '\n' :: List.replicate (indent + 2) ' ' ++ name.toList ++ ':' ::
      afterName (indent + 2) value ++ moreFields (indent + 2) fields
  | value => ' ' :: leaf (indent + 2) value

end

end Yaml

def Data.toYaml (value : Data) : String := String.ofList (Yaml.inPlace 0 value)

end DialogueIndex

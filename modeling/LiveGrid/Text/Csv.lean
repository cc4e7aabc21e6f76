/-!
Contract: rows of comma-separated fields as text.

A field that contains a comma, a quotation mark or a line end is put between
quotation marks, and a quotation mark inside of it is written twice. A row ends
with a carriage return and a line feed.

Owns: writing fields and rows.

Does not own: what the fields mean.
-/

namespace LiveGrid.Text.Csv

/-- Whether a character in a field makes quotation marks around the field necessary. -/
def isSpecial (character : Char) : Bool :=
  character == ',' || character == '"' || character == '\r' || character == '\n'

/-- The characters of a field between quotation marks. -/
def quoted : List Char → List Char
  | [] => []
  | '"' :: rest => '"' :: '"' :: quoted rest
  | character :: rest => character :: quoted rest

/-- A field as it is written. -/
def writeField (field : List Char) : List Char :=
  if field.any isSpecial then '"' :: quoted field ++ ['"'] else field

/-- Fields as they are written, with commas between them. -/
def writeFields : List (List Char) → List Char
  | [] => []
  | [field] => writeField field
  | field :: rest => writeField field ++ ',' :: writeFields rest

/-- A row as it is written, with its line end. -/
def writeRow (fields : List String) : String :=
  String.ofList (writeFields (fields.map String.toList) ++ ['\r', '\n'])

end LiveGrid.Text.Csv

/-!
# Writing comma-separated values

A field is quoted where it has to be: when it holds a comma, a quote or a line end. A record that
consists of one empty field is written as two quotes, so that its line is not empty. Each record
ends with a line feed.
-/

namespace CaseSheet.Csv

/-- Whether a character can only stand between quotes. -/
def needsQuotes (c : Char) : Bool := c == ',' || c == '"' || c == '\r' || c == '\n'

/-- A field with each quote written twice. -/
def doubleQuotes (cs : List Char) : List Char :=
  cs.flatMap fun c => if c = '"' then ['"', '"'] else [c]

/-- The text of a field. -/
def writeField (s : String) : List Char :=
  if s.toList.any needsQuotes then '"' :: (doubleQuotes s.toList ++ ['"']) else s.toList

/-- The text of fields with commas between them. -/
def writeFields : List String → List Char
  | [] => []
  | [s] => writeField s
  | s :: rest => writeField s ++ ',' :: writeFields rest

/-- The line of a record. -/
def writeRecord (fields : List String) : List Char :=
  (if fields = [""] then ['"', '"'] else writeFields fields) ++ ['\n']

/-- The text of records. -/
def write (records : List (List String)) : List Char := records.flatMap writeRecord

end CaseSheet.Csv

/-!
# Reading comma-separated values

A text is read character by character into records of fields. Commas part fields; a carriage return
or a line feed ends a record, and records that would have no character at all are left out. A field
that starts with a quote runs to the next quote, in which two quotes stand for one; what follows a
closing quote is taken as it is. No text is malformed.

Each record keeps where the reader stood when the record before it ended.
-/

namespace CaseSheet.Csv

/-- A place in a text: bytes and line feeds that have been read. -/
structure Place where
  byte : Nat
  line : Nat
deriving DecidableEq, Repr, Inhabited

namespace Place

def start : Place := { byte := 0, line := 1 }

/-- The place behind a character. -/
def next (p : Place) (c : Char) : Place :=
  { byte := p.byte + c.utf8Size, line := if c = '\n' then p.line + 1 else p.line }

end Place

/-- A record with the place at which the one before it ended. -/
structure Record where
  fields : List String
  place : Place
deriving DecidableEq, Repr

/-- What the next character belongs to. -/
inductive Mode where
  /-- Before the first character of a record. -/
  | record
  /-- Behind a comma. -/
  | field
  /-- Inside a field without quotes, or behind its closing quote. -/
  | bare
  /-- Between quotes. -/
  | quoted
  /-- Behind a quote that closes the field or is the first of two. -/
  | closing
deriving DecidableEq, Repr

/-- The reader between two characters; lists are in reverse. -/
structure Reader where
  mode : Mode
  /-- The characters of the field so far. -/
  text : List Char
  /-- The fields of the record so far. -/
  fields : List String
  records : List Record
  /-- Where the record before the present one ended. -/
  origin : Place
  place : Place

namespace Reader

def start : Reader :=
  { mode := .record, text := [], fields := [], records := [], origin := .start, place := .start }

def isLineEnd (c : Char) : Bool := c == '\n' || c == '\r'

/-- Closes the field. -/
def endField (r : Reader) : Reader :=
  { r with mode := .field, text := [], fields := String.ofList r.text.reverse :: r.fields }

/-- Closes the field and the record. -/
def endRecord (r : Reader) : Reader :=
  let r := r.endField
  { r with
    mode := .record
    fields := []
    records := { fields := r.fields.reverse, place := r.origin } :: r.records
    origin := r.place }

/-- Adds a character to the field. -/
def take (r : Reader) (mode : Mode) (c : Char) : Reader := { r with mode, text := c :: r.text }

/-- What a character does outside quotes. -/
def outside (r : Reader) (c : Char) : Reader :=
  if c = ',' then r.endField
  else if isLineEnd c then r.endRecord
  else r.take .bare c

/-- Reads a character. -/
def step (r : Reader) (c : Char) : Reader :=
  let r := { r with place := r.place.next c }
  match r.mode with
  | .record =>
    if isLineEnd c then r
    else if c = '"' then { r with mode := .quoted }
    else r.outside c
  | .field => if c = '"' then { r with mode := .quoted } else r.outside c
  | .bare => r.outside c
  | .quoted => if c = '"' then { r with mode := .closing } else r.take .quoted c
  | .closing => if c = '"' then r.take .quoted '"' else r.outside c

/-- The records once the text has ended. -/
def finish (r : Reader) : List Record :=
  (if r.mode = .record then r else r.endRecord).records.reverse

end Reader

/-- The records of a text. -/
def read (cs : List Char) : List Record := (cs.foldl Reader.step .start).finish

end CaseSheet.Csv

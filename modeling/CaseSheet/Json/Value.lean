import CaseSheet.Fields
import CaseSheet.Number.Double
/-!
# JSON values

An object is a list of fields, written in the order of the list. The objects that are read from a
text keep their fields in increasing order of the keys, each key once.
-/

namespace CaseSheet

namespace Json

/-- A number: a whole number that fits a signed or an unsigned 64-bit word, or a double. -/
inductive Number where
  | whole (n : Int)
  | double (x : Double)
deriving DecidableEq, Repr

/-- A JSON value. -/
inductive Value where
  | null
  | bool (b : Bool)
  | number (n : Number)
  | string (s : String)
  | array (items : List Value)
  | object (fields : List (String × Value))
deriving Inhabited, Repr

namespace Value

/-- The object with no fields. -/
def emptyObject : Value := .object []

def isArray : Value → Bool
  | .array _ => true
  | _ => false

def isObject : Value → Bool
  | .object _ => true
  | _ => false

/-- The text of a string value. -/
def text? : Value → Option String
  | .string s => some s
  | _ => none

/-- The value under a key of an object. -/
def field? (v : Value) (k : String) : Option Value :=
  match v with
  | .object fields => Fields.get? fields k
  | _ => none

/-- A natural number as a value. -/
def ofNat (n : Nat) : Value := .number (.whole n)

end Value
end Json
end CaseSheet

import CaseSheet.Text.Blank
import CaseSheet.Text.Letters
/-!
# Request methods

The four methods that a request can have. A method is named in any letter case, with blanks
around it; the comparison is made in upper case.
-/

namespace CaseSheet.Http

/-- A method that a request can be sent with. -/
inductive Method where
  | get
  | post
  | put
  | delete
deriving DecidableEq, Repr

namespace Method

/-- All methods. -/
def all : List Method := [.get, .post, .put, .delete]

/-- The name under which a method is sent. -/
def name : Method → String
  | .get => "GET"
  | .post => "POST"
  | .put => "PUT"
  | .delete => "DELETE"

/-- Whether a request with this method has a body. -/
def carriesBody : Method → Bool
  | .post | .put => true
  | .get | .delete => false

/-- The method that a text names. -/
def ofText? (s : String) : Option Method :=
  all.find? fun m => Text.upper (Text.trim s.toList) == m.name.toList

theorem ofText?_name (m : Method) : ofText? m.name = some m := by
  cases m <;> decide

theorem name_injective {m n : Method} (h : m.name = n.name) : m = n := by
  cases m <;> cases n <;> simp_all [name]

end Method

/-- The text that reports a method name which is not one of the four. -/
def unsupportedMethodMessage (s : String) : String := s!"unsupported HTTP method: {s}"

end CaseSheet.Http

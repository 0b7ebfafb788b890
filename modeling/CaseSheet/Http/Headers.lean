import CaseSheet.Text.Letters
/-!
# Request headers

A request has a content type; headers given for it replace those of the same name, whatever the
case of its letters, or come after the others. A token is added as a credential of its own unless
one was given.
-/

namespace CaseSheet.Http

/-- Names and values in the order in which they are sent. -/
abbrev Headers : Type := List (String × String)

namespace Headers

/-- The value under a name in any letter case. -/
def get? (hs : Headers) (name : String) : Option String :=
  (hs.find? fun h => Text.sameAsciiFold h.1 name).map (·.2)

/-- Whether a name is there in any letter case. -/
def has (hs : Headers) (name : String) : Bool := hs.any fun h => Text.sameAsciiFold h.1 name

/-- Sets the value of a name: in place, with the spelling that is there, or at the end. -/
def set (name value : String) : Headers → Headers
  | [] => [(name, value)]
  | h :: hs =>
    if Text.sameAsciiFold h.1 name then (h.1, value) :: hs else h :: set name value hs

/-- The content type of every request, unless another one is given. -/
def base : Headers := [("Content-Type", "application/json")]

/-- The credential made of a token. -/
def bearer (token : String) : String := s!"Bearer {token}"

/-- The headers of a request from those given for it and the token of the session. -/
def build (given : Headers) (token : Option String) : Headers :=
  let hs := given.foldl (fun hs h => set h.1 h.2 hs) base
  match token with
  | some t => if hs.has "authorization" then hs else hs ++ [("Authorization", bearer t)]
  | none => hs

end Headers
end CaseSheet.Http

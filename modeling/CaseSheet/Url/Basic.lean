import CaseSheet.Url.Host
/-!
# URLs

A URL by its parts, each in the form in which it is written. The path is a list of segments, or
a plain text for URLs such as `mailto:` ones that have no hierarchy.
-/

namespace CaseSheet

namespace Url

/-- What stands between `//` and the path. -/
structure Authority where
  username : List Char
  password : List Char
  host : Host
  port : Option Nat
deriving DecidableEq, Repr

/-- The path of a URL. -/
inductive Path where
  /-- A text without hierarchy; nothing can be resolved against it. -/
  | plain (text : List Char)
  /-- Segments, each written behind a slash. -/
  | segments (list : List (List Char))
deriving DecidableEq, Repr

end Url

/-- A URL. -/
structure Url where
  scheme : List Char
  authority : Option Url.Authority
  path : Url.Path
  query : Option (List Char)
  fragment : Option (List Char)
deriving DecidableEq, Repr

namespace Url

/-- What is particular about a scheme. -/
inductive SchemeKind where
  | file
  | special
  | other
deriving DecidableEq, Repr

def kindOf (scheme : List Char) : SchemeKind :=
  if scheme = "file".toList then .file
  else if ["http".toList, "https".toList, "ws".toList, "wss".toList, "ftp".toList].contains scheme
    then .special
  else .other

/-- In special schemes a backslash counts as a slash and a path is never empty. -/
def SchemeKind.isSpecial : SchemeKind → Bool
  | .other => false
  | _ => true

/-- The port that a scheme implies. -/
def defaultPort? (scheme : List Char) : Option Nat :=
  if scheme = "http".toList ∨ scheme = "ws".toList then some 80
  else if scheme = "https".toList ∨ scheme = "wss".toList then some 443
  else if scheme = "ftp".toList then some 21
  else none

/-- The text of a path. -/
def Path.write : Path → List Char
  | .plain text => text
  | .segments list => list.flatMap ('/' :: ·)

/-- The text of an authority. -/
def Authority.write (a : Authority) : List Char :=
  let credentials :=
    if a.username.isEmpty && a.password.isEmpty then []
    else a.username ++ (if a.password.isEmpty then [] else ':' :: a.password) ++ ['@']
  let port := match a.port with
    | none => []
    | some n => ':' :: Digits.ofNat n
  credentials ++ a.host.write ++ port

/-- The text of a URL. A path that starts with an empty segment is kept apart from the scheme, so
that it does not read as an authority. -/
def write (u : Url) : List Char :=
  let authority := match u.authority with
    | some a => '/' :: '/' :: a.write
    | none =>
      match u.path with
      | .segments ([] :: _ :: _) => ['/', '.']
      | _ => []
  let query := match u.query with
    | none => []
    | some q => '?' :: q
  let fragment := match u.fragment with
    | none => []
    | some f => '#' :: f
  u.scheme ++ ':' :: authority ++ u.path.write ++ query ++ fragment

/-- The text of a URL. -/
def text (u : Url) : String := String.ofList u.write

/-- Whether a URL names a host. -/
def hasHost (u : Url) : Bool :=
  match u.authority with
  | some a => !a.host.isEmpty
  | none => false

end Url
end CaseSheet

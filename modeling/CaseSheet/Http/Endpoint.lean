import CaseSheet.Url.Parse
/-!
# Endpoints

An endpoint is resolved against a base URL: it is appended below the path of the base, its leading
slashes not counting, unless it is a URL with a host of its own.
-/

namespace CaseSheet.Http

/-- The URL that an endpoint stands for, seen from a base. -/
def resolve [Url.Idna] (base endpoint : String) : Except Url.ParseError Url :=
  let below : Except Url.ParseError Url := do
    let base ← Url.parse base.toList
    base.withFinalSlash.join ((Text.trim endpoint.toList).dropWhile (· == '/'))
  match Url.parse endpoint.toList with
  | .ok own => if own.hasHost then .ok own else below
  | .error _ => below

end CaseSheet.Http

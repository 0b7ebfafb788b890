import CaseSheet.Number.Hex
/-!
# Percent encoding

Which characters each part of a URL writes as percent-encoded UTF-8 bytes, and the bytes that a
percent-encoded text stands for.
-/

namespace CaseSheet.Url

/-- Control characters and everything beyond ASCII. -/
def controlSet (c : Char) : Bool := c.toNat < 0x20 || 0x7E < c.toNat

/-- The characters encoded in a fragment. -/
def fragmentSet (c : Char) : Bool :=
  controlSet c || c == ' ' || c == '"' || c == '<' || c == '>' || c == '`'

/-- The characters encoded in a path segment. -/
def pathSet (c : Char) : Bool :=
  fragmentSet c || c == '#' || c == '?' || c == '\x7b' || c == '\x7d'

/-- The characters encoded in a user name or a password. -/
def userinfoSet (c : Char) : Bool :=
  pathSet c || c == '/' || c == ':' || c == ';' || c == '=' || c == '@' || c == '[' ||
    c == '\\' || c == ']' || c == '^' || c == '|'

/-- The characters encoded in a query. -/
def querySet (c : Char) : Bool :=
  controlSet c || c == ' ' || c == '"' || c == '#' || c == '<' || c == '>'

/-- The characters encoded in the query of a special scheme. -/
def specialQuerySet (c : Char) : Bool := querySet c || c == '\''

/-- A byte as a percent sign and two digits. -/
def encodeByte (b : UInt8) : List Char :=
  ['%', Hex.upperDigit (b.toNat / 16), Hex.upperDigit (b.toNat % 16)]

/-- A text with the characters of a set percent-encoded. -/
def encode (inSet : Char → Bool) (cs : List Char) : List Char :=
  cs.flatMap fun c => if inSet c then (String.utf8EncodeChar c).flatMap encodeByte else [c]

theorem encode_of_forall {inSet : Char → Bool} {cs : List Char}
    (h : ∀ c ∈ cs, inSet c = false) : encode inSet cs = cs := by
  induction cs with
  | nil => rfl
  | cons c cs ih =>
    have hc := h c (by simp)
    have := ih fun x hx => h x (by simp [hx])
    simp only [encode, List.flatMap_cons, hc] at this ⊢
    simp [this]

/-- The bytes of a text in which percent signs with two digits stand for a byte. -/
def decode : List Char → List UInt8
  | '%' :: a :: b :: r =>
    match Hex.value? a, Hex.value? b with
    | some h, some l => UInt8.ofNat (h * 16 + l) :: decode r
    | _, _ => 37 :: decode (a :: b :: r)
  | c :: r => String.utf8EncodeChar c ++ decode r
  | [] => []

end CaseSheet.Url

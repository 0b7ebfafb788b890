import CaseSheet.Text.Capital
import CaseSheet.Text.Cased
import CaseSheet.Text.Small
/-!
# Letter case

Texts are compared in capitals, in small letters, or with the case of ASCII letters put aside. The
spellings are the full ones. A capital sigma becomes another small letter at the end of a word than
elsewhere.
-/

namespace CaseSheet.Text

/-- The spelling of a character in capitals. -/
def upperSpelling (c : Char) : List Char :=
  if c.toNat < 0x80 then [c.toUpper] else CaseRun.spellingBy Capital.runs c

/-- The spelling of a character in small letters, by itself. -/
def lowerSpelling (c : Char) : List Char :=
  if c.toNat < 0x80 then [c.toLower] else CaseRun.spellingBy Small.runs c

/-- The upper-case spelling of a text. -/
def upper (cs : List Char) : List Char := cs.flatMap upperSpelling

/-- Whether a word goes on: of what is not passed over, a letter with case comes next. -/
def goesOn (cs : List Char) : Bool := (cs.find? fun c => !isIgnorable c).any isCased

/-- The lower-case spelling of a text; `inWord` says that of what is not passed over, a letter with
case came last before it. -/
def lowerFrom : (inWord : Bool) → List Char → List Char
  | _, [] => []
  | inWord, c :: cs =>
    (if c = 'Σ' then [if inWord && !goesOn cs then 'ς' else 'σ'] else lowerSpelling c) ++
      lowerFrom (if isIgnorable c then inWord else isCased c) cs

/-- The lower-case spelling of a text. -/
def lower (cs : List Char) : List Char := lowerFrom false cs

/-- An ASCII letter in its small form; other characters are kept. -/
def foldAscii (c : Char) : Char :=
  if 'A' ≤ c ∧ c ≤ 'Z' then Char.ofNat (c.toNat + 32) else c

/-- Equality of texts that disregards the case of ASCII letters. -/
def sameAsciiFold (a b : String) : Bool := a.toList.map foldAscii == b.toList.map foldAscii

theorem sameAsciiFold_iff {a b : String} :
    sameAsciiFold a b = true ↔ a.toList.map foldAscii = b.toList.map foldAscii := by
  simp [sameAsciiFold]

end CaseSheet.Text

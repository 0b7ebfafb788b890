import CaseSheet.Text.Lines
/-!
# Patterns for file names

A pattern is a text with wildcards: a question mark stands for one character, a star for any number
of them, and brackets for one of a set. Two stars make up a whole piece of a path. Braces list
alternatives; they are expanded first, from left to right, and the pieces of a nested group are
taken as they come, since a group ends at the first closing brace.
-/

namespace CaseSheet.Pattern

/-! ## Alternatives -/

/-- The text before the first `c` and the text behind it. -/
def cutAt? (c : Char) (cs : List Char) : Option (List Char × List Char) :=
  match cs.dropWhile (· != c) with
  | _ :: after => some (cs.takeWhile (· != c), after)
  | [] => none

theorem eq_of_cutAt? {c : Char} {cs before after : List Char}
    (h : cutAt? c cs = some (before, after)) : cs = before ++ c :: after := by
  have hd := List.takeWhile_append_dropWhile (p := (· != c)) (l := cs)
  unfold cutAt? at h
  split at h
  · next d r hr =>
    obtain ⟨rfl, rfl⟩ := by simpa using h
    have hc : d = c := by
      have := List.head?_dropWhile_not (· != c) cs
      simpa [hr] using this
    rw [hr, hc] at hd
    exact hd.symm
  · simp at h

theorem count_le_of_mem_splitAll {b sep : Char} {piece cs : List Char}
    (h : piece ∈ Text.splitAll sep cs) : piece.count b ≤ cs.count b := by
  induction cs generalizing piece with
  | nil => simp_all [Text.splitAll]
  | cons a r ih =>
    rw [Text.splitAll] at h
    split at h
    · rcases List.mem_cons.1 h with rfl | h
      · simp
      · exact Nat.le_trans (ih h) List.count_le_count_cons
    · split at h
      · next hn => exact absurd hn (Text.splitAll_ne_nil sep r)
      · next p ps hp =>
        rcases List.mem_cons.1 h with rfl | h
        · have hm : p ∈ Text.splitAll sep r := by simp [hp]
          have := ih hm
          simp only [List.count_cons]
          omega
        · exact Nat.le_trans (ih (hp ▸ List.mem_cons_of_mem p h)) List.count_le_count_cons

/-- The patterns that a pattern with braces stands for. -/
def expand (cs : List Char) : List (List Char) :=
  match _open : cutAt? '\x7b' cs with
  | none => [cs]
  | some (before, behind) =>
    match _close : cutAt? '\x7d' behind with
    | none => [cs]
    | some (inside, after) =>
      (Text.splitAll ',' inside).attach.flatMap fun alternative =>
        expand (before ++ alternative.1 ++ after)
termination_by cs.count '\x7b'
decreasing_by
  have hm := count_le_of_mem_splitAll (b := '\x7b') alternative.2
  rw [eq_of_cutAt? _open, eq_of_cutAt? _close]
  simp only [List.count_append, List.count_cons]
  simp
  omega

/-! ## Wildcards -/

/-- A set of characters in brackets. -/
inductive CharSet where
  | one (c : Char)
  | range (first last : Char)
deriving DecidableEq, Repr

/-- A piece of a pattern. -/
inductive Token where
  | char (c : Char)
  | anyChar
  | anyText
  /-- Any number of whole pieces of a path. -/
  | anyPieces
  | within (sets : List CharSet)
  | outside (sets : List CharSet)
deriving DecidableEq, Repr

/-- The sets that a text between brackets names. -/
def charSets : List Char → List CharSet
  | a :: '-' :: b :: r => .range a b :: charSets r
  | a :: r => .one a :: charSets r
  | [] => []

/-- The text up to the first closing bracket behind the first character, and what follows. -/
def bracketText? : List Char → Option (List Char × List Char)
  | [] => none
  | c :: r => (cutAt? ']' r).map fun (inside, after) => (c :: inside, after)

theorem length_lt_of_bracketText? {cs inside after : List Char}
    (h : bracketText? cs = some (inside, after)) : after.length < cs.length := by
  cases cs with
  | nil => simp [bracketText?] at h
  | cons c r =>
    simp only [bracketText?, Option.map_eq_some_iff, Prod.mk.injEq, Prod.exists] at h
    obtain ⟨i, a, hc, -, rfl⟩ := h
    rw [eq_of_cutAt? hc]
    simp
    omega

/-- The tokens of a pattern behind a character; none if it is malformed. Two stars must stand at a
place where a piece of a path starts and ends, and there must not be three. -/
def tokensFrom? (previous : Option Char) (cs : List Char) : Option (List Token) :=
  match cs with
  | [] => some []
  | '?' :: r => (tokensFrom? (some '?') r).map (.anyChar :: ·)
  | '*' :: '*' :: r =>
    if previous = none ∨ previous = some '/' then
      match r with
      | [] => some [.anyPieces]
      | '/' :: r => (tokensFrom? (some '/') r).map (.anyPieces :: ·)
      | _ => none
    else none
  | '*' :: r => (tokensFrom? (some '*') r).map (.anyText :: ·)
  | '[' :: '!' :: r =>
    match h : bracketText? r with
    | none => none
    | some (inside, after) =>
      have _shorter := length_lt_of_bracketText? h
      (tokensFrom? (some ']') after).map (.outside (charSets inside) :: ·)
  | '[' :: r =>
    match h : bracketText? r with
    | none => none
    | some (inside, after) =>
      have _shorter := length_lt_of_bracketText? h
      (tokensFrom? (some ']') after).map (.within (charSets inside) :: ·)
  | c :: r => (tokensFrom? (some c) r).map (.char c :: ·)
termination_by cs.length

/-- The tokens of a pattern without braces. -/
def tokens? (cs : List Char) : Option (List Token) := tokensFrom? none cs

namespace CharSet

def holds (c : Char) : CharSet → Bool
  | .one a => a == c
  | .range a b => a ≤ c && c ≤ b

end CharSet

/-- What is left of a text behind each of its beginnings. -/
def tails : List Char → List (List Char)
  | [] => [[]]
  | c :: r => (c :: r) :: tails r

/-- What is left of a text behind whole pieces of a path: all of it, what follows a slash, and the
end. -/
def tailsOfPieces : (start : Bool) → List Char → List (List Char)
  | _, [] => [[]]
  | start, c :: r => (if start then [c :: r] else []) ++ tailsOfPieces (c == '/') r

/-- Whether tokens match a whole text. -/
def tokensMatch : List Token → List Char → Bool
  | [], cs => cs.isEmpty
  | .anyText :: ts, cs => (tails cs).any (tokensMatch ts)
  | .anyPieces :: ts, cs => (tailsOfPieces true cs).any (tokensMatch ts)
  | .char a :: ts, c :: r => a == c && tokensMatch ts r
  | .anyChar :: ts, _ :: r => tokensMatch ts r
  | .within sets :: ts, c :: r => sets.any (·.holds c) && tokensMatch ts r
  | .outside sets :: ts, c :: r => !sets.any (·.holds c) && tokensMatch ts r
  | _ :: _, [] => false

/-- Whether one of the patterns that a pattern stands for matches a name; those that are malformed
match nothing. -/
def fits (pattern name : List Char) : Bool :=
  (expand pattern).any fun p =>
    match tokens? p with
    | some ts => tokensMatch ts name
    | none => false

end CaseSheet.Pattern

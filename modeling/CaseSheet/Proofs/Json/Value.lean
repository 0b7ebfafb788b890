import CaseSheet.Proofs.Fields
import CaseSheet.Proofs.Json.Token
import Mathlib.Data.List.Forall2
/-!
# JSON texts read back

A value that is written and read again is the same value but for two things: the fields of its
objects come in the order of the keys, each key once, and a double is what its numeral stands for.
This holds in every layout that sets items apart by blanks.

* `Value.reread?`: what is read of a value that is written; `Value.reread?_of_isExact`: the value
  itself if its numbers are whole and its fields in order.
* `value?_write`: a written value is read so, with anything behind it.
* `parse?_pretty`, `parse?_compact`: the two layouts.
-/
namespace CaseSheet.Json

variable {f : Layout} {rest cs : List Char} {depth level : Nat} {v w : Value}

/-! ## Values within values -/

/-- Induction with the hypothesis for all items of an array and all fields of an object. -/
@[elab_as_elim, induction_eliminator]
theorem Value.ind {motive : Value → Prop} (null : motive .null)
    (bool : ∀ b, motive (.bool b)) (number : ∀ n, motive (.number n))
    (string : ∀ s, motive (.string s))
    (array : ∀ items, (∀ v ∈ items, motive v) → motive (.array items))
    (object : ∀ fields, (∀ f ∈ fields, motive f.2) → motive (.object fields)) (v : Value) :
    motive v :=
  @Value.rec motive (fun items => ∀ v ∈ items, motive v) (fun fields => ∀ f ∈ fields, motive f.2)
    (fun f => motive f.2) null bool number string array object
    (List.forall_mem_nil _) (fun _ _ hv hvs => List.forall_mem_cons.2 ⟨hv, hvs⟩)
    (List.forall_mem_nil _) (fun _ _ hf hfs => List.forall_mem_cons.2 ⟨hf, hfs⟩)
    (fun _ _ hv => hv) v

mutual

/-- How deep arrays and objects nest in a value. -/
def Value.nesting : Value → Nat
  | .array items => nestingItems items + 1
  | .object fields => nestingFields fields + 1
  | _ => 0

def nestingItems : List Value → Nat
  | [] => 0
  | v :: vs => max v.nesting (nestingItems vs)

def nestingFields : List (String × Value) → Nat
  | [] => 0
  | (_, v) :: fs => max v.nesting (nestingFields fs)

end

theorem nestingItems_le_iff {items : List Value} :
    nestingItems items ≤ depth ↔ ∀ v ∈ items, v.nesting ≤ depth := by
  induction items with
  | nil => simp [nestingItems]
  | cons u items ih => rw [nestingItems, Nat.max_le, ih, List.forall_mem_cons]

theorem nestingFields_le_iff {fields : List (String × Value)} :
    nestingFields fields ≤ depth ↔ ∀ g ∈ fields, g.2.nesting ≤ depth := by
  induction fields with
  | nil => simp [nestingFields]
  | cons u fields ih => rw [nestingFields, Nat.max_le, ih, List.forall_mem_cons]

/-! ## What is read of a value -/

mutual

/-- What is read of a value that is written; none if it has a number that no numeral writes. -/
def Value.reread? : Value → Option Value
  | .null => some .null
  | .bool b => some (.bool b)
  | .number n =>
    match number? (writeNumber n) with
    | some (v, []) => some v
    | _ => none
  | .string s => some (.string s)
  | .array items => (rereadItems? items).map .array
  | .object fields => (rereadFields? fields).map fun fs => .object (Fields.ofList fs)

def rereadItems? : List Value → Option (List Value)
  | [] => some []
  | v :: vs => do return (← v.reread?) :: (← rereadItems? vs)

def rereadFields? : List (String × Value) → Option (List (String × Value))
  | [] => some []
  | (k, v) :: fs => do return (k, ← v.reread?) :: (← rereadFields? fs)

end

theorem rereadItems?_eq_some_iff {items items' : List Value} :
    rereadItems? items = some items' ↔
      List.Forall₂ (fun v w => v.reread? = some w) items items' := by
  induction items generalizing items' with
  | nil => simp [rereadItems?, eq_comm]
  | cons v vs ih =>
    simp only [rereadItems?, Option.bind_eq_bind, Option.bind_eq_some_iff, Option.pure_def,
      Option.some.injEq, List.forall₂_cons_left_iff, ih]
    constructor
    · rintro ⟨w, hw, ws, hws, rfl⟩
      exact ⟨w, ws, hw, hws, rfl⟩
    · rintro ⟨w, ws, hw, hws, rfl⟩
      exact ⟨w, hw, ws, hws, rfl⟩

theorem rereadFields?_eq_some_iff {fields fields' : List (String × Value)} :
    rereadFields? fields = some fields' ↔
      List.Forall₂ (fun f g => f.1 = g.1 ∧ f.2.reread? = some g.2) fields fields' := by
  induction fields generalizing fields' with
  | nil => simp [rereadFields?, eq_comm]
  | cons f fs ih =>
    obtain ⟨k, v⟩ := f
    simp only [rereadFields?, Option.bind_eq_bind, Option.bind_eq_some_iff, Option.pure_def,
      Option.some.injEq, List.forall₂_cons_left_iff, ih]
    constructor
    · rintro ⟨w, hw, gs, hgs, rfl⟩
      exact ⟨(k, w), gs, ⟨rfl, hw⟩, hgs, rfl⟩
    · rintro ⟨⟨k', w⟩, gs, ⟨rfl, hw⟩, hgs, rfl⟩
      exact ⟨w, hw, gs, hgs, rfl⟩

theorem Value.reread?_string (s : String) : (Value.string s).reread? = some (.string s) := by
  rw [reread?]

theorem Value.reread?_object {fields fields' : List (String × Value)}
    (h : List.Forall₂ (fun f g => f.1 = g.1 ∧ f.2.reread? = some g.2) fields fields') :
    (Value.object fields).reread? = some (.object (Fields.ofList fields')) := by
  rw [reread?, rereadFields?_eq_some_iff.2 h, Option.map_some]

/-- Values that read as themselves: whole numbers have 64 bits, and the fields of an object are in
the order of their keys, each key once. -/
inductive Value.IsExact : Value → Prop
  | null : IsExact .null
  | bool (b : Bool) : IsExact (.bool b)
  | whole {n : Int} (low : -2 ^ 63 ≤ n) (high : n < 2 ^ 64) : IsExact (.number (.whole n))
  | string (s : String) : IsExact (.string s)
  | array {items : List Value} (each : ∀ v ∈ items, IsExact v) : IsExact (.array items)
  | object {fields : List (String × Value)} (order : fields.Pairwise (·.1 < ·.1))
      (each : ∀ f ∈ fields, IsExact f.2) : IsExact (.object fields)

theorem Value.reread?_of_isExact (h : v.IsExact) : v.reread? = some v := by
  induction h with
  | null | bool | string => rfl
  | whole low high => rw [reread?, writeNumber, number?_signed low high]
  | array each ih =>
    rw [reread?, rereadItems?_eq_some_iff.2 (List.forall₂_same.2 ih), Option.map_some]
  | object order each ih =>
    rw [reread?_object (List.forall₂_same.2 fun g hg => ⟨rfl, ih g hg⟩),
      Fields.ofList_of_pairwise order]

/-! ## Layouts -/

/-- Items are set apart by blanks. -/
structure Layout.IsBlank (f : Layout) : Prop where
  before : ∀ depth, ∀ c ∈ f.before depth, Json.isBlank c = true
  gap : ∀ c ∈ f.gap, Json.isBlank c = true

theorem isBlank_oneLine : oneLine.IsBlank where
  before _ := List.forall_mem_nil _
  gap := List.forall_mem_nil _

theorem isBlank_indented : indented.IsBlank where
  before depth := by
    refine List.forall_mem_cons.2 ⟨rfl, fun c hc => ?_⟩
    rw [List.eq_of_mem_replicate hc]
    rfl
  gap := List.forall_mem_singleton.2 rfl

/-- What stands behind the first of the items of an array or object. -/
def tailOf {β : Type} (text : β → List Char) (bs : List β) (ending : List Char) (close : Char) :
    List Char :=
  bs.flatMap (fun b => ',' :: text b) ++ (ending ++ [close])

theorem tailOf_cons {β : Type} (text : β → List Char) (b : β) (bs : List β) (ending : List Char)
    (close : Char) : tailOf text (b :: bs) ending close =
      ',' :: (text b ++ tailOf text bs ending close) := by
  simp only [tailOf, List.flatMap_cons, List.cons_append, List.append_assoc]

/-- An item as it is written, with what stands before it. -/
def writeItem (f : Layout) (depth : Nat) (v : Value) : List Char :=
  f.before depth ++ write f depth v

/-- A field as it is written, with what stands before it. -/
def writeField (f : Layout) (depth : Nat) (g : String × Value) : List Char :=
  f.before depth ++ (writeString g.1 ++ ':' :: (f.gap ++ write f depth g.2))

theorem writeItems_eq (f : Layout) (depth : Nat) (items : List Value) :
    writeItems f depth items =
      tailOf (writeItem f (depth + 1)) items (f.before depth) ']' := by
  induction items with
  | nil => rfl
  | cons v items ih => rw [writeItems, ih, tailOf_cons, writeItem]

theorem writeFields_eq (f : Layout) (depth : Nat) (fields : List (String × Value)) :
    writeFields f depth fields =
      tailOf (writeField f (depth + 1)) fields (f.before depth) '\x7d' := by
  induction fields with
  | nil => rfl
  | cons g fields ih =>
    rw [writeFields, ih, tailOf_cons, writeField]
    simp only [List.append_assoc, List.cons_append]

/-! ## Reading what is written -/

theorem EndsNumeral.nil : EndsNumeral [] := fun _ h => by cases h

theorem EndsNumeral.cons {c : Char}
    (h : Digits.isDigit c = false ∧ c ≠ '.' ∧ c ≠ 'e' ∧ c ≠ 'E') (cs : List Char) :
    EndsNumeral (c :: cs) := by
  rintro _ ⟨⟩
  exact h

theorem EndsNumeral.blanks_append {blanks : List Char} (h : ∀ c ∈ blanks, isBlank c = true)
    (hcs : EndsNumeral cs) : EndsNumeral (blanks ++ cs) := by
  cases blanks with
  | nil => exact hcs
  | cons c blanks =>
    have hc := h c List.mem_cons_self
    simp only [isBlank, Bool.or_eq_true, beq_iff_eq] at hc
    refine .cons ?_ _
    rcases hc with ((rfl | rfl) | rfl) | rfl <;> decide

section Items

variable {α β : Type} {item? : List Char → Option (α × List Char)} {text : β → List Char}
  {close : Char} {ending : List Char}

theorem EndsNumeral.tailOf (hending : ∀ c ∈ ending, isBlank c = true)
    (hclose : close = ']' ∨ close = '\x7d') (bs : List β) (rest : List Char) :
    EndsNumeral (Json.tailOf text bs ending close ++ rest) := by
  cases bs with
  | nil =>
    rw [Json.tailOf, List.flatMap_nil, List.nil_append, List.append_assoc]
    refine .blanks_append hending (.cons ?_ _)
    rcases hclose with rfl | rfl <;> decide
  | cons b bs => exact .cons (by decide) _

/-- The reader of items goes through all of them if it gets past each, and stops behind the closing
bracket. -/
theorem items?_tailOf {bs : List β} {as : List α} {a : α}
    (hending : ∀ c ∈ ending, isBlank c = true) (hclose : close = ']' ∨ close = '\x7d')
    (h : List.Forall₂ (fun b a => ∀ rest, EndsNumeral rest →
      item? (text b ++ rest) = some (a, rest)) bs as)
    (hitem : item? cs = some (a, tailOf text bs ending close ++ rest))
    (hlength : (tailOf text bs ending close ++ rest).length ≤ cs.length) :
    items? item? close cs = some (a :: as, rest) := by
  have hblank : isBlank close = false := by rcases hclose with rfl | rfl <;> rfl
  have hcomma : ',' ≠ close := by rcases hclose with rfl | rfl <;> decide
  induction h generalizing cs a with
  | nil =>
    have hskip : skipBlanks (tailOf text [] ending close ++ rest) = close :: rest := by
      rw [tailOf, List.flatMap_nil, List.nil_append, List.append_assoc,
        skipBlanks_append hending, List.singleton_append, skipBlanks_cons hblank]
    rw [items?, hitem]
    simp only [hskip, if_true]
  | @cons b a' bs as hb hbs ih =>
    rw [tailOf_cons, List.cons_append, List.append_assoc] at hitem hlength
    have hread := ih (hb _ (.tailOf hending hclose bs rest)) (by simp)
    rw [items?, hitem]
    simp only [skipBlanks_cons (c := ',') rfl, if_neg hcomma, if_true, hread]
    rw [if_pos (Nat.lt_of_succ_le hlength)]
    rfl

end Items

/-! ### Values -/

theorem value?_congr {cs cs' : List Char} (h : skipBlanks cs = skipBlanks cs') :
    value? depth cs = value? depth cs' := by
  cases depth <;> unfold value? <;> rw [h]

theorem value?_eq_scalar? {c : Char} (hblank : isBlank c = false) (hbracket : c ≠ '[')
    (hbrace : c ≠ '\x7b') (cs : List Char) : value? depth (c :: cs) = scalar? (c :: cs) := by
  rw [value?.eq_3, skipBlanks_cons hblank]
  · rintro r d heq -
    rw [skipBlanks_cons hblank] at heq
    exact hbracket (List.cons.inj heq).1
  · rintro r d heq -
    rw [skipBlanks_cons hblank] at heq
    exact hbrace (List.cons.inj heq).1

theorem value?_number (hrest : EndsNumeral rest) (h : number? cs = some (v, [])) :
    value? depth (cs ++ rest) = some (v, rest) := by
  obtain ⟨c, cs, rfl, hc⟩ := exists_cons_of_number? h
  rw [← scalar?_number hrest h]
  exact value?_eq_scalar? (isBlank_of_startsNumeral hc) (ne_of_startsNumeral hc rfl)
    (ne_of_startsNumeral hc rfl) _

theorem value?_array {items : List Value} (hclose : ∀ r, skipBlanks cs ≠ ']' :: r)
    (h : items? (value? depth) ']' (skipBlanks cs) = some (items, rest)) :
    value? (depth + 1) ('[' :: cs) = some (.array items, rest) := by
  rw [value?.eq_1 _ cs depth rfl]
  split
  · next heq => exact absurd heq (hclose _)
  · rw [h]
    rfl

theorem value?_object {fields : List (String × Value)} (hclose : ∀ r, skipBlanks cs ≠ '\x7d' :: r)
    (h : items? (member? (value? depth)) '\x7d' (skipBlanks cs) = some (fields, rest)) :
    value? (depth + 1) ('\x7b' :: cs) = some (.object (Fields.ofList fields), rest) := by
  rw [value?.eq_2 _ cs depth rfl]
  split
  · next heq => exact absurd heq (hclose _)
  · rw [h]
    rfl

theorem number?_of_reread? {n : Number} (h : (Value.number n).reread? = some w) :
    number? (writeNumber n) = some (w, []) := by
  rw [Value.reread?] at h
  split at h
  · next hread =>
    cases h
    exact hread
  · cases h

/-- A written value starts with a character that is no blank and does not close an array. -/
theorem exists_cons_write (h : v.reread? = some w) (f : Layout) (level : Nat) :
    ∃ c cs, write f level v = c :: cs ∧ isBlank c = false ∧ c ≠ ']' := by
  cases v with
  | null => exact ⟨_, _, rfl, rfl, by decide⟩
  | bool b => cases b <;> exact ⟨_, _, rfl, rfl, by decide⟩
  | number n =>
    obtain ⟨c, cs, hcs, hc⟩ := exists_cons_of_number? (number?_of_reread? h)
    exact ⟨c, cs, hcs, isBlank_of_startsNumeral hc, ne_of_startsNumeral hc rfl⟩
  | string s => exact ⟨_, _, rfl, rfl, by decide⟩
  | array items => cases items <;> exact ⟨_, _, rfl, rfl, by decide⟩
  | object fields =>
    cases fields with
    | nil => exact ⟨_, _, rfl, rfl, by decide⟩
    | cons g fields => obtain ⟨k, v⟩ := g; exact ⟨_, _, rfl, rfl, by decide⟩

theorem skipBlanks_writeField (hf : f.IsBlank) {k : String} (rest : List Char) :
    skipBlanks (writeField f level (k, v) ++ rest) =
      '"' :: (k.toList.flatMap escapeChar ++ '"' :: ':' ::
        (f.gap ++ (write f level v ++ rest))) := by
  rw [writeField, List.append_assoc, skipBlanks_append (hf.before level), writeString]
  simp only [List.cons_append, List.append_assoc, List.nil_append, skipBlanks_cons (c := '"') rfl]

theorem member?_congr {cs cs' : List Char} (h : skipBlanks cs = skipBlanks cs') :
    member? (value? depth) cs = member? (value? depth) cs' := by
  rw [member?, member?, h]

/-- The reader of fields gets past a written field. -/
theorem member?_writeField (hf : f.IsBlank) {k : String}
    (h : value? depth (write f level v ++ rest) = some (w, rest)) :
    member? (value? depth) (writeField f level (k, v) ++ rest) = some ((k, w), rest) := by
  have hvalue : value? depth (f.gap ++ (write f level v ++ rest)) = some (w, rest) := by
    rw [← h]
    exact value?_congr (skipBlanks_append hf.gap _)
  rw [member?, skipBlanks_writeField hf]
  simp only [stringBody?_flatMap, Option.bind_eq_bind, Option.bind_some,
    skipBlanks_cons (c := ':') rfl, hvalue, Option.pure_def, String.ofList_toList]

theorem value?_writeItem (hf : f.IsBlank)
    (h : value? depth (write f level v ++ rest) = some (w, rest)) :
    value? depth (writeItem f level v ++ rest) = some (w, rest) := by
  rw [← h, writeItem, List.append_assoc]
  exact value?_congr (skipBlanks_append (hf.before level) _)

theorem value?_write_array (hf : f.IsBlank) {items items' : List Value}
    (h : List.Forall₂ (fun v w => v.reread? = some w ∧ ∀ rest, EndsNumeral rest →
      value? depth (writeItem f (level + 1) v ++ rest) = some (w, rest)) items items') :
    value? (depth + 1) (write f level (.array items) ++ rest) = some (.array items', rest) := by
  cases h with
  | nil => rfl
  | @cons v w items items' hv hitems =>
    obtain ⟨c, cs, hcs, hblank, hclose⟩ := exists_cons_write hv.1 f (level + 1)
    have htext : write f level (.array (v :: items)) ++ rest =
        '[' :: (f.before (level + 1) ++ (write f (level + 1) v ++
          (tailOf (writeItem f (level + 1)) items (f.before level) ']' ++ rest))) := by
      rw [write, writeItems_eq]
      simp only [List.cons_append, List.append_assoc]
    have hskip (r : List Char) : skipBlanks (f.before (level + 1) ++ (write f (level + 1) v ++ r)) =
        write f (level + 1) v ++ r := by
      rw [skipBlanks_append (hf.before _), hcs, List.cons_append, skipBlanks_cons hblank]
    rw [htext]
    refine value?_array (fun r heq => ?_) ?_
    · rw [hskip, hcs] at heq
      exact hclose (List.cons.inj heq).1
    · rw [hskip]
      refine items?_tailOf (hf.before level) (.inl rfl) (hitems.imp fun _ _ h => h.2) ?_ (by simp)
      rw [← hv.2 _ (.tailOf (hf.before level) (.inl rfl) _ _), writeItem, List.append_assoc]
      exact value?_congr (skipBlanks_append (hf.before _) _).symm

theorem value?_write_object (hf : f.IsBlank) {fields fields' : List (String × Value)}
    (h : List.Forall₂ (fun g g' => ∀ rest, EndsNumeral rest →
      member? (value? depth) (writeField f (level + 1) g ++ rest) = some (g', rest))
      fields fields') :
    value? (depth + 1) (write f level (.object fields) ++ rest) =
      some (.object (Fields.ofList fields'), rest) := by
  cases h with
  | nil => rfl
  | @cons g g' fields fields' hg hfields =>
    obtain ⟨k, v⟩ := g
    have htext : write f level (.object ((k, v) :: fields)) ++ rest =
        '\x7b' :: (writeField f (level + 1) (k, v) ++
          (tailOf (writeField f (level + 1)) fields (f.before level) '\x7d' ++ rest)) := by
      rw [write, writeFields_eq, writeField]
      simp only [List.cons_append, List.append_assoc]
    have hskip (r : List Char) : skipBlanks (writeField f (level + 1) (k, v) ++ r) =
        '"' :: (k.toList.flatMap escapeChar ++ '"' :: ':' ::
          (f.gap ++ (write f (level + 1) v ++ r))) := skipBlanks_writeField hf r
    rw [htext]
    refine value?_object (fun r heq => ?_) ?_
    · rw [hskip] at heq
      exact absurd (List.cons.inj heq).1 (by decide)
    · refine items?_tailOf (hf.before level) (.inr rfl) hfields ?_ ?_
      · rw [← hg _ (.tailOf (hf.before level) (.inr rfl) _ _)]
        exact member?_congr (by rw [hskip, skipBlanks_cons rfl])
      · rw [hskip]
        simp only [List.length_cons, List.length_append]
        omega

/-- **A written value is read back**, with anything behind it that ends a numeral. -/
theorem value?_write (hf : f.IsBlank) (h : v.reread? = some w) (hdepth : v.nesting ≤ depth)
    (hrest : EndsNumeral rest) : value? depth (write f level v ++ rest) = some (w, rest) := by
  induction v generalizing w depth level rest with
  | null => cases h; cases depth <;> rfl
  | bool b => cases h; cases b <;> cases depth <;> rfl
  | number n => exact value?_number hrest (number?_of_reread? h)
  | string s =>
    cases h
    exact (value?_eq_scalar? rfl (by decide) (by decide) _).trans (scalar?_string s rest)
  | array items ih =>
    obtain ⟨depth, rfl⟩ := Nat.exists_eq_add_of_lt (Nat.lt_of_lt_of_le (Nat.succ_pos _) hdepth)
    rw [Nat.zero_add] at hdepth ⊢
    have hdepths := nestingItems_le_iff.1 (Nat.le_of_succ_le_succ hdepth)
    obtain ⟨items', hitems, rfl⟩ := Option.map_eq_some_iff.1 h
    rw [rereadItems?_eq_some_iff] at hitems
    refine value?_write_array hf ?_
    have hmem := (List.forall₂_and_left items items').2 ⟨fun _ h => h, hitems⟩
    refine hmem.imp fun v w ⟨hv, hw⟩ => ⟨hw, fun rest hrest => ?_⟩
    exact value?_writeItem hf (ih v hv hw (hdepths v hv) hrest)
  | object fields ih =>
    obtain ⟨depth, rfl⟩ := Nat.exists_eq_add_of_lt (Nat.lt_of_lt_of_le (Nat.succ_pos _) hdepth)
    rw [Nat.zero_add] at hdepth ⊢
    have hdepths := nestingFields_le_iff.1 (Nat.le_of_succ_le_succ hdepth)
    obtain ⟨fields', hfields, rfl⟩ := Option.map_eq_some_iff.1 h
    rw [rereadFields?_eq_some_iff] at hfields
    refine value?_write_object hf ?_
    have hmem := (List.forall₂_and_left fields fields').2
      ⟨fun _ h => h, hfields⟩
    refine hmem.imp fun g g' ⟨hg, hkey, hw⟩ rest hrest => ?_
    obtain ⟨k, v⟩ := g
    obtain ⟨_, w⟩ := g'
    cases hkey
    exact member?_writeField hf (ih _ hg hw (hdepths _ hg) hrest)

/-! ## Whole texts -/

theorem parse?_write (hf : f.IsBlank) (h : v.reread? = some w) (hdepth : v.nesting ≤ maxDepth) :
    parse? (write f 0 v) = some w := by
  have hread : value? maxDepth (write f 0 v ++ []) = some (w, []) := value?_write hf h hdepth .nil
  rw [List.append_nil] at hread
  rw [parse?, hread]
  rfl

theorem parse?_pretty (h : v.reread? = some w) (hdepth : v.nesting ≤ maxDepth) :
    parse? v.pretty.toList = some w := by
  rw [Value.pretty, String.toList_ofList]
  exact parse?_write isBlank_indented h hdepth

theorem parse?_compact (h : v.reread? = some w) (hdepth : v.nesting ≤ maxDepth) :
    parse? v.compact.toList = some w := by
  rw [Value.compact, String.toList_ofList]
  exact parse?_write isBlank_oneLine h hdepth

end CaseSheet.Json

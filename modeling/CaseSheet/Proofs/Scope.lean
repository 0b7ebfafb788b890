import CaseSheet.Proofs.Expectation
import CaseSheet.Session
/-!
# Scopes inside scopes

A program of session operations is a tree; carried out, it is one move after the other: it captures,
opens a scope or closes one. Behind any number of moves two things tell the session. The scopes that
are open there give the base URL, that of the innermost one which stops the server; the captures so
far give the token, as if there were no scopes.

* `SessionOp.runAll_eq`: a program shows what its moves show, one by one.
* `SessionOp.openBehind_movesAll`: a program closes the scopes that it opens.
* `SessionOp.runAll_scopes`: the sessions behind all moves, and around each scope.
-/

namespace CaseSheet

/-- A precondition stops the server: the marker is not empty and stands in it. -/
def StopRule.Stops (rule : StopRule) (precondition : String) : Prop :=
  rule.marker ≠ "" ∧ rule.marker.toList <:+: precondition.toList

instance (rule : StopRule) (precondition : String) : Decidable (rule.Stops precondition) :=
  inferInstanceAs (Decidable (_ ∧ _))

theorem StopRule.applies_iff {rule : StopRule} {precondition : String} :
    rule.applies precondition = true ↔ rule.Stops precondition := by
  simp [applies, Stops, Text.mentions_iff_isInfix]

theorem StopRule.applies_eq_decide (rule : StopRule) (precondition : String) :
    rule.applies precondition = decide (rule.Stops precondition) := by
  rw [Bool.eq_iff_iff, applies_iff, decide_eq_true_iff]

namespace SessionOp

/-! ## Moves -/

/-- What happens in a program: a capture, the start of a scope, or the end of the innermost one. -/
inductive Move where
  | capture (rule : LoginRule) (caseId : String) (verdict : Verdict) (response : Http.Response)
  | enter (rule : StopRule) (precondition : String)
  | leave

mutual

/-- The moves of an operation. -/
def moves : SessionOp → List Move
  | .capture rule caseId verdict response => [.capture rule caseId verdict response]
  | .scope rule precondition body => .enter rule precondition :: (movesAll body ++ [.leave])

/-- The moves of operations, one after the other. -/
def movesAll : List SessionOp → List Move
  | [] => []
  | op :: ops => moves op ++ movesAll ops

end

/-- The captures among moves, as operations outside all scopes. -/
def captures (ms : List Move) : List SessionOp :=
  ms.filterMap fun
    | .capture rule caseId verdict response => some (.capture rule caseId verdict response)
    | _ => none

/-- Open scopes, each as it was opened, the innermost first. -/
abbrev Scopes : Type := List (StopRule × String)

namespace Move

/-- The scopes that are open behind a move. -/
def scopes : Move → Scopes → Scopes
  | .capture _ _ _ _, around => around
  | .enter rule precondition, around => (rule, precondition) :: around
  | .leave, around => around.tail

/-- The token behind a move. -/
def token : Move → Option String → Option String
  | .capture rule caseId verdict response, t => (rule.token? caseId verdict response).or t
  | _, t => t

/-- What a move shows of the session behind it. -/
def shown : Move → Session → Event
  | .capture rule caseId verdict response, s =>
    .captured (rule.token? caseId verdict response).isSome s
  | .enter rule precondition, s => .entered (decide (rule.Stops precondition)) s
  | .leave, s => .left s

end Move

/-- The session that is seen. -/
def Event.session : Event → Session
  | .captured _ s | .entered _ s | .left s => s

@[simp] theorem session_shown (m : Move) (s : Session) : (m.shown s).session = s := by
  cases m <;> rfl

/-- The scopes that are open behind moves. -/
def openBehind (around : Scopes) (ms : List Move) : Scopes := ms.foldl (fun o m => m.scopes o) around

/-- The token behind moves. -/
def tokenBehind (t : Option String) (ms : List Move) : Option String :=
  ms.foldl (fun t m => m.token t) t

/-- The base URL inside scopes: the unreachable one of the innermost scope that stops the server,
and outside of all such scopes the one of the session. -/
def baseInside (base : String) : Scopes → String
  | [] => base
  | (rule, precondition) :: outer =>
    if rule.Stops precondition then rule.unreachableUrl else baseInside base outer

/-- The session with open scopes and a token. -/
def sessionIn (base : String) (around : Scopes) (t : Option String) : Session :=
  { baseUrl := baseInside base around, token := t }

/-- What moves show one after the other. -/
def shownBy (base : String) : Scopes → Option String → List Move → List Event
  | _, _, [] => []
  | around, t, m :: ms =>
    m.shown (sessionIn base (m.scopes around) (m.token t)) ::
      shownBy base (m.scopes around) (m.token t) ms

variable {base : String} {around : Scopes} {t : Option String}

@[simp] theorem openBehind_cons (m : Move) (ms : List Move) :
    openBehind around (m :: ms) = openBehind (m.scopes around) ms := rfl

@[simp] theorem tokenBehind_cons (m : Move) (ms : List Move) :
    tokenBehind t (m :: ms) = tokenBehind (m.token t) ms := rfl

@[simp] theorem openBehind_append (ms ns : List Move) :
    openBehind around (ms ++ ns) = openBehind (openBehind around ms) ns := List.foldl_append

@[simp] theorem tokenBehind_append (ms ns : List Move) :
    tokenBehind t (ms ++ ns) = tokenBehind (tokenBehind t ms) ns := List.foldl_append

theorem shownBy_append (ms ns : List Move) :
    shownBy base around t (ms ++ ns) =
      shownBy base around t ms ++ shownBy base (openBehind around ms) (tokenBehind t ms) ns := by
  induction ms generalizing around t with
  | nil => rfl
  | cons m ms ih => rw [List.cons_append, shownBy, ih]; rfl

@[simp] theorem length_shownBy (ms : List Move) :
    (shownBy base around t ms).length = ms.length := by
  induction ms generalizing around t with
  | nil => rfl
  | cons m ms ih => rw [shownBy, List.length_cons, ih, List.length_cons]

/-- The session behind the first `k` moves. -/
theorem sessions_shownBy (base : String) (around : Scopes) (t : Option String) {ms : List Move}
    {k : Nat} (hk : k ≤ ms.length) :
    (sessionIn base around t :: (shownBy base around t ms).map Event.session)[k]? =
      some (sessionIn base (openBehind around (ms.take k)) (tokenBehind t (ms.take k))) := by
  induction ms generalizing around t k with
  | nil =>
    obtain rfl : k = 0 := by simpa using hk
    rfl
  | cons m ms ih =>
    cases k with
    | zero => rfl
    | succ k =>
      rw [List.getElem?_cons_succ, shownBy, List.map_cons, session_shown, List.take_succ_cons]
      exact ih _ _ (Nat.le_of_succ_le_succ hk)

/-- A token that is there stays there. -/
theorem isSome_tokenBehind (ms : List Move) (h : t.isSome = true) :
    (tokenBehind t ms).isSome = true := by
  induction ms generalizing t with
  | nil => exact h
  | cons m ms ih =>
    refine ih ?_
    cases m with
    | capture rule caseId verdict response => simp [Move.token, Option.isSome_or, h]
    | enter rule precondition => exact h
    | leave => exact h

/-! ## Programs -/

mutual

theorem openBehind_moves (around : Scopes) : ∀ op : SessionOp, openBehind around (moves op) = around
  | .capture _ _ _ _ => rfl
  | .scope rule precondition body => by
    have hbody := openBehind_movesAll ((rule, precondition) :: around) body
    rw [moves, openBehind_cons, openBehind_append, Move.scopes, hbody]
    rfl

/-- **A program closes the scopes that it opens.** -/
theorem openBehind_movesAll (around : Scopes) :
    ∀ ops : List SessionOp, openBehind around (movesAll ops) = around
  | [] => rfl
  | op :: ops => by
    rw [movesAll, openBehind_append, openBehind_moves around op, openBehind_movesAll around ops]

end

theorem capture_sessionIn (rule : LoginRule) (caseId : String) (verdict : Verdict)
    (response : Http.Response) : (sessionIn base around t).capture rule caseId verdict response =
      sessionIn base around ((rule.token? caseId verdict response).or t) := by
  unfold Session.capture
  split <;> simp_all [sessionIn]

theorem enter_sessionIn (rule : StopRule) (precondition : String) :
    (sessionIn base around t).enter rule precondition =
      sessionIn base ((rule, precondition) :: around) t := by
  rw [Session.enter, StopRule.applies_eq_decide]
  by_cases h : rule.Stops precondition <;> simp [sessionIn, baseInside, h]

/-- The base URL that a scope has put away is the one around it; a scope that has put none away has
the one around it inside. -/
theorem leave_sessionIn (rule : StopRule) (precondition : String) (t' : Option String) :
    (sessionIn base ((rule, precondition) :: around) t').leave
        ((sessionIn base around t).scope rule precondition) = sessionIn base around t' := by
  rw [Session.leave, Session.scope, StopRule.applies_eq_decide]
  by_cases h : rule.Stops precondition <;> simp [sessionIn, baseInside, h]

mutual

theorem run_eq (base : String) (around : Scopes) (t : Option String) :
    ∀ op : SessionOp, run op (sessionIn base around t) =
      (sessionIn base around (tokenBehind t (moves op)), shownBy base around t (moves op))
  | .capture rule caseId verdict response => by
    rw [run, capture_sessionIn]
    rfl
  | .scope rule precondition body => by
    have hbody := runAll_eq base ((rule, precondition) :: around) t body
    have hclosed := openBehind_movesAll ((rule, precondition) :: around) body
    simp only [run, enter_sessionIn, hbody, leave_sessionIn, Session.isOverridden_scope,
      StopRule.applies_eq_decide, moves, shownBy, shownBy_append, tokenBehind_cons,
      tokenBehind_append, Move.scopes, Move.token, Move.shown, hclosed, List.tail_cons,
      List.cons_append]
    rfl

/-- **A program shows what its moves show**, and leaves the scopes around it open. -/
theorem runAll_eq (base : String) (around : Scopes) (t : Option String) :
    ∀ ops : List SessionOp, runAll ops (sessionIn base around t) =
      (sessionIn base around (tokenBehind t (movesAll ops)), shownBy base around t (movesAll ops))
  | [] => rfl
  | op :: ops => by
    have hop := run_eq base around t op
    have hops := runAll_eq base around (tokenBehind t (moves op)) ops
    simp only [runAll, hop, hops, movesAll, tokenBehind_append, shownBy_append,
      openBehind_moves around op]

end

/-- The captures alone leave the token that they leave among scopes. -/
theorem token_runAll_captures (s : Session) (ms : List Move) :
    (runAll (captures ms) s).1.token = tokenBehind s.token ms := by
  induction ms generalizing s with
  | nil => rfl
  | cons m ms ih =>
    cases m with
    | capture rule caseId verdict response =>
      change (runAll (captures ms) (s.capture rule caseId verdict response)).1.token = _
      rw [ih, Session.token_capture]
      rfl
    | enter rule precondition => exact ih s
    | leave => exact ih s

/-- What is seen at the two ends of a scope. -/
theorem shownBy_scope (base : String) (around : Scopes) (t : Option String)
    {ms earlier later : List Move} {rule : StopRule} {precondition : String}
    {body : List SessionOp}
    (h : ms = earlier ++ .enter rule precondition :: (movesAll body ++ .leave :: later)) :
    (shownBy base around t ms)[earlier.length]? = some (.entered (decide (rule.Stops precondition))
      (sessionIn base ((rule, precondition) :: openBehind around earlier)
        (tokenBehind t earlier))) ∧
    (shownBy base around t ms)[earlier.length + 1 + (movesAll body).length]? =
      some (.left (sessionIn base (openBehind around earlier)
        (tokenBehind (tokenBehind t earlier) (movesAll body)))) := by
  rw [h, shownBy_append, shownBy, shownBy_append, openBehind_movesAll, shownBy]
  constructor
  · rw [List.getElem?_append_right (by simp)]
    simp [Move.shown, Move.scopes, Move.token]
  · rw [List.getElem?_append_right (by simp; omega)]
    simp only [length_shownBy, Nat.add_assoc, Nat.add_sub_cancel_left, Nat.add_comm 1,
      List.getElem?_cons_succ]
    rw [List.getElem?_append_right (by simp)]
    simp [Move.shown, Move.scopes, Move.token]

section

variable (ops : List SessionOp) (s : Session)

theorem events_runAll : (runAll ops s).2 = shownBy s.baseUrl [] s.token (movesAll ops) :=
  congrArg Prod.snd (runAll_eq s.baseUrl [] s.token ops)

/-- The sessions of a program: the one before it, and those behind its moves. -/
def sessions : List Session := s :: (runAll ops s).2.map Event.session

variable {ops s}

theorem getElem?_sessions {k : Nat} (hk : k ≤ (movesAll ops).length) : (sessions ops s)[k]? =
    some (sessionIn s.baseUrl (openBehind [] ((movesAll ops).take k))
      (tokenBehind s.token ((movesAll ops).take k))) := by
  rw [sessions, events_runAll]
  exact sessions_shownBy s.baseUrl [] s.token hk

theorem length_sessions : (sessions ops s).length = (movesAll ops).length + 1 := by
  rw [sessions, List.length_cons, List.length_map, events_runAll, length_shownBy]

theorem getLast?_sessions : (sessions ops s).getLast? = some (runAll ops s).1 := by
  rw [List.getLast?_eq_getElem?, length_sessions, Nat.add_sub_cancel,
    getElem?_sessions (Nat.le_refl _), List.take_length, openBehind_movesAll]
  exact congrArg some (congrArg Prod.fst (runAll_eq s.baseUrl [] s.token ops)).symm

/-- No move takes the token away. -/
theorem isSome_token_of_le {i j : Nat} {before after : Session} (hij : i ≤ j)
    (hbefore : (sessions ops s)[i]? = some before) (hafter : (sessions ops s)[j]? = some after)
    (h : before.token.isSome = true) : after.token.isSome = true := by
  have hj : j ≤ (movesAll ops).length := by
    have hlt := (List.getElem?_eq_some_iff.1 hafter).1
    rw [length_sessions] at hlt
    omega
  rw [getElem?_sessions (Nat.le_trans hij hj), Option.some.injEq] at hbefore
  rw [getElem?_sessions hj, Option.some.injEq] at hafter
  -- The later moves are the earlier ones and some more.
  obtain ⟨more, hmore⟩ : (movesAll ops).take i <+: (movesAll ops).take j :=
    List.take_prefix_take_left hij
  subst hbefore hafter
  rw [← hmore, tokenBehind_append]
  exact isSome_tokenBehind more h

end

/-- **Nested scopes.** There is one event for each move. Behind any number of moves the base URL is
that inside the scopes which are open there, and the token is the one that the captures so far leave
when they are carried out without any scope; once it is there it stays. A scope, wherever it stands,
is overridden exactly if its precondition stops the server; directly inside, the base URL is then
the unreachable one and otherwise the one around it; and behind it the base URL is the one from
before it. -/
theorem runAll_scopes (ops : List SessionOp) (s : Session) :
    (runAll ops s).2.length = (movesAll ops).length ∧
    (sessions ops s).getLast? = some (runAll ops s).1 ∧
    (∀ k ≤ (movesAll ops).length, ∃ behind, (sessions ops s)[k]? = some behind ∧
      behind.baseUrl = baseInside s.baseUrl (openBehind [] ((movesAll ops).take k)) ∧
      behind.token = (runAll (captures ((movesAll ops).take k)) s).1.token) ∧
    (∀ (i j : Nat) (before after : Session), i ≤ j → (sessions ops s)[i]? = some before →
      (sessions ops s)[j]? = some after → before.token.isSome = true → after.token.isSome = true) ∧
    ∀ earlier rule precondition body later,
      movesAll ops = earlier ++ .enter rule precondition :: (movesAll body ++ .leave :: later) →
      ∃ before inside after : Session,
        (sessions ops s)[earlier.length]? = some before ∧
        (runAll ops s).2[earlier.length]? =
          some (.entered (decide (rule.Stops precondition)) inside) ∧
        (runAll ops s).2[earlier.length + 1 + (movesAll body).length]? = some (.left after) ∧
        inside.baseUrl =
          (if rule.Stops precondition then rule.unreachableUrl else before.baseUrl) ∧
        inside.token = before.token ∧ after.baseUrl = before.baseUrl := by
  refine ⟨?_, getLast?_sessions, ?_, fun _ _ _ _ => isSome_token_of_le, ?_⟩
  · rw [events_runAll, length_shownBy]
  · intro k hk
    exact ⟨_, getElem?_sessions hk, rfl, (token_runAll_captures s _).symm⟩
  · intro earlier rule precondition body later h
    have hbefore : (sessions ops s)[earlier.length]? =
        some (sessionIn s.baseUrl (openBehind [] earlier) (tokenBehind s.token earlier)) := by
      rw [getElem?_sessions (by simp [h]), h, List.take_left' rfl]
    obtain ⟨hinside, hafter⟩ := shownBy_scope s.baseUrl [] s.token h
    rw [← events_runAll] at hinside hafter
    exact ⟨_, _, _, hbefore, hinside, hafter, rfl, rfl, rfl⟩

/-- A scope that leaves the base URL alone, inside one that does not. -/
example : (runAll [.scope ⟨"down", "http://nowhere"⟩ "server down" [.scope ⟨"down", ""⟩ "" []]]
      ⟨"http://here", none⟩).2.map (fun e => e.session.baseUrl) =
    ["http://nowhere", "http://nowhere", "http://nowhere", "http://here"] := by
  decide +kernel

end SessionOp
end CaseSheet

import FractionCalculator.Proofs.Expression.Acceptance

namespace FractionCalculator

variable {tokens before : List Token} {token : Token} {stack stack' : List Number} {e : CalcError}

-- An operator is reached when the tokens before it leave fewer than two values.
def Underflows (tokens : List Token) : Prop :=
  ∃ before op after, tokens = before ++ .operator op :: after ∧
    before.countP Token.isValue < before.countP Token.isOperator + 2

-- A postfix sequence that makes one value out of all its tokens.
def LeavesOne (tokens : List Token) : Prop :=
  ∃ x, tokens.foldlM runToken [] = .ok [x]

-- Only an operator fails, and only for want of operands.
theorem runToken_eq_error_iff :
    runToken stack token = .error e ↔
      e = .emptyStack ∧ stack.length < 2 ∧ token.isOperator = true := by
  cases token with
  | value x text => simp [runToken, Token.isOperator]
  | operator op =>
      rcases stack with _ | ⟨right, _ | ⟨left, rest⟩⟩
      · simp [runToken, Token.isOperator, eq_comm]
      · simp [runToken, Token.isOperator, eq_comm]
      · have hlength : 2 ≤ (right :: left :: rest).length := by
          rw [List.length_cons, List.length_cons]
          omega
        exact ⟨nofun, fun h => absurd h.2.1 (Nat.not_lt.mpr hlength)⟩

-- A value makes the stack one higher, an operator one lower.
theorem runToken_length (h : runToken stack token = .ok stack') :
    stack'.length + [token].countP Token.isOperator =
      stack.length + [token].countP Token.isValue := by
  unfold runToken at h
  split at h <;> cases h
  · rfl
  · rfl

theorem foldlM_runToken_length (h : tokens.foldlM runToken [] = .ok stack) :
    stack.length + tokens.countP Token.isOperator = tokens.countP Token.isValue :=
  foldlM_induction
    (motive := fun done stack =>
      stack.length + done.countP Token.isOperator = done.countP Token.isValue)
    (fun done s token s' hs hstep => by
      have hlength := runToken_length hstep
      rw [List.countP_append, List.countP_append]
      omega)
    tokens rfl h

-- What lies below the operands of a step stays where it is.
theorem runToken_append (h : runToken stack token = .ok stack') (below : List Number) :
    runToken (stack ++ below) token = .ok (stack' ++ below) := by
  unfold runToken at h
  split at h <;> cases h
  · rfl
  · rfl

theorem foldlM_runToken_append (h : tokens.foldlM runToken stack = .ok stack')
    (below : List Number) :
    tokens.foldlM runToken (stack ++ below) = .ok (stack' ++ below) := by
  induction tokens generalizing stack with
  | nil =>
      cases h
      rfl
  | cons token tokens ih =>
      rw [List.foldlM_cons] at h ⊢
      obtain ⟨next, hstep, hrest⟩ := bind_eq_ok.mp h
      exact bind_eq_ok.mpr ⟨next ++ below, runToken_append hstep below, ih hrest⟩

theorem foldlM_runToken_eq_error_iff :
    tokens.foldlM runToken [] = .error e ↔ e = .emptyStack ∧ Underflows tokens := by
  constructor
  · intro h
    obtain ⟨before, token, after, stack, rfl, hbefore, hstep⟩ := foldlM_eq_error_iff.mp h
    obtain ⟨rfl, hshort, hoperator⟩ := runToken_eq_error_iff.mp hstep
    cases token with
    | value x text => cases hoperator
    | operator op =>
        have hlength := foldlM_runToken_length hbefore
        exact ⟨rfl, before, op, after, rfl, by omega⟩
  · rintro ⟨rfl, before, op, after, rfl, hfew⟩
    rw [List.foldlM_append]
    cases hbefore : before.foldlM runToken [] with
    | error e =>
        -- an earlier operator has failed before this one is reached
        obtain ⟨_, token, _, stack, -, -, hstep⟩ := foldlM_eq_error_iff.mp hbefore
        rw [(runToken_eq_error_iff.mp hstep).1]
        rfl
    | ok stack =>
        have hlength := foldlM_runToken_length hbefore
        have hstep : runToken stack (.operator op) = .error .emptyStack :=
          runToken_eq_error_iff.mpr ⟨rfl, by omega, rfl⟩
        exact bind_eq_error.mpr (.inr ⟨stack, rfl, bind_eq_error.mpr (.inl hstep)⟩)

theorem exists_stack (h : ¬ Underflows tokens) :
    ∃ stack, tokens.foldlM runToken [] = .ok stack := by
  cases hrun : tokens.foldlM runToken [] with
  | ok stack => exact ⟨stack, rfl⟩
  | error e => exact absurd (foldlM_runToken_eq_error_iff.mp hrun).2 h

theorem not_underflows (h : tokens.foldlM runToken [] = .ok stack) : ¬ Underflows tokens := by
  intro hunder
  rw [foldlM_runToken_eq_error_iff.mpr ⟨rfl, hunder⟩] at h
  cases h

theorem leavesOne_iff :
    LeavesOne tokens ↔ ¬ Underflows tokens ∧
      tokens.countP Token.isValue = tokens.countP Token.isOperator + 1 := by
  constructor
  · rintro ⟨x, hrun⟩
    have hlength := foldlM_runToken_length hrun
    rw [List.length_singleton] at hlength
    exact ⟨not_underflows hrun, by omega⟩
  · rintro ⟨hunder, hcount⟩
    obtain ⟨stack, hrun⟩ := exists_stack hunder
    have hlength := foldlM_runToken_length hrun
    obtain ⟨x, rfl⟩ := List.length_eq_one_iff.mp (by omega : stack.length = 1)
    exact ⟨x, hrun⟩

-- A run that ends well has a value on top unless its counts cancel out.
theorem evaluatePostfix_eq_error_iff :
    evaluatePostfix tokens = .error e ↔ e = .emptyStack ∧ (Underflows tokens ∨
      tokens.countP Token.isValue ≤ tokens.countP Token.isOperator) := by
  constructor
  · intro h
    rcases bind_eq_error.mp h with hrun | ⟨stack, hrun, htop⟩
    · obtain ⟨rfl, hunder⟩ := foldlM_runToken_eq_error_iff.mp hrun
      exact ⟨rfl, .inl hunder⟩
    · have hlength := foldlM_runToken_length hrun
      cases stack with
      | nil =>
          cases htop
          rw [List.length_nil] at hlength
          exact ⟨rfl, .inr (by omega)⟩
      | cons x stack => cases htop
  · rintro ⟨rfl, hcause⟩
    by_cases hunder : Underflows tokens
    · exact bind_eq_error.mpr (.inl (foldlM_runToken_eq_error_iff.mpr ⟨rfl, hunder⟩))
    · obtain ⟨stack, hrun⟩ := exists_stack hunder
      have hlength := foldlM_runToken_length hrun
      have hcount := hcause.resolve_left hunder
      obtain rfl := List.length_eq_zero_iff.mp (by omega : stack.length = 0)
      exact bind_eq_error.mpr (.inr ⟨[], hrun, rfl⟩)

-- What an expression is run on top of makes no difference to its value.
theorem LeavesOne.evaluatePostfix_append (h : LeavesOne tokens) (hbefore : ¬ Underflows before) :
    evaluatePostfix (before ++ tokens) = evaluatePostfix tokens := by
  obtain ⟨x, hrun⟩ := h
  obtain ⟨below, hbelow⟩ := exists_stack hbefore
  rw [evaluatePostfix, evaluatePostfix, List.foldlM_append, hbelow, hrun]
  have habove := foldlM_runToken_append hrun below
  rw [List.nil_append] at habove
  change ((tokens.foldlM runToken below) >>= _) = _
  rw [habove]
  rfl

-- Running tokens in any order whatever, as a postfix sequence, fails exactly when one of the
-- operators underflows or nothing is left at the end, and always with the same error. A sequence
-- that leaves one value leaves it on top of any stack that was there before.
theorem evaluatePostfix_underflow (tokens : List Token) :
    (∀ e, evaluatePostfix tokens = .error e ↔ e = .emptyStack ∧ (Underflows tokens ∨
      tokens.countP Token.isValue ≤ tokens.countP Token.isOperator)) ∧
    (LeavesOne tokens ↔ ¬ Underflows tokens ∧
      tokens.countP Token.isValue = tokens.countP Token.isOperator + 1) ∧
    (LeavesOne tokens → ∀ before, ¬ Underflows before →
      evaluatePostfix (before ++ tokens) = evaluatePostfix tokens) :=
  ⟨fun _ => evaluatePostfix_eq_error_iff, leavesOne_iff,
    fun h _ hbefore => h.evaluatePostfix_append hbefore⟩

-- Two more values than operators do not save an operator that comes too early. A quotient is the
-- same on top of two values that are left over.
theorem evaluatePostfix_underflow_early :
    let two : Token := .value (.finite 2 1) "2"
    let six : Token := .value (.finite 6 1) "6"
    let early := [two, .operator .add, two, six]
    let leftOver := [six, two, six, .operator .multiply]
    let quotient := [six, two, .operator .divide]
    evaluatePostfix early = .error .emptyStack ∧
      LeavesOne quotient ∧ ¬ Underflows leftOver ∧
      evaluatePostfix (leftOver ++ quotient) = evaluatePostfix quotient ∧
      evaluatePostfix quotient = .ok (.finite 3 1) := by
  intro two six early leftOver quotient
  have hunder : Underflows early := ⟨[two], .add, [two, six], rfl, by decide⟩
  have hearly := ((evaluatePostfix_underflow early).1 .emptyStack).mpr ⟨rfl, .inl hunder⟩
  have hone : LeavesOne quotient := ⟨.finite 3 1, by decide⟩
  have hrun : leftOver.foldlM runToken [] = .ok [.finite 12 1, .finite 6 1] := by decide
  have hleft : ¬ Underflows leftOver := not_underflows hrun
  obtain ⟨-, -, habove⟩ := evaluatePostfix_underflow quotient
  exact ⟨hearly, hone, hleft, habove hone leftOver hleft, by decide⟩

end FractionCalculator

import FractionCalculator.Proofs.Expression.Shape
import Mathlib.Data.Nat.Find

namespace FractionCalculator

namespace Token

def isValue : Token → Bool
  | value _ _ => true
  | operator _ => false

def isOperator : Token → Bool
  | value _ _ => false
  | operator _ => true

-- Counted from zero, values belong at the even positions and operators at the odd ones.
def BelongsAt (position : Nat) : Token → Prop
  | value _ _ => position % 2 = 0
  | operator _ => position % 2 = 1

instance (position : Nat) (token : Token) : Decidable (token.BelongsAt position) := by
  cases token <;> unfold BelongsAt <;> infer_instance

end Token

def InPlace (tokens : List Token) : Prop :=
  ∀ (position : Nat) (token : Token), tokens[position]? = some token → token.BelongsAt position

theorem inPlace_iff (tokens : List Token) :
    InPlace tokens ↔ ∀ i (h : i < tokens.length), tokens[i].BelongsAt i := by
  constructor
  · exact fun h i hi => h i _ (List.getElem?_eq_getElem hi)
  · intro h i token hfound
    obtain ⟨hi, rfl⟩ := List.getElem?_eq_some_iff.mp hfound
    exact h i hi

instance (tokens : List Token) : Decidable (InPlace tokens) :=
  decidable_of_iff' _ (inPlace_iff tokens)

structure FirstMisplaced (tokens : List Token) (position : Nat) (token : Token) : Prop where
  found : tokens[position]? = some token
  misplaced : ¬ token.BelongsAt position
  first : InPlace (tokens.take position)

namespace CalcError

-- The place that an error gives for a token.
def placeText : Option Token → String
  | none => " at start"
  | some previous => " after " ++ previous.describe

-- The error points at a token by the one before it.
structure Blames (e : CalcError) (token : Token) (previous : Option Token) : Prop where
  cause : e = .misplacedToken token previous
  kind : e.IsMalformedExpression
  text : e.message = "Line does not parse as a valid expression: " ++
    ("unexpected " ++ token.describe ++ placeText previous)

structure Counts (e : CalcError) (values operators : Nat) : Prop where
  cause : e = .unbalanced values operators
  kind : e.IsMalformedExpression
  text : e.message = "Line does not parse as a valid expression: " ++
    (toString values ++ " values for " ++ toString operators ++ " operators")

theorem blames_misplacedToken (token : Token) (previous : Option Token) :
    (misplacedToken token previous).Blames token previous := by
  cases previous with
  | none => exact ⟨rfl, rfl, rfl⟩
  | some previous => exact ⟨rfl, rfl, congrArg notAnExpression String.append_assoc⟩

theorem counts_unbalanced (values operators : Nat) :
    (unbalanced values operators).Counts values operators :=
  ⟨rfl, rfl, rfl⟩

end CalcError

theorem exists_firstMisplaced {tokens : List Token} (h : ¬ InPlace tokens) :
    ∃ position token, FirstMisplaced tokens position token := by
  classical
  simp only [InPlace, not_forall] at h
  obtain ⟨token, hfound, hmisplaced⟩ := Nat.find_spec h
  refine ⟨Nat.find h, token, hfound, hmisplaced, fun position other hother => ?_⟩
  by_contra hplace
  rw [List.getElem?_take] at hother
  split_ifs at hother with hlt
  exact Nat.find_min h hlt ⟨other, hother, hplace⟩

namespace Conversion

-- What a conversion knows of the tokens that it has accepted: the last one, how many of either kind
-- there were, and from their number what has to come next.
structure Reading (done : List Token) (s : Conversion) : Prop where
  expectsValue : s.expectsValue = decide (done.length % 2 = 0)
  previous : s.previous = done.getLast?
  values : s.values = done.countP Token.isValue
  operators : s.operators = done.countP Token.isOperator
  balance : s.values = s.operators + done.length % 2

variable {done tokens : List Token} {s : Conversion} {token : Token}

theorem reading_start : start.Reading [] :=
  ⟨rfl, rfl, rfl, rfl, rfl⟩

theorem Reading.step (h : s.Reading done) (hplace : token.BelongsAt done.length) :
    ∃ s', s.step token = .ok s' ∧ s'.Reading (done ++ [token]) := by
  obtain ⟨hexpects, -, hvalues, hoperators, hbalance⟩ := h
  have hlength : (done ++ [token]).length = done.length + 1 := List.length_append
  cases token with
  | value x text =>
      have heven : done.length % 2 = 0 := hplace
      rw [decide_eq_true heven] at hexpects
      refine ⟨_, by simp only [Conversion.step, hexpects]; rfl, ?_, ?_, ?_, ?_, ?_⟩
      · exact (decide_eq_false (by omega)).symm
      · exact List.getLast?_concat.symm
      · rw [List.countP_append, ← hvalues]
        rfl
      · rw [List.countP_append, ← hoperators]
        rfl
      · show s.values + 1 = s.operators + _
        omega
  | operator op =>
      have hodd : done.length % 2 = 1 := hplace
      rw [decide_eq_false (by omega)] at hexpects
      refine ⟨_, by simp only [Conversion.step, hexpects]; rfl, ?_, ?_, ?_, ?_, ?_⟩
      · exact (decide_eq_true (by omega)).symm
      · exact List.getLast?_concat.symm
      · rw [List.countP_append, ← hvalues]
        rfl
      · rw [List.countP_append, ← hoperators]
        rfl
      · show s.values = s.operators + 1 + _
        omega

theorem Reading.step_misplaced (h : s.Reading done) (hplace : ¬ token.BelongsAt done.length) :
    s.step token = .error (.misplacedToken token done.getLast?) := by
  rw [← h.previous]
  cases token with
  | value x text =>
      have hexpects : s.expectsValue = false := h.expectsValue.trans (decide_eq_false hplace)
      simp only [Conversion.step, hexpects]
  | operator op =>
      have heven : done.length % 2 = 0 := Nat.mod_two_ne_one.mp hplace
      have hexpects : s.expectsValue = true := h.expectsValue.trans (decide_eq_true heven)
      simp only [Conversion.step, hexpects]

theorem Reading.run (h : s.Reading done)
    (hplace : ∀ (i : Nat) (token : Token), tokens[i]? = some token →
      token.BelongsAt (done.length + i)) :
    ∃ s', tokens.foldlM Conversion.step s = .ok s' ∧ s'.Reading (done ++ tokens) := by
  induction tokens generalizing done s with
  | nil => exact ⟨s, rfl, by rwa [List.append_nil]⟩
  | cons token tokens ih =>
      obtain ⟨t, hstep, ht⟩ := h.step (hplace 0 token rfl)
      obtain ⟨s', hrun, hs'⟩ := ih ht fun i other hother => by
        have hnext := hplace (i + 1) other hother
        rw [List.length_append, List.length_singleton]
        convert hnext using 1
        omega
      rw [List.append_assoc] at hs'
      refine ⟨s', ?_, hs'⟩
      rw [List.foldlM_cons, hstep]
      exact hrun

theorem exists_reading (h : InPlace tokens) :
    ∃ s, tokens.foldlM Conversion.step start = .ok s ∧ s.Reading tokens :=
  reading_start.run fun i token hfound => by
    rw [List.length_nil, Nat.zero_add]
    exact h i token hfound

-- The two counts differ by the parity of the whole, so the end accepts the odd numbers of tokens.
theorem Reading.finish_odd (h : s.Reading tokens) (hodd : tokens.length % 2 = 1) :
    s.finish = .ok (s.output ++ s.waiting.map Token.operator) :=
  if_pos (h.balance.trans (by rw [hodd]))

theorem Reading.finish_even (h : s.Reading tokens) (heven : tokens.length % 2 = 0) :
    s.finish =
      .error (.unbalanced (tokens.countP Token.isValue) (tokens.countP Token.isOperator)) := by
  have hbalance := h.balance
  rw [finish, if_neg (by omega), h.values, h.operators]

end Conversion

variable {tokens : List Token}

theorem toPostfix_of_odd (h : InPlace tokens) (hodd : tokens.length % 2 = 1) :
    ∃ out, toPostfix tokens = .ok out := by
  obtain ⟨s, hrun, hs⟩ := Conversion.exists_reading h
  exact ⟨_, bind_eq_ok.mpr ⟨s, hrun, hs.finish_odd hodd⟩⟩

theorem toPostfix_of_even (h : InPlace tokens) (heven : tokens.length % 2 = 0) :
    toPostfix tokens =
      .error (.unbalanced (tokens.countP Token.isValue) (tokens.countP Token.isOperator)) := by
  obtain ⟨s, hrun, hs⟩ := Conversion.exists_reading h
  exact bind_eq_error.mpr (.inr ⟨s, hrun, hs.finish_even heven⟩)

-- The conversion accepts everything before the first token out of place, and stops there.
theorem toPostfix_append_misplaced {before : List Token} {token : Token} (after : List Token)
    (hbefore : InPlace before) (htoken : ¬ token.BelongsAt before.length) :
    toPostfix (before ++ token :: after) = .error (.misplacedToken token before.getLast?) := by
  obtain ⟨s, hrun, hs⟩ := Conversion.exists_reading hbefore
  refine bind_eq_error.mpr (.inl ?_)
  rw [List.foldlM_append, hrun]
  refine bind_eq_error.mpr (.inr ⟨s, rfl, ?_⟩)
  rw [List.foldlM_cons, hs.step_misplaced htoken]
  rfl

theorem toPostfix_of_firstMisplaced {position : Nat} {token : Token}
    (h : FirstMisplaced tokens position token) :
    toPostfix tokens = .error (.misplacedToken token (tokens.take position).getLast?) := by
  obtain ⟨hfound, hmisplaced, hfirst⟩ := h
  obtain ⟨hlt, hget⟩ := List.getElem?_eq_some_iff.mp hfound
  have hsplit : tokens.take position ++ token :: tokens.drop (position + 1) = tokens := by
    rw [← hget, ← List.drop_eq_getElem_cons hlt, List.take_append_drop]
  rw [← List.length_take_of_le hlt.le] at hmisplaced
  have herror := toPostfix_append_misplaced (tokens.drop (position + 1)) hfirst hmisplaced
  rwa [hsplit] at herror

-- A token sequence is converted exactly when its length is odd and every token is in its place. Of
-- the misplaced tokens the first is blamed, with the one before it, and when there is none the
-- values and the operators are counted.
theorem toPostfix_accepts_in_place (tokens : List Token) :
    ((∃ out, toPostfix tokens = .ok out) ↔ tokens.length % 2 = 1 ∧ InPlace tokens) ∧
    (¬ InPlace tokens → ∃ position token, FirstMisplaced tokens position token) ∧
    (∀ position token, FirstMisplaced tokens position token →
      ∃ e, toPostfix tokens = .error e ∧ e.Blames token (tokens.take position).getLast?) ∧
    (InPlace tokens → tokens.length % 2 ≠ 1 →
      ∃ e, toPostfix tokens = .error e ∧
        e.Counts (tokens.countP Token.isValue) (tokens.countP Token.isOperator)) := by
  refine ⟨⟨?_, fun ⟨hodd, hplace⟩ => toPostfix_of_odd hplace hodd⟩, exists_firstMisplaced, ?_, ?_⟩
  · rintro ⟨out, hout⟩
    have hplace : InPlace tokens := by
      by_contra hnot
      obtain ⟨position, token, hfirst⟩ := exists_firstMisplaced hnot
      rw [toPostfix_of_firstMisplaced hfirst] at hout
      cases hout
    refine ⟨?_, hplace⟩
    by_contra hodd
    rw [toPostfix_of_even hplace (Nat.mod_two_ne_one.mp hodd)] at hout
    cases hout
  · intro position token hfirst
    exact ⟨_, toPostfix_of_firstMisplaced hfirst, CalcError.blames_misplacedToken _ _⟩
  · intro hplace hodd
    exact ⟨_, toPostfix_of_even hplace (Nat.mod_two_ne_one.mp hodd),
      CalcError.counts_unbalanced _ _⟩

-- All tokens behind the second operator are out of place too, and only that operator is blamed. A
-- line that stops after an operator has each token in its place.
theorem toPostfix_accepts_in_place_faults :
    let one : Token := .value .one "1"
    let plus : Token := .operator .add
    let times : Token := .operator .multiply
    (∃ e, toPostfix [one, plus, times, one, plus] = .error e ∧ e.Blames times (some plus)) ∧
    (∃ e, toPostfix [plus, one] = .error e ∧ e.Blames plus none) ∧
    (∃ e, toPostfix [one, plus] = .error e ∧ e.Counts 1 1) ∧
    ∃ e, toPostfix [] = .error e ∧ e.Counts 0 0 := by
  intro one plus times
  obtain ⟨-, -, htwice, -⟩ := toPostfix_accepts_in_place [one, plus, times, one, plus]
  obtain ⟨-, -, hstart, -⟩ := toPostfix_accepts_in_place [plus, one]
  obtain ⟨-, -, -, hdangling⟩ := toPostfix_accepts_in_place [one, plus]
  obtain ⟨-, -, -, hempty⟩ := toPostfix_accepts_in_place []
  exact ⟨htwice 2 times ⟨rfl, by decide, by decide⟩, hstart 0 plus ⟨rfl, by decide, by decide⟩,
    hdangling (by decide) (by decide), hempty (by decide) (by decide)⟩

end FractionCalculator

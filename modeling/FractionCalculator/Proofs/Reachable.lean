import FractionCalculator.Proofs.Expression.Values
import FractionCalculator.Proofs.Number.Writable

namespace FractionCalculator

open Number

-- Whatever the shape of a literal, its number comes from one of the constructions.
theorem parse_canonical {text : String} {x : Number} (h : parse text = .ok x) : x.Canonical := by
  unfold parse at h
  split at h
  · rename_i literal _
    cases literal with
    | whole negative digits =>
        simp only [Literal.value, bind_eq_ok] at h
        obtain ⟨_, _, _, _, hx⟩ := h
        cases hx
        exact ofInt_canonical _
    | fraction negative num den =>
        simp only [Literal.value, bind_eq_ok] at h
        obtain ⟨_, _, _, _, _, _, _, _, hx⟩ := h
        exact ofRatio_canonical hx
    | mixed negative units num den =>
        simp only [Literal.value, bind_eq_ok] at h
        obtain ⟨_, _, _, _, _, _, _, _, _, _, _, _, hx⟩ := h
        exact ofMixed_canonical hx
  · cases h

theorem apply_canonical (op : Operator) (x y : Number) : (op.apply x y).Canonical := by
  cases op with
  | add => exact add_canonical x y
  | subtract => exact subtract_canonical x y
  | multiply => exact multiply_canonical x y
  | divide => exact divide_canonical x y

def Number.constants : List Number :=
  [zero, one, maxValue, minValue, posInfinity, negInfinity, nan]

theorem constants_canonical : ∀ x ∈ constants, x.Canonical := by
  decide

-- What one construction or operation makes of the numbers known so far. Integers and texts come
-- from outside, without any bound. The values of an expression are known numbers, each with the
-- text it was written as.
inductive Yields (known : List Number) : Number → Prop
  | constant {x : Number} (h : x ∈ constants) : Yields known x
  | ofInt (value : Int) : Yields known (Number.ofInt value)
  | ofRatio {num den : Int} {x : Number} (h : Number.ofRatio num den = .ok x) : Yields known x
  | ofMixed {whole num den : Int} {x : Number} (h : Number.ofMixed whole num den = .ok x) :
      Yields known x
  | parse {text : String} {x : Number} (h : Number.parse text = .ok x) : Yields known x
  | negate {x : Number} (hx : x ∈ known) : Yields known x.negate
  | reciprocal {x : Number} (hx : x ∈ known) : Yields known x.reciprocal
  | abs {x : Number} (hx : x ∈ known) : Yields known x.abs
  | add {x y : Number} (hx : x ∈ known) (hy : y ∈ known) : Yields known (x.add y)
  | subtract {x y : Number} (hx : x ∈ known) (hy : y ∈ known) : Yields known (x.subtract y)
  | multiply {x y : Number} (hx : x ∈ known) (hy : y ∈ known) : Yields known (x.multiply y)
  | divide {x y : Number} (hx : x ∈ known) (hy : y ∈ known) : Yields known (x.divide y)
  | evaluate {tokens : List Token} {x : Number}
      (hvalues : ∀ y text, Token.value y text ∈ tokens → y ∈ known)
      (h : FractionCalculator.evaluate tokens = .ok x) : Yields known x

-- A step that fails yields nothing, so a run is the numbers it obtained, the latest first.
inductive Run : List Number → Prop
  | start : Run []
  | step {known : List Number} {x : Number} (run : Run known) (h : Yields known x) :
      Run (x :: known)

def Reachable (x : Number) : Prop :=
  ∃ known, Run known ∧ x ∈ known

theorem Yields.canonical {known : List Number} {x : Number} (h : Yields known x)
    (hknown : ∀ y ∈ known, y.Canonical) : x.Canonical := by
  cases h with
  | constant h => exact constants_canonical x h
  | ofInt value => exact ofInt_canonical value
  | ofRatio h => exact ofRatio_canonical h
  | ofMixed h => exact ofMixed_canonical h
  | parse h => exact parse_canonical h
  | negate hx => exact negate_canonical _
  | reciprocal hx => exact reciprocal_canonical _
  | abs hx => exact abs_canonical (hknown _ hx)
  | add hx hy => exact add_canonical _ _
  | subtract hx hy => exact subtract_canonical _ _
  | multiply hx hy => exact multiply_canonical _ _
  | divide hx hy => exact divide_canonical _ _
  | evaluate hvalues h =>
      exact evaluate_closed (fun op x y _ _ => apply_canonical op x y)
        (fun y text hy => hknown y (hvalues y text hy)) h

theorem Run.canonical {known : List Number} (h : Run known) : ∀ x ∈ known, x.Canonical := by
  induction h with
  | start => simp
  | step run h ih => exact List.forall_mem_cons.mpr ⟨h.canonical ih, ih⟩

theorem Reachable.canonical {x : Number} (h : Reachable x) : x.Canonical := by
  obtain ⟨known, hrun, hmem⟩ := h
  exact hrun.canonical x hmem

-- Canonical numbers are exactly those that can be obtained, each special one as a constant and
-- each fraction from its own parts.
theorem reachable_iff_canonical (x : Number) : Reachable x ↔ x.Canonical := by
  refine ⟨Reachable.canonical, fun h => ?_⟩
  suffices hyields : Yields [] x from ⟨[x], .step .start hyields, List.mem_singleton_self x⟩
  cases x with
  | nan => exact .constant (by decide)
  | infinite negative => exact .constant (by cases negative <;> decide)
  | finite num den => exact .ofRatio (ofRatio_of_canonical h)

-- Every number in a run is canonical, and so is the pair of words that it shows.
theorem run_canonical (known : List Number) (h : Run known) (x : Number) (hx : x ∈ known) :
    x.Canonical ∧ IsWordPair x.numerator x.denominator :=
  ⟨h.canonical x hx, (h.canonical x hx).isWordPair⟩

-- The smallest word has no negative among the words.
theorem run_canonical_negated :
    Run [minValue.negate, minValue] ∧ minValue.negate = posInfinity ∧
    minValue.negate.Canonical ∧
    IsWordPair minValue.negate.numerator minValue.negate.denominator := by
  have hrun : Run [minValue.negate, minValue] :=
    .step (.step .start (.constant (by decide))) (.negate List.mem_cons_self)
  exact ⟨hrun, by decide, run_canonical _ hrun _ List.mem_cons_self⟩

end FractionCalculator

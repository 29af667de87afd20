import FractionCalculator.Number.Convert
import FractionCalculator.Proofs.Expression.Shape
import FractionCalculator.Proofs.Literal.Refusal
import FractionCalculator.Proofs.Text.Words

namespace FractionCalculator

def operatorSpellings : List String :=
  ["+", "-", "*", "/", "−", "×", "÷"]

def SpellsNumber (word : String) : Prop :=
  ∃ x, Number.parse word = .ok x

def SpellsToken (word : String) : Prop :=
  word ∈ operatorSpellings ∨ SpellsNumber word

inductive Reads : String → Token → Prop
  | operator {op : Operator} {word : String} (h : word ∈ op.spellings) : Reads word (.operator op)
  | value {x : Number} {word : String} (h : Number.parse word = .ok x) :
      Reads word (.value x word)

def FirstRefused (words : List String) (word : String) : Prop :=
  ∃ before after, words = before ++ word :: after ∧ (∀ earlier ∈ before, SpellsToken earlier) ∧
    ¬ SpellsToken word

-- Numbers and operators take turns, with a number at either end.
def AlternatingWords : List String → Prop
  | [] => False
  | [number] => SpellsNumber number
  | number :: op :: words => SpellsNumber number ∧ op ∈ operatorSpellings ∧ AlternatingWords words

theorem mem_operatorSpellings_iff (word : String) :
    word ∈ operatorSpellings ↔ ∃ op : Operator, word ∈ op.spellings := by
  constructor
  · intro h
    simp only [operatorSpellings, List.mem_cons, List.not_mem_nil, or_false] at h
    rcases h with rfl | rfl | rfl | rfl | rfl | rfl | rfl
    exacts [⟨.add, by decide⟩, ⟨.subtract, by decide⟩, ⟨.multiply, by decide⟩,
      ⟨.divide, by decide⟩, ⟨.subtract, by decide⟩, ⟨.multiply, by decide⟩, ⟨.divide, by decide⟩]
  · rintro ⟨op, h⟩
    revert word
    cases op <;> decide

theorem ofSpelling?_eq_some_iff (word : String) (op : Operator) :
    Operator.ofSpelling? word = some op ↔ word ∈ op.spellings := by
  constructor
  · intro h
    simpa using List.find?_some h
  · intro h
    revert word
    cases op <;> decide

-- Every operator is read from its symbol. The typographic signs are the only other spellings.
theorem ofSpelling?_eq_some_iff_sign (word : String) (op : Operator) :
    Operator.ofSpelling? word = some op ↔
      word = op.symbol ∨ (word = "−" ∧ op = .subtract) ∨ (word = "×" ∧ op = .multiply) ∨
        (word = "÷" ∧ op = .divide) := by
  rw [ofSpelling?_eq_some_iff]
  cases op <;> simp [Operator.spellings, Operator.symbol]

theorem ofSpelling?_eq_none_iff (word : String) :
    Operator.ofSpelling? word = none ↔ word ∉ operatorSpellings := by
  rw [mem_operatorSpellings_iff, Option.eq_none_iff_forall_ne_some]
  simp only [ne_eq, ofSpelling?_eq_some_iff, not_exists]

-- A sign alone is no number.
theorem parse_of_mem_operatorSpellings {word : String} (h : word ∈ operatorSpellings) :
    Number.parse word = .error (.notALiteral word) := by
  have hnone : ∀ word ∈ operatorSpellings,
      Literal.ofChars? (Text.trimEnds word.toList) = none := by decide +kernel
  rw [Number.parse, hnone word h]

theorem not_spellsNumber {word : String} (h : word ∈ operatorSpellings) : ¬ SpellsNumber word := by
  rintro ⟨x, hx⟩
  rw [parse_of_mem_operatorSpellings h] at hx
  cases hx

theorem Reads.spellsNumber {word text : String} {x : Number} (h : Reads word (.value x text)) :
    SpellsNumber word := by
  cases h with
  | value h => exact ⟨x, h⟩

theorem Reads.mem_operatorSpellings {word : String} {op : Operator}
    (h : Reads word (.operator op)) : word ∈ operatorSpellings := by
  cases h with
  | operator h => exact (mem_operatorSpellings_iff word).mpr ⟨op, h⟩

namespace Token

theorem ofWord_of_mem {word : String} {op : Operator} (h : word ∈ op.spellings) :
    ofWord word = .ok (operator op) := by
  rw [ofWord, (ofSpelling?_eq_some_iff word op).mpr h]

theorem ofWord_of_not_mem {word : String} (h : word ∉ operatorSpellings) :
    ofWord word = (Number.parse word).map fun number => value number word := by
  rw [ofWord, (ofSpelling?_eq_none_iff word).mpr h]

theorem ofWord_eq_ok_iff (word : String) (token : Token) :
    ofWord word = .ok token ↔ Reads word token := by
  by_cases hmem : word ∈ operatorSpellings
  · obtain ⟨op, hop⟩ := (mem_operatorSpellings_iff word).mp hmem
    rw [ofWord_of_mem hop]
    constructor
    · intro h
      cases h
      exact .operator hop
    · intro h
      cases h with
      | operator h => rw [← ofWord_of_mem hop, ofWord_of_mem h]
      | value h => exact absurd ⟨_, h⟩ (not_spellsNumber hmem)
  · rw [ofWord_of_not_mem hmem]
    constructor
    · intro h
      cases hparse : Number.parse word with
      | error e =>
          rw [hparse] at h
          cases h
      | ok x =>
          rw [hparse] at h
          cases h
          exact .value hparse
    · intro h
      cases h with
      | operator h => exact absurd ((mem_operatorSpellings_iff word).mpr ⟨_, h⟩) hmem
      | value h => rw [h]; rfl

theorem ofWord_isOk_iff (word : String) :
    (∃ token, ofWord word = .ok token) ↔ SpellsToken word := by
  simp only [ofWord_eq_ok_iff]
  constructor
  · rintro ⟨token, h⟩
    cases token with
    | value x text => exact .inr h.spellsNumber
    | operator op => exact .inl h.mem_operatorSpellings
  · rintro (h | ⟨x, hx⟩)
    · obtain ⟨op, hop⟩ := (mem_operatorSpellings_iff word).mp h
      exact ⟨_, .operator hop⟩
    · exact ⟨_, .value hx⟩

theorem ofWord_eq_error_iff (word : String) (e : CalcError) :
    ofWord word = .error e ↔ ¬ SpellsToken word ∧ Number.parse word = .error e := by
  by_cases hmem : word ∈ operatorSpellings
  · obtain ⟨op, hop⟩ := (mem_operatorSpellings_iff word).mp hmem
    simp [ofWord_of_mem hop, SpellsToken, hmem]
  · rw [ofWord_of_not_mem hmem, SpellsToken, SpellsNumber]
    cases hparse : Number.parse word with
    | error e' => simp [Except.map, hmem]
    | ok x => simp [Except.map]

-- A line is read word by word.
theorem ofLine_eq_ok_iff (line : String) (tokens : List Token) :
    ofLine line = .ok tokens ↔ List.Forall₂ Reads (Text.words line) tokens := by
  simp only [ofLine, mapM_eq_ok_iff, ofWord_eq_ok_iff]

-- The first word that is no token decides the error, whatever stands behind it.
theorem ofLine_eq_error_iff (line : String) (e : CalcError) :
    ofLine line = .error e ↔
      ∃ word, FirstRefused (Text.words line) word ∧ Number.parse word = .error e := by
  simp only [ofLine, mapM_eq_error_iff, ofWord_isOk_iff, ofWord_eq_error_iff]
  constructor
  · rintro ⟨before, word, after, heq, hbefore, hword, hparse⟩
    exact ⟨word, ⟨before, after, heq, hbefore, hword⟩, hparse⟩
  · rintro ⟨word, ⟨before, after, heq, hbefore, hword⟩, hparse⟩
    exact ⟨before, word, after, heq, hbefore, hword, hparse⟩

end Token

theorem alternating_iff_words {words : List String} {tokens : List Token}
    (h : List.Forall₂ Reads words tokens) : Alternating tokens ↔ AlternatingWords words := by
  fun_induction AlternatingWords words generalizing tokens with
  | case1 =>
      cases h
      rfl
  | case2 number =>
      obtain ⟨token, _, hread, hnil, rfl⟩ := List.forall₂_cons_left_iff.mp h
      cases hnil
      cases token with
      | value x text => exact iff_of_true trivial hread.spellsNumber
      | operator op => exact iff_of_false id (not_spellsNumber hread.mem_operatorSpellings)
  | case3 number op words ih =>
      obtain ⟨first, _, hfirst, htail, rfl⟩ := List.forall₂_cons_left_iff.mp h
      obtain ⟨second, tokens, hsecond, hrest, rfl⟩ := List.forall₂_cons_left_iff.mp htail
      cases first with
      | operator op' =>
          refine iff_of_false id fun hwords => ?_
          exact not_spellsNumber hfirst.mem_operatorSpellings hwords.1
      | value x text =>
          cases second with
          | value y text' =>
              refine iff_of_false id fun hwords => ?_
              exact not_spellsNumber hwords.2.1 hsecond.spellsNumber
          | operator op' =>
              have hop := hsecond.mem_operatorSpellings
              simp only [Alternating, ih hrest, hfirst.spellsNumber, hop, true_and]

namespace Number

-- The rendering that asks for the parts of the mixed form, which only a fraction has.
def renderByParts (mode : RenderMode) (x : Number) : Except CalcError String :=
  if x = posInfinity then .ok "+Infinity"
  else if x = negInfinity then .ok "-Infinity"
  else if x = nan then .ok "NaN"
  else if x.denominator = 1 then .ok (toString x.numerator)
  else if mode = .mixed ∧ x.numerator.natAbs > x.denominator then do
    let whole ← x.mixedWhole
    let num ← x.mixedNumerator
    return toString whole ++ "_" ++ toString num ++ "/" ++ toString x.denominator
  else .ok (toString x.numerator ++ "/" ++ toString x.denominator)

theorem renderByParts_eq_render (mode : RenderMode) (x : Number) :
    x.renderByParts mode = .ok (x.render mode) := by
  cases x with
  | nan => rfl
  | infinite negative => cases negative <;> rfl
  | finite num den =>
      simp only [renderByParts, posInfinity, negInfinity, reduceCtorEq, if_false]
      by_cases hone : (finite num den).denominator = 1
      · rw [if_pos hone]
        exact congrArg Except.ok (if_pos hone).symm
      · rw [if_neg hone]
        by_cases hmixed : mode = .mixed ∧
            (finite num den).numerator.natAbs > (finite num den).denominator
        · rw [if_pos hmixed]
          exact congrArg Except.ok ((if_neg hone).trans (if_pos hmixed)).symm
        · rw [if_neg hmixed]
          exact congrArg Except.ok ((if_neg hone).trans (if_neg hmixed)).symm

end Number

theorem exists_reads {words : List String} (h : ∀ word ∈ words, SpellsToken word) :
    ∃ tokens, List.Forall₂ Reads words tokens := by
  induction words with
  | nil => exact ⟨[], .nil⟩
  | cons word words ih =>
      obtain ⟨hword, hwords⟩ := List.forall_mem_cons.mp h
      obtain ⟨token, htoken⟩ := (Token.ofWord_isOk_iff word).mpr hword
      obtain ⟨tokens, htokens⟩ := ih hwords
      exact ⟨token :: tokens, .cons ((Token.ofWord_eq_ok_iff word token).mp htoken) htokens⟩

theorem AlternatingWords.spellsToken {words : List String} (h : AlternatingWords words) :
    ∀ word ∈ words, SpellsToken word := by
  fun_induction AlternatingWords words with
  | case1 => exact h.elim
  | case2 number =>
      intro word hword
      rw [List.mem_singleton.mp hword]
      exact .inr h
  | case3 number op words ih =>
      obtain ⟨hnumber, hop, hwords⟩ := h
      exact List.forall_mem_cons.mpr ⟨.inr hnumber, List.forall_mem_cons.mpr ⟨.inl hop, ih hwords⟩⟩

theorem solve_of_reads (mode : RenderMode) {line : String} {tokens : List Token}
    (h : List.Forall₂ Reads (Text.words line) tokens) :
    solve mode line = (evaluate tokens).map (Number.render mode) := by
  rw [solve, (Token.ofLine_eq_ok_iff line tokens).mpr h]
  change (evaluate tokens >>= fun x => .ok (x.render mode)) = _
  cases evaluate tokens <;> rfl

theorem solve_of_firstRefused (mode : RenderMode) {line word : String} {e : CalcError}
    (h : FirstRefused (Text.words line) word) (hparse : Number.parse word = .error e) :
    solve mode line = .error e :=
  bind_eq_error.mpr (.inl ((Token.ofLine_eq_error_iff line e).mpr ⟨word, h, hparse⟩))

theorem solve_of_alternating (mode : RenderMode) {line : String}
    (h : AlternatingWords (Text.words line)) :
    ∃ tokens x, List.Forall₂ Reads (Text.words line) tokens ∧ TermSum.value tokens = some x ∧
      evaluate tokens = .ok x ∧ solve mode line = .ok (x.render mode) := by
  obtain ⟨tokens, hreads⟩ := exists_reads h.spellsToken
  obtain ⟨x, text, followers, rfl⟩ :=
    exists_followers tokens ((alternating_iff_words hreads).mpr h)
  have heval := evaluate_eq_continued x text followers
  refine ⟨_, _, hreads, TermSum.value_followers x text followers, heval, ?_⟩
  rw [solve_of_reads mode hreads, heval]
  rfl

theorem solve_of_not_alternating (mode : RenderMode) {line : String}
    (hwords : ∀ word ∈ Text.words line, SpellsToken word)
    (h : ¬ AlternatingWords (Text.words line)) :
    ∃ e, e.IsMalformedExpression ∧ solve mode line = .error e := by
  obtain ⟨tokens, hreads⟩ := exists_reads hwords
  obtain ⟨e, heval, hmalformed⟩ :=
    evaluate_of_not_alternating (mt (alternating_iff_words hreads).mp h)
  refine ⟨e, hmalformed, ?_⟩
  rw [solve_of_reads mode hreads, heval]
  rfl

-- A line fails for its first word that is no token, or for its shape.
theorem solve_error_cases {mode : RenderMode} {line : String} {e : CalcError}
    (h : solve mode line = .error e) :
    (∃ word, FirstRefused (Text.words line) word ∧ Number.parse word = .error e) ∨
      e.IsMalformedExpression := by
  rcases bind_eq_error.mp h with hread | ⟨tokens, hread, -⟩
  · exact .inl ((Token.ofLine_eq_error_iff line e).mp hread)
  · have hreads := (Token.ofLine_eq_ok_iff line tokens).mp hread
    rw [solve_of_reads mode hreads] at h
    by_cases halternating : Alternating tokens
    · obtain ⟨x, text, followers, rfl⟩ := exists_followers tokens halternating
      rw [evaluate_eq_continued] at h
      cases h
    · obtain ⟨e', heval, hmalformed⟩ := evaluate_of_not_alternating halternating
      rw [heval] at h
      cases h
      exact .inr hmalformed

theorem FirstRefused.not_spellsToken {words : List String} {word : String}
    (h : FirstRefused words word) : ¬ SpellsToken word := by
  obtain ⟨before, after, -, -, hword⟩ := h
  exact hword

theorem FirstRefused.parse_error {words : List String} {word : String}
    (h : FirstRefused words word) : ∃ e, Number.parse word = .error e := by
  cases hparse : Number.parse word with
  | error e => exact ⟨e, rfl⟩
  | ok x => exact absurd (.inr ⟨x, hparse⟩) h.not_spellsToken

theorem FirstRefused.mem {words : List String} {word : String} (h : FirstRefused words word) :
    word ∈ words := by
  obtain ⟨before, after, rfl, -, -⟩ := h
  simp

theorem digitRunsUpTo_of_mem_words {limit : Nat} {line word : String}
    (hruns : Literal.DigitRunsUpTo limit line.toList) (h : word ∈ Text.words line) :
    Literal.DigitRunsUpTo limit word.toList :=
  fun run hrun => hruns run (hrun.trans (Text.infix_of_mem_words h))

theorem FirstRefused.isMalformedLiteral {line word : String} {e : CalcError}
    (hruns : Literal.DigitRunsUpTo digitLimit line.toList)
    (h : FirstRefused (Text.words line) word) (hparse : Number.parse word = .error e) :
    e.IsMalformedLiteral :=
  Literal.isMalformedLiteral_of_parse_error (digitRunsUpTo_of_mem_words hruns h.mem) hparse

-- What a line comes to, by its words. A word that is no token counts before the shape does.
structure Verdict (mode : RenderMode) (words : List String) (outcome : Except CalcError String) :
    Prop where
  malformedLiteral : ∀ word, FirstRefused words word →
    ∃ e, Number.parse word = .error e ∧ e.IsMalformedLiteral ∧ outcome = .error e
  malformedExpression : (∀ word ∈ words, SpellsToken word) → ¬ AlternatingWords words →
    ∃ e, e.IsMalformedExpression ∧ outcome = .error e
  rendered : AlternatingWords words → ∃ tokens x text, List.Forall₂ Reads words tokens ∧
    TermSum.value tokens = some x ∧ evaluate tokens = .ok x ∧
    x.renderByParts mode = .ok text ∧ outcome = .ok text
  noOther : ∀ e, outcome = .error e → e.IsMalformedLiteral ∨ e.IsMalformedExpression

-- The words of a line decide what it comes to.
theorem solve_verdict (mode : RenderMode) (line : String)
    (hruns : Literal.DigitRunsUpTo digitLimit line.toList) :
    Text.Spaced ((Text.words line).map String.toList) line.toList ∧
      Verdict mode (Text.words line) (solve mode line) := by
  refine ⟨Text.words_spaced line, ?_⟩
  constructor
  case malformedLiteral =>
    intro word h
    obtain ⟨e, hparse⟩ := h.parse_error
    exact ⟨e, hparse, h.isMalformedLiteral hruns hparse, solve_of_firstRefused mode h hparse⟩
  case malformedExpression =>
    intro hwords hshape
    exact solve_of_not_alternating mode hwords hshape
  case rendered =>
    intro h
    obtain ⟨tokens, x, hreads, hvalue, heval, hsolve⟩ := solve_of_alternating mode h
    exact ⟨tokens, x, _, hreads, hvalue, heval, x.renderByParts_eq_render mode, hsolve⟩
  case noOther =>
    intro e h
    rcases solve_error_cases h with ⟨word, hword, hparse⟩ | hmalformed
    · exact .inl (hword.isMalformedLiteral hruns hparse)
    · exact .inr hmalformed

-- Two operators in a row are passed over for the first word that is no token. A blank line has no
-- such word, so its shape counts.
theorem solve_verdict_two_faults :
    solve .ratio "1 + * 1x 0x" = .error (.notALiteral "1x") ∧
    ∃ e, e.IsMalformedExpression ∧ solve .mixed " \t" = .error e := by
  have hfaulty : Literal.DigitRunsUpTo digitLimit "1 + * 1x 0x".toList := fun run h _ =>
    h.length_le.trans (by decide)
  have hblank : Literal.DigitRunsUpTo digitLimit " \t".toList := fun run h _ =>
    h.length_le.trans (by decide)
  constructor
  · have hwords : Text.words "1 + * 1x 0x" = ["1", "+", "*", "1x", "0x"] := by decide +kernel
    have hparse : Number.parse "1x" = .error (.notALiteral "1x") := by decide +kernel
    have hone : SpellsNumber "1" := ⟨.finite 1 1, by decide +kernel⟩
    have hrefused : ¬ SpellsToken "1x" := by
      rintro (h | ⟨x, hx⟩)
      · exact absurd h (by decide)
      · rw [hparse] at hx
        cases hx
    have hbefore : ∀ earlier ∈ ["1", "+", "*"], SpellsToken earlier := by
      simp [SpellsToken, operatorSpellings, hone]
    have hfirst : FirstRefused (Text.words "1 + * 1x 0x") "1x" :=
      ⟨["1", "+", "*"], ["0x"], hwords, hbefore, hrefused⟩
    obtain ⟨e, he, -, hsolve⟩ := (solve_verdict .ratio _ hfaulty).2.malformedLiteral _ hfirst
    cases hparse.symm.trans he
    exact hsolve
  · have hwords : Text.words " \t" = [] := by decide +kernel
    refine (solve_verdict .mixed _ hblank).2.malformedExpression ?_ ?_
    · simp [hwords]
    · rw [hwords]
      exact id

end FractionCalculator

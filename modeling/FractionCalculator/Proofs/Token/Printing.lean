import FractionCalculator.Proofs.Expression.Solution
import FractionCalculator.Proofs.Literal.RoundTrip
import FractionCalculator.Proofs.Number.Arithmetic

namespace FractionCalculator

namespace Token

-- The texts for a token: a value in either form, and any spelling of an operator.
inductive Prints : Token → String → Prop
  | value (x : Number) (text : String) (mode : RenderMode) : Prints (.value x text) (x.render mode)
  | operator {op : Operator} {word : String} (h : word ∈ op.spellings) : Prints (.operator op) word

-- A token as it stands on a line, with the blanks behind it.
structure Printed where
  token : Token
  word : String
  gap : String
  prints : Prints token word
  blank : Text.AllBlank gap.toList

def printLine (left : String) : List Printed → String
  | [] => left
  | p :: printed => left ++ p.word ++ printLine p.gap printed

-- What a printed token is read as, which has the printed text.
def Printed.read (p : Printed) : Token :=
  match p.token with
  | .value x _ => .value x p.word
  | .operator op => .operator op

theorem Printed.agrees_read (p : Printed) : p.token.agrees p.read = true := by
  unfold read
  split
  · rename_i htoken
    simp [htoken, agrees]
  · rename_i htoken
    simp [htoken, agrees]

-- Of the values only fractions can be read again.
def Legible : Token → Prop
  | .value x _ => Reachable x ∧ x.isFinite = true
  | .operator _ => True

theorem noBlank_spelling {op : Operator} {word : String} (h : word ∈ op.spellings) :
    Text.NoBlank word.toList ∧ word.toList ≠ [] := by
  revert word
  cases op <;> decide

theorem Prints.noBlank {token : Token} {word : String} (h : Prints token word)
    (htoken : token.Legible) : Text.NoBlank word.toList ∧ word.toList ≠ [] := by
  cases h with
  | operator h => exact noBlank_spelling h
  | value x text mode =>
      obtain ⟨hx, hfinite⟩ := htoken
      obtain ⟨num, den, rfl⟩ := Number.exists_of_isFinite hfinite
      have hspells := Literal.spells_render mode num hx.canonical.den_ne_zero
      exact ⟨hspells.noBlank, hspells.ne_nil⟩

theorem Printed.reads {p : Printed} (h : p.token.Legible) : Reads p.word p.read := by
  obtain ⟨token, word, gap, hprints, hblank⟩ := p
  cases hprints with
  | operator hmem => exact .operator hmem
  | value x text mode =>
      obtain ⟨hx, hfinite⟩ := h
      exact .value (parse_padded_render mode hx.canonical hfinite (Text.padded_self _))

theorem spaced_printLine {left : String} {printed : List Printed}
    (hleft : Text.AllBlank left.toList) (htokens : ∀ p ∈ printed, p.token.Legible)
    (hgaps : ∀ p ∈ printed.dropLast, p.gap ≠ "") :
    Text.Spaced (printed.map fun p => p.word.toList) (printLine left printed).toList := by
  induction printed generalizing left with
  | nil => exact .blank hleft
  | cons p printed ih =>
      obtain ⟨htoken, htokens⟩ := List.forall_mem_cons.mp htokens
      obtain ⟨hword, hne⟩ := p.prints.noBlank htoken
      have hrest := ih p.blank htokens fun q hq => hgaps q (by
        cases printed with
        | nil => cases hq
        | cons r printed => exact List.mem_cons_of_mem _ hq)
      rw [List.map_cons, printLine, String.toList_append, String.toList_append]
      refine .piece hleft hword hne ?_ hrest
      -- the first character behind the word is one of its gap
      cases printed with
      | nil => exact fun c hc => p.blank c (List.mem_of_mem_head? hc)
      | cons q printed =>
          have hgap : p.gap.toList ≠ [] := by
            have := hgaps p List.mem_cons_self
            simpa using this
          obtain ⟨c, cs, hcs⟩ := List.exists_cons_of_ne_nil hgap
          intro d hd
          rw [printLine, String.toList_append, String.toList_append, hcs] at hd
          cases hd
          exact p.blank c (by rw [hcs]; exact List.mem_cons_self)

theorem words_printLine {left : String} {printed : List Printed} (hleft : Text.AllBlank left.toList)
    (htokens : ∀ p ∈ printed, p.token.Legible) (hgaps : ∀ p ∈ printed.dropLast, p.gap ≠ "") :
    Text.words (printLine left printed) = printed.map Printed.word := by
  apply Text.words_of_spaced
  simpa [Function.comp_def] using spaced_printLine hleft htokens hgaps

-- Printed tokens with blanks between them are read as the same tokens, whichever form each value
-- was printed in and however each operator was spelled.
theorem ofLine_printLine (left : String) (printed : List Printed)
    (hleft : Text.AllBlank left.toList) (htokens : ∀ p ∈ printed, p.token.Legible)
    (hgaps : ∀ p ∈ printed.dropLast, p.gap ≠ "") :
    ∃ tokens, ofLine (printLine left printed) = .ok tokens ∧
      tokens.length = printed.length ∧
      List.Forall₂ (fun p token => p.token.agrees token = true) printed tokens := by
  refine ⟨printed.map Printed.read, ?_, by simp, ?_⟩
  · rw [ofLine_eq_ok_iff, words_printLine hleft htokens hgaps, List.forall₂_map_left_iff,
      List.forall₂_map_right_iff, List.forall₂_same]
    intro p hp
    exact p.reads (htokens p hp)
  · rw [List.forall₂_map_right_iff, List.forall₂_same]
    intro p _
    exact p.agrees_read

-- Only the whole part of the first value shows the sign, and the operator is no hyphen.
theorem ofLine_printLine_typographic :
    ∃ tokens, ofLine " -2_1/3\u3000−\t-2147483648" = .ok tokens ∧ tokens.length = 3 ∧
      List.Forall₂ (fun t u => Token.agrees t u = true)
        [.value (.finite (-7) 3) "-14/6", .operator .subtract, .value .minValue "-2147483648/1"]
        tokens := by
  let printed : List Printed :=
    [⟨.value (.finite (-7) 3) "-14/6", _, "\u3000", .value _ _ .mixed, by decide⟩,
      ⟨.operator .subtract, "−", "\t", .operator (by decide), by decide⟩,
      ⟨.value .minValue "-2147483648/1", _, "", .value _ _ .ratio, by decide⟩]
  have hline : printLine " " printed = " -2_1/3\u3000−\t-2147483648" := by decide +kernel
  have hthirds : Reachable (.finite (-7) 3) := (reachable_iff_canonical _).mpr (by decide)
  have hmin : Reachable .minValue := (reachable_iff_canonical _).mpr (by decide)
  have htokens : ∀ p ∈ printed, p.token.Legible :=
    List.forall_mem_cons.mpr ⟨⟨hthirds, rfl⟩,
      List.forall_mem_cons.mpr ⟨trivial, List.forall_mem_singleton.mpr ⟨hmin, rfl⟩⟩⟩
  obtain ⟨tokens, hread, hlength, hagree⟩ :=
    ofLine_printLine " " printed (by decide) htokens (by simp [printed])
  rw [hline] at hread
  have htogether : List.Forall₂ (fun t u => Token.agrees t u = true) (printed.map Printed.token)
      tokens := List.forall₂_map_left_iff.mpr hagree
  exact ⟨tokens, hread, hlength, htogether⟩

end Token

end FractionCalculator

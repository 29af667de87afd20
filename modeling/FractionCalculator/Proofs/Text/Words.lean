import FractionCalculator.Proofs.Text.Trim

namespace FractionCalculator.Text

-- The maximal pieces without blanks: only blanks stand before a piece, and a blank or the end
-- stands behind it.
inductive Spaced : List (List Char) → List Char → Prop
  | blank {cs : List Char} (h : AllBlank cs) : Spaced [] cs
  | piece {left piece rest : List Char} {pieces : List (List Char)} (hleft : AllBlank left)
      (hpiece : NoBlank piece) (hne : piece ≠ []) (hend : ∀ c ∈ rest.head?, isBlank c = true)
      (h : Spaced pieces rest) : Spaced (piece :: pieces) (left ++ piece ++ rest)

theorem runs_of_dropWhile_nil {cs : List Char} (h : cs.dropWhile isBlank = []) : runs cs = [] := by
  rw [runs]
  split
  · rfl
  · rename_i heq
    rw [h] at heq
    cases heq

theorem runs_of_dropWhile_cons {cs rest : List Char} {c : Char}
    (h : cs.dropWhile isBlank = c :: rest) :
    runs cs = (c :: rest.takeWhile fun d => !isBlank d) ::
      runs (rest.dropWhile fun d => !isBlank d) := by
  rw [runs]
  split
  · rename_i heq
    rw [h] at heq
    cases heq
  · rename_i heq
    rw [h] at heq
    cases heq
    rfl

theorem isBlank_head?_dropWhile (cs : List Char) :
    ∀ c ∈ (cs.dropWhile fun d => !isBlank d).head?, isBlank c = true := by
  intro c hc
  have hstop := List.head?_dropWhile_not (fun d => !isBlank d) cs
  rw [Option.mem_def.mp hc] at hstop
  simpa using hstop

theorem runs_spaced (cs : List Char) : Spaced (runs cs) cs := by
  fun_induction runs cs with
  | case1 cs h => exact .blank (List.dropWhile_eq_nil_iff.mp h)
  | case2 cs c rest h ih =>
      have hc : isBlank c = false := by
        have hstop := List.head_dropWhile_not isBlank (by rw [h]; exact List.cons_ne_nil c rest)
        simpa [h] using hstop
      have hpiece : NoBlank (c :: rest.takeWhile fun d => !isBlank d) := by
        intro d hd
        rcases List.mem_cons.mp hd with rfl | hd
        · exact hc
        · simpa using List.mem_takeWhile_imp hd
      have hcut : cs = cs.takeWhile isBlank ++ (c :: rest.takeWhile fun d => !isBlank d) ++
          rest.dropWhile fun d => !isBlank d := by
        rw [List.append_assoc, List.cons_append, List.takeWhile_append_dropWhile, ← h,
          List.takeWhile_append_dropWhile]
      rw [hcut]
      exact .piece (fun d hd => List.mem_takeWhile_imp hd) hpiece (List.cons_ne_nil _ _)
        (isBlank_head?_dropWhile rest) ih

theorem takeWhile_append_of_end {piece rest : List Char} (hpiece : NoBlank piece)
    (hend : ∀ c ∈ rest.head?, isBlank c = true) :
    (piece ++ rest).takeWhile (fun d => !isBlank d) = piece ∧
      (piece ++ rest).dropWhile (fun d => !isBlank d) = rest := by
  have hall : ∀ c ∈ piece, (!isBlank c) = true := fun c hc => by simp [hpiece c hc]
  rw [List.takeWhile_append_of_pos hall, List.dropWhile_append_of_pos hall]
  cases rest with
  | nil => simp
  | cons c rest => simp [hend c rfl]

-- There is only one way to cut a text at its blanks.
theorem Spaced.runs_eq {pieces : List (List Char)} {cs : List Char} (h : Spaced pieces cs) :
    runs cs = pieces := by
  induction h with
  | blank h => exact runs_of_dropWhile_nil (List.dropWhile_eq_nil_iff.mpr h)
  | @piece left piece rest pieces hleft hpiece hne hend h ih =>
      obtain ⟨c, piece, rfl⟩ := List.exists_cons_of_ne_nil hne
      have hdrop : (left ++ (c :: piece) ++ rest).dropWhile isBlank = c :: (piece ++ rest) := by
        rw [List.append_assoc, List.dropWhile_append_of_pos hleft,
          dropWhile_of_noBlank hpiece rest hne, List.cons_append]
      have htail : NoBlank piece := fun d hd => hpiece d (List.mem_cons_of_mem _ hd)
      obtain ⟨htake, hrest⟩ := takeWhile_append_of_end htail hend
      rw [runs_of_dropWhile_cons hdrop, htake, hrest, ih]

theorem Spaced.append_left {pieces : List (List Char)} {left cs : List Char}
    (hleft : AllBlank left) (h : Spaced pieces cs) : Spaced pieces (left ++ cs) := by
  cases h with
  | blank h => exact .blank (List.forall_mem_append.mpr ⟨hleft, h⟩)
  | @piece left' piece rest pieces hleft' hpiece hne hend h =>
      rw [← List.append_assoc, ← List.append_assoc]
      exact .piece (List.forall_mem_append.mpr ⟨hleft, hleft'⟩) hpiece hne hend h

theorem Spaced.append_right {pieces : List (List Char)} {cs right : List Char}
    (h : Spaced pieces cs) (hright : AllBlank right) : Spaced pieces (cs ++ right) := by
  induction h with
  | blank h => exact .blank (List.forall_mem_append.mpr ⟨h, hright⟩)
  | @piece left piece rest pieces hleft hpiece hne hend h ih =>
      rw [List.append_assoc _ rest]
      refine .piece hleft hpiece hne (fun c hc => ?_) ih
      cases rest with
      | nil => exact hright c (List.mem_of_mem_head? hc)
      | cons d rest => exact hend c hc

-- A blank between two texts keeps their pieces apart.
theorem Spaced.append {pieces others : List (List Char)} {cs ds : List Char} {c : Char}
    (h : Spaced pieces cs) (hc : isBlank c = true) (hothers : Spaced others ds) :
    Spaced (pieces ++ others) (cs ++ c :: ds) := by
  induction h with
  | @blank cs h =>
      have hleft : AllBlank (cs ++ [c]) :=
        List.forall_mem_append.mpr ⟨h, List.forall_mem_singleton.mpr hc⟩
      rw [List.nil_append, List.append_cons]
      exact hothers.append_left hleft
  | @piece left piece rest pieces hleft hpiece hne hend h ih =>
      rw [List.append_assoc _ rest]
      refine .piece hleft hpiece hne (fun d hd => ?_) ih
      cases rest with
      | nil =>
          rw [← Option.some.inj hd]
          exact hc
      | cons e rest => exact hend d hd

theorem Spaced.isInfix {pieces : List (List Char)} {cs : List Char} (h : Spaced pieces cs) :
    ∀ piece ∈ pieces, piece <:+: cs := by
  induction h with
  | blank h => simp
  | @piece left piece rest pieces hleft hpiece hne hend h ih =>
      refine List.forall_mem_cons.mpr ⟨⟨left, rest, rfl⟩, fun other hother => ?_⟩
      exact (ih other hother).trans (List.suffix_append ..).isInfix

theorem toList_words (line : String) : (words line).map String.toList = runs line.toList := by
  rw [words, List.map_map]
  exact (List.map_congr_left fun cs _ => String.toList_ofList).trans (List.map_id _)

theorem words_spaced (line : String) : Spaced ((words line).map String.toList) line.toList := by
  rw [toList_words]
  exact runs_spaced line.toList

theorem words_of_spaced {line : String} {pieces : List String}
    (h : Spaced (pieces.map String.toList) line.toList) : words line = pieces := by
  rw [words, h.runs_eq, List.map_map]
  exact (List.map_congr_left fun piece _ => String.ofList_toList).trans (List.map_id _)

theorem words_of_noBlank {line : String} (h : NoBlank line.toList) (hne : line.toList ≠ []) :
    words line = [line] := by
  have hnil : AllBlank [] := by simp [AllBlank]
  have hpiece : Spaced [line.toList] ([] ++ line.toList ++ []) :=
    .piece hnil h hne (by simp) (.blank hnil)
  rw [List.nil_append, List.append_nil] at hpiece
  exact words_of_spaced hpiece

theorem infix_of_mem_words {line word : String} (h : word ∈ words line) :
    word.toList <:+: line.toList :=
  (words_spaced line).isInfix word.toList (List.mem_map_of_mem h)

-- Blanks around a line are no part of its words.
theorem words_trim (line : String) : words (trim line) = words line := by
  obtain ⟨left, right, hleft, hright, hline⟩ := padded_trimEnds line.toList
  have htrim : (trim line).toList = trimEnds line.toList := String.toList_ofList
  refine (words_of_spaced ?_).symm
  rw [hline, ← htrim, List.append_assoc]
  exact ((words_spaced (trim line)).append_right hright).append_left hleft

theorem words_eq_nil_iff (line : String) : words line = [] ↔ AllBlank line.toList := by
  constructor
  · intro h
    have hspaced := words_spaced line
    rw [h, List.map_nil] at hspaced
    cases hspaced with
    | blank hblank => exact hblank
  · exact fun h => words_of_spaced (.blank h)

-- Texts with blanks between them have the words of each, one text after the other.
theorem words_intercalate (lines : List String) :
    words (" ".intercalate lines) = lines.flatMap words := by
  refine words_of_spaced ?_
  induction lines with
  | nil => exact .blank (by simp [AllBlank])
  | cons line lines ih =>
      cases lines with
      | nil =>
          rw [String.intercalate_singleton, List.flatMap_singleton]
          exact words_spaced line
      | cons next lines =>
          have hspace : isBlank ' ' = true := by decide
          have happend := (words_spaced line).append hspace ih
          rw [String.intercalate_cons_cons, List.flatMap_cons, List.map_append,
            String.toList_append, String.toList_append, List.append_assoc]
          exact happend

theorem trim_eq_empty_iff (line : String) : trim line = "" ↔ AllBlank line.toList := by
  obtain ⟨left, right, hleft, hright, hline⟩ := padded_trimEnds line.toList
  constructor
  · intro h
    have hnil : trimEnds line.toList = [] := by
      rw [← String.toList_ofList (l := trimEnds line.toList)]
      exact congrArg String.toList h
    rw [hline, hnil, List.append_nil]
    exact List.forall_mem_append.mpr ⟨hleft, hright⟩
  · intro h
    rw [trim, trimEnds, List.dropWhile_eq_nil_iff.mpr h]
    rfl

end FractionCalculator.Text

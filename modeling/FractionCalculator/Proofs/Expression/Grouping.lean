import FractionCalculator.Proofs.Expression.Shape

namespace FractionCalculator

namespace Tree

def inorder : Tree → List Token
  | leaf number text => [.value number text]
  | node op left right => left.inorder ++ .operator op :: right.inorder

def root? : Tree → Option Operator
  | leaf _ _ => none
  | node op _ _ => some op

-- A left operand binds at least as tightly as the operator over it, and a right operand more
-- tightly, so equal ranks stand to the left of each other.
def Grouped : Tree → Prop
  | leaf _ _ => True
  | node op left right =>
    (∀ o ∈ left.root?, op.rank ≤ o.rank) ∧ (∀ o ∈ right.root?, op.rank < o.rank) ∧
      left.Grouped ∧ right.Grouped

-- Reads a postfix order back on a stack of trees, its top first. It never meets an operator without
-- two trees on the stack when the order is that of a tree.
def regrow : List Tree → Token → List Tree
  | stack, .value number text => leaf number text :: stack
  | right :: left :: stack, .operator op => node op left right :: stack
  | stack, .operator _ => stack

theorem foldl_regrow (t : Tree) (stack : List Tree) :
    t.postorder.foldl regrow stack = t :: stack := by
  induction t generalizing stack with
  | leaf number text => rfl
  | node op left right ihl ihr =>
      rw [postorder, List.foldl_append, List.foldl_append, ihl, ihr]
      rfl

-- A postfix order leaves no choice of the tree.
theorem postorder_injective {t u : Tree} (h : t.postorder = u.postorder) : t = u := by
  have ht := foldl_regrow t []
  rw [h, foldl_regrow u []] at ht
  exact (List.cons.inj ht).1.symm

end Tree

namespace Forest

theorem close_cons (op : Operator) (left current : Tree) (pending : List (Operator × Tree)) :
    close ⟨(op, left) :: pending, current⟩ = close ⟨pending, .node op left current⟩ := by
  simp [close, release]

-- What an operator releases would be released at the end all the same.
theorem close_release (rank : Nat) (f : Forest) :
    (release rank f.pending f.current).close = f.close :=
  congrArg current (release_release (Nat.zero_le rank) f.pending f.current)

-- The tokens read before the growing operand.
def read : List (Operator × Tree) → List Token
  | [] => []
  | (op, left) :: pending => read pending ++ left.inorder ++ [.operator op]

theorem close_inorder (f : Forest) : f.close.inorder = read f.pending ++ f.current.inorder := by
  obtain ⟨pending, current⟩ := f
  induction pending generalizing current with
  | nil => rfl
  | cons entry pending ih =>
      obtain ⟨op, left⟩ := entry
      rw [close_cons, ih]
      simp [read, Tree.inorder]

theorem extend_inorder (f : Forest) (op : Operator) (x : Number) (text : String) :
    (f.extend (op, x, text)).close.inorder =
      f.close.inorder ++ [.operator op, .value x text] := by
  rw [← close_release op.rank f, close_inorder, close_inorder]
  simp [extend, read, Tree.inorder]

theorem foldl_extend_inorder (f : Forest) (followers : List (Operator × Number × String)) :
    (followers.foldl extend f).close.inorder = f.close.inorder ++ followerTokens followers := by
  induction followers generalizing f with
  | nil => simp [followerTokens]
  | cons follower followers ih =>
      obtain ⟨op, x, text⟩ := follower
      rw [List.foldl_cons, ih, extend_inorder, List.append_assoc]
      rfl

-- What still waits binds less tightly than the operator that released the others.
theorem release_rank_lt (rank : Nat) (pending : List (Operator × Tree)) (current : Tree) :
    ∀ entry ∈ (release rank pending current).pending.head?, entry.1.rank < rank := by
  induction pending generalizing current with
  | nil => simp [release]
  | cons entry pending ih =>
      obtain ⟨op, left⟩ := entry
      by_cases hrank : rank ≤ op.rank
      · simpa [release, hrank] using ih _
      · simp only [release, hrank, if_false]
        rintro _ ⟨rfl⟩
        exact not_le.mp hrank

theorem rank_le_release_root (rank : Nat) (pending : List (Operator × Tree)) (current : Tree)
    (h : ∀ o ∈ current.root?, rank ≤ o.rank) :
    ∀ o ∈ (release rank pending current).current.root?, rank ≤ o.rank := by
  induction pending generalizing current with
  | nil => exact h
  | cons entry pending ih =>
      obtain ⟨op, left⟩ := entry
      by_cases hrank : rank ≤ op.rank
      · simp only [release, hrank, if_true]
        apply ih
        rintro _ ⟨rfl⟩
        exact hrank
      · simpa [release, hrank] using h

theorem grouped_of_close {pending : List (Operator × Tree)} {current : Tree}
    (h : (close ⟨pending, current⟩).Grouped) : current.Grouped := by
  induction pending generalizing current with
  | nil => exact h
  | cons entry pending ih =>
      obtain ⟨op, left⟩ := entry
      rw [close_cons] at h
      exact (ih h).2.2.2

-- The growing operand may become any tree that binds more tightly than the operator that waits for
-- it: nothing further down sees the difference.
theorem grouped_replace {pending : List (Operator × Tree)} {current grown : Tree}
    (h : (close ⟨pending, current⟩).Grouped) (hgrown : grown.Grouped)
    (hroot : ∀ entry ∈ pending.head?, ∀ o ∈ grown.root?, entry.1.rank < o.rank) :
    (close ⟨pending, grown⟩).Grouped := by
  induction pending generalizing current grown with
  | nil => exact hgrown
  | cons entry pending ih =>
      obtain ⟨op, left⟩ := entry
      rw [close_cons] at h ⊢
      obtain ⟨hleft, -, hleftGrouped, -⟩ := grouped_of_close h
      refine ih h ⟨hleft, hroot _ rfl, hleftGrouped, hgrown⟩ ?_
      cases pending with
      | nil => simp
      | cons next pending =>
          obtain ⟨op', left'⟩ := next
          rw [close_cons] at h
          have hnext := (grouped_of_close h).2.1
          rintro _ ⟨rfl⟩ _ ⟨rfl⟩
          exact hnext op rfl

-- The tree that would come out if the expression ended here. A value was read last, so the growing
-- operand is that value alone.
structure Grouping (f : Forest) : Prop where
  root_current : f.current.root? = none
  grouped : f.close.Grouped

theorem grouping_ofValue (x : Number) (text : String) : (ofValue x text).Grouping :=
  ⟨rfl, trivial⟩

theorem Grouping.extend {f : Forest} (h : f.Grouping) (op : Operator) (x : Number)
    (text : String) : (f.extend (op, x, text)).Grouping := by
  have hgrouped := h.grouped
  rw [← close_release op.rank f] at hgrouped
  have hroot := rank_le_release_root op.rank f.pending f.current (by simp [h.root_current])
  refine ⟨rfl, ?_⟩
  rw [Forest.extend, close_cons]
  have hgrown :
      (Tree.node op (release op.rank f.pending f.current).current (.leaf x text)).Grouped :=
    ⟨hroot, by simp [Tree.root?], grouped_of_close hgrouped, trivial⟩
  refine grouped_replace hgrouped hgrown fun entry hentry o ho => ?_
  cases ho
  exact release_rank_lt op.rank f.pending f.current entry hentry

theorem Grouping.foldl_extend {f : Forest} (h : f.Grouping)
    (followers : List (Operator × Number × String)) :
    (followers.foldl Forest.extend f).Grouping := by
  induction followers generalizing f with
  | nil => exact h
  | cons follower followers ih =>
      obtain ⟨op, x, text⟩ := follower
      exact ih (h.extend op x text)

end Forest

theorem inorder_treeOf (x : Number) (text : String)
    (followers : List (Operator × Number × String)) :
    (treeOf x text followers).inorder = .value x text :: followerTokens followers :=
  Forest.foldl_extend_inorder (.ofValue x text) followers

theorem grouped_treeOf (x : Number) (text : String)
    (followers : List (Operator × Number × String)) :
    (treeOf x text followers).Grouped :=
  ((Forest.grouping_ofValue x text).foldl_extend followers).grouped

-- An accepted expression comes out in the postfix order of one tree only. Read in order, the tree
-- is the expression, its operators are grouped by rank and equal ranks to the left, and running the
-- postfix order leaves the value of the tree alone on the stack.
theorem toPostfix_grouped {tokens out : List Token} (h : toPostfix tokens = .ok out) :
    ∃ t : Tree, t.postorder = out ∧ (∀ u : Tree, u.postorder = out → u = t) ∧
      t.inorder = tokens ∧ t.Grouped ∧ out.foldlM runToken [] = .ok [t.eval] ∧
      evaluatePostfix out = .ok t.eval := by
  obtain ⟨x, text, followers, rfl⟩ := exists_followers tokens (alternating_of_toPostfix h)
  rw [toPostfix_followers, Except.ok.injEq] at h
  subst h
  exact ⟨treeOf x text followers, rfl, fun _ => Tree.postorder_injective,
    inorder_treeOf x text followers, grouped_treeOf x text followers, Tree.run_postorder _ [],
    Tree.evaluatePostfix_postorder _⟩

-- The two differences group to the left, and the product is the right operand of the first.
theorem toPostfix_grouped_differences :
    let tokens : List Token :=
      [.value (.finite 9 1) "9", .operator .subtract, .value (.finite 2 1) "2",
        .operator .multiply, .value (.finite 3 1) "3", .operator .subtract, .value .one "1"]
    let out : List Token :=
      [.value (.finite 9 1) "9", .value (.finite 2 1) "2", .value (.finite 3 1) "3",
        .operator .multiply, .operator .subtract, .value .one "1", .operator .subtract]
    toPostfix tokens = .ok out ∧ evaluatePostfix out = .ok (.finite 2 1) ∧
      ∃ t : Tree, t.postorder = out ∧ t.inorder = tokens ∧ t.Grouped ∧
        out.foldlM runToken [] = .ok [t.eval] ∧ t.eval = .finite 2 1 := by
  intro tokens out
  have hout : toPostfix tokens = .ok out := by decide
  have hvalue : evaluatePostfix out = .ok (.finite 2 1) := by decide
  obtain ⟨t, hpost, -, hin, hgrouped, hrun, heval⟩ := toPostfix_grouped hout
  rw [hvalue, Except.ok.injEq] at heval
  exact ⟨hout, hvalue, t, hpost, hin, hgrouped, hrun, heval.symm⟩

end FractionCalculator

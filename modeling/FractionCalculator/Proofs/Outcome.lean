import Mathlib.Data.List.Forall2
import Mathlib.Data.List.Induction

namespace FractionCalculator

variable {ε α β σ : Type}

theorem bind_eq_ok {x : Except ε α} {f : α → Except ε β} {b : β} :
    x >>= f = .ok b ↔ ∃ a, x = .ok a ∧ f a = .ok b := by
  cases x with
  | error e => exact ⟨nofun, fun ⟨_, h, _⟩ => nomatch h⟩
  | ok a => exact ⟨fun h => ⟨a, rfl, h⟩, fun ⟨_, ha, h⟩ => by cases ha; exact h⟩

theorem mapM_eq_ok_iff {f : α → Except ε β} {items : List α} {results : List β} :
    items.mapM f = .ok results ↔ List.Forall₂ (fun a b => f a = .ok b) items results := by
  induction items generalizing results with
  | nil =>
      rw [List.mapM_nil, List.forall₂_nil_left_iff]
      exact ⟨fun h => by cases h; rfl, fun h => by rw [h]; rfl⟩
  | cons a items ih =>
      rw [List.mapM_cons, bind_eq_ok, List.forall₂_cons_left_iff]
      constructor
      · rintro ⟨b, hb, h⟩
        obtain ⟨rest, hrest, h⟩ := bind_eq_ok.mp h
        cases h
        exact ⟨b, rest, hb, ih.mp hrest, rfl⟩
      · rintro ⟨b, rest, hb, hrest, rfl⟩
        exact ⟨b, hb, bind_eq_ok.mpr ⟨rest, ih.mpr hrest, rfl⟩⟩

theorem bind_eq_error {x : Except ε α} {f : α → Except ε β} {e : ε} :
    x >>= f = .error e ↔ x = .error e ∨ ∃ a, x = .ok a ∧ f a = .error e := by
  cases x with
  | error e' =>
      refine ⟨fun h => ?_, fun h => ?_⟩
      · cases h
        exact .inl rfl
      · rcases h with h | ⟨_, h, _⟩ <;> cases h
        rfl
  | ok a =>
      refine ⟨fun h => .inr ⟨a, rfl, h⟩, fun h => ?_⟩
      rcases h with h | ⟨_, h, hf⟩ <;> cases h
      exact hf

theorem mapError_eq_ok_iff {ε' : Type} {x : Except ε α} {f : ε → ε'} {a : α} :
    x.mapError f = .ok a ↔ x = .ok a := by
  cases x <;> simp [Except.mapError]

theorem mapError_eq_error_iff {ε' : Type} {x : Except ε α} {f : ε → ε'} {e : ε'} :
    x.mapError f = .error e ↔ ∃ e', x = .error e' ∧ e = f e' := by
  cases x <;> simp [Except.mapError, eq_comm]

theorem exists_of_forall₂ {r : α → β → Prop} {items : List α} {results : List β}
    (h : List.Forall₂ r items results) : ∀ a ∈ items, ∃ b ∈ results, r a b := by
  induction h with
  | nil => simp
  | cons hab h ih =>
      refine List.forall_mem_cons.mpr ⟨⟨_, List.mem_cons_self, hab⟩, fun a ha => ?_⟩
      obtain ⟨b, hb, hrel⟩ := ih a ha
      exact ⟨b, List.mem_cons_of_mem _ hb, hrel⟩

-- The first item that fails decides which error comes out.
theorem mapM_eq_error_iff {f : α → Except ε β} {items : List α} {e : ε} :
    items.mapM f = .error e ↔ ∃ before a after, items = before ++ a :: after ∧
      (∀ b ∈ before, ∃ result, f b = .ok result) ∧ f a = .error e := by
  induction items with
  | nil =>
      rw [List.mapM_nil]
      refine ⟨nofun, ?_⟩
      rintro ⟨before, a, after, h, -⟩
      simp at h
  | cons c items ih =>
      rw [List.mapM_cons, bind_eq_error]
      constructor
      · rintro (h | ⟨b, hb, h⟩)
        · exact ⟨[], c, items, rfl, by simp, h⟩
        · rcases bind_eq_error.mp h with h | ⟨_, -, h⟩
          · obtain ⟨before, a, after, rfl, hbefore, ha⟩ := ih.mp h
            exact ⟨c :: before, a, after, rfl, List.forall_mem_cons.mpr ⟨⟨b, hb⟩, hbefore⟩, ha⟩
          · cases h
      · rintro ⟨before, a, after, heq, hbefore, ha⟩
        cases before with
        | nil =>
            cases heq
            exact .inl ha
        | cons c' before =>
            cases heq
            obtain ⟨⟨b, hb⟩, hbefore⟩ := List.forall_mem_cons.mp hbefore
            have hrest := ih.mpr ⟨before, a, after, rfl, hbefore, ha⟩
            exact .inr ⟨b, hb, bind_eq_error.mpr (.inl hrest)⟩

-- What every step keeps, a whole run that succeeds keeps.
theorem foldlM_induction {step : σ → α → Except ε σ} {motive : List α → σ → Prop}
    (hstep : ∀ done s a s', motive done s → step s a = .ok s' → motive (done ++ [a]) s')
    (items : List α) {s s' : σ} (hs : motive [] s) (h : items.foldlM step s = .ok s') :
    motive items s' := by
  induction items using List.reverseRecOn generalizing s' with
  | nil =>
      cases h
      exact hs
  | append_singleton items a ih =>
      rw [List.foldlM_append, bind_eq_ok] at h
      obtain ⟨t, ht, ha⟩ := h
      exact hstep items t a s' (ih ht) (by simpa using ha)

-- A run fails where the first of its steps fails.
theorem foldlM_eq_error_iff {step : σ → α → Except ε σ} {items : List α} {s : σ} {e : ε} :
    items.foldlM step s = .error e ↔ ∃ before a after t, items = before ++ a :: after ∧
      before.foldlM step s = .ok t ∧ step t a = .error e := by
  induction items generalizing s with
  | nil =>
      rw [List.foldlM_nil]
      refine ⟨nofun, ?_⟩
      rintro ⟨before, a, after, t, h, -⟩
      simp at h
  | cons b items ih =>
      rw [List.foldlM_cons, bind_eq_error]
      constructor
      · rintro (h | ⟨t, hb, h⟩)
        · exact ⟨[], b, items, s, rfl, rfl, h⟩
        · obtain ⟨before, a, after, u, rfl, hbefore, ha⟩ := ih.mp h
          refine ⟨b :: before, a, after, u, rfl, ?_, ha⟩
          rw [List.foldlM_cons, hb]
          exact hbefore
      · rintro ⟨before, a, after, t, heq, hbefore, ha⟩
        cases before with
        | nil =>
            cases heq
            cases hbefore
            exact .inl ha
        | cons c before =>
            cases heq
            rw [List.foldlM_cons] at hbefore
            obtain ⟨u, hu, hbefore⟩ := bind_eq_ok.mp hbefore
            exact .inr ⟨u, hu, ih.mpr ⟨before, a, after, t, rfl, hbefore, ha⟩⟩

end FractionCalculator

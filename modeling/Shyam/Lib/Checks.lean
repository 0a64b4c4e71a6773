import Mathlib.Data.List.Basic

/-!
# Computations that may raise

When a sequence of checks succeeds, and with what.
-/

namespace Checks

variable {ε α β : Type}

theorem bind_eq_ok_iff {x : Except ε α} {f : α → Except ε β} {b : β} :
    x >>= f = .ok b ↔ ∃ a, x = .ok a ∧ f a = .ok b := by
  cases x with
  | ok a => exact ⟨fun h => ⟨a, rfl, h⟩, fun ⟨_, hsame, h⟩ => Except.ok.inj hsame ▸ h⟩
  | error e => exact ⟨fun h => (nomatch h), fun ⟨_, h, _⟩ => (nomatch h)⟩

theorem pure_eq_ok_iff {a b : α} : (pure a : Except ε α) = .ok b ↔ b = a := by
  rw [eq_comm, pure, Applicative.toPure, Except.instMonad]
  exact ⟨Except.ok.inj, congrArg Except.ok⟩

theorem forM_eq_ok_iff {f : α → Except ε Unit} {l : List α} {u : Unit} :
    l.forM f = .ok u ↔ ∀ a ∈ l, f a = .ok () := by
  induction l with
  | nil => exact iff_of_true rfl (by simp)
  | cons a l ih =>
      change (f a >>= fun _ => l.forM f) = _ ↔ _
      rw [bind_eq_ok_iff, List.forall_mem_cons, ih]
      exact ⟨fun ⟨_, ha, hl⟩ => ⟨ha, hl⟩, fun ⟨ha, hl⟩ => ⟨(), ha, hl⟩⟩

theorem exists_mapM_eq_ok_iff {f : α → Except ε β} {l : List α} :
    (∃ result, l.mapM f = .ok result) ↔ ∀ x ∈ l, ∃ y, f x = .ok y := by
  induction l with
  | nil => exact iff_of_true ⟨[], rfl⟩ fun x hx => absurd hx List.not_mem_nil
  | cons x l ih =>
      rw [List.mapM_cons, List.forall_mem_cons, ← ih]
      simp only [bind_eq_ok_iff, pure_eq_ok_iff]
      constructor
      · rintro ⟨_, y, hx, ys, hl, -⟩
        exact ⟨⟨y, hx⟩, ys, hl⟩
      · rintro ⟨⟨y, hx⟩, ys, hl⟩
        exact ⟨_, y, hx, ys, hl, rfl⟩

/-- What a `mapM` raises, one of the elements raises. -/
theorem exists_of_mapM_eq_error {f : α → Except ε β} {l : List α} {e : ε}
    (h : l.mapM f = .error e) :
    ∃ x ∈ l, f x = .error e := by
  induction l with
  | nil => cases h
  | cons x xs ih =>
      rw [List.mapM_cons] at h
      cases hx : f x with
      | error e' =>
          rw [hx] at h
          obtain rfl := Except.error.inj h
          exact ⟨x, List.mem_cons_self, hx⟩
      | ok y =>
          cases hxs : xs.mapM f with
          | error e' =>
              rw [hx, hxs] at h
              obtain rfl := Except.error.inj h
              obtain ⟨x', hmem, hx'⟩ := ih hxs
              exact ⟨x', List.mem_cons_of_mem _ hmem, hx'⟩
          | ok ys =>
              rw [hx, hxs] at h
              cases h

/-- A check that returns what `g` says, of every element. -/
theorem mapM_eq_ok_iff {f : α → Except ε β} {g : α → β} {p : α → Prop}
    (h : ∀ x y, f x = .ok y ↔ p x ∧ y = g x) {l : List α} {result : List β} :
    l.mapM f = .ok result ↔ (∀ x ∈ l, p x) ∧ result = l.map g := by
  induction l generalizing result with
  | nil =>
      rw [List.mapM_nil, List.map_nil, pure_eq_ok_iff]
      exact (and_iff_right (by simp)).symm
  | cons x l ih =>
      rw [List.mapM_cons, List.forall_mem_cons, List.map_cons]
      simp only [bind_eq_ok_iff, pure_eq_ok_iff, h, ih]
      constructor
      · rintro ⟨_, ⟨hx, rfl⟩, _, ⟨hl, rfl⟩, rfl⟩
        exact ⟨⟨hx, hl⟩, rfl⟩
      · rintro ⟨⟨hx, hl⟩, rfl⟩
        exact ⟨_, ⟨hx, rfl⟩, _, ⟨hl, rfl⟩, rfl⟩

/-- The same for a check that folds. -/
theorem foldlM_eq_ok_iff {f : β → α → Except ε β} {g : β → α → β} {p : α → Prop}
    (h : ∀ acc x y, f acc x = .ok y ↔ p x ∧ y = g acc x) {l : List α} {acc result : β} :
    l.foldlM f acc = .ok result ↔ (∀ x ∈ l, p x) ∧ result = l.foldl g acc := by
  induction l generalizing acc with
  | nil =>
      rw [List.foldlM_nil, List.foldl_nil, pure_eq_ok_iff]
      exact (and_iff_right (by simp)).symm
  | cons x l ih =>
      rw [List.foldlM_cons, List.forall_mem_cons, List.foldl_cons]
      simp only [bind_eq_ok_iff, h, ih]
      constructor
      · rintro ⟨_, ⟨hx, rfl⟩, hl, rfl⟩
        exact ⟨⟨hx, hl⟩, rfl⟩
      · rintro ⟨⟨hx, hl⟩, rfl⟩
        exact ⟨_, ⟨hx, rfl⟩, hl, rfl⟩

end Checks

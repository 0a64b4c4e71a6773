import Shyam.Lib.Run

/-!
# Fallible stages

A stage changes a state and may raise; what it has changed by then stays. Stages run in order up to
the first one that raises, or each under a handler of its own.
-/

namespace Fallible

open Transition

abbrev Stage (ε σ : Type) := σ → Except ε Unit × σ

variable {ε σ : Type}

/-- What the stage leaves behind, whether it raises or not. -/
def after (s : σ) (stage : Stage ε σ) : σ := (stage s).2

def Passes (s : σ) (stage : Stage ε σ) : Prop := (stage s).1 = .ok ()

def inOrder : List (Stage ε σ) → Stage ε σ
  | [], s => (.ok (), s)
  | stage :: stages, s =>
      match stage s with
      | (.ok (), s) => inOrder stages s
      | (.error e, s) => (.error e, s)

/-- `try: stage() except Exception: log`, one after the other. -/
def isolated (stages : List (Stage ε σ)) (s : σ) : σ := run after s stages

variable {stage : Stage ε σ} {stages : List (Stage ε σ)} {s : σ}

@[simp] theorem inOrder_singleton (stage : Stage ε σ) (s : σ) : inOrder [stage] s = stage s := by
  rw [inOrder]
  rcases stage s with ⟨⟨⟩ | ⟨⟩, s'⟩
  · rfl
  · rfl

theorem inOrder_cons_of_passes (h : Passes s stage) :
    inOrder (stage :: stages) s = inOrder stages (after s stage) := by
  rw [inOrder, after]
  rcases hstage : stage s with ⟨outcome, s'⟩
  rw [Passes, hstage] at h
  cases h
  rfl

theorem inOrder_cons_of_error {e : ε} (h : (stage s).1 = .error e) :
    inOrder (stage :: stages) s = (.error e, after s stage) := by
  rw [inOrder, after]
  rcases hstage : stage s with ⟨outcome, s'⟩
  rw [hstage] at h
  cases h
  rfl

theorem passes_or_error (s : σ) (stage : Stage ε σ) :
    Passes s stage ∨ ∃ e, (stage s).1 = .error e := by
  rw [Passes]
  cases (stage s).1 with
  | ok u => exact .inl rfl
  | error e => exact .inr ⟨e, rfl⟩

/-- Stages in order pass when each of them passes where it is run. -/
theorem passes_inOrder_iff : Passes s (inOrder stages) ↔ Along after Passes s stages := by
  induction stages generalizing s with
  | nil => exact iff_of_true rfl trivial
  | cons stage stages ih =>
      rw [along_cons]
      rcases passes_or_error s stage with hpass | ⟨e, herror⟩
      · rw [Passes, inOrder_cons_of_passes hpass, and_iff_right hpass]
        exact ih
      · rw [Passes, inOrder_cons_of_error herror, Passes, herror]
        exact iff_of_false (fun h => by cases h) fun h => by cases h.1

/-- Stages that pass are all run. -/
theorem after_inOrder_of_passes (h : Passes s (inOrder stages)) :
    after s (inOrder stages) = run after s stages := by
  induction stages generalizing s with
  | nil => rfl
  | cons stage stages ih =>
      obtain ⟨hpass, hrest⟩ := along_cons.mp (passes_inOrder_iff.mp h)
      rw [after, inOrder_cons_of_passes hpass, run_cons]
      exact ih (passes_inOrder_iff.mpr hrest)

/-- What every stage preserves, whether it raises or not, the stages in order preserve. -/
theorem inOrder_invariant {I : σ → Prop} (hstages : ∀ stage ∈ stages, ∀ s, I s → I (after s stage))
    (hs : I s) :
    I (after s (inOrder stages)) := by
  induction stages generalizing s with
  | nil => exact hs
  | cons stage stages ih =>
      rw [List.forall_mem_cons] at hstages
      have hnext := hstages.1 s hs
      rcases passes_or_error s stage with hpass | ⟨e, herror⟩
      · rw [after, inOrder_cons_of_passes hpass]
        exact ih hstages.2 hnext
      · rw [after, inOrder_cons_of_error herror]
        exact hnext

end Fallible

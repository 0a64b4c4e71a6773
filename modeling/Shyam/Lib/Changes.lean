import Mathlib.Data.List.Basic

/-!
# Chains of changes

A log of the changes of one value. Each entry has the value before the change and the value after
it, and the entries fit together when each of them starts where the one before it has ended.
-/

namespace Changes

variable {α : Type}

/-- The changes lead from `first` to `last`, each to another value. -/
def Chained : α → List (α × α) → α → Prop
  | first, [], last => first = last
  | first, change :: changes, last =>
      change.1 = first ∧ change.1 ≠ change.2 ∧ Chained change.2 changes last

theorem chained_append {first last : α} {l m : List (α × α)} :
    Chained first (l ++ m) last ↔ ∃ middle, Chained first l middle ∧ Chained middle m last := by
  induction l generalizing first with
  | nil => simp [Chained]
  | cons change changes ih => simp only [List.cons_append, Chained, ih, exists_and_left, and_assoc]

/-- The entry for a change, if the value changes at all. -/
def entry [DecidableEq α] (old new : α) : List (α × α) := if old = new then [] else [(old, new)]

variable [DecidableEq α]

theorem chained_entry (old new : α) : Chained old (entry old new) new := by
  rw [entry]
  split_ifs with hsame
  · exact hsame
  · exact ⟨rfl, hsame, rfl⟩

/-- A log stays a chain when each change is entered. -/
theorem Chained.enter {first old : α} {l : List (α × α)} (h : Chained first l old) (new : α) :
    Chained first (l ++ entry old new) new :=
  chained_append.mpr ⟨old, h, chained_entry old new⟩

end Changes

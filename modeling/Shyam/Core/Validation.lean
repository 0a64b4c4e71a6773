import Mathlib.Data.List.Basic

/-!
# Validation

What the models raise for fields that they refuse.
-/

namespace Shyam

/-- The field and the message of each failed check. -/
abbrev ValidationErrors := List (String × String)

def failures {α : Type} (field : String) : Except String α → ValidationErrors
  | .ok _ => []
  | .error message => [(field, message)]

theorem failures_eq_nil_iff {α : Type} {field : String} {checked : Except String α} :
    failures field checked = [] ↔ ∃ v, checked = .ok v := by
  cases checked with
  | ok v => simp [failures]
  | error message => simp [failures]

end Shyam

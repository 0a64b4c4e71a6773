import Mathlib.Data.List.DropRight

/-!
# Parts of a string

`in`, `replace`, and the piece between two separators.
-/

namespace Python

/-- `old in s`. -/
def contains (s old : String) : Bool := s.toList.tails.any (old.toList.isPrefixOf ·)

/-- `old` is not empty. The number counts the characters that are replaced already. -/
def replaceFrom (old new : List Char) : ℕ → List Char → List Char
  | _, [] => []
  | done + 1, _ :: cs => replaceFrom old new done cs
  | 0, c :: cs =>
      if old.isPrefixOf (c :: cs) then new ++ replaceFrom old new (old.length - 1) cs
      else c :: replaceFrom old new 0 cs

/-- `s.replace(old, new)`. -/
def replace (s old new : String) : String :=
  String.ofList (replaceFrom old.toList new.toList 0 s.toList)

example : replace "http://127.0.0.1:8765/ecosystem/v1" "127.0.0.1" "10.0.0.2"
      = "http://10.0.0.2:8765/ecosystem/v1" := by
  rfl

theorem replace_ne_empty {s new : String} (hs : s ≠ "") (hnew : new ≠ "") (old : String) :
    replace s old new ≠ "" := by
  have hne {t : String} (ht : t ≠ "") : t.toList ≠ [] := fun h => ht (String.toList_eq_nil_iff.mp h)
  intro h
  have hlist : replaceFrom old.toList new.toList 0 s.toList = [] := by
    rw [← String.toList_ofList (l := replaceFrom ..)]
    exact String.toList_eq_nil_iff.mpr h
  cases hchars : s.toList with
  | nil => exact hne hs hchars
  | cons c cs =>
      rw [hchars, replaceFrom] at hlist
      split_ifs at hlist
      exact hne hnew (List.append_eq_nil_iff.mp hlist).1

/-- `s.split(sep)[1]`, where `sep` is in `s`. -/
def secondPart (sep : Char) (s : String) : Option String :=
  if sep ∈ s.toList then
    some (String.ofList (((s.toList.dropWhile (· ≠ sep)).drop 1).takeWhile (· ≠ sep)))
  else none

/-- `s.rstrip(c)`. -/
def rstrip (c : Char) (s : String) : String := String.ofList (s.toList.rdropWhile (· = c))

end Python

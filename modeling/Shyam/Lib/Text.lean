import Mathlib.Data.List.DropRight
import Mathlib.Data.List.TakeWhile

/-!
# Text

`str.strip`, and the checks that refuse a blank text or one without a dot.
-/

namespace Python

/-- `c.isspace()`. -/
def isSpace (c : Char) : Bool :=
  let n := c.toNat
  (9 ≤ n && n ≤ 13) || (28 ≤ n && n ≤ 32) || n = 133 || n = 160 || n = 5760
    || (8192 ≤ n && n ≤ 8202) || n = 8232 || n = 8233 || n = 8239 || n = 8287 || n = 12288

/-- `s.strip()`. -/
def strip (s : String) : String :=
  String.ofList ((s.toList.dropWhile isSpace).rdropWhile isSpace)

theorem dropWhile_rdropWhile_dropWhile {α : Type} (p : α → Bool) (l : List α) :
    ((l.dropWhile p).rdropWhile p).dropWhile p = (l.dropWhile p).rdropWhile p := by
  rw [List.dropWhile_eq_self_iff]
  intro hpos hp
  have hinit := List.rdropWhile_prefix p (l := l.dropWhile p)
  have hne := List.length_pos_iff.mp (hpos.trans_le hinit.length_le)
  rw [hinit.getElem hpos] at hp
  exact List.dropWhile_get_zero_not p l (List.length_pos_iff.mpr hne) hp

theorem strip_strip (s : String) : strip (strip s) = strip s := by
  rw [strip, strip, String.toList_ofList, dropWhile_rdropWhile_dropWhile,
    List.rdropWhile_idempotent]

theorem strip_ne_empty {s : String} {c : Char} (hmem : c ∈ s.toList) (hc : isSpace c = false) :
    strip s ≠ "" := by
  intro hempty
  rw [strip, String.ofList_eq_empty_iff, List.rdropWhile_eq_nil_iff] at hempty
  rw [← List.takeWhile_append_dropWhile (p := isSpace) (l := s.toList), List.mem_append] at hmem
  have hspace : isSpace c = true := by
    rcases hmem with htake | hdrop
    · exact List.mem_takeWhile_imp htake
    · exact hempty c hdrop
  rw [hc] at hspace
  cases hspace

/-- `if not v or not v.strip(): raise ValueError(message)`, and `v.strip()` otherwise. -/
def validateStripped (message v : String) : Except String String :=
  if v = "" ∨ strip v = "" then .error message else .ok (strip v)

/-- `if not v or "." not in v: raise ValueError(message)`. -/
def validateNamespaced (message v : String) : Except String String :=
  if v = "" ∨ '.' ∉ v.toList then .error message else .ok v

variable {message message' v w : String}

/-- What the check returns is not blank, so it passes any such check as it is. -/
theorem validateStripped_idem (h : validateStripped message v = .ok w) :
    validateStripped message' w = .ok w := by
  rw [validateStripped] at h
  split_ifs at h with hblank
  cases h
  rw [not_or] at hblank
  rw [validateStripped, strip_strip, if_neg (not_or.mpr ⟨hblank.2, hblank.2⟩)]

theorem validateNamespaced_idem (h : validateNamespaced message v = .ok w) :
    validateNamespaced message' w = .ok w := by
  rw [validateNamespaced] at h
  split_ifs at h with hdot
  cases h
  rw [validateNamespaced, if_neg hdot]

/-! ### Separators -/

section Separators

variable {α : Type} {c : α} {a b a' b' : List α}

/-- What comes before and after the last separator. -/
theorem append_cons_inj_right (hb : c ∉ b) (hb' : c ∉ b')
    (h : a ++ c :: b = a' ++ c :: b') : a = a' ∧ b = b' := by
  obtain ⟨rest, hsplit, hrest⟩ | ⟨rest, hsplit, hrest⟩ := List.append_eq_append_iff.mp h
  · cases rest with
    | nil => exact ⟨by rw [hsplit, List.append_nil], (List.cons.inj hrest).2⟩
    | cons d rest =>
        exact absurd ((List.cons.inj hrest).2 ▸ List.mem_append_right rest List.mem_cons_self) hb
  · cases rest with
    | nil => exact ⟨by rw [hsplit, List.append_nil], (List.cons.inj hrest).2.symm⟩
    | cons d rest =>
        exact absurd ((List.cons.inj hrest).2 ▸ List.mem_append_right rest List.mem_cons_self) hb'

/-- Two parts are read back from their join if and only if neither contains the separator. -/
theorem join_unique_iff :
    (∀ a' b', a' ++ c :: b' = a ++ c :: b → a' = a ∧ b' = b) ↔ c ∉ a ∧ c ∉ b := by
  constructor
  · intro h
    constructor
    · intro hmem
      obtain ⟨s, t, rfl⟩ := List.append_of_mem hmem
      have hlength := congrArg List.length (h s (t ++ c :: b) (by simp)).1
      simp only [List.length_append, List.length_cons] at hlength
      omega
    · intro hmem
      obtain ⟨s, t, rfl⟩ := List.append_of_mem hmem
      have hlength := congrArg List.length (h (a ++ c :: s) t (by simp)).1
      simp only [List.length_append, List.length_cons] at hlength
      omega
  · rintro ⟨ha, hb⟩ a' b' h
    obtain ⟨rfl, -, rfl⟩ := (List.append_cons_inj_of_notMem ha hb).mp h.symm
    exact ⟨rfl, rfl⟩

end Separators

end Python

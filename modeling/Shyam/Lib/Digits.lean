import Mathlib.Algebra.Group.Nat.Defs
import Mathlib.Data.List.Basic

/-!
# Decimal text

Zero-padded fields of a fixed width, and integers as Python prints them. A padded field is read back
by its length, an integer by where its digits end.
-/

namespace Text

/-- The last `width` decimal digits of `n`, most significant first: `%0{width}d`
for an `n` that fits. -/
def padded : Nat → Nat → List Char
  | 0, _ => []
  | width + 1, n => padded width (n / 10) ++ [Nat.digitChar (n % 10)]

/-- `int.__repr__`. -/
def int (i : Int) : List Char :=
  if i < 0 then '-' :: Nat.toDigits 10 i.natAbs else Nat.toDigits 10 i.natAbs

/-- The text `r` does not go on with a digit. -/
def NoDigit (r : List Char) : Prop := ∀ c ∈ r.head?, c.isDigit = false

theorem noDigit_nil : NoDigit [] := by simp [NoDigit]

theorem noDigit_cons {c : Char} {r : List Char} (h : c.isDigit = false) : NoDigit (c :: r) := by
  simpa [NoDigit] using h

@[simp] theorem length_padded (width n : Nat) : (padded width n).length = width := by
  induction width generalizing n with
  | zero => rfl
  | succ width ih => simp [padded, ih]

theorem digitChar_injective {a b : Nat} (ha : a < 10) (hb : b < 10)
    (h : Nat.digitChar a = Nat.digitChar b) : a = b := by
  rw [← Nat.toNat_digitChar_sub_48_of_lt_ten ha, ← Nat.toNat_digitChar_sub_48_of_lt_ten hb, h]

theorem padded_injective {width n m : Nat} (hn : n < 10 ^ width) (hm : m < 10 ^ width)
    (h : padded width n = padded width m) : n = m := by
  induction width generalizing n m with
  | zero => simp_all
  | succ width ih =>
      obtain ⟨hinit, hlast⟩ := List.append_inj' h rfl
      have hmod := digitChar_injective (Nat.mod_lt n (by omega)) (Nat.mod_lt m (by omega))
        (by simpa using hlast)
      have hdiv := ih (by omega) (by omega) hinit
      omega

/-- A padded field determines its number and what follows it. -/
theorem padded_append_inj {width n m : Nat} (hn : n < 10 ^ width) (hm : m < 10 ^ width)
    {r r' : List Char} (h : padded width n ++ r = padded width m ++ r') : n = m ∧ r = r' := by
  obtain ⟨hfield, hrest⟩ := List.append_inj h (by simp)
  exact ⟨padded_injective hn hm hfield, hrest⟩

theorem isDigit_of_mem_padded {width n : Nat} {c : Char} (h : c ∈ padded width n) :
    c.isDigit = true := by
  induction width generalizing n with
  | zero => simp [padded] at h
  | succ width ih =>
      rcases List.mem_append.mp h with h | h
      · exact ih h
      · rw [List.mem_singleton.mp h, Nat.isDigit_digitChar]
        simpa using Nat.mod_lt n (by omega)

theorem isDigit_of_mem_toDigits {n : Nat} {c : Char} (h : c ∈ Nat.toDigits 10 n) :
    c.isDigit = true := Nat.isDigit_of_mem_toDigits (by decide) (by decide) h

theorem takeWhile_digits {ds r : List Char} (hds : ∀ c ∈ ds, c.isDigit = true) (hr : NoDigit r) :
    (ds ++ r).takeWhile Char.isDigit = ds := by
  rw [List.takeWhile_append_of_pos hds]
  cases r with
  | nil => simp
  | cons c r => simp [hr c (by simp)]

theorem toDigits_append_inj {n m : Nat} {r r' : List Char} (hr : NoDigit r) (hr' : NoDigit r')
    (h : Nat.toDigits 10 n ++ r = Nat.toDigits 10 m ++ r') : n = m ∧ r = r' := by
  have hdigits : Nat.toDigits 10 n = Nat.toDigits 10 m := by
    rw [← takeWhile_digits (fun c => isDigit_of_mem_toDigits (n := n)) hr, h,
      takeWhile_digits (fun c => isDigit_of_mem_toDigits) hr']
  refine ⟨?_, List.append_cancel_left (hdigits ▸ h)⟩
  rw [← Nat.ofDigitChars_ten_toDigits (n := n), hdigits, Nat.ofDigitChars_ten_toDigits]

theorem int_head (i : Int) : ∃ c r, int i = c :: r ∧ (c = '-' ∨ c.isDigit = true) := by
  unfold int
  split
  · exact ⟨'-', _, rfl, Or.inl rfl⟩
  · obtain ⟨c, r, hcr⟩ := List.exists_cons_of_ne_nil (Nat.toDigits_ne_nil (n := i.natAbs) (b := 10))
    exact ⟨c, r, hcr, Or.inr (isDigit_of_mem_toDigits (hcr ▸ List.mem_cons_self))⟩

/-- An integer's text determines the integer and what follows it. -/
theorem int_append_inj {i j : Int} {r r' : List Char} (hr : NoDigit r) (hr' : NoDigit r')
    (h : int i ++ r = int j ++ r') : i = j ∧ r = r' := by
  have hsign : ∀ {n : Nat} {s t : List Char}, '-' :: s ≠ Nat.toDigits 10 n ++ t := by
    intro n s t heq
    obtain ⟨c, ds, hcs⟩ := List.exists_cons_of_ne_nil (Nat.toDigits_ne_nil (n := n) (b := 10))
    have hc : c.isDigit = true := isDigit_of_mem_toDigits (hcs ▸ List.mem_cons_self)
    rw [hcs, List.cons_append, List.cons.injEq] at heq
    rw [← heq.1] at hc
    exact absurd hc (by decide)
  unfold int at h
  split at h <;> split at h <;> rename_i hi hj
  · obtain ⟨hnat, hrest⟩ := toDigits_append_inj hr hr' (List.cons.inj h).2
    exact ⟨by omega, hrest⟩
  · exact absurd h hsign
  · exact absurd h.symm hsign
  · obtain ⟨hnat, hrest⟩ := toDigits_append_inj hr hr' h
    exact ⟨by omega, hrest⟩

end Text

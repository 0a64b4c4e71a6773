import Mathlib.Data.List.Basic
import Mathlib.Data.String.Basic

/-!
# UUID text

`str(UUID(int=n))`: thirty-two lower-case hexadecimal digits in five groups.
-/

namespace Python

/-- The last `width` hexadecimal digits of `n`, most significant first. -/
def hexDigits : ℕ → ℕ → List Char
  | 0, _ => []
  | width + 1, n => hexDigits width (n / 16) ++ [Nat.digitChar (n % 16)]

def uuidText (n : ℕ) : String :=
  let hex := hexDigits 32 n
  String.ofList (hex.take 8 ++ '-' :: (hex.drop 8).take 4 ++ '-' :: (hex.drop 12).take 4
    ++ '-' :: (hex.drop 16).take 4 ++ '-' :: hex.drop 20)

def IsUuidText (s : String) : Prop := ∃ n, s = uuidText n

theorem exists_of_mem_hexDigits {width n : ℕ} {c : Char} (h : c ∈ hexDigits width n) :
    ∃ d, d < 16 ∧ c = Nat.digitChar d := by
  induction width generalizing n with
  | zero => cases h
  | succ width ih =>
      rcases List.mem_append.mp h with h | h
      · exact ih h
      · exact ⟨n % 16, Nat.mod_lt n (by omega), List.mem_singleton.mp h⟩

theorem u_notMem_hexDigits (width n : ℕ) : 'u' ∉ hexDigits width n := by
  intro h
  obtain ⟨d, hd, hc⟩ := exists_of_mem_hexDigits h
  have hne : ∀ d < 16, 'u' ≠ Nat.digitChar d := by
    decide
  exact hne d hd hc

theorem u_notMem_uuidText (n : ℕ) : 'u' ∉ (uuidText n).toList := by
  have hu := u_notMem_hexDigits 32 n
  have hdash : 'u' ≠ '-' := by
    decide
  rw [uuidText, String.toList_ofList]
  simp only [List.mem_append, List.mem_cons, hdash, false_or, not_or]
  refine ⟨⟨⟨⟨?_, ?_⟩, ?_⟩, ?_⟩, ?_⟩ <;> intro h
  · exact hu (List.mem_of_mem_take h)
  · exact hu (List.mem_of_mem_drop (List.mem_of_mem_take h))
  · exact hu (List.mem_of_mem_drop (List.mem_of_mem_take h))
  · exact hu (List.mem_of_mem_drop (List.mem_of_mem_take h))
  · exact hu (List.mem_of_mem_drop h)

/-- The ids of Flux peers are no UUIDs. -/
theorem IsUuidText.ne_flux {s : String} (h : IsUuidText s) (peerId : String) :
    s ≠ "flux:" ++ peerId := by
  obtain ⟨n, rfl⟩ := h
  intro hflux
  apply u_notMem_uuidText n
  rw [hflux, String.toList_append]
  exact List.mem_append_left _ (by decide)

end Python

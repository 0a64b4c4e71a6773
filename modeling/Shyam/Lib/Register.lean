import Mathlib.Algebra.Order.Ring.Int
import Mathlib.Order.Lattice

/-!
# Keyed registers under version vectors

Authors publish writes to keyed registers. `latest` reads a key as a replica with vector `v` should:
the newest of the writes that `v` has heard of, in the order the writes were made. A replica that
overlays the registers of a message on its own reads the join correctly at a key exactly when the
newest write either side has heard of is one the message has heard of, or both sides agree anyway.
-/

namespace Gossip

variable {ι K V : Type}

/-- One publication of register values: who made it, at which count, and what it wrote. -/
structure Write (ι K V : Type) where
  author : ι
  count : ℤ
  value : K → Option V

/-- The value of `k` in the newest write that `v` has heard of. The newest write comes first. -/
def latest : List (Write ι K V) → (ι → ℤ) → K → Option V
  | [], _, _ => none
  | w :: older, v, k =>
      if w.count ≤ v w.author then (w.value k).or (latest older v k) else latest older v k

/-- The newest write of `k` that `v` or `m` has heard of is one that `m` has not. -/
def Unheard (v m : ι → ℤ) (k : K) : List (Write ι K V) → Prop
  | [] => False
  | w :: older =>
      if w.value k = none then Unheard v m k older
      else if w.count ≤ m w.author then False
      else if w.count ≤ v w.author then True
      else Unheard v m k older

section

variable {v m : ι → ℤ} {k : K} {w : Write ι K V} {older : List (Write ι K V)}

theorem latest_cons_of_le (h : w.count ≤ v w.author) :
    latest (w :: older) v k = (w.value k).or (latest older v k) := if_pos h

theorem latest_cons_of_lt (h : v w.author < w.count) :
    latest (w :: older) v k = latest older v k := if_neg (not_le.mpr h)

theorem latest_cons_of_none (h : w.value k = none) :
    latest (w :: older) v k = latest older v k := by
  simp [latest, h]

theorem latest_congr (h : ∀ w ∈ older, (w.value k).isSome →
    (w.count ≤ v w.author ↔ w.count ≤ m w.author)) : latest older v k = latest older m k := by
  induction older with
  | nil => rfl
  | cons w older ih =>
      have ih := ih fun w' hw' => h w' (List.mem_cons_of_mem w hw')
      cases hvalue : w.value k with
      | none => rw [latest_cons_of_none hvalue, latest_cons_of_none hvalue, ih]
      | some a =>
          have hiff := h w List.mem_cons_self (by simp [hvalue])
          by_cases hle : w.count ≤ v w.author
          · rw [latest_cons_of_le hle, latest_cons_of_le (hiff.mp hle), ih]
          · rw [latest_cons_of_lt (not_le.mp hle),
              latest_cons_of_lt (not_le.mp (mt hiff.mpr hle)), ih]

/-- Where the message has heard of the newest write, the join reads what the overlay gives. -/
theorem latest_sup (h : ¬Unheard v m k older) :
    latest older (v ⊔ m) k = (latest older m k).or (latest older v k) := by
  induction older with
  | nil => rfl
  | cons w older ih =>
      cases hvalue : w.value k with
      | none =>
          simp only [latest_cons_of_none hvalue]
          exact ih (by simpa [Unheard, hvalue] using h)
      | some a =>
          by_cases hm : w.count ≤ m w.author
          · have hsup : w.count ≤ (v ⊔ m) w.author := le_sup_of_le_right hm
            rw [latest_cons_of_le hm, latest_cons_of_le hsup]
            simp [hvalue]
          · have hv : ¬w.count ≤ v w.author := fun hv => h (by simp [Unheard, hvalue, hm, hv])
            have hsup : (v ⊔ m) w.author < w.count := sup_lt_iff.mpr ⟨not_le.mp hv, not_le.mp hm⟩
            rw [latest_cons_of_lt hsup, latest_cons_of_lt (not_le.mp hm),
              latest_cons_of_lt (not_le.mp hv)]
            exact ih (by simpa [Unheard, hvalue, hm, hv] using h)

theorem latest_sup_of_unheard (h : Unheard v m k older) :
    latest older (v ⊔ m) k = latest older v k := by
  induction older with
  | nil => exact h.elim
  | cons w older ih =>
      cases hvalue : w.value k with
      | none =>
          simp only [latest_cons_of_none hvalue]
          exact ih (by simpa [Unheard, hvalue] using h)
      | some a =>
          by_cases hm : w.count ≤ m w.author
          · simp [Unheard, hvalue, hm] at h
          · by_cases hv : w.count ≤ v w.author
            · have hsup : w.count ≤ (v ⊔ m) w.author := le_sup_of_le_left hv
              rw [latest_cons_of_le hv, latest_cons_of_le hsup]
              simp [hvalue]
            · have hsup : (v ⊔ m) w.author < w.count :=
                sup_lt_iff.mpr ⟨not_le.mp hv, not_le.mp hm⟩
              rw [latest_cons_of_lt hsup, latest_cons_of_lt (not_le.mp hv)]
              exact ih (by simpa [Unheard, hvalue, hm, hv] using h)

/-- **Overlay.** Overlaying the message on the receiver reads the join at every key where the
message either says what the receiver has or has heard of the newest write. -/
theorem latest_sup_eq_or (h : ∀ a, latest older m k = some a → latest older v k ≠ some a →
    ¬Unheard v m k older) :
    latest older (v ⊔ m) k = (latest older m k).or (latest older v k) := by
  by_cases hunheard : Unheard v m k older
  · rw [latest_sup_of_unheard hunheard]
    cases hm : latest older m k with
    | none => rfl
    | some a =>
        by_contra hne
        exact h a hm (by simpa using hne) hunheard
  · exact latest_sup hunheard

theorem Unheard.exists_lt (h : Unheard v m k older) :
    ∃ w ∈ older, (w.value k).isSome ∧ m w.author < w.count ∧ w.count ≤ v w.author := by
  induction older with
  | nil => exact h.elim
  | cons w older ih =>
      have hrest (h : Unheard v m k older) :
          ∃ w' ∈ w :: older, (w'.value k).isSome ∧ m w'.author < w'.count
            ∧ w'.count ≤ v w'.author := by
        obtain ⟨w', hmem, hw'⟩ := ih h
        exact ⟨w', List.mem_cons_of_mem w hmem, hw'⟩
      cases hvalue : w.value k with
      | none => exact hrest (by simpa [Unheard, hvalue] using h)
      | some a =>
          by_cases hm : w.count ≤ m w.author
          · simp [Unheard, hvalue, hm] at h
          · by_cases hv : w.count ≤ v w.author
            · exact ⟨w, List.mem_cons_self, by simp [hvalue], not_le.mp hm, hv⟩
            · exact hrest (by simpa [Unheard, hvalue, hm, hv] using h)

theorem not_unheard_of_le (hle : v ≤ m) : ¬Unheard v m k older := by
  intro h
  obtain ⟨w, -, -, hlt, hv⟩ := h.exists_lt
  have hheard : w.count ≤ m w.author :=
    calc w.count ≤ v w.author := hv
      _ ≤ m w.author := hle w.author
  exact absurd hheard (not_le.mpr hlt)

end

end Gossip

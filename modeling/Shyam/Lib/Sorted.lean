import Mathlib.Data.List.Sort

/-!
# Sorting by a key

`sorted(l, key=key)`: the sort is stable and lower keys come first.
-/

namespace Python

variable {α κ : Type} [LinearOrder κ] (key : α → κ)

def sortedBy (l : List α) : List α := l.mergeSort fun a b => decide (key a ≤ key b)

theorem sortedBy_perm (l : List α) : (sortedBy key l).Perm l := List.mergeSort_perm l _

theorem mem_sortedBy {l : List α} {a : α} : a ∈ sortedBy key l ↔ a ∈ l :=
  (sortedBy_perm key l).mem_iff

theorem sortedBy_eq_nil_iff {l : List α} : sortedBy key l = [] ↔ l = [] := by
  have hlength : (sortedBy key l).length = l.length := List.length_mergeSort l
  rw [← List.length_eq_zero_iff, hlength, List.length_eq_zero_iff]

theorem le_trans_key (a b c : α) (hab : decide (key a ≤ key b) = true)
    (hbc : decide (key b ≤ key c) = true) : decide (key a ≤ key c) = true :=
  decide_eq_true ((of_decide_eq_true hab).trans (of_decide_eq_true hbc))

theorem le_total_key (a b : α) : (decide (key a ≤ key b) || decide (key b ≤ key a)) = true := by
  simpa using le_total (key a) (key b)

theorem pairwise_sortedBy (l : List α) : (sortedBy key l).Pairwise fun a b => key a ≤ key b :=
  (List.pairwise_mergeSort (le_trans_key key) (le_total_key key) l).imp of_decide_eq_true

theorem le_of_sortedBy_cons {l rest : List α} {first : α} (h : sortedBy key l = first :: rest) :
    first ∈ l ∧ ∀ a ∈ l, key first ≤ key a := by
  have hsorted := pairwise_sortedBy key l
  rw [h, List.pairwise_cons] at hsorted
  constructor
  · rw [← mem_sortedBy key, h]
    exact List.mem_cons_self
  · intro a ha
    rw [← mem_sortedBy key, h, List.mem_cons] at ha
    rcases ha with rfl | ha
    · exact le_rfl
    · exact hsorted.1 a ha

/-! ### Stability -/

/-- Elements of one key keep their order. -/
theorem filter_sortedBy (l : List α) (k : κ) :
    (sortedBy key l).filter (fun a => key a = k) = l.filter fun a => key a = k := by
  have hties : (l.filter fun a => key a = k).Pairwise fun a b => decide (key a ≤ key b) = true := by
    apply List.pairwise_of_forall_mem_list
    intro a ha b hb
    have hka : key a = k := of_decide_eq_true (List.mem_filter.mp ha).2
    have hkb : key b = k := of_decide_eq_true (List.mem_filter.mp hb).2
    exact decide_eq_true (hka.trans hkb.symm).le
  have hsub := (List.sublist_mergeSort (le_trans_key key) (le_total_key key) hties
    List.filter_sublist).filter fun a => key a = k
  simp only [List.filter_filter, Bool.and_self] at hsub
  exact (hsub.eq_of_length ((List.mergeSort_perm l _).filter _).length_eq.symm).symm

theorem mem_iff_of_filter_eq {l m : List α}
    (h : ∀ k, l.filter (fun a => key a = k) = m.filter fun a => key a = k) (a : α) :
    a ∈ l ↔ a ∈ m := by
  have hiff : a ∈ l.filter (fun b => key b = key a) ↔ a ∈ m.filter fun b => key b = key a := by
    rw [h]
  simpa [List.mem_filter] using hiff

/-- A sorted list is determined by its elements of each key. -/
theorem eq_of_pairwise_of_filter_eq {l m : List α} (hl : l.Pairwise fun a b => key a ≤ key b)
    (hm : m.Pairwise fun a b => key a ≤ key b)
    (h : ∀ k, l.filter (fun a => key a = k) = m.filter fun a => key a = k) : l = m := by
  have hmem := mem_iff_of_filter_eq key h
  induction l generalizing m with
  | nil =>
      symm
      rw [List.eq_nil_iff_forall_not_mem]
      intro a ha
      exact List.not_mem_nil ((hmem a).mpr ha)
  | cons a l ih =>
      cases m with
      | nil => exact absurd ((hmem a).mp List.mem_cons_self) List.not_mem_nil
      | cons b m =>
          rw [List.pairwise_cons] at hl hm
          have hab : key a ≤ key b := by
            rcases List.mem_cons.mp ((hmem b).mpr List.mem_cons_self) with hb | hb
            · exact (congrArg key hb).ge
            · exact hl.1 b hb
          have hba : key b ≤ key a := by
            rcases List.mem_cons.mp ((hmem a).mp List.mem_cons_self) with ha | ha
            · exact (congrArg key ha).ge
            · exact hm.1 a ha
          have hkey : key a = key b := le_antisymm hab hba
          have hhead := h (key a)
          rw [List.filter_cons_of_pos (by simp), List.filter_cons_of_pos (by simp [hkey])] at hhead
          obtain ⟨rfl, -⟩ := List.cons.inj hhead
          have htail : ∀ k, l.filter (fun c => key c = k) = m.filter fun c => key c = k := by
            intro k
            have hk := h k
            by_cases hak : key a = k
            · rw [List.filter_cons_of_pos (by simp [hak]),
                List.filter_cons_of_pos (by simp [hak])] at hk
              exact (List.cons.inj hk).2
            · rwa [List.filter_cons_of_neg (by simp [hak]),
                List.filter_cons_of_neg (by simp [hak])] at hk
          rw [ih hl.2 hm.2 htail (mem_iff_of_filter_eq key htail)]

/-- **Sorting forgets the order of distinct keys.** Lists with the same elements of each key, in the
same order, sort to the same list. -/
theorem sortedBy_congr {l m : List α}
    (h : ∀ k, l.filter (fun a => key a = k) = m.filter fun a => key a = k) :
    sortedBy key l = sortedBy key m := by
  apply eq_of_pairwise_of_filter_eq key (pairwise_sortedBy key l) (pairwise_sortedBy key m)
  intro k
  rw [filter_sortedBy, filter_sortedBy, h]

theorem perm_of_filter_eq {l m : List α}
    (h : ∀ k, l.filter (fun a => key a = k) = m.filter fun a => key a = k) : l.Perm m := by
  have hl := sortedBy_perm key l
  rw [sortedBy_congr key h] at hl
  exact hl.symm.trans (sortedBy_perm key m)

/-- The list is sorted by the key, and elements of one key have kept their order. -/
structure StablySorted (l sorted : List α) : Prop where
  pairwise : sorted.Pairwise fun a b => key a ≤ key b
  ties : ∀ k, sorted.filter (fun a => key a = k) = l.filter fun a => key a = k

theorem stablySorted_sortedBy (l : List α) : StablySorted key l (sortedBy key l) :=
  ⟨pairwise_sortedBy key l, filter_sortedBy key l⟩

end Python

import Mathlib.Order.Bounds.Basic
import Shyam.Sync.Versions

/-!
# The lattice of version vectors

A map is known by the versions it shows: two maps may differ in zeros and still be one vector. Up to
that, the maps are ordered pointwise, the comparison decides the order, and the merge is the join.
-/

namespace Shyam

namespace NodeVersionMap

/-- Pointwise, with missing nodes at `0`. -/
instance : Preorder NodeVersionMap where
  le v w := ∀ k, v.getVersion k ≤ w.getVersion k
  le_refl _ _ := Int.le_refl _
  le_trans _ _ _ hvw hwu k := Int.le_trans (hvw k) (hwu k)

theorem le_iff {v w : NodeVersionMap} : v ≤ w ↔ ∀ k, v.getVersion k ≤ w.getVersion k := Iff.rfl

end NodeVersionMap

/-- The answer to the same question asked by the other side. -/
def VersionComparison.swap : VersionComparison → VersionComparison
  | equal => equal
  | ahead => behind
  | behind => ahead
  | concurrent => concurrent

variable {v w u : NodeVersionMap}

/-! ### The comparison -/

/-- The comparison tells where two maps stand in the pointwise order. -/
structure VersionComparison.Exact (v w : NodeVersionMap) (answer : VersionComparison) : Prop where
  equal : answer = .equal ↔ ∀ k, v.getVersion k = w.getVersion k
  behind : answer = .behind ↔ v ≤ w ∧ ∃ k, v.getVersion k < w.getVersion k
  ahead : answer = .ahead ↔ w ≤ v ∧ ∃ k, w.getVersion k < v.getVersion k
  concurrent : answer = .concurrent
    ↔ (∃ k, v.getVersion k < w.getVersion k) ∧ ∃ k, w.getVersion k < v.getVersion k

theorem exists_getVersion_lt_iff : (∃ k, v.getVersion k < w.getVersion k) ↔ ¬w ≤ v := by
  simp only [NodeVersionMap.le_iff, not_forall, not_le]

theorem getVersion_eq_iff : (∀ k, v.getVersion k = w.getVersion k) ↔ v ≤ w ∧ w ≤ v := by
  simp only [NodeVersionMap.le_iff, le_antisymm_iff, forall_and]

theorem compareVersions_exact (v w : NodeVersionMap) : (compareVersions v w).Exact v w := by
  constructor
  all_goals
    simp only [getVersion_eq_iff, exists_getVersion_lt_iff, NodeVersionMap.le_iff, ← Pi.le_def]
    rw [compareVersions_eq]
    split_ifs <;> simp_all

theorem compareVersions_swap (v w : NodeVersionMap) :
    compareVersions w v = (compareVersions v w).swap := by
  rw [compareVersions_eq, compareVersions_eq]
  split_ifs
  all_goals rfl

/-! ### The merge -/

theorem mergeVersionMaps_le_iff : mergeVersionMaps v w ≤ u ↔ v ≤ u ∧ w ≤ u := by
  simp only [NodeVersionMap.le_iff, ← Pi.le_def, getVersion_mergeVersionMaps, sup_le_iff]

theorem isLUB_mergeVersionMaps (v w : NodeVersionMap) : IsLUB {v, w} (mergeVersionMaps v w) := by
  rw [isLUB_iff_le_iff]
  intro u
  rw [mergeVersionMaps_le_iff, mem_upperBounds]
  simp only [Set.mem_insert_iff, Set.mem_singleton_iff, forall_eq_or_imp, forall_eq]

/-- Merging never goes back. -/
theorem le_mergeVersionMaps_left (v w : NodeVersionMap) : v ≤ mergeVersionMaps v w :=
  (mergeVersionMaps_le_iff.mp le_rfl).1

theorem compareVersions_mergeVersionMaps (v w : NodeVersionMap) :
    compareVersions v (mergeVersionMaps v w) = .equal
      ∨ compareVersions v (mergeVersionMaps v w) = .behind := by
  have hle := le_mergeVersionMaps_left v w
  have hexact := compareVersions_exact v (mergeVersionMaps v w)
  by_cases hback : mergeVersionMaps v w ≤ v
  · exact Or.inl (hexact.equal.mpr (getVersion_eq_iff.mpr ⟨hle, hback⟩))
  · exact Or.inr (hexact.behind.mpr ⟨hle, exists_getVersion_lt_iff.mpr hback⟩)

/-- What makes the merge the join of a semilattice, on the versions that are read. -/
structure MergeLaws (v w u : NodeVersionMap) : Prop where
  isLUB : IsLUB {v, w} (mergeVersionMaps v w)
  comm : (mergeVersionMaps v w).getVersion = (mergeVersionMaps w v).getVersion
  assoc : (mergeVersionMaps (mergeVersionMaps v w) u).getVersion
    = (mergeVersionMaps v (mergeVersionMaps w u)).getVersion
  idem : (mergeVersionMaps v v).getVersion = v.getVersion

theorem mergeLaws (v w u : NodeVersionMap) : MergeLaws v w u where
  isLUB := isLUB_mergeVersionMaps v w
  comm := by rw [getVersion_mergeVersionMaps, getVersion_mergeVersionMaps, sup_comm]
  assoc := by simp only [getVersion_mergeVersionMaps, sup_assoc]
  idem := by rw [getVersion_mergeVersionMaps, sup_idem]

/-- **The lattice of version vectors.** The comparison decides the pointwise order, asked from
either side, and the merge is its join, which the comparison never puts behind what went into it. -/
theorem versions_semilattice (v w u : NodeVersionMap) :
    (compareVersions v w).Exact v w ∧ compareVersions w v = (compareVersions v w).swap
      ∧ MergeLaws v w u
      ∧ (compareVersions v (mergeVersionMaps v w) = .equal
        ∨ compareVersions v (mergeVersionMaps v w) = .behind) :=
  ⟨compareVersions_exact v w, compareVersions_swap v w, mergeLaws v w u,
    compareVersions_mergeVersionMaps v w⟩

end Shyam

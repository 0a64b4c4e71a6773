import Mathlib.Order.Lattice
import Mathlib.Algebra.Order.Ring.Int
import Shyam.Sync.Models

/-!
# Version vector comparison and merge

The comparison walks the union of the two key sets with two flags. Read as functions with missing
nodes at `0`, it decides the pointwise order, and the merge is the pointwise supremum.
-/

namespace Shyam

open Python

inductive VersionComparison where
  | equal
  | ahead
  | behind
  | concurrent
deriving DecidableEq, Repr

def VersionComparison.value : VersionComparison → String
  | equal => "equal"
  | ahead => "ahead"
  | behind => "behind"
  | concurrent => "concurrent"

/-- `set(v1.versions.keys()) | set(v2.versions.keys())`. -/
def allKeys (v1 v2 : NodeVersionMap) : PySet String :=
  v1.versions.keys.update v2.versions.keys.elems

/-- The loop's two flags, `local_has_greater` and `remote_has_greater`. -/
structure GreaterFlags where
  localHasGreater : Bool
  remoteHasGreater : Bool

def GreaterFlags.visit (loc remote : NodeVersionMap) (flags : GreaterFlags) (key : String) :
    GreaterFlags :=
  if remote.getVersion key < loc.getVersion key then { flags with localHasGreater := true }
  else if loc.getVersion key < remote.getVersion key then { flags with remoteHasGreater := true }
  else flags

def compareVersions (loc remote : NodeVersionMap) : VersionComparison :=
  if (allKeys loc remote).elems = [] then .equal
  else
    let flags := (allKeys loc remote).elems.foldl (GreaterFlags.visit loc remote) ⟨false, false⟩
    if flags.localHasGreater && flags.remoteHasGreater then .concurrent
    else if flags.remoteHasGreater then .behind
    else if flags.localHasGreater then .ahead
    else .equal

def mergeVersionMaps (v1 v2 : NodeVersionMap) : NodeVersionMap :=
  ⟨Dict.ofKeys (allKeys v1 v2) fun nodeId => max (v1.getVersion nodeId) (v2.getVersion nodeId)⟩

/-! ### The order they decide -/

section

variable {v w : NodeVersionMap} {k : String}

theorem mem_allKeys_of_ne_zero (h : v.getVersion k ≠ 0 ∨ w.getVersion k ≠ 0) :
    k ∈ allKeys v w := by
  rw [allKeys, PySet.mem_update, PySet.mem_elems, Dict.mem_keys_iff, Dict.mem_keys_iff]
  by_contra hnone
  simp only [not_or, Bool.not_eq_true, Option.isSome_eq_false_iff, Option.isNone_iff_eq_none]
    at hnone
  simp [NodeVersionMap.getVersion, Dict.getD, hnone] at h

/-- The merge is the component-wise supremum. -/
theorem getVersion_mergeVersionMaps :
    (mergeVersionMaps v w).getVersion = v.getVersion ⊔ w.getVersion := by
  funext k
  change ((mergeVersionMaps v w).versions.get? k).getD 0 = v.getVersion k ⊔ w.getVersion k
  rw [mergeVersionMaps, Dict.get?_ofKeys]
  by_cases hk : k ∈ allKeys v w
  · rw [if_pos hk]
    rfl
  · have hzero := mt mem_allKeys_of_ne_zero hk
    rw [not_or, not_not, not_not] at hzero
    rw [if_neg hk, hzero.1, hzero.2]
    rfl

/-- A flag is up after the loop exactly when some key raised it. -/
theorem foldl_visit (keys : List String) (flags : GreaterFlags) :
    ((keys.foldl (GreaterFlags.visit v w) flags).localHasGreater = true
        ↔ flags.localHasGreater = true ∨ ∃ k ∈ keys, w.getVersion k < v.getVersion k)
      ∧ ((keys.foldl (GreaterFlags.visit v w) flags).remoteHasGreater = true
        ↔ flags.remoteHasGreater = true ∨ ∃ k ∈ keys, v.getVersion k < w.getVersion k) := by
  induction keys generalizing flags with
  | nil => simp
  | cons key keys ih =>
      rw [List.foldl_cons, (ih _).1, (ih _).2, List.exists_mem_cons_iff, List.exists_mem_cons_iff]
      rcases lt_trichotomy (v.getVersion key) (w.getVersion key) with h | h | h
      · simp [GreaterFlags.visit, h, h.not_gt]
      · simp [GreaterFlags.visit, h]
      · simp [GreaterFlags.visit, h, h.not_gt]

theorem mem_allKeys_of_ne (h : v.getVersion k ≠ w.getVersion k) : k ∈ allKeys v w := by
  apply mem_allKeys_of_ne_zero
  by_contra hzero
  rw [not_or, not_not, not_not] at hzero
  exact h (hzero.1.trans hzero.2.symm)

theorem exists_mem_allKeys_lt_iff {x y : String → Int}
    (hkeys : ∀ k, x k < y k → k ∈ allKeys v w) :
    (∃ k ∈ (allKeys v w).elems, x k < y k) ↔ ¬y ≤ x := by
  rw [Pi.le_def, not_forall]
  constructor
  · rintro ⟨k, -, hlt⟩
    exact ⟨k, not_le.mpr hlt⟩
  · rintro ⟨k, hle⟩
    exact ⟨k, hkeys k (not_le.mp hle), not_le.mp hle⟩

open Classical in
/-- **The comparison decides the pointwise order.** -/
theorem compareVersions_eq : compareVersions v w =
    if w.getVersion ≤ v.getVersion then
      if v.getVersion ≤ w.getVersion then .equal else .ahead
    else if v.getVersion ≤ w.getVersion then .behind else .concurrent := by
  obtain ⟨hlocal, hremote⟩ :=
    foldl_visit (v := v) (w := w) (allKeys v w).elems ⟨false, false⟩
  rw [exists_mem_allKeys_lt_iff fun k hlt => mem_allKeys_of_ne hlt.ne'] at hlocal
  rw [exists_mem_allKeys_lt_iff fun k hlt => mem_allKeys_of_ne hlt.ne] at hremote
  unfold compareVersions
  split_ifs with hempty hge hle hle <;> simp_all

theorem compareVersions_eq_or_ahead_iff :
    (compareVersions v w = .equal ∨ compareVersions v w = .ahead)
      ↔ w.getVersion ≤ v.getVersion := by
  rw [compareVersions_eq]
  split_ifs <;> simp_all

theorem compareVersions_eq_concurrent_iff :
    compareVersions v w = .concurrent
      ↔ ¬w.getVersion ≤ v.getVersion ∧ ¬v.getVersion ≤ w.getVersion := by
  rw [compareVersions_eq]
  split_ifs <;> simp_all

end

end Shyam

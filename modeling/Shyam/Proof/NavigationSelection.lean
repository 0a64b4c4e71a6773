import Shyam.Navigation.Policy

/-!
# What the policy selects

The candidates are parted into those that violate a condition and those that are ranked, and none
gets lost.
-/

namespace Shyam

open Python

namespace Navigation

/-- What rules a candidate out. -/
def Refused (constraints : NavigationConstraints) (c : Candidate) : Prop :=
  (c.nodeState = .unavailable ∨ c.nodeState = .stale) ∨ c.providerStatus = .unavailable
    ∨ c.capabilityAvailability = .unavailable
    ∨ (constraints.localOnly = true ∨ constraints.remoteAllowed = false) ∧ c.isLocal = false
    ∨ (∃ state ∈ constraints.requiredNodeState, c.nodeState ≠ state)
    ∨ ∃ status ∈ constraints.requiredProviderStatus, c.providerStatus ≠ status

instance (constraints : NavigationConstraints) (c : Candidate) :
    Decidable (Refused constraints c) :=
  inferInstanceAs (Decidable (_ ∨ _))

variable {constraints : NavigationConstraints} {candidates : List Candidate} {c : Candidate}

theorem reason_eq_none_iff {p : Prop} [Decidable p] {reason : String} {rest : Option String} :
    (if p then some reason else rest) = none ↔ ¬p ∧ rest = none := by
  split_ifs with hp
  · simp [hp]
  · simp [hp]

theorem rejectedStatus_eq_none_iff : rejection.rejectedStatus constraints c = none
    ↔ ¬∃ status ∈ constraints.requiredProviderStatus, c.providerStatus ≠ status := by
  rw [rejection.rejectedStatus]
  cases constraints.requiredProviderStatus with
  | none => simp
  | some status => simp

/-- The checks one after the other rule out what one of them does. -/
theorem rejection_eq_none_iff : rejection constraints c = none ↔ ¬Refused constraints c := by
  have hlocal : (¬(constraints.localOnly = true ∧ ¬c.isLocal = true)
        ∧ ¬(¬constraints.remoteAllowed = true ∧ ¬c.isLocal = true))
      ↔ ¬((constraints.localOnly = true ∨ constraints.remoteAllowed = false)
        ∧ c.isLocal = false) := by
    simp only [Bool.not_eq_true]
    tauto
  simp only [rejection, Refused]
  cases hstate : constraints.requiredNodeState with
  | none =>
      simp only [reason_eq_none_iff, rejectedStatus_eq_none_iff, not_or, ← hlocal]
      simp [and_assoc]
  | some state =>
      simp only [reason_eq_none_iff, rejectedStatus_eq_none_iff, not_or, ← hlocal]
      simp [and_assoc]

theorem eligible_eq_filter (candidates : List Candidate) :
    eligible constraints candidates = candidates.filter fun c => ¬Refused constraints c := by
  rw [eligible]
  refine List.filter_congr fun c _ => ?_
  rw [Bool.eq_iff_iff, Option.isNone_iff_eq_none, rejection_eq_none_iff, decide_eq_true_iff]

theorem map_fst_rejected (candidates : List Candidate) :
    (rejected constraints candidates).map Prod.fst = candidates.filter fun c =>
      Refused constraints c := by
  induction candidates with
  | nil => rfl
  | cons c candidates ih =>
      rw [rejected, List.filterMap_cons]
      cases hrejection : rejection constraints c with
      | none =>
          have heligible := rejection_eq_none_iff.mp hrejection
          rw [List.filter_cons_of_neg (by simpa using heligible), ← ih]
          rfl
      | some reason =>
          have hrefused : Refused constraints c := by
            by_contra hnot
            rw [rejection_eq_none_iff.mpr hnot] at hrejection
            cases hrejection
          rw [List.filter_cons_of_pos (by simpa using hrefused), ← ih]
          rfl

/-! ### The evaluation -/

/-- The candidates that are not rejected, in the order in which they are preferred. -/
def Evaluation.ranked (evaluation : Evaluation) : List Candidate :=
  evaluation.selected.toList ++ evaluation.alternatives

/-- What an evaluation of candidates comes to. -/
structure Evaluation.Exact (constraints : NavigationConstraints) (candidates : List Candidate)
    (evaluation : Evaluation) : Prop where
  complete : (evaluation.ranked ++ evaluation.rejected.map Prod.fst).Perm candidates
  rejected : evaluation.rejected.map Prod.fst = candidates.filter fun c => Refused constraints c
  ranked : StablySorted (rankingKey constraints) (candidates.filter fun c => ¬Refused constraints c)
    evaluation.ranked
  selects : evaluation.selected = none ↔ ∀ c ∈ candidates, Refused constraints c

theorem ranked_evaluate (capability : String) (candidates : List Candidate)
    (constraints : NavigationConstraints) :
    (evaluate capability candidates constraints).ranked
      = sortedBy (rankingKey constraints) (candidates.filter fun c => ¬Refused constraints c) := by
  rw [evaluate, eligible_eq_filter]
  cases sortedBy (rankingKey constraints) (candidates.filter fun c => ¬Refused constraints c) with
  | nil => rfl
  | cons selected alternatives => rfl

theorem rejected_evaluate (capability : String) (candidates : List Candidate)
    (constraints : NavigationConstraints) :
    (evaluate capability candidates constraints).rejected = rejected constraints candidates := by
  rw [evaluate]
  split
  · rfl
  · rfl

theorem selected_eq_none_iff (capability : String) (candidates : List Candidate)
    (constraints : NavigationConstraints) :
    (evaluate capability candidates constraints).selected = none
      ↔ (evaluate capability candidates constraints).ranked = [] := by
  rw [evaluate]
  split
  · exact iff_of_true rfl rfl
  · exact iff_of_false (Option.some_ne_none _) (List.cons_ne_nil _ _)

/-- **The selection.** Every candidate is ranked or rejected, as often as it was given; rejected is
what a condition rules out, the others are ranked by preference, and the first of them is
selected. -/
theorem evaluate_exact (capability : String) (candidates : List Candidate)
    (constraints : NavigationConstraints) :
    (evaluate capability candidates constraints).Exact constraints candidates where
  complete := by
    rw [ranked_evaluate, rejected_evaluate, map_fst_rejected]
    refine ((sortedBy_perm (rankingKey constraints) _).append_right _).trans
      (List.perm_append_comm.trans ?_)
    simpa using List.filter_append_perm (fun c => decide (Refused constraints c)) candidates
  rejected := by rw [rejected_evaluate, map_fst_rejected]
  ranked := by
    rw [ranked_evaluate]
    exact stablySorted_sortedBy _ _
  selects := by
    rw [selected_eq_none_iff, ranked_evaluate, sortedBy_eq_nil_iff, List.filter_eq_nil_iff]
    simp

end Navigation

end Shyam

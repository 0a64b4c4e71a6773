import Mathlib.Algebra.Order.BigOperators.Group.Finset
import Mathlib.Data.Fintype.BigOperators
import Mathlib.Order.Lattice
import Mathlib.Algebra.Order.Ring.Int
import Mathlib.Data.Set.Lattice
import Mathlib.Tactic.Ring
import Shyam.Lib.Run

/-!
# Replicas ordered by version vectors

A replica holds a set of facts and a vector that counts, for each author, how many of that author's
publications it has heard of. Publishing bumps the author's own count; receiving a message skips it
when its vector is dominated, and otherwise joins both components.

The argument that nothing is lost is one sentence: there is a ledger saying what each author
published at each count, and a replica's facts are exactly what the ledger holds up to its vector.
The join keeps that for any two replicas, and a bump keeps it as long as no copy of the author's
count runs ahead of the author, because then the new count is one that nobody has heard of.
-/

namespace Gossip

variable {ν ι F : Type}

/-- How far a replica has heard from each author, and the facts it holds. -/
@[ext]
structure Replica (ι F : Type) where
  vec : ι → ℤ
  facts : Set F

/-! ### The ledger -/

section Ledger

variable {H : ι → ℤ → Set F} {v w : ι → ℤ} {a : ι} {n : ℤ} {fs : Set F}

/-- Everything the ledger holds up to the counts in `v`. -/
def view (H : ι → ℤ → Set F) (v : ι → ℤ) : Set F :=
  {f | ∃ a n, 0 < n ∧ n ≤ v a ∧ f ∈ H a n}

/-- The ledger with the entry of `a` at count `n` replaced. -/
def record [DecidableEq ι] (H : ι → ℤ → Set F) (a : ι) (n : ℤ) (fs : Set F) : ι → ℤ → Set F :=
  fun b m => if b = a ∧ m = n then fs else H b m

theorem view_mono (hle : v ≤ w) : view H v ⊆ view H w := by
  rintro f ⟨a, n, hpos, hn, hf⟩
  exact ⟨a, n, hpos, hn.trans (hle a), hf⟩

theorem view_sup : view H (v ⊔ w) = view H v ∪ view H w := by
  apply Set.Subset.antisymm
  · rintro f ⟨a, n, hpos, hn, hf⟩
    rcases le_sup_iff.mp hn with h | h
    · exact Or.inl ⟨a, n, hpos, h, hf⟩
    · exact Or.inr ⟨a, n, hpos, h, hf⟩
  · exact Set.union_subset (view_mono le_sup_left) (view_mono le_sup_right)

theorem view_zero : view H 0 = ∅ := by
  ext f
  simp only [view, Set.mem_ofPred_eq, Pi.zero_apply, Set.mem_empty_iff_false, iff_false]
  rintro ⟨a, n, hpos, hn, -⟩
  omega

variable [DecidableEq ι]

theorem view_record_of_lt (hlt : v a < n) : view (record H a n fs) v = view H v := by
  ext f
  refine exists_congr fun b => exists_congr fun m => ?_
  by_cases hentry : b = a ∧ m = n
  · obtain ⟨rfl, rfl⟩ := hentry
    simp [not_le.mpr hlt]
  · simp [record, hentry]

theorem view_record_bump (hpos : 0 ≤ v a) :
    view (record H a (v a + 1) fs) (Function.update v a (v a + 1)) = view H v ∪ fs := by
  ext f
  constructor
  · rintro ⟨b, m, hm, hle, hf⟩
    by_cases hentry : b = a ∧ m = v a + 1
    · exact Or.inr (by simpa [record, hentry] using hf)
    · refine Or.inl ⟨b, m, hm, ?_, by simpa [record, hentry] using hf⟩
      by_cases hb : b = a
      · subst hb
        rw [Function.update_self] at hle
        have hne : m ≠ v b + 1 := fun h => hentry ⟨rfl, h⟩
        omega
      · rwa [Function.update_of_ne hb] at hle
  · rintro (⟨b, m, hm, hle, hf⟩ | hf)
    · have hne : ¬(b = a ∧ m = v a + 1) := by
        rintro ⟨rfl, rfl⟩
        omega
      refine ⟨b, m, hm, ?_, by simpa [record, hne] using hf⟩
      by_cases hb : b = a
      · subst hb
        rw [Function.update_self]
        omega
      · rwa [Function.update_of_ne hb]
    · exact ⟨a, v a + 1, by omega, by rw [Function.update_self], by simpa [record] using hf⟩

end Ledger

/-! ### Replicas -/

/-- The ledger accounts for a replica: its facts are what its vector entitles it to. -/
structure Explains (H : ι → ℤ → Set F) (r : Replica ι F) : Prop where
  nonneg : 0 ≤ r.vec
  facts_eq : r.facts = view H r.vec

namespace Replica

variable {H : ι → ℤ → Set F} {r m : Replica ι F} {a : ι} {fs : Set F}

def fresh : Replica ι F := ⟨0, ∅⟩

def publish [DecidableEq ι] (r : Replica ι F) (a : ι) (fs : Set F) : Replica ι F :=
  ⟨Function.update r.vec a (r.vec a + 1), r.facts ∪ fs⟩

/-- A dominated message is skipped, any other is joined. -/
noncomputable def receive (r m : Replica ι F) : Replica ι F :=
  open Classical in if m.vec ≤ r.vec then r else ⟨r.vec ⊔ m.vec, r.facts ∪ m.facts⟩

theorem receive_of_le (hle : m.vec ≤ r.vec) : r.receive m = r := if_pos hle

theorem receive_of_not_le (hle : ¬m.vec ≤ r.vec) :
    r.receive m = ⟨r.vec ⊔ m.vec, r.facts ∪ m.facts⟩ := if_neg hle

/-- Skipped or joined, the vector ends at the join. -/
theorem receive_vec : (r.receive m).vec = r.vec ⊔ m.vec := by
  by_cases hle : m.vec ≤ r.vec
  · rw [receive_of_le hle, sup_eq_left.mpr hle]
  · rw [receive_of_not_le hle]

theorem facts_subset_receive : r.facts ⊆ (r.receive m).facts := by
  by_cases hle : m.vec ≤ r.vec
  · rw [receive_of_le hle]
  · rw [receive_of_not_le hle]
    exact Set.subset_union_left

theorem facts_subset_of_le (hr : Explains H r) (hm : Explains H m) (hle : m.vec ≤ r.vec) :
    m.facts ⊆ r.facts := by
  rw [hr.facts_eq, hm.facts_eq]
  exact view_mono hle

theorem explains_fresh : Explains H (fresh : Replica ι F) := ⟨le_rfl, view_zero.symm⟩

theorem explains_receive (hr : Explains H r) (hm : Explains H m) : Explains H (r.receive m) := by
  by_cases hle : m.vec ≤ r.vec
  · rwa [receive_of_le hle]
  · rw [receive_of_not_le hle]
    exact ⟨hr.nonneg.trans le_sup_left, by rw [view_sup, hr.facts_eq, hm.facts_eq]⟩

theorem explains_record [DecidableEq ι] {n : ℤ} (hr : Explains H r) (hlt : r.vec a < n) :
    Explains (record H a n fs) r :=
  ⟨hr.nonneg, by rw [view_record_of_lt hlt, hr.facts_eq]⟩

theorem explains_publish [DecidableEq ι] (hr : Explains H r) :
    Explains (record H a (r.vec a + 1) fs) (r.publish a fs) where
  nonneg := by
    intro b
    by_cases hb : b = a
    · subst hb
      have hb := hr.nonneg b
      simp only [publish, Function.update_self, Pi.zero_apply] at hb ⊢
      omega
    · simpa [publish, Function.update_of_ne hb] using hr.nonneg b
  facts_eq := by
    change r.facts ∪ fs = view _ (Function.update r.vec a (r.vec a + 1))
    rw [view_record_bump (hr.nonneg a), hr.facts_eq]

end Replica

/-! ### The system -/

/-- The replicas, and every message sent so far. The wire may lose, copy, delay and reorder: any
message sent may be received at any later time, any number of times. -/
structure System (ν ι F : Type) where
  replica : ν → Replica ι F
  sent : Set (Replica ι F)

inductive Event (ν ι F : Type) where
  | publish (i : ν) (fs : Set F)
  | send (i : ν)
  | receive (i : ν) (m : Replica ι F)
  | reset (i : ν)
  | idle

namespace System

def fresh : System ν ι F := ⟨fun _ => Replica.fresh, ∅⟩

/-- The snapshots of a system: what its replicas hold and what its messages carry. -/
def Snapshot (s : System ν ι F) (r : Replica ι F) : Prop := (∃ i, r = s.replica i) ∨ r ∈ s.sent

def Allowed (s : System ν ι F) : Event ν ι F → Prop
  | .receive _ m => m ∈ s.sent
  | _ => True

/-- No copy of an author's count runs ahead of the author when it publishes. -/
def Current (author : ν → ι) (s : System ν ι F) : Event ν ι F → Prop
  | .publish i _ => ∀ r, s.Snapshot r → r.vec (author i) ≤ (s.replica i).vec (author i)
  | _ => True

def Durable : Event ν ι F → Prop
  | .reset _ => False
  | _ => True

/-- One ledger accounts for every snapshot. -/
def Explained (s : System ν ι F) : Prop := ∃ H, ∀ r, s.Snapshot r → Explains H r

/-- Every copy of an author's count is at most the author's own, and only authors are counted. -/
structure Capped (author : ν → ι) (s : System ν ι F) : Prop where
  le_own : ∀ r, s.Snapshot r → ∀ j, r.vec (author j) ≤ (s.replica j).vec (author j)
  zero_of_not_author : ∀ r, s.Snapshot r → ∀ a, (∀ j, author j ≠ a) → r.vec a = 0

variable {author : ν → ι} {s : System ν ι F} {r : Replica ι F} {e : Event ν ι F}

theorem snapshot_replica (i : ν) : s.Snapshot (s.replica i) := Or.inl ⟨i, rfl⟩

theorem snapshot_sent (h : r ∈ s.sent) : s.Snapshot r := Or.inr h

theorem snapshot_insert {i : ν} (h : Snapshot { s with sent := insert (s.replica i) s.sent } r) :
    s.Snapshot r := by
  rcases h with h | h | h
  · exact Or.inl h
  · exact Or.inl ⟨i, h⟩
  · exact Or.inr h

theorem Explained.facts_subset (hs : s.Explained) {m : Replica ι F} (hr : s.Snapshot r)
    (hm : s.Snapshot m) (hle : m.vec ≤ r.vec) : m.facts ⊆ r.facts := by
  obtain ⟨H, hH⟩ := hs
  exact Replica.facts_subset_of_le (hH r hr) (hH m hm) hle

theorem explained_fresh : (fresh : System ν ι F).Explained := by
  refine ⟨fun _ _ => ∅, ?_⟩
  rintro r (⟨i, rfl⟩ | h)
  · exact Replica.explains_fresh
  · exact h.elim

theorem capped_fresh : Capped author (fresh : System ν ι F) where
  le_own := by
    rintro r (⟨i, rfl⟩ | h) j
    · exact le_rfl
    · exact h.elim
  zero_of_not_author := by
    rintro r (⟨i, rfl⟩ | h) a _
    · rfl
    · exact h.elim

/-- Below its own count everywhere, an author always publishes at a count nobody has heard of. -/
theorem Capped.current (hs : Capped author s) : s.Current author e := by
  cases e with
  | publish i fs => exact fun r hr => hs.le_own r hr i
  | _ => trivial

/-! ### One step -/

variable [DecidableEq ν] [DecidableEq ι]

noncomputable def step (author : ν → ι) (s : System ν ι F) : Event ν ι F → System ν ι F
  | .publish i fs =>
      { s with replica := Function.update s.replica i ((s.replica i).publish (author i) fs) }
  | .send i => { s with sent := insert (s.replica i) s.sent }
  | .receive i m => { s with replica := Function.update s.replica i ((s.replica i).receive m) }
  | .reset i => { s with replica := Function.update s.replica i Replica.fresh }
  | .idle => s

omit [DecidableEq ι] in
theorem snapshot_update {i : ν} {r' : Replica ι F}
    (h : Snapshot { s with replica := Function.update s.replica i r' } r) :
    r = r' ∨ s.Snapshot r := by
  rcases h with ⟨j, rfl⟩ | h
  · by_cases hj : j = i
    · subst hj
      exact Or.inl (Function.update_self ..)
    · exact Or.inr (Or.inl ⟨j, Function.update_of_ne hj ..⟩)
  · exact Or.inr (Or.inr h)

/-- A snapshot other than the publisher's new one has not heard of the count being recorded. -/
theorem explained_step (hs : s.Explained) (hallowed : s.Allowed e) (hcurrent : s.Current author e) :
    (s.step author e).Explained := by
  obtain ⟨H, hH⟩ := hs
  cases e with
  | publish i fs =>
      refine ⟨record H (author i) ((s.replica i).vec (author i) + 1) fs, fun r hr => ?_⟩
      rcases snapshot_update hr with rfl | hold
      · exact Replica.explains_publish (hH _ (snapshot_replica i))
      · exact Replica.explains_record (hH r hold) (Int.lt_add_one_of_le (hcurrent r hold))
  | send i => exact ⟨H, fun r hr => hH r (snapshot_insert hr)⟩
  | receive i m =>
      refine ⟨H, fun r hr => ?_⟩
      rcases snapshot_update hr with rfl | hold
      · exact Replica.explains_receive (hH _ (snapshot_replica i)) (hH _ (snapshot_sent hallowed))
      · exact hH r hold
  | reset i =>
      refine ⟨H, fun r hr => ?_⟩
      rcases snapshot_update hr with rfl | hold
      · exact Replica.explains_fresh
      · exact hH r hold
  | idle => exact ⟨H, hH⟩

theorem vec_le_step (hdurable : Durable e) (j : ν) :
    (s.replica j).vec ≤ ((s.step author e).replica j).vec := by
  cases e with
  | publish i fs =>
      by_cases hj : j = i
      · subst hj
        intro a
        by_cases ha : a = author j
        · subst ha
          simp [step, Replica.publish]
        · simp [step, Replica.publish, Function.update_of_ne ha]
      · simp [step, Function.update_of_ne hj]
  | receive i m =>
      by_cases hj : j = i
      · subst hj
        simp [step, Replica.receive_vec]
      · simp [step, Function.update_of_ne hj]
  | send i => exact le_rfl
  | reset i => exact hdurable.elim
  | idle => exact le_rfl

theorem facts_subset_step (hdurable : Durable e) (j : ν) :
    (s.replica j).facts ⊆ ((s.step author e).replica j).facts := by
  cases e with
  | publish i fs =>
      by_cases hj : j = i
      · subst hj
        simp only [step, Function.update_self]
        exact Set.subset_union_left
      · simp [step, Function.update_of_ne hj]
  | receive i m =>
      by_cases hj : j = i
      · subst hj
        simp only [step, Function.update_self]
        exact Replica.facts_subset_receive
      · simp [step, Function.update_of_ne hj]
  | send i => exact Set.Subset.rfl
  | reset i => exact hdurable.elim
  | idle => exact Set.Subset.rfl

theorem capped_step (hauthor : Function.Injective author) (hs : Capped author s)
    (hallowed : s.Allowed e) (hdurable : Durable e) : Capped author (s.step author e) := by
  -- A snapshot of before stays below the authors, whose own counts only grow.
  have hkeep : ∀ r, s.Snapshot r → ∀ j,
      r.vec (author j) ≤ ((s.step author e).replica j).vec (author j) := by
    intro r hr j
    calc r.vec (author j) ≤ (s.replica j).vec (author j) := hs.le_own r hr j
      _ ≤ ((s.step author e).replica j).vec (author j) := vec_le_step hdurable j (author j)
  cases e with
  | publish i fs =>
      refine ⟨fun r hr j => ?_, fun r hr a ha => ?_⟩
      · rcases snapshot_update hr with rfl | hold
        · by_cases hj : j = i
          · subst hj
            simp [step]
          · have hne : author j ≠ author i := fun h => hj (hauthor h)
            simpa [step, Replica.publish, Function.update_of_ne hne, Function.update_of_ne hj]
              using hs.le_own _ (snapshot_replica i) j
        · exact hkeep r hold j
      · rcases snapshot_update hr with rfl | hold
        · rw [show (Replica.publish (s.replica i) (author i) fs).vec a = (s.replica i).vec a from
            Function.update_of_ne (ha i).symm ..]
          exact hs.zero_of_not_author _ (snapshot_replica i) a ha
        · exact hs.zero_of_not_author r hold a ha
  | send i =>
      exact ⟨fun r hr => hkeep r (snapshot_insert hr),
        fun r hr => hs.zero_of_not_author r (snapshot_insert hr)⟩
  | receive i m =>
      refine ⟨fun r hr j => ?_, fun r hr a ha => ?_⟩
      · rcases snapshot_update hr with rfl | hold
        · rw [Replica.receive_vec]
          exact sup_le (hkeep _ (snapshot_replica i) j) (hkeep _ (snapshot_sent hallowed) j)
        · exact hkeep r hold j
      · rcases snapshot_update hr with rfl | hold
        · rw [Replica.receive_vec, Pi.sup_apply,
            hs.zero_of_not_author _ (snapshot_replica i) a ha,
            hs.zero_of_not_author _ (snapshot_sent hallowed) a ha, sup_idem]
        · exact hs.zero_of_not_author r hold a ha
  | reset i => exact hdurable.elim
  | idle => exact hs

/-- Receiving leaves every author's own count alone: no message runs ahead of the author. -/
theorem own_receive (hs : Capped author s) {i : ν} {m : Replica ι F} (hm : m ∈ s.sent) (j : ν) :
    ((s.step author (.receive i m)).replica j).vec (author j)
      = (s.replica j).vec (author j) := by
  by_cases hj : j = i
  · subst hj
    simpa [step, Replica.receive_vec] using hs.le_own m (snapshot_sent hm) j
  · simp [step, Function.update_of_ne hj]

/-! ### Quiet steps -/

/-- Nothing is published. -/
def Quiet : Event ν ι F → Prop
  | .publish _ _ | .reset _ => False
  | .send _ | .receive _ _ | .idle => True

/-- A quiet step leaves every author's own count. -/
theorem own_step_of_quiet (hs : Capped author s) (hallowed : s.Allowed e)
    (hquiet : Quiet e) (j : ν) :
    ((s.step author e).replica j).vec (author j) = (s.replica j).vec (author j) := by
  cases e with
  | publish i fs => exact hquiet.elim
  | send i => rfl
  | receive i m => exact own_receive hs hallowed j
  | reset i => exact hquiet.elim
  | idle => rfl

/-- A quiet step makes no fact known that nobody held. -/
theorem facts_step_of_quiet {known : Set F} (hknown : ∀ r, s.Snapshot r → r.facts ⊆ known)
    (hallowed : s.Allowed e) (hquiet : Quiet e) (r : Replica ι F)
    (hr : (s.step author e).Snapshot r) : r.facts ⊆ known := by
  cases e with
  | publish i fs => exact hquiet.elim
  | send i => exact hknown r (snapshot_insert hr)
  | receive i m =>
      rcases snapshot_update hr with rfl | hold
      · have hjoin : (s.replica i).facts ∪ m.facts ⊆ known :=
          Set.union_subset (hknown _ (snapshot_replica i)) (hknown m (snapshot_sent hallowed))
        by_cases hle : m.vec ≤ (s.replica i).vec
        · rw [Replica.receive_of_le hle]
          exact hknown _ (snapshot_replica i)
        · rwa [Replica.receive_of_not_le hle]
      · exact hknown r hold
  | reset i => exact hquiet.elim
  | idle => exact hknown r hr

/-! ### The version gaps -/

variable [Fintype ν]

omit [DecidableEq ν] [DecidableEq ι]

/-- How many publications the replicas have still to hear of, summed over replicas and authors. -/
def gap (author : ν → ι) (s : System ν ι F) : ℤ :=
  ∑ i, ∑ j, ((s.replica j).vec (author j) - (s.replica i).vec (author j))

theorem gap_nonneg (hs : Capped author s) : 0 ≤ s.gap author :=
  Finset.sum_nonneg fun i _ => Finset.sum_nonneg fun j _ =>
    sub_nonneg.mpr (hs.le_own _ (snapshot_replica i) j)

theorem gap_eq_sub {s' : System ν ι F}
    (hown : ∀ j, (s'.replica j).vec (author j) = (s.replica j).vec (author j)) :
    s'.gap author = s.gap author
      - ∑ i, ∑ j, ((s'.replica i).vec (author j) - (s.replica i).vec (author j)) := by
  rw [gap, gap, ← Finset.sum_sub_distrib]
  refine Finset.sum_congr rfl fun i _ => ?_
  rw [← Finset.sum_sub_distrib]
  refine Finset.sum_congr rfl fun j _ => ?_
  rw [hown j]
  ring

/-- **The gap falls.** A message that is not dominated brings the system closer to quiescence. -/
theorem gap_receive_lt [DecidableEq ν] [DecidableEq ι] (hs : Capped author s) {i : ν}
    {m : Replica ι F} (hm : m ∈ s.sent) (hnew : ¬m.vec ≤ (s.replica i).vec) :
    (s.step author (.receive i m)).gap author < s.gap author := by
  rw [gap_eq_sub (own_receive hs hm), sub_lt_self_iff]
  have hraise : ∀ k j, 0 ≤ ((s.step author (.receive i m)).replica k).vec (author j)
      - (s.replica k).vec (author j) := fun k j =>
    sub_nonneg.mpr (vec_le_step (e := .receive i m) trivial k (author j))
  obtain ⟨a, ha⟩ : ∃ a, ¬m.vec a ≤ (s.replica i).vec a := not_forall.mp hnew
  obtain ⟨j, rfl⟩ : ∃ j, author j = a := by
    by_contra hnone
    push Not at hnone
    rw [hs.zero_of_not_author m (snapshot_sent hm) a hnone,
      hs.zero_of_not_author _ (snapshot_replica i) a hnone] at ha
    exact ha le_rfl
  refine Finset.sum_pos' (fun k _ => Finset.sum_nonneg fun j _ => hraise k j)
    ⟨i, Finset.mem_univ i, Finset.sum_pos' (fun j _ => hraise i j) ⟨j, Finset.mem_univ j, ?_⟩⟩
  simp only [step, Function.update_self, Replica.receive_vec, Pi.sup_apply]
  rw [sup_eq_right.mpr (not_le.mp ha).le]
  exact sub_pos.mpr (not_le.mp ha)

end System

end Gossip

import Mathlib.Algebra.Order.Ring.Int

/-!
# Runs of a deterministic step function

A system takes one step for each element of a list of actions. `Along P s l` says that every step of
the run of `l` from `s` meets `P` in the state it is taken in, so a condition on the steps of a run
is one predicate on a state and an action. An invariant of the single step is an invariant of the
run.
-/

namespace Transition

variable {σ α : Type _} (step : σ → α → σ)

/-- The state after the actions `l`, from `s`. -/
def run (s : σ) (l : List α) : σ := l.foldl step s

/-- Every step of the run of `l` from `s` meets `P` in the state before it. -/
def Along (P : σ → α → Prop) : σ → List α → Prop
  | _, [] => True
  | s, a :: l => P s a ∧ Along P (step s a) l

@[simp] theorem run_nil (s : σ) : run step s [] = s := by
  rw [run, List.foldl_nil]

@[simp] theorem run_cons (s : σ) (a : α) (l : List α) :
    run step s (a :: l) = run step (step s a) l := by
  rw [run, run, List.foldl_cons]

theorem run_append (s : σ) (l m : List α) : run step s (l ++ m) = run step (run step s l) m :=
  List.foldl_append

variable {step} {P Q : σ → α → Prop}

@[simp] theorem along_nil (s : σ) : Along step P s [] := trivial

@[simp] theorem along_cons {s : σ} {a : α} {l : List α} :
    Along step P s (a :: l) ↔ P s a ∧ Along step P (step s a) l := Iff.rfl

theorem along_append {s : σ} {l m : List α} :
    Along step P s (l ++ m) ↔ Along step P s l ∧ Along step P (run step s l) m := by
  induction l generalizing s with
  | nil => simp
  | cons a l ih => rw [List.cons_append, along_cons, ih, along_cons, run_cons, and_assoc]

theorem along_of_forall_mem {P : α → Prop} {s : σ} {l : List α} (h : ∀ a ∈ l, P a) :
    Along step (fun _ a => P a) s l := by
  induction l generalizing s with
  | nil => trivial
  | cons a l ih =>
      rw [List.forall_mem_cons] at h
      exact ⟨h.1, ih h.2⟩

theorem along_of_forall {s : σ} {l : List α} (h : ∀ a ∈ l, ∀ s, P s a) : Along step P s l := by
  induction l generalizing s with
  | nil => trivial
  | cons a l ih =>
      rw [List.forall_mem_cons] at h
      exact ⟨h.1 s, ih h.2⟩

theorem Along.and {s : σ} {l : List α} (hP : Along step P s l) (hQ : Along step Q s l) :
    Along step (fun s a => P s a ∧ Q s a) s l := by
  induction l generalizing s with
  | nil => trivial
  | cons a l ih => exact ⟨⟨hP.1, hQ.1⟩, ih hP.2 hQ.2⟩

/-- **The run rule.** What every admitted step preserves, the run preserves. -/
theorem Along.invariant {I : σ → Prop} (hstep : ∀ s a, I s → P s a → I (step s a))
    {s : σ} {l : List α} (hrun : Along step P s l) (hinv : I s) : I (run step s l) := by
  induction l generalizing s with
  | nil => exact hinv
  | cons a l ih => exact ih hrun.2 (hstep s a hinv hrun.1)

/-- Without a condition on the steps. -/
theorem run_of_invariant {I : σ → Prop} (hstep : ∀ s a, I s → I (step s a)) {s : σ}
    (l : List α) (hinv : I s) :
    I (run step s l) :=
  (along_of_forall fun _ _ _ => trivial : Along step (fun _ _ => True) s l).invariant
    (fun s a h _ => hstep s a h) hinv

theorem Along.mono {I : σ → Prop} (hstep : ∀ s a, I s → P s a → I (step s a) ∧ Q s a)
    {s : σ} {l : List α} (hrun : Along step P s l) (hinv : I s) : Along step Q s l := by
  induction l generalizing s with
  | nil => trivial
  | cons a l ih =>
      obtain ⟨hnext, hq⟩ := hstep s a hinv hrun.1
      exact ⟨hq, ih hrun.2 hnext⟩

theorem along_iff_of_invariant {I : σ → Prop} (hstep : ∀ s a, I s → I (step s a))
    (hiff : ∀ s a, I s → (P s a ↔ Q s a)) {s : σ} {l : List α} (hinv : I s) :
    Along step P s l ↔ Along step Q s l := by
  induction l generalizing s with
  | nil => exact Iff.rfl
  | cons a l ih => rw [along_cons, along_cons, hiff s a hinv, ih (hstep s a hinv)]

theorem Along.related {R : σ → σ → Prop} (htrans : ∀ {a b c}, R a b → R b c → R a c)
    (hrefl : ∀ a, R a a) (hstep : ∀ s a, P s a → R s (step s a))
    {s : σ} {l : List α} (hrun : Along step P s l) : R s (run step s l) := by
  induction l generalizing s with
  | nil => exact hrefl s
  | cons a l ih => exact htrans (hstep s a hrun.1) (ih hrun.2)

/-! ### Counting steps -/

variable (step) in
/-- How many steps of the run of `l` from `s` meet `p` in the state they are taken in. -/
def tally (p : σ → α → Bool) : σ → List α → ℕ
  | _, [] => 0
  | s, a :: l => (if p s a then 1 else 0) + tally p (step s a) l

/-- **The measure rule.** A measure that no step raises and every counted step
lowers bounds the count. -/
theorem Along.tally_le {p : σ → α → Bool} {I : σ → Prop} {μ : σ → ℤ}
    (hnonneg : ∀ s, I s → 0 ≤ μ s)
    (hstep : ∀ s a, I s → P s a →
      I (step s a) ∧ μ (step s a) + (if p s a then 1 else 0) ≤ μ s)
    {s : σ} {l : List α} (hrun : Along step P s l) (hinv : I s) :
    (tally step p s l : ℤ) ≤ μ s := by
  induction l generalizing s with
  | nil => exact hnonneg s hinv
  | cons a l ih =>
      obtain ⟨hnext, hle⟩ := hstep s a hinv hrun.1
      have hrest := ih hrun.2 hnext
      rw [tally]
      split_ifs at hle ⊢ <;> push_cast <;> omega

/-! ### Every state of a run -/

variable (step) in
/-- `R` holds in every state that the run of `l` from `s` goes through, `s` included. -/
def Always (R : σ → Prop) : σ → List α → Prop
  | s, [] => R s
  | s, a :: l => R s ∧ Always R (step s a) l

theorem Always.head {R : σ → Prop} {s : σ} {l : List α} (h : Always step R s l) : R s := by
  cases l with
  | nil => exact h
  | cons a l => exact h.1

theorem always_iff_prefix {R : σ → Prop} {s : σ} {l : List α} :
    Always step R s l ↔ ∀ l', l' <+: l → R (run step s l') := by
  induction l generalizing s with
  | nil => simp [Always]
  | cons a l ih =>
      rw [Always, ih]
      constructor
      · rintro ⟨hs, hrest⟩ l' hprefix
        rcases List.prefix_cons_iff.mp hprefix with rfl | ⟨l'', rfl, hprefix'⟩
        · exact hs
        · exact hrest l'' hprefix'
      · intro h
        refine ⟨h [] (List.nil_prefix), fun l' hprefix => ?_⟩
        exact h (a :: l') ((List.prefix_cons_inj a).mpr hprefix)

theorem Along.always {R I : σ → Prop} (hstep : ∀ s a, I s → P s a → I (step s a))
    (hgood : ∀ s, I s → R s) {s : σ} {l : List α} (hrun : Along step P s l) (hinv : I s) :
    Always step R s l := by
  induction l generalizing s with
  | nil => exact hgood s hinv
  | cons a l ih => exact ⟨hgood s hinv, ih hrun.2 (hstep s a hinv hrun.1)⟩

theorem always_of_invariant {R I : σ → Prop} (hstep : ∀ s a, I s → I (step s a))
    (hgood : ∀ s, I s → R s) {s : σ} (l : List α) (hinv : I s) : Always step R s l :=
  (along_of_forall fun _ _ _ => trivial : Along step (fun _ _ => True) s l).always
    (fun s a h _ => hstep s a h) hgood hinv

/-- **The exact rule.** Where a step from a good state leads to a good state exactly when it is
admitted, the states of a run are good exactly when its steps are admitted. -/
theorem always_iff_along {R : σ → Prop} (hstep : ∀ s a, R s → (R (step s a) ↔ P s a)) {s : σ}
    {l : List α} (hs : R s) : Always step R s l ↔ Along step P s l := by
  induction l generalizing s with
  | nil => exact ⟨fun _ => trivial, fun _ => hs⟩
  | cons a l ih =>
      rw [Always, along_cons]
      constructor
      · intro h
        have hnext : R (step s a) := h.2.head
        exact ⟨(hstep s a hs).mp hnext, (ih hnext).mp h.2⟩
      · intro h
        exact ⟨hs, (ih ((hstep s a hs).mpr h.1)).mpr h.2⟩

theorem Always.last {R : σ → Prop} {s : σ} {l : List α} (h : Always step R s l) :
    R (run step s l) := always_iff_prefix.mp h l (List.prefix_refl l)

/-! ### Two runs -/

section Noninterference

variable {κ : Type _} {view : σ → κ} {concerns : α → Bool}

/-- Steps that leave the view alone can be left out of a run. -/
theorem view_run_filter
    (hstep : ∀ s s' a, concerns a = true → view s = view s' → view (step s a) = view (step s' a))
    (hskip : ∀ s a, concerns a = false → view (step s a) = view s) {s s' : σ} (l : List α)
    (h : view s = view s') : view (run step s l) = view (run step s' (l.filter concerns)) := by
  induction l generalizing s s' with
  | nil => exact h
  | cons a l ih =>
      rw [run_cons]
      cases ha : concerns a with
      | true =>
          rw [List.filter_cons_of_pos ha, run_cons]
          exact ih (hstep s s' a ha h)
      | false =>
          rw [List.filter_cons_of_neg (Bool.not_eq_true _ ▸ ha)]
          exact ih ((hskip s a ha).trans h)

/-- **Noninterference.** Runs that agree on the steps that concern a view agree on the view. -/
theorem view_run_eq
    (hstep : ∀ s s' a, concerns a = true → view s = view s' → view (step s a) = view (step s' a))
    (hskip : ∀ s a, concerns a = false → view (step s a) = view s) {s : σ} {l l' : List α}
    (h : l.filter concerns = l'.filter concerns) : view (run step s l) = view (run step s l') := by
  rw [view_run_filter hstep hskip l rfl, view_run_filter hstep hskip l' rfl, h]

end Noninterference

/-! ### Steps that leave a choice -/

/-- The actions `l` can lead from `s` to the last state. -/
def Leads (R : σ → α → σ → Prop) : σ → List α → σ → Prop
  | s, [], last => s = last
  | s, a :: l, last => ∃ next, R s a next ∧ Leads R next l last

section Leads

variable {R : σ → α → σ → Prop}

theorem leads_append {s last : σ} {l m : List α} :
    Leads R s (l ++ m) last ↔ ∃ middle, Leads R s l middle ∧ Leads R middle m last := by
  induction l generalizing s with
  | nil => simp [Leads]
  | cons a l ih =>
      simp only [List.cons_append, Leads, ih]
      constructor
      · rintro ⟨next, hnext, middle, hl, hm⟩
        exact ⟨middle, ⟨next, hnext, hl⟩, hm⟩
      · rintro ⟨middle, ⟨next, hnext, hl⟩, hm⟩
        exact ⟨next, hnext, middle, hl, hm⟩

end Leads

end Transition

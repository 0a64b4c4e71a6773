import Mathlib.Data.List.Basic

/-!
# Interaction programs

A program ends with a value or an exception, or it asks its environment for an operation and goes on
with the answer. What it has done so far is a list of operations with their answers. `Meets` is a
judgment on a program with a past: every operation that it starts is admitted by what came before,
and every end meets the postcondition, whatever the answers are. It composes along `bind` and
`tryCatch`, and holds for the rest of a program after each step, so it carries over to interleaved
runs.
-/

namespace Interaction

variable {Op : Type} {Ans : Op → Type} {ε α β : Type}

inductive Program (Ans : Op → Type) (ε α : Type) where
  | done (result : Except ε α)
  | ask (op : Op) (next : Ans op → Program Ans ε α)

structure Event (Ans : Op → Type) where
  op : Op
  answer : Ans op

namespace Program

def bind : Program Ans ε α → (α → Program Ans ε β) → Program Ans ε β
  | done (.ok a), f => f a
  | done (.error e), _ => done (.error e)
  | ask op next, f => ask op fun answer => (next answer).bind f

def handle : Program Ans ε α → (ε → Program Ans ε α) → Program Ans ε α
  | done (.ok a), _ => done (.ok a)
  | done (.error e), f => f e
  | ask op next, f => ask op fun answer => (next answer).handle f

/-- The program with its exceptions translated. -/
def mapError {ε' : Type} (f : ε → ε') : Program Ans ε α → Program Ans ε' α
  | done result => done (result.mapError f)
  | ask op next => ask op fun answer => (next answer).mapError f

instance : Monad (Program Ans ε) where
  pure a := done (.ok a)
  bind := bind

instance : MonadExceptOf ε (Program Ans ε) where
  throw e := done (.error e)
  tryCatch := handle

/-- The whole run, with the answers of an environment that sees what has happened so far. -/
def run (answers : List (Event Ans) → (op : Op) → Ans op) :
    List (Event Ans) → Program Ans ε α → List (Event Ans) × Except ε α
  | past, done result => (past, result)
  | past, ask op next =>
      run answers (past ++ [⟨op, answers past op⟩]) (next (answers past op))

/-- Every operation started after `past` is `ok`, and every end meets the postcondition. -/
def Meets (ok : List (Event Ans) → Op → Prop) (post : List (Event Ans) → Except ε α → Prop) :
    List (Event Ans) → Program Ans ε α → Prop
  | past, done result => post past result
  | past, ask op next =>
      ok past op ∧ ∀ answer, Meets ok post (past ++ [⟨op, answer⟩]) (next answer)

variable {ok : List (Event Ans) → Op → Prop} {post post' : List (Event Ans) → Except ε α → Prop}
  {past : List (Event Ans)} {p : Program Ans ε α}

theorem Meets.mono (h : Meets ok post past p)
    (himp : ∀ past result, post past result → post' past result) : Meets ok post' past p := by
  induction p generalizing past with
  | done result => exact himp past result h
  | ask op next ih => exact ⟨h.1, fun answer => ih answer (h.2 answer)⟩

/-- **Sequencing.** The continuation starts where the first program ended. -/
theorem meets_bind {f : α → Program Ans ε β} {post : List (Event Ans) → Except ε β → Prop}
    (h : Meets ok (fun past result => match result with
      | .ok a => Meets ok post past (f a)
      | .error e => post past (.error e)) past p) : Meets ok post past (p >>= f) := by
  change Meets ok post past (p.bind f)
  induction p generalizing past with
  | done result =>
      cases result with
      | ok a => exact h
      | error e => exact h
  | ask op next ih => exact ⟨h.1, fun answer => ih answer (h.2 answer)⟩

/-- **Handlers.** The handler starts where the body raised. -/
theorem meets_tryCatch {f : ε → Program Ans ε α}
    (h : Meets ok (fun past result => match result with
      | .ok a => post past (.ok a)
      | .error e => Meets ok post past (f e)) past p) : Meets ok post past (tryCatch p f) := by
  change Meets ok post past (p.handle f)
  induction p generalizing past with
  | done result =>
      cases result with
      | ok a => exact h
      | error e => exact h
  | ask op next ih => exact ⟨h.1, fun answer => ih answer (h.2 answer)⟩

theorem meets_mapError {ε' : Type} {f : ε → ε'} {post : List (Event Ans) → Except ε' α → Prop}
    (h : Meets ok (fun past result => post past (result.mapError f)) past p) :
    Meets ok post past (p.mapError f) := by
  induction p generalizing past with
  | done result => exact h
  | ask op next ih => exact ⟨h.1, fun answer => ih answer (h.2 answer)⟩

/-- **Runs.** A program that meets its postcondition ends in it, whatever the environment
answers. -/
theorem Meets.run (h : Meets ok post past p) (answers : List (Event Ans) → (op : Op) → Ans op) :
    post (p.run answers past).1 (p.run answers past).2 := by
  induction p generalizing past with
  | done result => exact h
  | ask op next ih => exact ih _ (h.2 _)

theorem run_mapError {ε' : Type} (f : ε → ε') (answers : List (Event Ans) → (op : Op) → Ans op)
    (past : List (Event Ans)) (p : Program Ans ε α) : (p.mapError f).run answers past
      = ((p.run answers past).1, (p.run answers past).2.mapError f) := by
  induction p generalizing past with
  | done result => rfl
  | ask op next ih => exact ih _ _

theorem past_prefix_run (answers : List (Event Ans) → (op : Op) → Ans op)
    (past : List (Event Ans)) (p : Program Ans ε α) : past <+: (p.run answers past).1 := by
  induction p generalizing past with
  | done result => exact List.prefix_refl past
  | ask op next ih => exact (List.prefix_append past _).trans (ih _ _)

section Returning

variable {answers : List (Event Ans) → (op : Op) → Ans op} {past' : List (Event Ans)} {a : α}

theorem run_bind_of_ok (h : p.run answers past = (past', .ok a)) (f : α → Program Ans ε β) :
    (p >>= f).run answers past = (f a).run answers past' := by
  change (p.bind f).run answers past = _
  induction p generalizing past with
  | done result =>
      rw [run, Prod.mk.injEq] at h
      rw [h.1, h.2]
      rfl
  | ask op next ih => exact ih _ h

theorem run_tryCatch_of_ok (h : p.run answers past = (past', .ok a)) (f : ε → Program Ans ε α) :
    (tryCatch p f).run answers past = (past', .ok a) := by
  change (p.handle f).run answers past = _
  induction p generalizing past with
  | done result =>
      rw [run, Prod.mk.injEq] at h
      rw [h.1, h.2]
      rfl
  | ask op next ih => exact ih _ h

/-- A handler only adds to what the body did. -/
theorem run_prefix_tryCatch (answers : List (Event Ans) → (op : Op) → Ans op)
    (past : List (Event Ans)) (p : Program Ans ε α) (f : ε → Program Ans ε α) :
    (p.run answers past).1 <+: ((tryCatch p f).run answers past).1 := by
  change _ <+: ((p.handle f).run answers past).1
  induction p generalizing past with
  | done result =>
      cases result with
      | ok a => exact List.prefix_refl past
      | error e => exact past_prefix_run answers past (f e)
  | ask op next ih => exact ih _ _

end Returning

theorem exists_run_ask (answers : List (Event Ans) → (op : Op) → Ans op) (past : List (Event Ans))
    (op : Op) (next : Ans op → Program Ans ε α) :
    ∃ answer after, ((ask op next).run answers past).1 = past ++ ⟨op, answer⟩ :: after := by
  obtain ⟨after, hafter⟩ := past_prefix_run answers (past ++ [⟨op, answers past op⟩])
    (next (answers past op))
  rw [List.append_assoc, List.singleton_append] at hafter
  exact ⟨answers past op, after, hafter.symm⟩

/-- Every operation of a past was admitted by what came before it. -/
def Admitted (ok : List (Event Ans) → Op → Prop) (past : List (Event Ans)) : Prop :=
  ∀ before e after, past = before ++ e :: after → ok before e.op

theorem admitted_nil : Admitted ok [] := by
  intro before e after h
  have hlength := congrArg List.length h
  rw [List.length_append, List.length_cons] at hlength
  simp at hlength

theorem Admitted.concat {op : Op} (h : Admitted ok past) (hok : ok past op) (answer : Ans op) :
    Admitted ok (past ++ [⟨op, answer⟩]) := by
  intro before e after heq
  rcases List.eq_nil_or_concat after with rfl | ⟨after, last, rfl⟩
  · obtain ⟨rfl, hsame⟩ := List.append_inj' heq rfl
    rw [List.singleton_inj] at hsame
    exact hsame ▸ hok
  · rw [List.concat_eq_append, ← List.cons_append, ← List.append_assoc] at heq
    exact h before e after (List.append_inj' heq rfl).1

theorem Admitted.of_append {later : List (Event Ans)} (h : Admitted ok (past ++ later)) :
    Admitted ok past := by
  intro before e after heq
  apply h before e (after ++ later)
  rw [heq, List.append_assoc, List.cons_append]

theorem Meets.admitted (h : Meets ok post past p) (hpast : Admitted ok past)
    (answers : List (Event Ans) → (op : Op) → Ans op) : Admitted ok (p.run answers past).1 := by
  induction p generalizing past with
  | done result => exact hpast
  | ask op next ih => exact ih _ (h.2 _) (hpast.concat h.1 _)

/-- Every operation of a past was answered by the environment. -/
def Answered (answers : List (Event Ans) → (op : Op) → Ans op) (past : List (Event Ans)) : Prop :=
  ∀ before e after, past = before ++ e :: after → e.answer = answers before e.op

theorem Answered.concat {answers : List (Event Ans) → (op : Op) → Ans op}
    (h : Answered answers past) (op : Op) : Answered answers (past ++ [⟨op, answers past op⟩]) := by
  intro before e after heq
  rcases List.eq_nil_or_concat after with rfl | ⟨after, last, rfl⟩
  · obtain ⟨rfl, hsame⟩ := List.append_inj' heq rfl
    rw [List.singleton_inj] at hsame
    rw [← hsame]
  · rw [List.concat_eq_append, ← List.cons_append, ← List.append_assoc] at heq
    exact h before e after (List.append_inj' heq rfl).1

theorem answered_run {answers : List (Event Ans) → (op : Op) → Ans op} (h : Answered answers past)
    (p : Program Ans ε α) : Answered answers (p.run answers past).1 := by
  induction p generalizing past with
  | done result => exact h
  | ask op next ih => exact ih _ (h.concat op)

theorem answered_nil (answers : List (Event Ans) → (op : Op) → Ans op) : Answered answers [] := by
  intro before e after h
  cases before <;> cases h

/-! ### One answer for each operation -/

/-- The result when an operation is always answered alike. -/
def eval (answer : (op : Op) → Ans op) : Program Ans ε α → Except ε α
  | done result => result
  | ask op next => (next (answer op)).eval answer

theorem run_snd_eq_eval (answer : (op : Op) → Ans op) (past : List (Event Ans))
    (p : Program Ans ε α) :
    (p.run (fun _ => answer) past).2 = p.eval answer := by
  induction p generalizing past with
  | done result => rfl
  | ask op next ih => exact ih _ _

theorem eval_bind (answer : (op : Op) → Ans op) (p : Program Ans ε α) (f : α → Program Ans ε β) :
    (p >>= f).eval answer = p.eval answer >>= fun a => (f a).eval answer := by
  change (p.bind f).eval answer = _
  induction p with
  | done result =>
      cases result with
      | ok a => rfl
      | error e => rfl
  | ask op next ih => exact ih _

theorem eval_tryCatch (answer : (op : Op) → Ans op) (p : Program Ans ε α)
    (f : ε → Program Ans ε α) :
    (tryCatch p f).eval answer = tryCatch (p.eval answer) fun e => (f e).eval answer := by
  change (p.handle f).eval answer = _
  induction p with
  | done result =>
      cases result with
      | ok a => rfl
      | error e => rfl
  | ask op next ih => exact ih _

/-! ### Complete runs -/

/-- Every complete run adds a trace and returns a value, and `T` relates the two. -/
def Yields (p : Program Ans ε α) (T : List (Event Ans) → α → Prop) : Prop :=
  ∀ past, Meets (fun _ _ => True)
    (fun past' result => ∃ trace a, past' = past ++ trace ∧ result = .ok a ∧ T trace a) past p

theorem Yields.mono {T T' : List (Event Ans) → α → Prop} (h : Yields p T)
    (himp : ∀ trace a, T trace a → T' trace a) : Yields p T' := by
  intro past
  apply (h past).mono
  rintro past' result ⟨trace, a, hpast, hresult, htrace⟩
  exact ⟨trace, a, hpast, hresult, himp trace a htrace⟩

theorem yields_pure {T : List (Event Ans) → α → Prop} {a : α} (h : T [] a) :
    Yields (pure a : Program Ans ε α) T :=
  fun past => ⟨[], a, (List.append_nil past).symm, rfl, h⟩

theorem yields_ask (op : Op) :
    Yields (ask op fun answer => done (.ok answer) : Program Ans ε (Ans op))
      fun trace answer => trace = [⟨op, answer⟩] :=
  fun _ => ⟨trivial, fun answer => ⟨_, answer, rfl, rfl, rfl⟩⟩

theorem Yields.bind {T : List (Event Ans) → α → Prop} {U : List (Event Ans) → β → Prop}
    {f : α → Program Ans ε β} (h : Yields p T)
    (hf : ∀ trace a, T trace a → Yields (f a) fun trace' b => U (trace ++ trace') b) :
    Yields (p >>= f) U := by
  intro past
  apply meets_bind
  apply (h past).mono
  rintro past' result ⟨trace, a, rfl, rfl, htrace⟩
  apply (hf trace a htrace (past ++ trace)).mono
  rintro past'' result ⟨trace', b, rfl, rfl, htrace'⟩
  exact ⟨trace ++ trace', b, List.append_assoc past trace trace', rfl, htrace'⟩

theorem Yields.mapError {ε' : Type} {T : List (Event Ans) → α → Prop} (h : Yields p T)
    (f : ε → ε') : Yields (p.mapError f) T := by
  intro past
  apply meets_mapError
  apply (h past).mono
  rintro past' result ⟨trace, a, rfl, rfl, htrace⟩
  exact ⟨trace, a, rfl, rfl, htrace⟩

theorem Yields.run {T : List (Event Ans) → α → Prop} (h : Yields p T)
    (answers : List (Event Ans) → (op : Op) → Ans op) (past : List (Event Ans)) :
    ∃ trace a, p.run answers past = (past ++ trace, .ok a) ∧ T trace a := by
  obtain ⟨trace, a, hpast, hresult, htrace⟩ := (h past).run answers
  exact ⟨trace, a, Prod.ext hpast hresult, htrace⟩

/-! ### Budgets -/

/-- At most `n` operations of a kind, whatever the answers are. -/
def AsksAtMost (kind : Op → Bool) : ℕ → Program Ans ε α → Prop
  | _, done _ => True
  | n, ask op next =>
      ∀ answer, ∃ m, m + (if kind op then 1 else 0) ≤ n ∧ AsksAtMost kind m (next answer)

variable {kind : Op → Bool} {m n : ℕ}

theorem AsksAtMost.mono (h : AsksAtMost kind m p) (hle : m ≤ n) : AsksAtMost kind n p := by
  cases p with
  | done result => trivial
  | ask op next =>
      intro answer
      obtain ⟨k, hk, hnext⟩ := h answer
      exact ⟨k, Nat.le_trans hk hle, hnext⟩

theorem AsksAtMost.bind {f : α → Program Ans ε β} (h : AsksAtMost kind m p)
    (hf : ∀ a, AsksAtMost kind n (f a)) :
    AsksAtMost kind (m + n) (p >>= f) := by
  change AsksAtMost kind (m + n) (p.bind f)
  induction p generalizing m with
  | done result =>
      cases result with
      | ok a => exact (hf a).mono (Nat.le_add_left n m)
      | error e => trivial
  | ask op next ih =>
      intro answer
      obtain ⟨k, hk, hnext⟩ := h answer
      exact ⟨k + n, by omega, ih answer hnext⟩

theorem AsksAtMost.tryCatch {f : ε → Program Ans ε α} (h : AsksAtMost kind m p)
    (hf : ∀ e, AsksAtMost kind n (f e)) : AsksAtMost kind (m + n) (tryCatch p f) := by
  change AsksAtMost kind (m + n) (p.handle f)
  induction p generalizing m with
  | done result =>
      cases result with
      | ok a => trivial
      | error e => exact (hf e).mono (Nat.le_add_left n m)
  | ask op next ih =>
      intro answer
      obtain ⟨k, hk, hnext⟩ := h answer
      exact ⟨k + n, by omega, ih answer hnext⟩

/-- What is left of a budget that a past has drawn on. -/
def Within (kind : Op → Bool) (n : ℕ) (past : List (Event Ans)) (p : Program Ans ε α) : Prop :=
  ∃ m, m + past.countP (fun e => kind e.op) ≤ n ∧ AsksAtMost kind m p

theorem within_nil (h : AsksAtMost kind n p) : Within kind n [] p := ⟨n, by simp, h⟩

theorem Within.ask {op : Op} {next : Ans op → Program Ans ε α}
    (h : Within kind n past (ask op next)) (answer : Ans op) :
    Within kind n (past ++ [⟨op, answer⟩]) (next answer) := by
  obtain ⟨m, hm, hasks⟩ := h
  obtain ⟨k, hk, hnext⟩ := hasks answer
  refine ⟨k, ?_, hnext⟩
  rw [List.countP_append, List.countP_singleton]
  dsimp only
  omega

/-- Within a budget of one, all the operations of the kind are one event. -/
theorem Within.unique (h : Within kind 1 past p) {e e' : Event Ans}
    (he : e ∈ past) (he' : e' ∈ past) (hkind : kind e.op = true) (hkind' : kind e'.op = true) :
    e = e' := by
  obtain ⟨m, hm, -⟩ := h
  have hlength : (past.filter fun e => kind e.op).length ≤ 1 := by
    rw [← List.countP_eq_length_filter]
    omega
  have hmem : e ∈ past.filter fun e => kind e.op := List.mem_filter.mpr ⟨he, hkind⟩
  have hmem' : e' ∈ past.filter fun e => kind e.op := List.mem_filter.mpr ⟨he', hkind'⟩
  match hfilter : past.filter fun e => kind e.op with
  | [] => simp [hfilter] at hmem
  | [first] =>
      rw [hfilter, List.mem_singleton] at hmem hmem'
      rw [hmem, hmem']
  | first :: second :: rest => simp [hfilter] at hlength

end Program

end Interaction

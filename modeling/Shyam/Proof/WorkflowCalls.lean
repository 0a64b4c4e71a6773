import Shyam.Proof.WorkflowShape

/-!
# The calls of an uncancelled run

With a token that nobody cancels, a run is what `consultAll` says: it asks the collaborators step by
step until one of them fails. Their answers depend on the calls alone; the publications, the
readings of the token and the drawing of ids are not calls. A program is described by the calls that
it makes and by its end, and so are its parts.
-/

namespace Shyam

open Python Interaction Program

namespace WorkflowEngine

/-- The calls to the navigator, the executor registry and the executors. -/
def calls (past : Past) : Past := past.filter fun e => e.op.isCall

/-- Collaborators that see the calls so far, a token that nobody cancels, and some supply of ids. -/
def uncancelled (collaborators : Past → (op : Op) → Answer op) (past : Past) : (op : Op) → Answer op
  | .isCancelled => false
  | .reason => ""
  | .publish _ => ()
  | .uuid4 => collaborators past .uuid4
  | .navigate request => collaborators (calls past) (.navigate request)
  | .getExecutor providerId => collaborators (calls past) (.getExecutor providerId)
  | .execute target inputData => collaborators (calls past) (.execute target inputData)

variable (collaborators : Past → (op : Op) → Answer op)

/-- The run of `p` after `past` makes these calls and ends so. -/
def Performs {ε α : Type} (past : Past) (p : Program Answer ε α) (made : Past)
    (result : Except ε α) : Prop :=
  ∃ trace, p.run (uncancelled collaborators) past = (past ++ trace, result) ∧ calls trace = made

/-! ### What the steps come to -/

def consultExecutor (made : Past) (step : WorkflowStep) (target : NavigationCandidate) :
    Past × StepResult :=
  match collaborators made (.getExecutor target.providerId) with
  | false =>
      ([⟨.getExecutor target.providerId, false⟩],
        failure step (some target)
          ("No executor available for provider '" ++ target.providerId ++ "'"))
  | true =>
      let made' := made ++ [⟨.getExecutor target.providerId, true⟩]
      let outcome := collaborators made' (.execute target step.inputData)
      ([⟨.getExecutor target.providerId, true⟩, ⟨.execute target step.inputData, outcome⟩],
        match outcome with
        | .ok output => success step target output
        | .error exc => failure step (some target) exc.text)

/-- The calls of one step, after the calls `made`, and its result. -/
def consult (made : Past) (step : WorkflowStep) : Past × StepResult :=
  let resolved := collaborators made (.navigate (request step))
  let call : Event Answer := ⟨.navigate (request step), resolved⟩
  match resolved with
  | .error exc => ([call], failure step none ("Navigator invocation error: " ++ exc.text))
  | .ok navResult =>
      match navResult.selected with
      | none => ([call], failure step none (noSelectionText navResult.reason))
      | some target =>
          let (later, result) := consultExecutor collaborators (made ++ [call]) step target
          (call :: later, result)

/-- Step by step, up to the first failure. -/
def consultAll (made : Past) : List WorkflowStep → Past × List StepResult
  | [] => ([], [])
  | step :: rest =>
      let (now, result) := consult collaborators made step
      if result.isSuccess then
        let (later, results) := consultAll (made ++ now) rest
        (now ++ later, result :: results)
      else (now, [result])

/-! ### Performing -/

variable {collaborators} {ε α β : Type} {past made made' : Past} {p : Program Answer ε α} {a : α}

theorem calls_append (past past' : Past) : calls (past ++ past') = calls past ++ calls past' :=
  List.filter_append past past'

theorem performs_done (result : Except ε α) :
    Performs collaborators past (done result : Program Answer ε α) [] result :=
  ⟨[], by rw [List.append_nil]; rfl, rfl⟩

theorem performs_pure (a : α) :
    Performs collaborators past (pure a : Program Answer ε α) [] (.ok a) :=
  ⟨[], by rw [List.append_nil]; rfl, rfl⟩

theorem Performs.bind {f : α → Program Answer ε β} {result : Except ε β}
    (h : Performs collaborators past p made (.ok a))
    (hf : ∀ past', calls past' = calls past ++ made →
      Performs collaborators past' (f a) made' result) :
    Performs collaborators past (p >>= f) (made ++ made') result := by
  obtain ⟨trace, hrun, rfl⟩ := h
  obtain ⟨trace', hrun', rfl⟩ := hf (past ++ trace) (calls_append past trace)
  refine ⟨trace ++ trace', ?_, calls_append trace trace'⟩
  rw [run_bind_of_ok hrun, hrun', List.append_assoc]

theorem Performs.mapError {ε' : Type} {f : ε → ε'}
    (h : Performs collaborators past p made (.ok a)) :
    Performs collaborators past (p.mapError f) made (.ok a) := by
  obtain ⟨trace, hrun, hmade⟩ := h
  refine ⟨trace, ?_, hmade⟩
  rw [run_mapError, hrun]
  rfl

theorem performs_quiet {op : Op} (h : op.isCall = false) :
    Performs collaborators past (perform op : Program Answer ε (Answer op)) []
      (.ok (uncancelled collaborators past op)) := by
  refine ⟨[⟨op, uncancelled collaborators past op⟩], rfl, ?_⟩
  rw [calls, List.filter_cons_of_neg (by simp [h]), List.filter_nil]

theorem performs_call {op : Op} {answer : Answer op} (h : op.isCall = true)
    (hanswer : collaborators (calls past) op = answer) :
    Performs collaborators past (perform op : Program Answer ε (Answer op)) [⟨op, answer⟩]
      (.ok answer) := by
  have hsame : uncancelled collaborators past op = collaborators (calls past) op := by
    cases op with
    | navigate request => rfl
    | getExecutor providerId => rfl
    | execute target inputData => rfl
    | _ => cases h
  refine ⟨[⟨op, answer⟩], ?_, by simp [calls, h]⟩
  rw [← hanswer, ← hsame]
  rfl

theorem Performs.bind_quiet {f : α → Program Answer ε β} {result : Except ε β}
    (h : Performs collaborators past p [] (.ok a))
    (hf : ∀ past', calls past' = calls past → Performs collaborators past' (f a) made result) :
    Performs collaborators past (p >>= f) made result := by
  rw [← List.nil_append made]
  exact h.bind fun past' hpast' => hf past' (by rw [hpast', List.append_nil])

theorem Performs.bind_exists {γ : Type} {f : α → Program Answer ε β} {g : γ → Except ε β}
    {P : γ → Prop} (h : Performs collaborators past p made (.ok a))
    (hf : ∀ past', calls past' = calls past ++ made →
      ∃ c, Performs collaborators past' (f a) made' (g c) ∧ P c) :
    ∃ c, Performs collaborators past (p >>= f) (made ++ made') (g c) ∧ P c := by
  obtain ⟨trace, hrun, rfl⟩ := h
  obtain ⟨c, ⟨trace', hrun', rfl⟩, hc⟩ := hf (past ++ trace) (calls_append past trace)
  refine ⟨c, ⟨trace ++ trace', ?_, calls_append trace trace'⟩, hc⟩
  rw [run_bind_of_ok hrun, hrun', List.append_assoc]

theorem Performs.bind_exists_quiet {γ : Type} {f : α → Program Answer ε β} {g : γ → Except ε β}
    {P : γ → Prop} (h : Performs collaborators past p [] (.ok a))
    (hf : ∀ past', calls past' = calls past →
      ∃ c, Performs collaborators past' (f a) made (g c) ∧ P c) :
    ∃ c, Performs collaborators past (p >>= f) made (g c) ∧ P c := by
  rw [← List.nil_append made]
  exact h.bind_exists fun past' hpast' => hf past' (by rw [hpast', List.append_nil])

theorem Performs.bind_last {f : α → Program Answer ε β} {result : Except ε β}
    (h : Performs collaborators past p made (.ok a))
    (hf : ∀ past', Performs collaborators past' (f a) [] result) :
    Performs collaborators past (p >>= f) made result := by
  rw [← List.append_nil made]
  exact h.bind fun past' _ => hf past'

/-! ### One step -/

variable {workflow : Workflow} {step : WorkflowStep}

theorem performs_publish (kind : WorkflowEvent.Kind) :
    Performs collaborators past (publish workflow kind) [] (.ok ()) := performs_quiet rfl

theorem performs_failStep (target : Option NavigationCandidate) (error : String) :
    Performs collaborators past (failStep workflow step target error) []
      (.ok (failure step target error)) :=
  (performs_publish _).bind_quiet fun _ _ => performs_pure _

theorem performs_dispatch (target : NavigationCandidate) (hmade : calls past = made) :
    Performs collaborators past (dispatch workflow step target)
      (consultExecutor collaborators made step target).1
      (.ok (consultExecutor collaborators made step target).2) := by
  subst hmade
  rw [consultExecutor]
  cases hregistered : collaborators (calls past) (.getExecutor target.providerId) with
  | false => exact (performs_call rfl hregistered).bind_last fun _ => performs_failStep _ _
  | true =>
      dsimp only
      cases houtcome : collaborators (calls past ++ [⟨.getExecutor target.providerId, true⟩])
          (.execute target step.inputData) with
      | error exc =>
          apply (performs_call rfl hregistered).bind
          intro past' hpast'
          rw [← hpast'] at houtcome
          exact (performs_call rfl houtcome).bind_last fun _ => performs_failStep _ _
      | ok output =>
          apply (performs_call rfl hregistered).bind
          intro past' hpast'
          rw [← hpast'] at houtcome
          apply (performs_call rfl houtcome).bind_last
          exact fun _ => (performs_publish _).bind_quiet fun _ _ => performs_pure _

theorem performs_executeStep (hmade : calls past = made) :
    Performs collaborators past (executeStep workflow step) (consult collaborators made step).1
      (.ok (consult collaborators made step).2) := by
  subst hmade
  apply (performs_publish _).bind_quiet
  intro past' hpast'
  rw [make_request, consult]
  cases hresolved : collaborators (calls past) (.navigate (request step)) with
  | error exc =>
      rw [← hpast'] at hresolved
      exact (performs_call rfl hresolved).bind_last fun _ => performs_failStep _ _
  | ok navResult =>
      have hresolved' := hresolved
      rw [← hpast'] at hresolved'
      dsimp only
      cases hselected : navResult.selected with
      | none =>
          apply (performs_call rfl hresolved').bind_last
          intro past''
          dsimp only
          rw [hselected]
          exact performs_failStep _ _
      | some target =>
          apply (performs_call rfl hresolved').bind
          intro past'' hpast''
          dsimp only
          rw [hselected]
          exact performs_dispatch target (hpast''.trans (by rw [hpast']))

/-! ### The flat workflow -/

/-- The results up to the first failure. -/
def upToFailure : List StepResult → List StepResult
  | [] => []
  | result :: rest => if result.isSuccess then result :: upToFailure rest else [result]

/-- A loop that has come to `results`, and after a failure has added what it skips. -/
structure Comes (p : Progress) (results : List StepResult) (p' : Progress) : Prop where
  cancelled : p'.workflowCancelled = false
  failed : p'.workflowFailed = !results.all StepResult.isSuccess
  stepResults : ∃ skipped, p'.stepResults = p.stepResults ++ (results ++ skipped)
    ∧ upToFailure (results ++ skipped) = results

theorem performs_tokenRead :
    Performs collaborators past (perform .isCancelled : Program Answer ε Bool)
    [] (.ok false) := performs_quiet rfl

theorem performs_skip (steps : List WorkflowStep) (p : Progress) (hfailed : p.workflowFailed = true)
    (hcancelled : p.workflowCancelled = false) :
    ∃ p', Performs collaborators past (runSteps workflow steps p) [] (.ok p')
      ∧ p'.workflowFailed = true ∧ p'.workflowCancelled = false
      ∧ ∃ skipped, p'.stepResults = p.stepResults ++ skipped := by
  induction steps generalizing p past with
  | nil => exact ⟨p, performs_pure _, hfailed, hcancelled, [], (List.append_nil _).symm⟩
  | cons step rest ih =>
      apply performs_tokenRead.bind_exists_quiet
      intro past' _
      rw [if_neg (by simp), if_pos hfailed]
      apply (performs_publish _).bind_exists_quiet
      intro past'' _
      obtain ⟨p', hperforms, hfailed', hcancelled', skipped, hresults⟩ :=
        ih (p.add (skippedResult step)) hfailed hcancelled
      refine ⟨p', hperforms, hfailed', hcancelled', skippedResult step :: skipped, ?_⟩
      rw [hresults, Progress.add, List.append_assoc, List.singleton_append]

theorem performs_runSteps (steps : List WorkflowStep) (p : Progress)
    (hfailed : p.workflowFailed = false) (hcancelled : p.workflowCancelled = false)
    (hmade : calls past = made) :
    ∃ p', Performs collaborators past (runSteps workflow steps p)
        (consultAll collaborators made steps).1 (.ok p')
      ∧ Comes p (consultAll collaborators made steps).2 p' := by
  induction steps generalizing p past made with
  | nil => exact ⟨p, performs_pure _, hcancelled, hfailed, [], (List.append_nil _).symm, rfl⟩
  | cons step rest ih =>
      rw [consultAll]
      apply performs_tokenRead.bind_exists_quiet
      intro past' hpast'
      rw [if_neg (by simp), if_neg (by simp [hfailed])]
      have hstep : Performs collaborators past' (executeStep workflow step) _ _ :=
        performs_executeStep (hpast'.trans hmade)
      generalize consult collaborators made step = outcome at hstep ⊢
      obtain ⟨now, result⟩ := outcome
      dsimp only at hstep ⊢
      cases hsuccess : result.isSuccess with
      | true =>
          rw [if_pos rfl]
          apply hstep.bind_exists
          intro past'' hpast''
          rw [if_pos hsuccess]
          have hnow : calls past'' = made ++ now := by rw [hpast'', hpast', hmade]
          obtain ⟨p', hperforms, hcomes⟩ := ih (p.add result) hfailed hcancelled hnow
          obtain ⟨skipped, hresults, hupTo⟩ := hcomes.stepResults
          refine ⟨p', hperforms, hcomes.cancelled, ?_, skipped, ?_, ?_⟩
          · rw [hcomes.failed, List.all_cons, hsuccess, Bool.true_and]
          · rw [hresults, Progress.add, List.append_assoc, List.singleton_append, List.cons_append]
          · rw [List.cons_append, upToFailure, if_pos hsuccess, hupTo]
      | false =>
          rw [if_neg (by simp), ← List.append_nil now]
          apply hstep.bind_exists
          intro past₁ _
          rw [if_neg (by simp [hsuccess])]
          apply (performs_publish _).bind_exists_quiet
          intro past₂ _
          obtain ⟨p', hperforms, hfailed', hcancelled', skipped, hresults⟩ := performs_skip rest
            { p.add result with
              workflowFailed := true
              workflowError := some (failureText step result) } rfl hcancelled
          refine ⟨p', hperforms, hcancelled', ?_, skipped, ?_, ?_⟩
          · rw [hfailed', List.all_cons, hsuccess]
            rfl
          · rw [hresults, Progress.add, List.append_assoc]
          · rw [List.singleton_append, upToFailure, if_neg (by simp [hsuccess])]

theorem performs_conclude (p : Progress) (hcancelled : p.workflowCancelled = false) :
    Performs collaborators past (conclude workflow p) []
      (.ok (makeResult workflow (if p.workflowFailed then .failed else .completed) p.stepResults
        p.workflowError)) := by
  rw [conclude, if_neg (by simp [hcancelled])]
  split_ifs
  · exact performs_pure _
  · exact (performs_publish _).bind_quiet fun _ _ => performs_pure _

/-- **The flat run.** It makes the calls of `consultAll` and comes to its results. -/
theorem performs_run (collaborators : Past → (op : Op) → Answer op) (workflow : Workflow)
    (hmade : calls past = made) :
    ∃ result, Performs collaborators past (run workflow)
        (consultAll collaborators made workflow.steps).1 (.ok result)
      ∧ upToFailure result.stepResults = (consultAll collaborators made workflow.steps).2
      ∧ result.state = if (consultAll collaborators made workflow.steps).2.all StepResult.isSuccess
          then .completed else .failed := by
  rw [run]
  by_cases hempty : workflow.steps.isEmpty = true
  · rw [if_pos hempty]
    rw [List.isEmpty_iff] at hempty
    rw [hempty]
    refine ⟨makeResult workflow .completed [] none, ?_, rfl, rfl⟩
    apply (performs_publish _).bind_quiet
    exact fun _ _ => (performs_publish _).bind_quiet fun _ _ => performs_pure _
  · rw [if_neg hempty]
    apply performs_tokenRead.bind_exists_quiet
    intro past₁ hpast₁
    rw [if_neg (by simp)]
    apply (performs_pure ()).bind_exists_quiet
    intro past₂ hpast₂
    apply (performs_publish _).bind_exists_quiet
    intro past₃ hpast₃
    have hpast : calls past₃ = made := by rw [hpast₃, hpast₂, hpast₁, hmade]
    obtain ⟨p, hperforms, hcomes⟩ := performs_runSteps workflow.steps {} rfl rfl hpast
    obtain ⟨skipped, hresults, hupTo⟩ := hcomes.stepResults
    refine ⟨_, hperforms.bind_last fun _ => performs_conclude p hcomes.cancelled, ?_, ?_⟩
    · rw [makeResult, hresults]
      exact hupTo
    · rw [makeResult, hcomes.failed]
      cases (consultAll collaborators made workflow.steps).2.all StepResult.isSuccess <;> rfl

end WorkflowEngine

end Shyam

import Shyam.Lib.Run
import Shyam.Proof.WorkflowShape

/-!
# Terminal events

The failure of a step is announced in the loop, a completion and a cancellation after it. So a
failure with steps left is followed by the events of the steps that it skips, and a cancellation
found after it is announced as well and takes its place in the result. The law of one terminal event
holds of the runs in which no step before the last one fails, and no executor fails without a text.
-/

namespace Shyam

open Python Interaction Program Transition

namespace WorkflowEngine

def kinds (past : Past) : List WorkflowEvent.Kind :=
  past.filterMap fun e => match e.op with
    | .publish event => some event.kind
    | _ => none

/-- One terminal event, which announces the state, and no event of a step after it. -/
def EndsOnce (events : List WorkflowEvent.Kind) (state : WorkflowState) : Prop :=
  ∃ before event after, events = before ++ event :: after ∧ event.terminal = some state
    ∧ (∀ other ∈ before ++ after, other.terminal = none) ∧ ∀ other ∈ after, other.isStep = false

/-- Once a step has failed, the run has failed, with the error of that step. -/
def KeepsCauses (result : WorkflowResult) : Prop :=
  ∀ r ∈ result.stepResults, r.state = .failed →
    result.state = .failed ∧ result.errorDetail = r.error

/-- The answers that make a step fail. -/
def refuses : Event Answer → Bool
  | ⟨.navigate _, .error _⟩ => true
  | ⟨.navigate _, .ok navResult⟩ => navResult.selected.isNone
  | ⟨.getExecutor _, registered⟩ => !registered
  | ⟨.execute _ _, .error _⟩ => true
  | _ => false

/-- The executor raises an exception without a text. -/
def mute : Event Answer → Bool
  | ⟨.execute _ _, .error exc⟩ => exc.text = ""
  | _ => false

/-- A step fails only when it is the last one, and not without a text. -/
def Late (last current : Option String) (e : Event Answer) : Prop :=
  refuses e = true → current = last ∧ mute e = false

variable {workflow : Workflow} {step : WorkflowStep} {steps : List WorkflowStep} {trace : Past}
  {result : StepResult} {results : List StepResult} {ending : Ending} {last current : Option String}

/-! ### Up to the first failure -/

/-- Steps that succeed, one after the other. -/
inductive Succeeds (workflow : Workflow) : List WorkflowStep → Past → List StepResult → Prop
  | nil : Succeeds workflow [] [] []
  | cons {step : WorkflowStep} {rest : List WorkflowStep} {trace trace' : Past}
      {result : StepResult} {results : List StepResult}
      (hstep : StepTrace workflow step trace result)
      (hsuccess : result.isSuccess = true) (h : Succeeds workflow rest trace' results) :
      Succeeds workflow (step :: rest) (tokenRead false :: (trace ++ trace')) (result :: results)

/-- What ends a row of successes. -/
inductive Stops (workflow : Workflow) :
    List WorkflowStep → Past → List StepResult → Ending → Prop
  | completed : Stops workflow [] [] [] .completed
  | cancelled {step : WorkflowStep} {rest : List WorkflowStep} {trace : Past}
      {results : List StepResult} (reason : String)
      (h : CancelTrace workflow (step :: rest) trace results) :
      Stops workflow (step :: rest) (tokenRead true :: reasonRead reason :: trace) results
        (.cancelled false reason)
  | failed {step : WorkflowStep} {rest : List WorkflowStep} {trace trace' : Past}
      {result : StepResult} {results : List StepResult} {ending : Ending}
      (hstep : StepTrace workflow step trace result) (hfailure : result.isSuccess = false)
      (h : LoopTrace workflow (some (failureText step result)) rest trace' results ending) :
      Stops workflow (step :: rest)
        (tokenRead false :: (trace
          ++ published workflow (.failed step.stepId (failureText step result)) :: trace'))
        (result :: results) ending

theorem LoopTrace.stops {failure : Option String}
    (h : LoopTrace workflow failure steps trace results ending) (hfailure : failure = none) :
    ∃ done rest before after results₁ results₂, steps = done ++ rest ∧ trace = before ++ after
      ∧ results = results₁ ++ results₂ ∧ Succeeds workflow done before results₁
      ∧ Stops workflow rest after results₂ ending := by
  induction h with
  | completed => exact ⟨[], _, [], _, [], _, rfl, rfl, rfl, .nil, .completed⟩
  | failed error => cases hfailure
  | cancel reason h =>
      cases hfailure
      exact ⟨[], _, [], _, [], _, rfl, rfl, rfl, .nil, .cancelled reason h⟩
  | skip h ih => cases hfailure
  | succeed hstep hsuccess h ih =>
      obtain ⟨done, rest, before, after, results₁, results₂, rfl, rfl, rfl, hdone, hstops⟩ := ih rfl
      refine ⟨_ :: done, rest, _, after, _ :: results₁, results₂, rfl, ?_, rfl,
        .cons hstep hsuccess hdone, hstops⟩
      rw [List.cons_append, List.append_assoc]
  | fail hstep hfailed h ih =>
      exact ⟨[], _, [], _, [], _, rfl, rfl, rfl, .nil, .failed hstep hfailed h⟩

theorem Succeeds.length_eq (h : Succeeds workflow steps trace results) :
    steps.length = results.length := by
  induction h with
  | nil => rfl
  | cons hstep hsuccess h ih => rw [List.length_cons, List.length_cons, ih]

/-- What ends a row of successes has no success any more. -/
theorem Stops.not_completed (h : Stops workflow steps trace results ending) :
    ∀ r ∈ results, r.state ≠ .completed := by
  cases h with
  | completed => simp
  | cancelled reason h =>
      intro r hr hcompleted
      have hstate := List.mem_map_of_mem (f := StepResult.state) hr
      rw [h.cancels.states] at hstate
      rw [List.eq_of_mem_replicate hstate] at hcompleted
      cases hcompleted
  | failed hstep hfailure h =>
      rw [List.forall_mem_cons]
      constructor
      · rw [hstep.failed hfailure]
        simp
      · obtain ⟨b, c, hstates⟩ := h.tail rfl
        intro r hr hcompleted
        have hstate := List.mem_map_of_mem (f := StepResult.state) hr
        rw [hstates, List.mem_append] at hstate
        rcases hstate with hstate | hstate
        · rw [List.eq_of_mem_replicate hstate] at hcompleted
          cases hcompleted
        · rw [List.eq_of_mem_replicate hstate] at hcompleted
          cases hcompleted

/-! ### The events of each part -/

theorem kinds_append (past past' : Past) : kinds (past ++ past') = kinds past ++ kinds past' :=
  List.filterMap_append

@[simp] theorem kinds_tokenRead (cancelled : Bool) :
    kinds (tokenRead cancelled :: trace) = kinds trace := rfl

@[simp] theorem kinds_reasonRead (reason : String) :
    kinds (reasonRead reason :: trace) = kinds trace := rfl

@[simp] theorem kinds_published (kind : WorkflowEvent.Kind) :
    kinds (published workflow kind :: trace) = kind :: kinds trace := rfl

theorem StepTrace.kinds (h : StepTrace workflow step trace result) :
    ∃ verdict, kinds trace = [.stepStarted step.stepId step.capability none, verdict]
      ∧ verdict.terminal = none := by
  obtain @⟨calls, _, verdict, hcalls, hverdict⟩ := h
  refine ⟨verdict, ?_, by cases hverdict <;> rfl⟩
  cases hcalls <;> rfl

theorem StepTrace.not_terminal (h : StepTrace workflow step trace result) :
    ∀ kind ∈ WorkflowEngine.kinds trace, kind.terminal = none := by
  obtain ⟨verdict, hkinds, hverdict⟩ := h.kinds
  rw [hkinds, List.forall_mem_cons, List.forall_mem_singleton]
  exact ⟨rfl, hverdict⟩

theorem CancelTrace.not_terminal (h : CancelTrace workflow steps trace results) :
    ∀ kind ∈ kinds trace, kind.terminal = none := by
  induction h with
  | nil => simp [WorkflowEngine.kinds]
  | cons error reason h ih =>
      rw [kinds_reasonRead, kinds_reasonRead, kinds_published, List.forall_mem_cons]
      exact ⟨rfl, ih⟩

theorem Succeeds.not_terminal (h : Succeeds workflow steps trace results) :
    ∀ kind ∈ kinds trace, kind.terminal = none := by
  induction h with
  | nil => simp [WorkflowEngine.kinds]
  | cons hstep hsuccess h ih =>
      rw [kinds_tokenRead, kinds_append, List.forall_mem_append]
      exact ⟨hstep.not_terminal, ih⟩

theorem LoopTrace.exists_isStep {error : String} {rest : List WorkflowStep}
    (h : LoopTrace workflow (some error) (step :: rest) trace results ending) :
    ∃ kind ∈ kinds trace, kind.isStep = true := by
  cases h with
  | cancel reason h =>
      cases h with
      | cons error reason h => exact ⟨_, List.mem_cons_self, rfl⟩
  | skip h => exact ⟨_, List.mem_cons_self, rfl⟩

theorem append_cons_inj_of_terminal {before before' after after' : List WorkflowEvent.Kind}
    {event event' : WorkflowEvent.Kind} (hbefore : ∀ kind ∈ before, kind.terminal = none)
    (hbefore' : ∀ kind ∈ before', kind.terminal = none) (hevent : event.terminal ≠ none)
    (hevent' : event'.terminal ≠ none)
    (h : before ++ event :: after = before' ++ event' :: after') : after = after' := by
  have hdrop := congrArg (List.dropWhile fun kind => kind.terminal.isNone) h
  rw [List.dropWhile_append_of_pos, List.dropWhile_append_of_pos, List.dropWhile_cons_of_neg,
    List.dropWhile_cons_of_neg] at hdrop
  · exact (List.cons.inj hdrop).2
  · rwa [Option.isNone_iff_eq_none]
  · rwa [Option.isNone_iff_eq_none]
  · exact fun kind hmem => Option.isNone_iff_eq_none.mpr (hbefore' kind hmem)
  · exact fun kind hmem => Option.isNone_iff_eq_none.mpr (hbefore kind hmem)

theorem not_endsOnce {before after : List WorkflowEvent.Kind} {event other : WorkflowEvent.Kind}
    (hbefore : ∀ kind ∈ before, kind.terminal = none) (hevent : event.terminal ≠ none)
    (hmem : other ∈ after) (hother : other.isStep = true) (state : WorkflowState) :
    ¬EndsOnce (before ++ event :: after) state := by
  rintro ⟨before', event', after', heq, hevent', hrest, hafter⟩
  rw [List.forall_mem_append] at hrest
  have hsame := append_cons_inj_of_terminal hbefore hrest.1 hevent (by simp [hevent']) heq
  have hstep := hafter other (hsame ▸ hmem)
  rw [hother] at hstep
  cases hstep

theorem endsOnce_concat {before : List WorkflowEvent.Kind} {event : WorkflowEvent.Kind}
    {state : WorkflowState} (hbefore : ∀ kind ∈ before, kind.terminal = none)
    (hevent : event.terminal = some state) : EndsOnce (before ++ [event]) state := by
  refine ⟨before, event, [], rfl, hevent, ?_, by simp⟩
  rwa [List.append_nil]

/-! ### The refusals of each part -/

theorem along_late_of_forall (h : ∀ e ∈ trace, refuses e = false) :
    Along currentStep (Late last) current trace := by
  apply along_of_forall
  intro e he current hrefuses
  rw [h e he] at hrefuses
  cases hrefuses

theorem StepTrace.not_refuses (h : StepTrace workflow step trace result)
    (hsuccess : result.isSuccess = true) : ∀ e ∈ trace, refuses e = false := by
  obtain ⟨hcalls, -⟩ := h
  cases hcalls with
  | completes navResult target output hselected => simp [published, refuses, hselected]
  | _ => cases hsuccess

theorem append_ne_empty {s t : String} (h : s ≠ "") : s ++ t ≠ "" := by
  rw [Ne, String.append_eq_empty_iff]
  exact fun hboth => h hboth.1

/-- A failing step has one refusal, in the step itself. -/
theorem StepTrace.along_late_iff (h : StepTrace workflow step trace result)
    (hfailure : result.isSuccess = false) :
    Along currentStep (Late last) current trace
      ↔ some step.stepId = last ∧ result.error ≠ some "" := by
  obtain @⟨calls, _, verdict, hcalls, hverdict⟩ := h
  cases hcalls with
  | navigatorRaises exc =>
      have htext : "Navigator invocation error: " ++ exc.text ≠ "" := append_ne_empty (by decide)
      simp [published, Late, refuses, mute, currentStep, failure, htext]
  | noSelection navResult hselected =>
      have htext : noSelectionText navResult.reason ≠ "" := append_ne_empty (by decide)
      simp [published, Late, refuses, mute, currentStep, failure, hselected, htext]
  | noExecutor navResult target hselected =>
      have htext : "No executor available for provider '" ++ target.providerId ++ "'" ≠ "" :=
        append_ne_empty (append_ne_empty (by decide))
      simp [published, Late, refuses, mute, currentStep, failure, hselected, htext]
  | executorRaises navResult target exc hselected =>
      simp [published, Late, refuses, mute, currentStep, failure, hselected]
  | completes navResult target output hselected => cases hfailure

theorem Succeeds.not_refuses (h : Succeeds workflow steps trace results) :
    ∀ e ∈ trace, refuses e = false := by
  induction h with
  | nil => simp
  | cons hstep hsuccess h ih =>
      rw [List.forall_mem_cons, List.forall_mem_append]
      exact ⟨rfl, hstep.not_refuses hsuccess, ih⟩

theorem refuses_eq_false {e : Event Answer} (h : e.op.isCall = false) : refuses e = false := by
  obtain ⟨op, answer⟩ := e
  cases op <;> first | rfl | cases h

theorem Succeeds.states (h : Succeeds workflow steps trace results) :
    ∀ r ∈ results, r.state ≠ .failed := by
  induction h with
  | nil => simp
  | cons hstep hsuccess h ih =>
      rw [List.forall_mem_cons, isSuccess_iff.mp hsuccess]
      exact ⟨by simp, ih⟩

theorem Cancels.not_failed (h : Cancels steps results) : ∀ r ∈ results, r.state ≠ .failed := by
  induction h with
  | nil => simp
  | cons hresult h ih =>
      obtain ⟨reason, rfl⟩ := hresult
      rw [List.forall_mem_cons]
      exact ⟨by simp [cancelledResult], ih⟩

/-! ### The run -/

/-- The law: one terminal event, at the end, and the cause of a failure in the result. -/
def Lawful (past : Past) (result : WorkflowResult) : Prop :=
  EndsOnce (kinds past) result.state ∧ KeepsCauses result

/-- The step before the end that may fail. -/
def lastStep (workflow : Workflow) : Option String :=
  workflow.steps.getLast?.map WorkflowStep.stepId

theorem keepsCauses_of_forall {state : WorkflowState} {error : Option String}
    (h : ∀ r ∈ results, r.state ≠ .failed) :
    KeepsCauses (makeResult workflow state results error) :=
  fun r hr hfailed => absurd hfailed (h r hr)

theorem lastStep_eq_iff {done rest : List WorkflowStep}
    (hsteps : workflow.steps = done ++ step :: rest) :
    some step.stepId = lastStep workflow ↔ rest = [] := by
  have hunique := workflow.steps_unique
  rw [hsteps, List.map_append, List.map_cons] at hunique
  have hfresh := (List.nodup_cons.mp hunique.of_append_right).1
  rw [lastStep, hsteps]
  rcases List.eq_nil_or_concat rest with rfl | ⟨rest, last, rfl⟩
  · simp
  · refine iff_of_false ?_ (by simp)
    rw [List.concat_eq_append, ← List.cons_append, ← List.append_assoc, List.getLast?_concat,
      Option.map_some, Option.some.injEq]
    intro heq
    rw [heq] at hfresh
    exact hfresh (List.mem_map_of_mem (by simp))

theorem failureText_eq_iff (hstep : StepTrace workflow step trace result)
    (hfailure : result.isSuccess = false) :
    some (failureText step result) = result.error ↔ result.error ≠ some "" := by
  obtain ⟨error, herror⟩ : ∃ error, result.error = some error := by
    obtain ⟨hcalls, -⟩ := hstep
    cases hcalls with
    | completes navResult target output hselected => cases hfailure
    | _ => exact ⟨_, rfl⟩
  have hstepText : "Step '" ++ step.stepId ++ "' failed" ≠ "" :=
    append_ne_empty (append_ne_empty (by decide))
  rw [failureText, herror]
  simp only [Option.some.injEq, ne_eq]
  split_ifs with hempty
  · rw [hempty]
    exact iff_of_false hstepText (by simp)
  · exact iff_of_true rfl hempty

/-- A failing run, whose trace up to the failing step neither ends the run nor refuses anything. -/
theorem lawful_iff_of_failed {opening loop closing : Past} {done rest : List WorkflowStep}
    {results₁ results₂ : List StepResult} {state : WorkflowState} {error : Option String}
    (hsteps : workflow.steps = done ++ step :: rest)
    (hopening : ∀ kind ∈ kinds opening, kind.terminal = none)
    (hrefuses : ∀ e ∈ opening, refuses e = false) (hdone : ∀ r ∈ results₁, r.state ≠ .failed)
    (hstep : StepTrace workflow step trace result) (hfailure : result.isSuccess = false)
    (hloop : LoopTrace workflow (some (failureText step result)) rest loop results₂ ending)
    (hends : Concludes workflow ending closing state error) :
    Lawful (opening ++ (trace ++ published workflow (.failed step.stepId (failureText step result))
        :: (loop ++ closing))) (makeResult workflow state (results₁ ++ result :: results₂) error)
      ↔ Along currentStep (Late (lastStep workflow)) none (opening ++ (trace
          ++ published workflow (.failed step.stepId (failureText step result))
          :: (loop ++ closing))) := by
  have hquiet : ∀ e ∈ published workflow (.failed step.stepId (failureText step result))
      :: (loop ++ closing), refuses e = false := by
    rw [List.forall_mem_cons, List.forall_mem_append]
    exact ⟨rfl, fun e he => refuses_eq_false (hloop.not_call rfl e he),
      fun e he => refuses_eq_false (hends.not_call e he)⟩
  have hbefore : ∀ kind ∈ kinds opening ++ kinds trace, kind.terminal = none :=
    List.forall_mem_append.mpr ⟨hopening, hstep.not_terminal⟩
  rw [along_append, along_append, and_iff_right (along_late_of_forall hrefuses),
    and_iff_left (along_late_of_forall hquiet), hstep.along_late_iff hfailure,
    lastStep_eq_iff hsteps, Lawful, kinds_append, kinds_append, kinds_published, kinds_append,
    ← List.append_assoc]
  constructor
  · rintro ⟨honce, hcauses⟩
    cases rest with
    | nil =>
        cases hloop
        cases hends
        have hcause := hcauses result (by simp [makeResult]) (hstep.failed hfailure)
        exact ⟨rfl, (failureText_eq_iff hstep hfailure).mp hcause.2⟩
    | cons next rest =>
        obtain ⟨kind, hmem, hkind⟩ := hloop.exists_isStep
        exact absurd honce (not_endsOnce hbefore (by simp [WorkflowEvent.Kind.terminal])
          (List.mem_append_left _ hmem) hkind _)
  · rintro ⟨rfl, herror⟩
    cases hloop
    cases hends
    refine ⟨endsOnce_concat hbefore rfl, ?_⟩
    intro r hr hfailed
    rw [makeResult, List.mem_append, List.mem_singleton] at hr
    obtain hr | rfl := hr
    · exact absurd hfailed (hdone r hr)
    · exact ⟨rfl, (failureText_eq_iff hstep hfailure).mpr herror⟩

theorem lawful_iff_of_forall {past : Past} {state : WorkflowState} {error : Option String}
    {before : List WorkflowEvent.Kind} {event : WorkflowEvent.Kind}
    (hkinds : kinds past = before ++ [event]) (hbefore : ∀ kind ∈ before, kind.terminal = none)
    (hevent : event.terminal = some state) (hresults : ∀ r ∈ results, r.state ≠ .failed)
    (hrefuses : ∀ e ∈ past, refuses e = false) :
    Lawful past (makeResult workflow state results error)
      ↔ Along currentStep (Late (lastStep workflow)) none past := by
  refine iff_of_true ⟨?_, keepsCauses_of_forall hresults⟩ (along_late_of_forall hrefuses)
  rw [hkinds]
  exact endsOnce_concat hbefore hevent

/-- A run that succeeds up to where `opening` ends. -/
theorem lawful_iff_of_stops {opening after closing : Past} {done rest : List WorkflowStep}
    {results₁ results₂ : List StepResult} {state : WorkflowState} {error : Option String}
    (hsteps : workflow.steps = done ++ rest)
    (hopening : ∀ kind ∈ kinds opening, kind.terminal = none)
    (hrefuses : ∀ e ∈ opening, refuses e = false) (hdone : ∀ r ∈ results₁, r.state ≠ .failed)
    (hstops : Stops workflow rest after results₂ ending)
    (hends : Concludes workflow ending closing state error) :
    Lawful (opening ++ (after ++ closing)) (makeResult workflow state (results₁ ++ results₂) error)
      ↔ Along currentStep (Late (lastStep workflow)) none (opening ++ (after ++ closing)) := by
  cases hstops with
  | completed =>
      cases hends
      have hkinds : kinds
        (opening ++ ([] ++ [published workflow (.completed workflow.steps.length)]))
          = kinds opening ++ [.completed workflow.steps.length] := kinds_append _ _
      apply lawful_iff_of_forall hkinds hopening rfl
      · rwa [List.append_nil]
      · rw [List.forall_mem_append]
        exact ⟨hrefuses, by simp [published, refuses]⟩
  | @cancelled step rest trace results reason hcancel =>
      cases hends with
      | cancelled _ _ detail =>
          have hkinds : kinds (opening ++ (tokenRead true :: reasonRead reason :: trace
              ++ [reasonRead detail, published workflow (.cancelled detail)]))
              = (kinds opening ++ kinds trace) ++ [.cancelled detail] := by
            rw [kinds_append, kinds_append, List.append_assoc]
            rfl
          apply lawful_iff_of_forall hkinds _ rfl
          · exact List.forall_mem_append.mpr ⟨hdone, hcancel.cancels.not_failed⟩
          · rw [List.forall_mem_append, List.forall_mem_append, List.forall_mem_cons,
              List.forall_mem_cons]
            refine ⟨hrefuses, ⟨rfl, rfl, ?_⟩, by simp [published, reasonRead, refuses]⟩
            exact fun e he => refuses_eq_false (hcancel.not_call e he)
          · exact List.forall_mem_append.mpr ⟨hopening, hcancel.not_terminal⟩
  | @failed step rest trace trace' result results ending hstep hfailure hloop =>
      have hopens : ∀ kind ∈ kinds (opening ++ [tokenRead false]), kind.terminal = none := by
        rw [kinds_append, kinds_tokenRead]
        simpa [kinds] using hopening
      have hopensRefuses : ∀ e ∈ opening ++ [tokenRead false], refuses e = false := by
        rw [List.forall_mem_append, List.forall_mem_singleton]
        exact ⟨hrefuses, rfl⟩
      have hiff := lawful_iff_of_failed hsteps hopens hopensRefuses hdone hstep hfailure hloop hends
      simpa only [List.append_assoc, List.cons_append, List.nil_append] using hiff

theorem kinds_map_reasonRead (reasons : List String) : kinds (reasons.map reasonRead) = [] := by
  induction reasons with
  | nil => rfl
  | cons reason reasons ih => rw [List.map_cons, kinds_reasonRead, ih]

theorem RunTrace.lawful_iff {past : Past} {runResult : WorkflowResult}
    (h : RunTrace workflow past runResult) :
    Lawful past runResult ↔ Along currentStep (Late (lastStep workflow)) none past := by
  cases h with
  | empty hempty =>
      have hkinds : kinds [published workflow (.started 0), published workflow (.completed 0)]
          = [.started 0] ++ [.completed 0] := rfl
      apply lawful_iff_of_forall hkinds _ rfl (by simp) (by simp [published, refuses])
      simp [WorkflowEvent.Kind.terminal]
  | @cancelled reasons hne hreasons reason detail =>
      have hkinds : kinds (tokenRead true :: reasons.map reasonRead
          ++ [reasonRead reason, published workflow (.cancelled reason), reasonRead detail])
          = [] ++ [.cancelled reason] := by
        rw [kinds_append, kinds_tokenRead, kinds_map_reasonRead]
        rfl
      apply lawful_iff_of_forall hkinds (by simp) rfl (cancels_zipWith hreasons).not_failed
      exact fun e he => refuses_eq_false (not_call_of_cancelled workflow reasons reason detail e he)
  | @ran trace closing results ending state error hne hloop hends =>
      obtain ⟨done, rest, before, after, results₁, results₂, hsteps, rfl, rfl, hdone, hstops⟩ :=
        hloop.stops rfl
      have hopening : ∀ kind ∈ kinds (tokenRead false
          :: published workflow (.started workflow.steps.length) :: before), kind.terminal = none :=
        List.forall_mem_cons.mpr ⟨rfl, hdone.not_terminal⟩
      have hrefuses : ∀ e ∈ tokenRead false
          :: published workflow (.started workflow.steps.length) :: before, refuses e = false := by
        rw [List.forall_mem_cons, List.forall_mem_cons]
        exact ⟨rfl, rfl, hdone.not_refuses⟩
      rw [List.append_assoc]
      exact lawful_iff_of_stops hsteps hopening hrefuses hdone.states hstops hends

/-- **One terminal event.** A run keeps the law exactly when no step before the last one fails, and
the last one not without a text. -/
theorem run_lawful_iff (answers : Past → (op : Op) → Answer op) (workflow : Workflow) :
    ∃ result, ((run workflow).run answers []).2 = .ok result
      ∧ (Lawful ((run workflow).run answers []).1 result
        ↔ Along currentStep (Late (lastStep workflow)) none ((run workflow).run answers []).1) := by
  obtain ⟨result, hresult, htrace⟩ := exists_runTrace answers workflow
  exact ⟨result, hresult, htrace.lawful_iff⟩

/-! ### A cancellation after a failure -/

def readStep : WorkflowStep where
  stepId := "read"
  capability := "file.read"
  constraints := {}
  inputData := ∅
  stepId_valid := by decide
  capability_valid := by decide

def writeStep : WorkflowStep where
  stepId := "write"
  capability := "file.write"
  constraints := {}
  inputData := ∅
  stepId_valid := by decide
  capability_valid := by decide

def copyWorkflow : Workflow where
  workflowId := "wf-1"
  name := "copy"
  steps := [readStep, writeStep]
  name_valid := by decide
  steps_unique := by decide

/-- The navigator raises, and the token is cancelled once the failure is announced. -/
def cancelAfterFailure (past : Past) : (op : Op) → Answer op
  | .isCancelled => (kinds past).any fun kind => kind.terminal.isSome
  | .reason => "stop"
  | .publish _ => ()
  | .navigate _ => .error ⟨"RuntimeError", "down"⟩
  | .getExecutor _ => false
  | .execute _ _ => .ok .none
  | .uuid4 => "wf-1"

/-- The failure is announced, then a cancellation, and the result forgets the failure. -/
theorem cancelled_after_failure :
    ∃ result, ((run copyWorkflow).run cancelAfterFailure []).2 = .ok result
      ∧ result.state = .cancelled ∧ result.errorDetail = some "stop"
      ∧ ¬Lawful ((run copyWorkflow).run cancelAfterFailure []).1 result := by
  refine ⟨_, rfl, rfl, rfl, fun hlawful => ?_⟩
  have hkinds : kinds ((run copyWorkflow).run cancelAfterFailure []).1
      = [.started 2, .stepStarted "read" "file.read" none,
          .stepFailed "read" "file.read" "Navigator invocation error: down"]
        ++ .failed "read" "Navigator invocation error: down"
          :: [.stepSkipped "write" "file.write" "Workflow cancelled: stop", .cancelled "stop"] := by
    rfl
  have honce := hlawful.1
  rw [hkinds] at honce
  refine not_endsOnce ?_ ?_ List.mem_cons_self rfl _ honce
  · simp [WorkflowEvent.Kind.terminal]
  · simp [WorkflowEvent.Kind.terminal]

end WorkflowEngine

end Shyam

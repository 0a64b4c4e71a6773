import Shyam.Proof.FileSteps
import Shyam.Proof.WorkflowSteps

/-!
# Files between the steps of a workflow

A run of the engine with the executor of the local filesystem and the files of the machine. What a
step has written is what a later step reads, when no step between them writes the file again.
-/

namespace Shyam

open Python Interaction Transition

namespace WorkflowEngine

open LocalFilesystemExecutor
  (Host Conditions Files Call Opened readResult writeResult openForWriting)

variable (host : Host)

/-- One event of a run, with the capability that was asked for last and the files. The selected
target is one for that capability. An executor of another provider leaves the files alone. -/
def Acts (state : String × Files) (e : Event Answer) (next : String × Files) : Prop :=
  match e with
  | ⟨.navigate request, _⟩ => next = (request.capability, state.2)
  | ⟨.execute target inputData, answer⟩ =>
      if target.providerId = "local.filesystem" then
        ∃ conditions files', LocalFilesystemExecutor.execute host conditions state.1 inputData
          state.2 = (answer, files') ∧ next = (state.1, files')
      else next = state
  | _ => next = state

/-- The step was executed by the local filesystem. -/
def Local (result : StepResult) : Prop :=
  ∃ target, result.target = some target ∧ target.providerId = "local.filesystem"

def stepCall (step : WorkflowStep) (conditions : Conditions) : Call :=
  ⟨step.capability, step.inputData, conditions⟩

/-- What a step that succeeds makes of the files. -/
def Performed (files : Files) (pair : WorkflowStep × StepResult) (files' : Files) : Prop :=
  (∃ conditions, (stepCall pair.1 conditions).outcome host files = .ok pair.2.output
      ∧ LocalFilesystemExecutor.step host files (stepCall pair.1 conditions) = files')
    ∨ ¬Local pair.2 ∧ files' = files

/-- The step writes a file. -/
structure Writes (step : WorkflowStep) (opened : Opened) : Prop where
  capability : step.capability = "file.write"
  path : host.requiredPath step.inputData = .ok opened.path
  content : host.content step.inputData = .ok opened.content
  encoding : host.encoding step.inputData = .ok opened.encoding

/-- The step reads a file. -/
structure Reads (step : WorkflowStep) (path encoding : String) : Prop where
  capability : step.capability = "file.read"
  path : host.requiredPath step.inputData = .ok path
  encoding : host.encoding step.inputData = .ok encoding

/-- The step is one that writes the file at the place. -/
def Aims (step : WorkflowStep) (place : String) : Prop :=
  step.capability = "file.write" ∧ ∃ path, host.requiredPath step.inputData = .ok path
    ∧ host.locate path = place

variable {host} {workflow : Workflow} {step : WorkflowStep} {steps : List WorkflowStep}
  {trace : Past} {result : StepResult} {results : List StepResult} {ending : Ending}
  {state state' : String × Files} {files files' : Files} {pair : WorkflowStep × StepResult}
  {opened : Opened} {path encoding place : String}

/-! ### Steps that succeed -/

theorem StepTrace.performed (h : StepTrace workflow step trace result)
    (hsuccess : result.isSuccess = true) (hleads : Leads (Acts host) state trace state') :
    Performed host state.2 (step, result) state'.2 := by
  obtain ⟨hcalls, -⟩ := h
  cases hcalls with
  | completes navResult target output hselected =>
      obtain ⟨_, rfl, _, rfl, _, rfl, next, hact, _, rfl, rfl⟩ := hleads
      by_cases hlocal : target.providerId = "local.filesystem"
      · rw [Acts, if_pos hlocal] at hact
        obtain ⟨conditions, files', hexecute, rfl⟩ := hact
        exact .inl ⟨conditions, congrArg Prod.fst hexecute, congrArg Prod.snd hexecute⟩
      · rw [Acts, if_neg hlocal] at hact
        obtain rfl := hact
        refine .inr ⟨?_, rfl⟩
        rintro ⟨_, ⟨rfl⟩, hprovider⟩
        exact hlocal hprovider
  | navigatorRaises exc | noSelection navResult hselected | noExecutor navResult target hselected
  | executorRaises navResult target exc hselected => cases hsuccess

theorem Succeeds.performed (h : Succeeds workflow steps trace results)
    (hleads : Leads (Acts host) state trace state') :
    Leads (Performed host) state.2 (steps.zip results) state'.2 := by
  induction h generalizing state with
  | nil => exact congrArg Prod.snd hleads
  | cons hstep hsuccess h ih =>
      obtain ⟨_, rfl, hleads⟩ := hleads
      obtain ⟨middle, hleads, hrest⟩ := leads_append.mp hleads
      exact ⟨middle.2, hstep.performed hsuccess hleads, ih hrest⟩

/-! ### The files between two steps -/

theorem Writes.performed (h : Writes host step opened) (hlocal : Local result)
    (hperformed : Performed host files (step, result) files') :
    ∃ codec data, host.lookupCodec opened.encoding = .ok codec
      ∧ codec.writeText host.lineSep opened.content = .ok data
      ∧ files'.get? (host.locate opened.path) = some data := by
  obtain ⟨conditions, houtcome, rfl⟩ | ⟨hremote, -⟩ := hperformed
  · have hopened : (stepCall step conditions).Opens host opened := by
      refine ⟨h.capability, ?_⟩
      cases hopen : openForWriting host conditions step.inputData with
      | error exc =>
          have hraised := houtcome
          rw [Call.outcome, LocalFilesystemExecutor.execute_write _ h.capability,
            LocalFilesystemExecutor.wrap_eq_ok] at hraised
          change (LocalFilesystemExecutor.writeFile host conditions step.inputData files).1
            = _ at hraised
          rw [LocalFilesystemExecutor.writeFile, hopen] at hraised
          cases hraised
      | ok opened' =>
          obtain ⟨hpath, hcontent, hencoding⟩ := LocalFilesystemExecutor.openForWriting_eq_ok hopen
          rw [h.path, Except.ok.injEq] at hpath
          rw [h.content, Except.ok.injEq] at hcontent
          rw [h.encoding, Except.ok.injEq] at hencoding
          cases opened
          cases opened'
          subst hpath hcontent hencoding
          exact hopen
    exact (hopened.written houtcome).2
  · exact absurd hlocal hremote

theorem Reads.performed (h : Reads host step path encoding) (hlocal : Local result)
    (hperformed : Performed host files (step, result) files') {codec : TextCodec}
    {data : Bytes} {content : String} (hcodec : host.lookupCodec encoding = .ok codec)
    (hdata : files.get? (host.locate path) = some data)
    (hread : codec.readText data = .ok content) : result.output = readResult host path content := by
  obtain ⟨conditions, houtcome, -⟩ | ⟨hremote, -⟩ := hperformed
  · rw [Call.outcome, LocalFilesystemExecutor.execute_read _ h.capability,
      LocalFilesystemExecutor.wrap_eq_ok]
      at houtcome
    obtain ⟨path', encoding', codec', data', content', hpath, hdata', hencoding,
      hcodec', hread', houtput⟩ :=
      LocalFilesystemExecutor.readFile_eq_ok houtcome
    rw [stepCall, h.path, Except.ok.injEq] at hpath
    rw [stepCall, h.encoding, Except.ok.injEq] at hencoding
    subst hpath hencoding
    rw [hcodec, Except.ok.injEq] at hcodec'
    rw [hdata, Option.some.injEq] at hdata'
    subst hcodec' hdata'
    rw [hread, Except.ok.injEq] at hread'
    rw [houtput, hread']
  · exact absurd hlocal hremote

/-! ### The run -/

/-- The successes of a run are its first steps, with what they make of the files. -/
theorem RunTrace.performed {past : Past} {runResult : WorkflowResult}
    (h : RunTrace workflow past runResult) (hleads : Leads (Acts host) state past state') :
    ∃ done rest files', workflow.steps.zip runResult.stepResults = done ++ rest
      ∧ Leads (Performed host) state.2 done files' ∧ ∀ pair ∈ rest, pair.2.state ≠ .completed := by
  cases h with
  | empty h => exact ⟨[], [], state.2, by rw [h]; rfl, rfl, by simp⟩
  | cancelled hne hreasons reason detail =>
      refine ⟨[], _, state.2, rfl, rfl, fun pair hpair hcompleted => ?_⟩
      have hmem := List.mem_map_of_mem (f := StepResult.state) (List.of_mem_zip hpair).2
      rw [makeResult, (cancels_zipWith hreasons).states] at hmem
      rw [List.eq_of_mem_replicate hmem] at hcompleted
      cases hcompleted
  | ran hne hloop hends =>
      obtain ⟨_, rfl, _, rfl, hleads⟩ := hleads
      obtain ⟨middle, hleads, -⟩ := leads_append.mp hleads
      obtain ⟨done, rest, before, after, results₁, results₂, hsteps, rfl, rfl, hsucceeds, hstops⟩ :=
        hloop.stops rfl
      obtain ⟨middle', hbefore, -⟩ := leads_append.mp hleads
      refine ⟨done.zip results₁, rest.zip results₂, middle'.2, ?_, hsucceeds.performed hbefore,
        fun pair hpair => ?_⟩
      · rw [hsteps, makeResult, List.zip_append hsucceeds.length_eq]
      · exact hstops.not_completed pair.2 (List.of_mem_zip hpair).2

/-- The capability that was asked for last, and the files, when nothing goes wrong on the
machine. -/
def advance (host : Host) (state : String × Files) (e : Event Answer) : String × Files :=
  match e.op with
  | .navigate request => (request.capability, state.2)
  | .execute target inputData =>
      if target.providerId = "local.filesystem" then
        (state.1, (LocalFilesystemExecutor.execute host {} state.1 inputData state.2).2)
      else state
  | _ => state

end WorkflowEngine

end Shyam

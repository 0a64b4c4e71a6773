import Shyam.Proof.ContinuityReports
import Shyam.Proof.ContinuityWorld

/-!
# Where the work goes

A run selects one candidate. So the node that is asked for trust, the peer that takes the artifacts
and the address that the work is sent to are all of one candidate, in any interleaving of the calls.
-/

namespace Shyam

open Python Interaction

namespace Continuity

variable {Snapshot : Type} {session : ContinuitySession} {errorText : PyValue → PyValue → String}
  {n : ℕ}

/-! ### One selection for each run -/

def Op.isNavigate : Op Snapshot → Bool
  | .navigate _ _ => true
  | _ => false

def Navigates (n : ℕ) (p : Script Snapshot ContinuitySession) : Prop :=
  Program.AsksAtMost Op.isNavigate n p

theorem navigates_transition (targetState : ContinuityState) (result : Option ContinuityResult) :
    Navigates 0 (transition session targetState result : Script Snapshot ContinuitySession) := by
  rw [transition]
  split_ifs
  · exact fun _ => ⟨0, le_rfl, trivial⟩
  · trivial

theorem navigates_fail (reason : String) :
    Navigates 0 (fail session reason : Script Snapshot ContinuitySession) :=
  navigates_transition _ _

theorem navigates_rebuild : Navigates 0 (rebuild session : Script Snapshot ContinuitySession) :=
  fun _ => ⟨0, le_rfl, trivial⟩

theorem navigates_guarded {body : Script Snapshot ContinuitySession} {reason : Exc → String}
    (h : Navigates n body) :
    Navigates n (tryCatch body fun exc => fail session (reason exc)) :=
  Program.AsksAtMost.tryCatch h fun exc => navigates_fail (reason exc)

theorem navigates_validate :
    Navigates 0 (validate session : Script Snapshot ContinuitySession) := by
  rw [validate]
  split_ifs
  · exact navigates_fail _
  · exact navigates_fail _
  · exact navigates_transition _ _
  · trivial

theorem navigates_selectTarget :
    Navigates 1 (selectTarget errorText session : Script Snapshot ContinuitySession) := by
  apply navigates_guarded
  apply Program.AsksAtMost.bind (m := 0) (n := 1)
  · exact fun _ => ⟨0, le_rfl, trivial⟩
  intro snapshot
  apply Program.AsksAtMost.bind (m := 1) (n := 0)
  · exact fun _ => ⟨0, le_rfl, trivial⟩
  rintro ⟨_ | candidate, reason⟩
  · exact navigates_fail _
  · apply Program.AsksAtMost.bind (m := 0) (n := 0)
    · cases makeTarget errorText candidate <;> trivial
    · exact fun target => navigates_rebuild

theorem navigates_prepareArtifacts :
    Navigates 0 (prepareArtifacts session : Script Snapshot ContinuitySession) := trivial

theorem navigates_verifyTrust :
    Navigates 0 (verifyTrust session : Script Snapshot ContinuitySession) := by
  rw [verifyTrust]
  cases session.target with
  | none => exact navigates_fail _
  | some target =>
      apply navigates_guarded
      apply Program.AsksAtMost.bind (m := 0) (n := 0)
      · exact fun _ => ⟨0, le_rfl, trivial⟩
      rintro (_ | trustRecord)
      · exact navigates_fail _
      · change Navigates 0 (ite _ _ (ite _ _ _))
        split_ifs
        · exact navigates_fail _
        · exact navigates_fail _
        · exact navigates_rebuild

theorem navigates_transferEach (target : ContinuityTarget) (paths : List String) : ∀ last,
    Navigates 0 (transferEach session target last paths : Script Snapshot ContinuitySession) := by
  induction paths with
  | nil => exact fun last => navigates_rebuild
  | cons artifactPath rest ih =>
      intro last
      apply Program.AsksAtMost.bind (m := 0) (n := 0)
      · exact fun _ => ⟨0, le_rfl, trivial⟩
      intro response
      change Navigates 0 (ite _ _ _)
      split_ifs
      · exact navigates_fail _
      · exact ih _

theorem navigates_transferArtifacts :
    Navigates 0 (transferArtifacts session : Script Snapshot ContinuitySession) := by
  rw [transferArtifacts]
  cases session.target with
  | none => exact navigates_fail _
  | some target =>
      change Navigates 0 (ite _ _ _)
      split_ifs
      · exact navigates_rebuild
      · exact navigates_guarded (navigates_transferEach target _ none)

theorem navigates_continueOnTarget :
    Navigates 0 (continueOnTarget session : Script Snapshot ContinuitySession) := by
  rw [continueOnTarget]
  cases session.target with
  | none => exact navigates_fail _
  | some target =>
      apply navigates_guarded
      apply Program.AsksAtMost.bind (m := 0) (n := 0)
      · exact fun _ => ⟨0, le_rfl, trivial⟩
      · exact fun resp => navigates_rebuild

theorem navigates_verifyResult :
    Navigates 0 (verifyResult session : Script Snapshot ContinuitySession) := by
  rw [verifyResult]
  cases session.result with
  | none => exact navigates_transition _ _
  | some result =>
      change Navigates 0 (ite _ _ (ite _ _ _))
      split_ifs <;> exact navigates_transition _ _

theorem navigates_next {k m : ℕ} {targetState : ContinuityState}
    {stage rest : ContinuitySession → Script Snapshot ContinuitySession} (hsum : m + n = k)
    (hstage : ∀ session, Navigates m (stage session))
    (hrest : ∀ session, Navigates n (rest session)) :
    Navigates k (do
      let session ← transition session targetState none
      let session ← stage session
      unlessTerminal session rest) := by
  rw [← hsum, ← Nat.zero_add (m + n)]
  apply Program.AsksAtMost.bind (navigates_transition targetState none)
  intro session
  apply Program.AsksAtMost.bind (hstage session)
  intro session
  change Navigates n (unlessTerminal session rest)
  rw [unlessTerminal]
  split_ifs
  · trivial
  · exact hrest session

theorem navigates_runPipeline :
    Navigates 1 (runPipeline errorText session : Script Snapshot ContinuitySession) := by
  apply navigates_next (Nat.zero_add 1) fun _ => navigates_validate
  intro session
  apply navigates_next (Nat.add_zero 1) fun _ => navigates_selectTarget
  intro session
  apply navigates_next (Nat.zero_add 0) fun _ => navigates_verifyTrust
  intro session
  apply navigates_next (Nat.zero_add 0) fun _ => navigates_prepareArtifacts
  intro session
  apply navigates_next (Nat.zero_add 0) fun _ => navigates_transferArtifacts
  intro session
  apply Program.AsksAtMost.bind (m := 0) (n := 0) (navigates_transition _ _)
  intro session
  apply navigates_next (Nat.zero_add 0) fun _ => navigates_continueOnTarget
  intro session
  exact Program.AsksAtMost.bind (m := 0) (n := 0) (navigates_transition _ _) fun _ =>
    navigates_verifyResult

/-- **One selection.** -/
theorem navigates_requestContinuity (continuityId : String) (request : ContinuityRequest) :
    Navigates 1
      (requestContinuity errorText continuityId request : Script Snapshot ContinuitySession) := by
  rw [requestContinuity]
  apply Program.AsksAtMost.bind (m := 0) (n := 1)
  · exact fun _ => ⟨0, le_rfl, trivial⟩
  intro _
  apply Program.AsksAtMost.tryCatch (m := 1) (n := 0) navigates_runPipeline
  intro exc
  change Navigates 0 (ite _ _ _)
  split_ifs
  · trivial
  · exact navigates_transition _ _

/-! ### Calls of a world -/

/-- What a call has done is sound, selects at most once, and was answered in a way that `told`
admits. -/
structure Task.Traced (errorText : PyValue → PyValue → String)
    (told : Event (Answer Snapshot) → Prop) (task : Task Snapshot) : Prop where
  sound : Program.Admitted (Sound errorText task.request) task.past
  meets : Program.Meets (Sound errorText task.request) (fun _ _ => True) task.past task.rest
  once : Program.Within Op.isNavigate 1 task.past task.rest
  answered : ∀ e ∈ task.past, told e

variable {told : Event (Answer Snapshot) → Prop} {task : Task Snapshot} {op : Op Snapshot}
  {next : Answer Snapshot op → Script Snapshot ContinuitySession} {w : World Snapshot}
  {a : Action Snapshot}

theorem traced_begin (told : Event (Answer Snapshot) → Prop) (continuityId : String)
    (request : ContinuityRequest) :
    Task.Traced errorText told
      (⟨request, [], requestContinuity errorText continuityId request⟩ : Task Snapshot) where
  sound := Program.admitted_nil
  meets := meets_requestContinuity_sound continuityId
  once := Program.within_nil (navigates_requestContinuity continuityId request)
  answered := fun _ hmem => absurd hmem List.not_mem_nil

theorem Task.Traced.advance (h : task.Traced errorText told) (hrest : task.rest = .ask op next)
    {answer : Answer Snapshot op} (htold : told ⟨op, answer⟩) :
    Task.Traced errorText told { task with
      past := task.past ++ [⟨op, answer⟩], rest := next answer } := by
  have hmeets := h.meets
  have honce := h.once
  rw [hrest] at hmeets honce
  refine ⟨h.sound.concat hmeets.1 answer, hmeets.2 answer, honce.ask answer, fun e hmem => ?_⟩
  rcases List.mem_append.mp hmem with hmem | hmem
  · exact h.answered e hmem
  · exact List.mem_singleton.mp hmem ▸ htold

theorem Task.Traced.stop (h : task.Traced errorText told) :
    Task.Traced errorText told { task with rest := .done (.error cancelled) } where
  sound := h.sound
  meets := trivial
  once := by
    obtain ⟨m, hm, -⟩ := h.once
    exact ⟨m, hm, trivial⟩
  answered := h.answered

def World.Traced (errorText : PyValue → PyValue → String) (told : Event (Answer Snapshot) → Prop)
    (w : World Snapshot) : Prop :=
  ∀ continuityId task, w.tasks.get? continuityId = some task → task.Traced errorText told

theorem World.Traced.step (h : w.Traced errorText told)
    (htold : ∀ continuityId collaborator op, a = .resume continuityId collaborator →
      told ⟨op, w.service.answer collaborator op⟩) :
    (w.step errorText a).Traced errorText told := by
  intro id task htask
  obtain ⟨id', request, rfl, hstep⟩ | ⟨id', task', op, next, collaborator, rfl,
    htask', hrest, hstep⟩
    | ⟨id', task', op, next, rfl, htask', hrest, -, hstep⟩ | hstep := World.step_cases errorText w a
  · rw [hstep, World.begin, Dict.get?_set] at htask
    split_ifs at htask
    · obtain rfl := Option.some.inj htask
      exact traced_begin told id' request
    · exact h id task htask
  · rw [hstep, World.advance, Dict.get?_set] at htask
    split_ifs at htask
    · obtain rfl := Option.some.inj htask
      exact (h id' task' htask').advance hrest (htold id' collaborator op rfl)
    · exact h id task htask
  · rw [hstep, World.stop, Dict.get?_set] at htask
    split_ifs at htask
    · obtain rfl := Option.some.inj htask
      exact (h id' task' htask').stop
    · exact h id task htask
  · rw [hstep] at htask
    exact h id task htask

/-! ### The handover -/

/-- Who the work is handed to: the candidate that was selected, and the record that it was found
trusted in. -/
structure Handover where
  candidate : NavigationCandidate
  target : ContinuityTarget
  trustRecord : TrustRecord

/-- The handover rests on what has happened before it. -/
structure Handover.RestsOn (handover : Handover) (errorText : PyValue → PyValue → String)
    (request : ContinuityRequest) (past : Past Snapshot) : Prop where
  selected : ∃ snapshot reason, (⟨.createSnapshot, .ok snapshot⟩ : Event (Answer Snapshot)) ∈ past
    ∧ (⟨.navigate ⟨"zarya.work.continue", request.targetConstraints⟩ snapshot,
      .ok ⟨some handover.candidate, reason⟩⟩ : Event (Answer Snapshot)) ∈ past
  made : makeTarget errorText handover.candidate = .ok handover.target
  asked : (⟨.getRecord handover.candidate.nodeId,
    .ok (some handover.trustRecord)⟩ : Event (Answer Snapshot)) ∈ past
  trusted : handover.trustRecord.status = .trusted
  delivered : ∀ artifactPath ∈ request.artifactPaths, ∃ response, Passes response
    ∧ (⟨.transfer (peerOf handover.target) artifactPath, .ok response⟩ : Event (Answer Snapshot))
      ∈ past

/-- The candidate that a target is made for is the one that was selected. -/
theorem Task.Traced.target_eq {before after : Past Snapshot} {candidate : NavigationCandidate}
    {target : ContinuityTarget} (htraced : task.Traced errorText told)
    (hpast : task.past = before ++ after) (hselected : Selected before candidate)
    (haims : Aims errorText before target) :
    ∃ made verified, makeTarget errorText candidate = .ok made ∧ target = { made with
      trustVerified := verified } := by
  obtain ⟨candidate', made, verified, hselected', hmade, htarget⟩ := haims
  obtain ⟨navRequest, snapshot, reason, hnavigated⟩ := hselected
  obtain ⟨navRequest', snapshot', reason', hnavigated'⟩ := hselected'
  have hsub : before ⊆ task.past := by
    rw [hpast]
    exact List.subset_append_left _ _
  have hsame := htraced.once.unique (hsub hnavigated) (hsub hnavigated') rfl rfl
  cases hsame
  exact ⟨made, verified, hmade, htarget⟩

theorem mem_of_mem_calls {past : Past Snapshot} {e : Event (Answer Snapshot)}
    (h : e ∈ calls past) : e ∈ past :=
  (List.mem_filter.mp h).1

/-- **One target.** Work is sent to the address of the very candidate that was selected and found
trusted, and the artifacts went to its peer before. -/
theorem exists_handover {continuityId : String} {before after : Past Snapshot}
    {portableWork : Dict PyValue} {sourceDeviceId id : String} {targetUrl : Option String}
    {answer : Except Exc ContinuationResponse} (hinv : task.Inv continuityId)
    (htraced : task.Traced errorText told)
    (hpast : task.past = before ++ ⟨.continueWork portableWork sourceDeviceId id targetUrl,
      answer⟩ :: after) :
    ∃ handover : Handover, handover.RestsOn errorText task.request before
      ∧ targetUrl = orElse handover.target.zaryaUrl none
      ∧ portableWork = task.request.portableWork ∧ sourceDeviceId = task.request.sourceDeviceId
      ∧ id = continuityId := by
  obtain ⟨-, -, ⟨hwork, hsource, hid⟩, candidate, peerId, done, hcleared, hpaths⟩ :=
    hinv.admitted before _ after hpast
  obtain ⟨target, ⟨session, -, -, haims⟩, rfl⟩ := htraced.sound before _ after hpast
  obtain ⟨made, verified, hmade, rfl⟩ := htraced.target_eq hpast hcleared.selected haims
  obtain ⟨navRequest, snapshot, reason, hnavigated⟩ := hcleared.selected
  obtain ⟨first, later, hsplit⟩ := List.append_of_mem hnavigated
  obtain ⟨hrequest, hcreated⟩ :=
    htraced.sound first _ (later ++ ⟨.continueWork portableWork sourceDeviceId id
      (orElse made.zaryaUrl none), answer⟩ :: after)
        (by rw [hpast, hsplit, List.append_assoc, List.cons_append])
  obtain ⟨trustRecord, htrusted, hcalls⟩ := hcleared.calls
  have hasked : trustCall candidate.nodeId (.ok (some trustRecord)) ∈ calls before :=
    hcalls ▸ List.mem_cons_self
  refine ⟨⟨candidate, made, trustRecord⟩, ⟨⟨snapshot, reason, ?_, hrequest ▸ hnavigated⟩, hmade,
    mem_of_mem_calls hasked, htrusted, ?_⟩, rfl, hwork, hsource, hid⟩
  · rw [hsplit]
    exact List.mem_append_left _ hcreated
  · intro artifactPath hartifact
    rw [← hpaths] at hartifact
    obtain ⟨⟨path, response⟩, hdone, rfl⟩ := List.mem_map.mp hartifact
    have hcalled : (⟨.transfer peerId path, .ok response⟩ : Event (Answer Snapshot)) ∈ before := by
      apply mem_of_mem_calls
      rw [hcalls]
      exact List.mem_cons_of_mem _ (List.mem_map.mpr ⟨_, hdone, rfl⟩)
    -- the peer of a transfer is that of the target which the session holds, so of the same
    -- candidate
    obtain ⟨start, rest, hstart⟩ := List.append_of_mem hcalled
    obtain ⟨target, ⟨session, -, -, haims⟩, rfl⟩ :=
      htraced.sound start _ (rest ++ ⟨.continueWork portableWork
        sourceDeviceId id (orElse made.zaryaUrl none), answer⟩ :: after)
      (by rw [hpast, hstart, List.append_assoc, List.cons_append])
    have haims' : Aims errorText before target := by
      rw [hstart]
      exact haims.append _
    obtain ⟨made', verified', hmade', rfl⟩ :=
      htraced.target_eq hpast ⟨_, snapshot, reason, hnavigated⟩ haims'
    rw [hmade, Except.ok.injEq] at hmade'
    subst hmade'
    exact ⟨response, hcleared.passes _ hdone, hcalled⟩

end Continuity

end Shyam

import Shyam.Continuity.World
import Shyam.Proof.ContinuityRuns

/-!
# Concurrent calls of request_continuity

Every call of the world keeps the judgment on a single run, so the session map holds what each call
stored last. A live session is the one that its work is mapped to, because the lock section refuses
a second one. That carries over from step to step, whatever the order.
-/

namespace Shyam

open Python Interaction Transition Continuity

variable {Snapshot : Type} {past : Past Snapshot} {continuityId : String}
  {request : ContinuityRequest}

namespace Continuity

def admitted? : Event (Answer Snapshot) → Option ContinuitySession
  | ⟨.enter session, .ok ()⟩ => some session
  | _ => none

theorem admitted?_cases {e : Event (Answer Snapshot)} {session : ContinuitySession}
    (h : admitted? e = some session) : e = ⟨.enter session, .ok ()⟩ := by
  obtain ⟨op, answer⟩ := e
  cases op with
  | enter session' =>
      cases answer with
      | error exc => cases h
      | ok => cases h; rfl
  | store | createSnapshot | navigate | getRecord | transfer | continueWork => cases h

theorem getLast?_stored_concat (past : Past Snapshot) (e : Event (Answer Snapshot)) :
    (stored (past ++ [e])).getLast? = (stored? e).or (stored past).getLast? := by
  rw [stored_append, stored, stored, List.filterMap_cons, List.filterMap_nil]
  cases stored? e <;> simp

/-- A session is only replaced while it is live. -/
theorem live_of_stored {e : Event (Answer Snapshot)} {session old : ContinuitySession}
    (hstarted : Starts continuityId request past e.op) (hstored : stored? e = some session)
    (hold : (stored past).getLast? = some old) :
    old.state.isTerminal = false ∧ e = ⟨.store session, ()⟩ := by
  obtain rfl | rfl := stored?_cases hstored
  · obtain ⟨rfl, -⟩ := hstarted
    cases hold
  · obtain ⟨-, -, ⟨old', hlast, hlive, -⟩, -⟩ := hstarted
    rw [hlast, Option.some.injEq] at hold
    exact ⟨hold ▸ hlive, rfl⟩

/-- The call was admitted and has not stored a terminal session. -/
def Active (past : Past Snapshot) : Prop :=
  (∃ e ∈ past, (admitted? e).isSome = true) ∧ ∀ session ∈ stored past,
    session.state.isTerminal = false

instance (past : Past Snapshot) : Decidable (Active past) :=
  inferInstanceAs (Decidable ((∃ e ∈ past, (admitted? e).isSome = true)
    ∧ ∀ session ∈ stored past, session.state.isTerminal = false))

theorem active_iff_live (h : Program.Admitted (Starts continuityId request) past) :
    Active past ↔ Live past := by
  induction past using List.reverseRecOn with
  | nil => simp [Active, Live, stored]
  | append_singleton past e ih =>
      have hstarted : Starts continuityId request past e.op := h past e [] rfl
      replace ih := ih h.of_append
      cases hstored : stored? e with
      | none =>
          have hadmitted : admitted? e = none := by
            cases hadmitted : admitted? e with
            | none => rfl
            | some session =>
                rw [admitted?_cases hadmitted] at hstored
                cases hstored
          have hsame := stored_other past hstored
          simpa [Active, Live, hsame, hadmitted, or_and_right, exists_or] using ih
      | some session =>
          have hlast : (stored (past ++ [e])).getLast? = some session := by
            rw [getLast?_stored_concat, hstored, Option.some_or]
          have hall := stored_some past hstored
          rw [Live, hlast]
          obtain rfl | rfl := stored?_cases hstored
          · obtain ⟨rfl, -⟩ := hstarted
            simp [Active, admitted?, stored, stored?]
          · obtain ⟨-, -, ⟨old, hold, hlive, -⟩, -⟩ := hstarted
            obtain ⟨⟨e', he', hadmitted⟩, hstates⟩ := ih.mpr ⟨old, hold, hlive⟩
            constructor
            · rintro ⟨-, hlater⟩
              exact ⟨session, rfl,
                hlater session (hall ▸ List.mem_append_right _ List.mem_cons_self)⟩
            · rintro ⟨_, ⟨rfl⟩, hlive'⟩
              refine ⟨⟨e', List.mem_append_left _ he', hadmitted⟩, ?_⟩
              intro session' hmem
              rw [hall, List.mem_append, List.mem_singleton] at hmem
              rcases hmem with hmem | rfl
              · exact hstates session' hmem
              · exact hlive'

end Continuity

namespace ContinuityService

variable {service : ContinuityService}

theorem workContinuities_record (e : Event (Answer Snapshot)) :
    (service.record e).workContinuities = match admitted? e with
      | some session =>
          service.workContinuities.set session.request.workId session.continuityId
      | none => service.workContinuities := by
  obtain ⟨op, answer⟩ := e
  cases op with
  | enter session => cases answer <;> rfl
  | store | createSnapshot | navigate | getRecord | transfer | continueWork => rfl

theorem admission_of_live {session existing : ContinuitySession} {id : String} (hid : id ≠ "")
    (hwork : service.workContinuities.get? session.request.workId = some id)
    (hexisting : service.getSession id = some existing)
    (hlive : existing.state.isTerminal = false) :
    service.admission session
      = .error (ContinuityError.duplicateContinuity id session.request.workId) := by
  rw [getSession] at hexisting
  simp only [admission, hwork, hexisting, hlive, if_neg hid, Bool.false_eq_true, if_false]

/-- A refusal names a live session that the work is mapped to. -/
theorem live_of_admission_error {session : ContinuitySession} {exc : Exc}
    (h : service.admission session = .error exc) :
    ∃ id existing, service.workContinuities.get? session.request.workId = some id
      ∧ service.getSession id = some existing ∧ existing.state.isTerminal = false := by
  rw [admission] at h
  split at h
  · cases h
  · rename_i id hwork
    split_ifs at h
    split at h
    · cases h
    · rename_i existing hexisting
      split_ifs at h with hterminal
      exact ⟨id, existing, hwork, hexisting, Bool.eq_false_of_not_eq_true hterminal⟩

end ContinuityService

namespace Continuity

/-- How a call ends: it is cancelled, or it ends as a run by itself does. -/
def TaskEnds (continuityId : String) (request : ContinuityRequest) (past : Past Snapshot)
    (result : Except Exc ContinuitySession) : Prop :=
  result = .error cancelled ∨ Ends continuityId request past result

/-- What a call has done was in its place, and so will be what it does next. -/
structure Task.Inv (continuityId : String) (task : Task Snapshot) : Prop where
  admitted : Program.Admitted (Starts continuityId task.request) task.past
  meets : Program.Meets (Starts continuityId task.request) (TaskEnds continuityId task.request)
    task.past task.rest

/-- The maps and the calls agree. -/
structure World.Inv (w : World Snapshot) : Prop where
  named : ∀ {id task}, w.tasks.get? id = some task → id ≠ ""
  task : ∀ {id task}, w.tasks.get? id = some task → task.Inv id
  session : ∀ id, w.service.getSession id
    = (w.tasks.get? id).bind fun task => (stored task.past).getLast?
  current : ∀ {id session}, w.service.getSession id = some session →
    session.state.isTerminal = false →
      w.service.workContinuities.get? session.request.workId = some id

variable {errorText : PyValue → PyValue → String} {w : World Snapshot} {a : Action Snapshot}
  {task : Task Snapshot} {op : Op Snapshot}
  {next : Answer Snapshot op → Script Snapshot ContinuitySession} {answer : Answer Snapshot op}

theorem Task.Inv.starts (h : task.Inv continuityId) (hrest : task.rest = .ask op next) :
    Starts continuityId task.request task.past op := by
  have hmeets := h.meets
  rw [hrest] at hmeets
  exact hmeets.1

theorem Task.Inv.advance (h : task.Inv continuityId) (hrest : task.rest = .ask op next)
    (answer : Answer Snapshot op) :
    Task.Inv continuityId
      { task with past := task.past ++ [⟨op, answer⟩], rest := next answer } := by
  have hmeets := h.meets
  rw [hrest] at hmeets
  exact ⟨h.admitted.concat hmeets.1 answer, hmeets.2 answer⟩

theorem Task.Inv.id_of_stored (h : task.Inv continuityId) (hrest : task.rest = .ask op next)
    {session : ContinuitySession} (hstored : stored? ⟨op, answer⟩ = some session) :
    session.continuityId = continuityId :=
  (stored_of_admitted (h.advance hrest answer).admitted (mem_stored_concat hstored)).1

namespace World

theorem step_cases (errorText : PyValue → PyValue → String) (w : World Snapshot)
    (a : Action Snapshot) :
    (∃ id request, a = .request id request ∧ step errorText w a = w.begin errorText id request)
      ∨ (∃ id task op next collaborator, a = .resume id collaborator
          ∧ w.tasks.get? id = some task ∧ task.rest = .ask op next
          ∧ step errorText w a
            = w.advance id task op next (w.service.answer collaborator op))
      ∨ (∃ id task op next, a = .cancel id ∧ w.tasks.get? id = some task
          ∧ task.rest = .ask op next ∧ op.suspends = true ∧ step errorText w a = w.stop id task)
      ∨ step errorText w a = w := by
  cases a with
  | request id request => exact Or.inl ⟨id, request, rfl, rfl⟩
  | resume id collaborator =>
      right
      cases htask : w.tasks.get? id with
      | none => exact Or.inr (Or.inr (by simp only [step, htask]))
      | some task =>
          cases hrest : task.rest with
          | done result => exact Or.inr (Or.inr (by simp only [step, htask, hrest]))
          | ask op next =>
              exact Or.inl ⟨id, task, op, next, collaborator, rfl, htask, hrest,
                by simp only [step, htask, hrest]⟩
  | cancel id =>
      right; right
      cases htask : w.tasks.get? id with
      | none => exact Or.inr (by simp only [step, htask])
      | some task =>
          cases hrest : task.rest with
          | done result => exact Or.inr (by simp only [step, htask, hrest])
          | ask op next =>
              cases hsuspends : op.suspends with
              | false => exact Or.inr (by simp [step, htask, hrest, hsuspends])
              | true =>
                  exact Or.inl ⟨id, task, op, next, rfl, htask, hrest, hsuspends,
                    by simp [step, htask, hrest, hsuspends]⟩

theorem getSession_advance_of_ne {id : String} (h : w.Inv)
    (htask : w.tasks.get? continuityId = some task) (hrest : task.rest = .ask op next)
    (hne : id ≠ continuityId) :
    (w.advance continuityId task op next answer).service.getSession id
      = w.service.getSession id := by
  change (w.service.record ⟨op, answer⟩).getSession id = _
  rw [ContinuityService.getSession_record]
  cases hstored : stored? (⟨op, answer⟩ : Event (Answer Snapshot)) with
  | none => rfl
  | some session =>
      have hmine := (h.task htask).id_of_stored hrest hstored
      simp [Option.filter, hmine, Ne.symm hne]

/-- The map follows what the call stores. -/
theorem getSession_advance_self (h : w.Inv) (htask : w.tasks.get? continuityId = some task)
    (hrest : task.rest = .ask op next) :
    (w.advance continuityId task op next answer).service.getSession continuityId
      = (stored (task.past ++ [⟨op, answer⟩])).getLast? := by
  change (w.service.record ⟨op, answer⟩).getSession continuityId = _
  rw [ContinuityService.getSession_record, h.session, htask, getLast?_stored_concat]
  cases hstored : stored? (⟨op, answer⟩ : Event (Answer Snapshot)) with
  | none => rfl
  | some session =>
      have hmine := (h.task htask).id_of_stored hrest hstored
      simp [Option.filter, hmine]

theorem named_of_getSession {id : String} {session : ContinuitySession} (h : w.Inv)
    (hsession : w.service.getSession id = some session) : id ≠ "" := by
  rw [h.session id] at hsession
  cases htask : w.tasks.get? id with
  | none =>
      rw [htask] at hsession
      cases hsession
  | some task => exact h.named htask

/-- A live session is the current one of its work, also after the next operation of a call. -/
theorem current_advance (h : w.Inv) (htask : w.tasks.get? continuityId = some task)
    (hrest : task.rest = .ask op next) (collaborator : (op : Op Snapshot) → Answer Snapshot op)
    {id : String} {session : ContinuitySession}
    (hsession : (w.advance continuityId task op next
      (w.service.answer collaborator op)).service.getSession id = some session)
    (hlive : session.state.isTerminal = false) :
    (w.advance continuityId task op next
      (w.service.answer collaborator op)).service.workContinuities.get? session.request.workId
        = some id := by
  have hstarts := (h.task htask).starts hrest
  change (w.service.record ⟨op, w.service.answer collaborator op⟩).workContinuities.get? _ = _
  rw [ContinuityService.workContinuities_record]
  by_cases hid : id = continuityId
  · subst hid
    rw [getSession_advance_self h htask hrest, getLast?_stored_concat] at hsession
    have hlast : (stored task.past).getLast? = w.service.getSession id := by
      rw [h.session, htask, Option.bind_some]
    cases op with
    | enter new =>
        obtain ⟨hpast, rfl⟩ := hstarts
        cases hanswer : w.service.admission (.new id task.request) with
        | error exc =>
            have hstored : stored? (⟨.enter (.new id task.request),
                w.service.answer collaborator (.enter (.new id task.request))⟩ :
                  Event (Answer Snapshot)) = none := by
              rw [ContinuityService.answer, hanswer]
              rfl
            rw [hstored, hpast] at hsession
            cases hsession
        | ok =>
            rw [ContinuityService.answer, hanswer] at hsession ⊢
            cases hsession
            change (w.service.workContinuities.set _ _).get? _ = _
            rw [Dict.get?_set, if_pos rfl]
            rfl
    | store new =>
        obtain ⟨-, hrequest, ⟨old, hold, holdLive, -⟩, -⟩ := hstarts
        cases hsession
        have hmem : old ∈ stored task.past := List.mem_of_getLast? hold
        rw [hlast] at hold
        have hcurrent := h.current hold holdLive
        rw [(stored_of_admitted (h.task htask).admitted hmem).2, ← hrequest] at hcurrent
        exact hcurrent
    | createSnapshot | navigate | getRecord | transfer | continueWork =>
        exact h.current (hlast ▸ hsession) hlive
  · rw [getSession_advance_of_ne h htask hrest hid] at hsession
    have hcurrent := h.current hsession hlive
    cases op with
    | enter new =>
        obtain ⟨-, rfl⟩ := hstarts
        cases hanswer : w.service.admission (.new continuityId task.request) with
        | error exc =>
            rw [ContinuityService.answer, hanswer]
            exact hcurrent
        | ok =>
            rw [ContinuityService.answer, hanswer]
            change (w.service.workContinuities.set task.request.workId continuityId).get? _ = _
            rw [Dict.get?_set]
            split_ifs with hwork
            · have hname := named_of_getSession h hsession
              rw [hwork] at hcurrent
              rw [ContinuityService.admission_of_live hname hcurrent hsession hlive] at hanswer
              cases hanswer
            · exact hcurrent
    | store | createSnapshot | navigate | getRecord | transfer | continueWork => exact hcurrent

theorem Inv.advance (h : w.Inv) (htask : w.tasks.get? continuityId = some task)
    (hrest : task.rest = .ask op next) (collaborator : (op : Op Snapshot) → Answer Snapshot op) :
    (w.advance continuityId task op next (w.service.answer collaborator op)).Inv := by
  constructor
  · intro id task' htask'
    simp only [World.advance, Dict.get?_set] at htask'
    split_ifs at htask' with hid
    · exact hid ▸ h.named htask
    · exact h.named htask'
  · intro id task' htask'
    simp only [World.advance, Dict.get?_set] at htask'
    split_ifs at htask' with hid
    · cases htask'
      exact hid ▸ (h.task htask).advance hrest _
    · exact h.task htask'
  · intro id
    by_cases hid : id = continuityId
    · subst hid
      rw [getSession_advance_self h htask hrest]
      simp [World.advance]
    · rw [getSession_advance_of_ne h htask hrest hid, h.session id]
      simp [World.advance, hid]
  · intro id session hsession hlive
    exact current_advance h htask hrest collaborator hsession hlive

/-- A call that stores nothing more leaves the maps and the other calls alone. -/
theorem Inv.set_task {task' : Task Snapshot} (h : w.Inv) (hname : continuityId ≠ "")
    (hinv : task'.Inv continuityId)
    (hsame : (stored task'.past).getLast? = w.service.getSession continuityId) :
    World.Inv { w with tasks := w.tasks.set continuityId task' } := by
  constructor
  · intro id other hother
    simp only [Dict.get?_set] at hother
    split_ifs at hother with hid
    · exact hid ▸ hname
    · exact h.named hother
  · intro id other hother
    simp only [Dict.get?_set] at hother
    split_ifs at hother with hid
    · cases hother
      exact hid ▸ hinv
    · exact h.task hother
  · intro id
    change w.service.getSession id = _
    rw [Dict.get?_set]
    split_ifs with hid
    · rw [hid, ← hsame, Option.bind_some]
    · exact h.session id
  · exact h.current

/-- **One step** keeps the maps and the calls in agreement. -/
theorem Inv.step (h : w.Inv) (hfresh : Fresh w a) : (step errorText w a).Inv := by
  obtain ⟨id, request, rfl, hstep⟩ | ⟨id, task, op, next, collaborator, -, htask, hrest, hstep⟩
    | ⟨id, task, op, next, -, htask, hrest, -, hstep⟩ | hstep := step_cases errorText w a
  · rw [hstep]
    apply h.set_task hfresh.1
    · exact ⟨Program.admitted_nil, meets_requestContinuity.mono fun _ _ => Or.inr⟩
    · rw [h.session, hfresh.2]
      rfl
  · rw [hstep]
    exact h.advance htask hrest collaborator
  · rw [hstep]
    apply h.set_task (h.named htask)
    · exact ⟨(h.task htask).admitted, Or.inl rfl⟩
    · rw [h.session, htask, Option.bind_some]
  · rw [hstep]
    exact h

theorem inv_initial : World.Inv ({} : World Snapshot) := by
  constructor
  · intro id task htask
    cases htask
  · intro id task htask
    cases htask
  · intro id
    rfl
  · intro id session hsession
    cases hsession

/-- **Every reachable world.** -/
theorem inv_run {actions : List (Action Snapshot)}
    (hfresh : Along (step errorText) Fresh {} actions) : (run (step errorText) {} actions).Inv :=
  hfresh.invariant (I := Inv) (fun _ _ h hfresh => h.step hfresh) inv_initial

/-! ### What a step leaves alone -/

theorem getSession_step_of_terminal {id : String} {session : ContinuitySession} (h : w.Inv)
    (hsession : w.service.getSession id = some session)
    (hterminal : session.state.isTerminal = true) :
    (step errorText w a).service.getSession id = some session := by
  obtain ⟨_, _, -, hstep⟩ | ⟨continuityId, task, op, next, collaborator, -, htask, hrest, hstep⟩
    | ⟨_, _, _, _, -, -, -, -, hstep⟩ | hstep := step_cases errorText w a
  · rw [hstep]
    exact hsession
  · rw [hstep]
    by_cases hid : id = continuityId
    · subst hid
      have hlast : (stored task.past).getLast? = some session := by
        rw [← hsession, h.session, htask, Option.bind_some]
      rw [getSession_advance_self h htask hrest, getLast?_stored_concat, hlast]
      cases hstored :
        stored? (⟨op, w.service.answer collaborator op⟩ : Event (Answer Snapshot)) with
      | none => rfl
      | some new =>
          have hlive := (live_of_stored ((h.task htask).starts hrest) hstored hlast).1
          rw [hterminal] at hlive
          cases hlive
    · rw [getSession_advance_of_ne h htask hrest hid, hsession]
  · rw [hstep]
    exact hsession
  · rw [hstep]
    exact hsession

theorem getSession_run_of_terminal {id : String} {session : ContinuitySession}
    {actions : List (Action Snapshot)} (h : w.Inv) (hfresh : Along (step errorText) Fresh w actions)
    (hsession : w.service.getSession id = some session)
    (hterminal : session.state.isTerminal = true) :
    (run (step errorText) w actions).service.getSession id = some session := by
  have hkept := hfresh.invariant
    (I := fun w => World.Inv w ∧ w.service.getSession id = some session)
    (fun _ _ h hfresh => ⟨h.1.step hfresh, getSession_step_of_terminal h.1 h.2 hterminal⟩)
    ⟨h, hsession⟩
  exact hkept.2

def Touched (w : World Snapshot) (id : String) : Prop :=
  ∃ task, w.tasks.get? id = some task ∧ stored task.past ≠ []

theorem ne_of_fresh {id id' : String} (htask : w.tasks.get? id = some task)
    (hfresh : Fresh w (.request id' request)) : id ≠ id' := by
  rintro rfl
  rw [hfresh.2] at htask
  cases htask

theorem Touched.step {id : String} (h : w.Touched id) (hfresh : Fresh w a) :
    (step errorText w a).Touched id := by
  obtain ⟨task, htask, hstored⟩ := h
  obtain ⟨id', request, rfl, hstep⟩ | ⟨id', task', op, next, collaborator, -, htask', -, hstep⟩
    | ⟨id', task', op, next, -, htask', -, -, hstep⟩ | hstep := step_cases errorText w a
  · have hne := ne_of_fresh htask hfresh
    exact ⟨task, by rw [hstep, begin, Dict.get?_set, if_neg hne, htask], hstored⟩
  · rw [hstep, Touched]
    simp only [World.advance, Dict.get?_set]
    split_ifs with hid
    · subst hid
      rw [htask, Option.some.injEq] at htask'
      subst htask'
      refine ⟨_, rfl, ?_⟩
      rw [stored_append]
      exact List.append_ne_nil_of_left_ne_nil hstored _
    · exact ⟨task, htask, hstored⟩
  · rw [hstep, Touched]
    simp only [World.stop, Dict.get?_set]
    split_ifs with hid
    · subst hid
      rw [htask, Option.some.injEq] at htask'
      subst htask'
      exact ⟨_, rfl, hstored⟩
    · exact ⟨task, htask, hstored⟩
  · rw [hstep]
    exact ⟨task, htask, hstored⟩

/-- A step of a call leaves the maps alone, or the call has stored a session. -/
theorem service_step (errorText : PyValue → PyValue → String) (w : World Snapshot)
    (a : Action Snapshot) :
    (step errorText w a).service = w.service ∨ (step errorText w a).Touched a.continuityId := by
  obtain ⟨_, _, -, hstep⟩ | ⟨id, task, op, next, collaborator, rfl, htask, -, hstep⟩
    | ⟨_, _, _, _, -, -, -, -, hstep⟩ | hstep := step_cases errorText w a
  · exact Or.inl (by rw [hstep]; rfl)
  · rw [hstep]
    cases hstored : stored? (⟨op, w.service.answer collaborator op⟩ : Event (Answer Snapshot)) with
    | none =>
        left
        cases op with
        | enter session =>
            cases hanswer : w.service.admission session with
            | error exc =>
                change w.service.record ⟨.enter session, w.service.admission session⟩ = w.service
                rw [hanswer]
                rfl
            | ok =>
                rw [ContinuityService.answer, hanswer] at hstored
                cases hstored
        | store session => cases hstored
        | createSnapshot | navigate | getRecord | transfer | continueWork => rfl
    | some session =>
        right
        refine ⟨_, by rw [Action.continuityId, World.advance, Dict.get?_set, if_pos rfl], ?_⟩
        simp [stored, hstored]
  · exact Or.inl (by rw [hstep]; rfl)
  · exact Or.inl (by rw [hstep])

def activeCalls (w : World Snapshot) : ℕ := w.tasks.entries.countP fun e => decide (Active e.2.past)

theorem activeSessions_eq (h : w.Inv) : w.service.activeSessions = w.activeCalls := by
  rw [ContinuityService.activeSessions, activeCalls]
  refine Dict.countP_eq_of_keys (p := fun session : ContinuitySession => !session.state.isTerminal)
    (q := fun task : Task Snapshot => decide (Active task.past)) fun id => ?_
  change (∃ session, w.service.getSession id = some session ∧ _) ↔ _
  rw [h.session id]
  cases htask : w.tasks.get? id with
  | none => simp
  | some task =>
      have hactive := active_iff_live (h.task htask).admitted
      simp [hactive, Live]

def Refused (w : World Snapshot) (id : String) : Prop :=
  ∃ task exc, w.tasks.get? id = some task ∧ task.rest = .done (.error exc)
    ∧ exc.cls = "DuplicateContinuityError"

theorem not_touched_of_refused {id : String} (h : w.Inv) (hrefused : w.Refused id) :
    ¬w.Touched id := by
  obtain ⟨task, exc, htask, hrest, hcls⟩ := hrefused
  rintro ⟨task', htask', hstored⟩
  rw [htask, Option.some.injEq] at htask'
  subst htask'
  have hmeets := (h.task htask).meets
  rw [hrest] at hmeets
  obtain hcancelled | ⟨exc', -, hpast⟩ | ⟨session, hreturned, -⟩ := hmeets
  · cases hcancelled
    exact absurd hcls (by decide)
  · rw [hpast] at hstored
    exact hstored rfl
  · cases hreturned

/-- **At most one live continuity for each work item.** A live session is the one its work is mapped
to, a refused call has changed nothing, a terminal session is there for good, and the live sessions
are those of the calls that were admitted and have not come to an end. -/
theorem one_live_continuity {actions : List (Action Snapshot)}
    (hfresh : Along (step errorText) Fresh {} actions) :
    let w := run (step errorText) {} actions
    (∀ id id' session session', w.service.getSession id = some session →
        w.service.getSession id' = some session' → session.state.isTerminal = false →
        session'.state.isTerminal = false →
        session.request.workId = session'.request.workId → id = id')
      ∧ (∀ id session, w.service.getSession id = some session → session.state.isTerminal = false →
        w.service.workContinuities.get? session.request.workId = some id)
      ∧ (∀ before a after, actions = before ++ a :: after → w.Refused a.continuityId →
        (step errorText (run (step errorText) {} before) a).service
          = (run (step errorText) {} before).service)
      ∧ (∀ before after id session, actions = before ++ after →
        (run (step errorText) {} before).service.getSession id = some session →
        session.state.isTerminal = true → w.service.getSession id = some session)
      ∧ w.service.activeSessions = w.activeCalls := by
  intro w
  have hinv : w.Inv := inv_run hfresh
  refine ⟨?_, fun id session => hinv.current, ?_, ?_, activeSessions_eq hinv⟩
  · intro id id' session session' hsession hsession' hlive hlive' hwork
    have hcurrent := hinv.current hsession hlive
    rw [hwork, hinv.current hsession' hlive', Option.some.injEq] at hcurrent
    exact hcurrent.symm
  · rintro before a after rfl hrefused
    rw [along_append, along_cons] at hfresh
    refine (service_step errorText _ a).resolve_right fun htouched => ?_
    have hlater := hfresh.2.2.invariant (I := fun w => w.Touched a.continuityId)
      (fun _ _ h hfresh => h.step hfresh) htouched
    rw [← run_cons, ← run_append] at hlater
    exact not_touched_of_refused hinv hrefused hlater
  · rintro before after id session rfl hsession hterminal
    rw [along_append] at hfresh
    change (run (step errorText) {} (before ++ after)).service.getSession id = _
    rw [run_append]
    exact getSession_run_of_terminal (inv_run hfresh.1) hfresh.2 hsession hterminal

def twoCalls : List (Action Unit) :=
  [.request "c" ContinuityService.draftRequest,
    .resume "c" (ContinuityService.obliging .completed []),
    .request "d" ContinuityService.draftRequest,
    .resume "d" (ContinuityService.obliging .completed [])]

theorem one_live_continuity_twoCalls :
    (run (step fun _ _ => "") {} twoCalls).service.activeSessions
      = (run (step fun _ _ => "") {} twoCalls).activeCalls := by
  have hfresh : Along (step fun _ _ => "") Fresh {} twoCalls := by
    refine ⟨⟨by decide, rfl⟩, trivial, ⟨by decide, rfl⟩, trivial, trivial⟩
  exact (one_live_continuity hfresh).2.2.2.2

/-! ### Cancellation -/

theorem ne_of_done {id id' : String} {task' : Task Snapshot} {result : Except Exc ContinuitySession}
    (htask : w.tasks.get? id = some task) (hrest : task.rest = .done result)
    (htask' : w.tasks.get? id' = some task') (hrest' : task'.rest = .ask op next) : id ≠ id' := by
  rintro rfl
  rw [htask, Option.some.injEq] at htask'
  rw [← htask', hrest] at hrest'
  cases hrest'

/-- A call that has ended takes no more steps, and its session stays as it is. -/
theorem step_of_done (errorText : PyValue → PyValue → String) {id : String}
    {result : Except Exc ContinuitySession} (h : w.Inv) (hfresh : Fresh w a)
    (htask : w.tasks.get? id = some task) (hrest : task.rest = .done result) :
    (step errorText w a).tasks.get? id = some task
      ∧ (step errorText w a).service.getSession id = w.service.getSession id := by
  obtain ⟨id', request, rfl, hstep⟩ | ⟨id', task', op, next, collaborator, -, htask', hrest', hstep⟩
    | ⟨id', task', op, next, -, htask', hrest', -, hstep⟩ | hstep := step_cases errorText w a
  · have hne := ne_of_fresh htask hfresh
    rw [hstep]
    exact ⟨by rw [begin, Dict.get?_set, if_neg hne, htask], rfl⟩
  · have hne := ne_of_done htask hrest htask' hrest'
    rw [hstep]
    exact ⟨by rw [World.advance, Dict.get?_set, if_neg hne, htask],
      getSession_advance_of_ne h htask' hrest' hne⟩
  · have hne := ne_of_done htask hrest htask' hrest'
    rw [hstep]
    exact ⟨by rw [stop, Dict.get?_set, if_neg hne, htask], rfl⟩
  · rw [hstep]
    exact ⟨htask, rfl⟩

/-- What the cancellation of a call at `id` should leave behind: no live session of the call, and no
refusal of its work on account of it. -/
def Settled (w : World Snapshot) (id workId : String) : Prop :=
  (∀ session, w.service.getSession id = some session → session.state.isTerminal = true)
    ∧ ∀ session exc, session.request.workId = workId → w.service.admission session = .error exc →
      ∃ id' existing, id' ≠ id ∧ w.service.workContinuities.get? workId = some id'
        ∧ w.service.getSession id' = some existing ∧ existing.state.isTerminal = false

/-- **Cancellation.** A cancelled call leaves its work settled if and only if it was cancelled at
the lock. -/
theorem cancelled_settled_iff {actions later : List (Action Snapshot)} {id : String}
    (hfresh : Along (step errorText) Fresh {} actions)
    (htask : (run (step errorText) {} actions).tasks.get? id = some task)
    (hrest : task.rest = .ask op next) (hsuspends : op.suspends = true)
    (hlater : Along (step errorText) Fresh
      (step errorText (run (step errorText) {} actions) (.cancel id)) later) :
    (run (step errorText) (step errorText (run (step errorText) {} actions) (.cancel id))
        later).Settled id task.request.workId
      ↔ ∃ session, op = .enter session := by
  have hinv := inv_run hfresh
  generalize run (step errorText) {} actions = w at *
  have hstop : step errorText w (.cancel id) = w.stop id task := by
    simp [step, htask, hrest, hsuspends]
  have hkept := hlater.invariant
    (I := fun w' => w'.Inv
      ∧ w'.tasks.get? id = some { task with rest := .done (.error cancelled) }
      ∧ w'.service.getSession id = w.service.getSession id)
    (fun w' a h hfresh => by
      obtain ⟨htask', hsame⟩ := step_of_done errorText h.1 hfresh h.2.1 rfl
      exact ⟨h.1.step hfresh, htask', hsame.trans h.2.2⟩)
    ⟨hinv.step (a := .cancel id) trivial, by rw [hstop, stop, Dict.get?_set, if_pos rfl],
      by rw [hstop]; rfl⟩
  obtain ⟨-, -, hsame⟩ := hkept
  have hstarts := (hinv.task htask).starts hrest
  have hlast : w.service.getSession id = (stored task.past).getLast? := by
    rw [hinv.session, htask, Option.bind_some]
  constructor
  · rintro ⟨hterminal, -⟩
    have hdead : ¬Live task.past := by
      rintro ⟨session, hsession, hlive⟩
      rw [← hlast, ← hsame] at hsession
      rw [hterminal session hsession] at hlive
      cases hlive
    cases op with
    | enter session => exact ⟨session, rfl⟩
    | getRecord | transfer | continueWork => exact absurd hstarts.1 hdead
    | store | createSnapshot | navigate => cases hsuspends
  · rintro ⟨session, rfl⟩
    obtain ⟨hpast, -⟩ := hstarts
    have hnone : w.service.getSession id = none := by
      rw [hlast, hpast]
      rfl
    rw [hnone] at hsame
    constructor
    · intro session hsession
      rw [hsame] at hsession
      cases hsession
    · intro session exc hsession hrefused
      obtain ⟨id', existing, hwork, hexisting, hlive⟩ :=
        ContinuityService.live_of_admission_error hrefused
      rw [hsession] at hwork
      refine ⟨id', existing, ?_, hwork, hexisting, hlive⟩
      rintro rfl
      rw [hsame] at hexisting
      cases hexisting

def transferring : List (Action Unit) :=
  .request "c" ContinuityService.draftRequest
    :: List.replicate 11 (.resume "c" (ContinuityService.obliging .completed []))

/-- Cancelled during the transfer, it leaves its session live and its work refused. -/
theorem cancelled_in_transfer :
    let w := run (step fun _ _ => "") {} (transferring ++ [.cancel "c"])
    (w.tasks.get? "c").map Task.rest = some (.done (.error cancelled)) ∧ ¬w.Settled "c" "w"
      ∧ w.service.admission (.new "d" ContinuityService.draftRequest)
        = .error (ContinuityError.duplicateContinuity "c" "w") := by
  intro w
  refine ⟨rfl, ?_, rfl⟩
  rintro ⟨hterminal, -⟩
  have hstate : (w.service.getSession "c").map (fun session => session.state.isTerminal)
      = some false := rfl
  cases hsession : w.service.getSession "c" with
  | none =>
      rw [hsession] at hstate
      cases hstate
  | some session =>
      rw [hsession, Option.map_some, hterminal session hsession] at hstate
      cases hstate

def waiting : List (Action Unit) := [.request "c" ContinuityService.draftRequest]

theorem cancelled_settled_iff_waiting :
    (run (step fun _ _ => "") (step (fun _ _ => "") (run (step fun _ _ => "") {} waiting)
      (.cancel "c")) []).Settled "c" "w" := by
  have hfresh : Along (step fun _ _ => "") Fresh {} waiting := ⟨⟨by decide, rfl⟩, trivial⟩
  have htask : (run (step fun _ _ => "") {} waiting).tasks.get? "c"
      = some ⟨ContinuityService.draftRequest, [],
          requestContinuity (fun _ _ => "") "c" ContinuityService.draftRequest⟩ := rfl
  exact (cancelled_settled_iff hfresh htask rfl rfl (along_nil _)).mpr ⟨_, rfl⟩

end World

end Continuity

end Shyam

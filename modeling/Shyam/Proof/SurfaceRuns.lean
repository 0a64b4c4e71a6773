import Shyam.Proof.ContinuityWorld
import Shyam.Surface.World

/-!
# What the surface shows

In any order of requests, readiness events and steps of the continuity service, a request is
answered at most once, and with a success exactly when Zarya has verified one. Where no event is on
its way, the coordinator shows whether the runtime is ready.
-/

namespace Shyam

open Python Interaction Sovereign Transition Continuity

variable {Snapshot : Type}

namespace Continuity.World

variable {errorText : PyValue → PyValue → String} {w : World Snapshot} {a : Action Snapshot}
  {id : String} {task : Task Snapshot}

/-- A call that has ended stays as it is. -/
theorem get?_step_of_done {result : Except Exc ContinuitySession} (hfresh : Fresh w a)
    (htask : w.tasks.get? id = some task) (hdone : task.rest = .done result) :
    (step errorText w a).tasks.get? id = some task := by
  obtain ⟨id', request, rfl, hstep⟩ | ⟨id', task', op, next, collaborator, -, htask', hrest, hstep⟩
    | ⟨id', task', op, next, -, htask', hrest, -, hstep⟩ | hstep := step_cases errorText w a
  · have hne : id ≠ id' := by
      rintro rfl
      rw [hfresh.2] at htask
      cases htask
    rw [hstep, begin, Dict.get?_set, if_neg hne, htask]
  · have hne : id ≠ id' := by
      rintro rfl
      rw [htask, Option.some.injEq] at htask'
      rw [htask', hrest] at hdone
      cases hdone
    rw [hstep, advance, Dict.get?_set, if_neg hne, htask]
  · have hne : id ≠ id' := by
      rintro rfl
      rw [htask, Option.some.injEq] at htask'
      rw [htask', hrest] at hdone
      cases hdone
    rw [hstep, stop, Dict.get?_set, if_neg hne, htask]
  · rw [hstep, htask]

theorem isSome_get?_step (h : (w.tasks.get? id).isSome = true) :
    ((step errorText w a).tasks.get? id).isSome = true := by
  obtain ⟨id', request, rfl, hstep⟩ | ⟨id', task', op, next, collaborator, -, htask', hrest, hstep⟩
    | ⟨id', task', op, next, -, htask', hrest, -, hstep⟩ | hstep := step_cases errorText w a
  · rw [hstep, begin, Dict.get?_set]
    split_ifs
    · rfl
    · exact h
  · rw [hstep, advance, Dict.get?_set]
    split_ifs
    · rfl
    · exact h
  · rw [hstep, stop, Dict.get?_set]
    split_ifs
    · rfl
    · exact h
  · rw [hstep]
    exact h

end Continuity.World

namespace Surface

/-! ### One request -/

theorem handleRequest_cases (lower : String → String) (readiness : EcosystemReadiness)
    (services : RuntimeServices) (text : String) (current : SurfaceState) :
    (readiness ≠ .ready ∧ handleRequest lower readiness services text current
        = (.degraded, .respond Presenter.degradedResponse))
      ∨ handleRequest lower readiness services text current
        = (current, .respond Presenter.unknownIntentResponse)
      ∨ handleRequest lower readiness services text current
        = (.failed, .respond (Presenter.failureResponse "Continuity service is not available."))
      ∨ (∃ exc, handleRequest lower readiness services text current = (.executing, .raise exc))
      ∨ ∃ sourceDeviceId, handleRequest lower readiness services text current
        = (.executing, .await (continuityReq sourceDeviceId)) := by
  rw [handleRequest]
  split_ifs with hready
  · exact .inl ⟨hready, rfl⟩
  · cases IntentParser.parse lower text with
    | unknown => exact .inr (.inl rfl)
    | continueWork =>
        dsimp only
        rw [handleContinueWork]
        split_ifs
        · exact .inr (.inr (.inl rfl))
        · rcases services.identity with _ | ⟨exc⟩ | ⟨nodeId⟩
          · exact .inr (.inr (.inr (.inr ⟨_, rfl⟩)))
          · exact .inr (.inr (.inr (.inl ⟨exc, rfl⟩)))
          · exact .inr (.inr (.inr (.inr ⟨nodeId, rfl⟩)))

/-- A final session is read as a success exactly when Zarya has verified one. -/
theorem outcomeOf_eq_success_iff {continuityId : String} {request : ContinuityRequest}
    {past : Past Snapshot} {session : ContinuitySession}
    (h : Final continuityId request past session) :
    outcomeOf session = some .success ↔ VerifiedSuccess past := by
  obtain ⟨result, hresult, hcompleted, -, -, -, hverified⟩ := h.consistent
  rw [outcomeOf, hresult, Option.some.injEq, ← hcompleted, hverified]

theorem not_verifiedSuccess_of_refused {session : ContinuitySession} {exc : Exc} :
    ¬VerifiedSuccess ([⟨.enter session, .error exc⟩] : Past Snapshot) := by
  rintro ⟨_, _, _, _, _, hmem, -⟩
  rw [List.mem_singleton] at hmem
  cases hmem

theorem finishContinueWork_cases (current : SurfaceState) {continuityId : String}
    {request : ContinuityRequest} {past : Past Snapshot} {result : Except Exc ContinuitySession}
    (h : TaskEnds continuityId request past result) :
    (finishContinueWork current result = (.completed, .ok Presenter.successResponse)
      ∧ VerifiedSuccess past)
      ∨ (∃ detail, finishContinueWork current result
        = (.failed, .ok (Presenter.failureResponse detail))
          ∧ ¬VerifiedSuccess past)
      ∨ ∃ exc, finishContinueWork current result = (current, .error exc) := by
  obtain rfl | ⟨exc, rfl, rfl⟩ | ⟨session, rfl, hfinal⟩ := h
  · exact .inr (.inr ⟨cancelled, rfl⟩)
  · rw [finishContinueWork]
    split_ifs
    · exact .inr (.inr ⟨exc, rfl⟩)
    · exact .inr (.inl ⟨exc.text, rfl, not_verifiedSuccess_of_refused⟩)
  · rw [finishContinueWork, ← outcomeOf_eq_success_iff hfinal]
    split_ifs with hsuccess
    · exact .inl ⟨rfl, hsuccess⟩
    · exact .inr (.inl ⟨_, rfl, hsuccess⟩)

/-! ### Any number of requests -/

namespace World

/-- The call that an answer waited for has ended with a verified success. -/
def Completes (w : World Snapshot) (continuityId : Option String) : Prop :=
  ∃ id task, continuityId = some id ∧ w.continuity.tasks.get? id = some task
    ∧ VerifiedSuccess task.past

/-- What the state says is so. -/
structure Shows (w : World Snapshot) : Prop where
  shown : w.state ≠ .listening ∧ w.state ≠ .understanding
  completed : w.state = .completed → ∃ answer ∈ w.answers, answer.2.state = .completed
  executing : w.state = .executing → w.waiting ≠ [] ∨ w.raised ≠ []
  mirrors : w.subscribed = true → w.events = [] →
    (w.state = .idle → w.readiness = .ready) ∧ (w.state = .degraded → w.readiness ≠ .ready)

structure Truthful (w : World Snapshot) : Prop extends w.Shows where
  verified : ∀ answer ∈ w.answers, answer.2.state = .completed ↔ w.Completes answer.1
  once : (w.answers.filterMap Prod.fst ++ w.waiting).Nodup

/-- What is waited for has begun, and what is answered has ended. The last event is the
readiness. -/
structure Inv (w : World Snapshot) : Prop extends w.Truthful where
  continuity : w.continuity.Inv
  waiting : ∀ id ∈ w.waiting, (w.continuity.tasks.get? id).isSome = true
  answered : ∀ id ∈ w.answers.filterMap Prod.fst,
    ∃ task result, w.continuity.tasks.get? id = some task ∧ task.rest = .done result
  quiet : w.subscribed = false → w.events = []
  latest : ∀ event ∈ w.events.getLast?, event = w.readiness

variable {lower : String → String} {errorText : PyValue → PyValue → String} {w : World Snapshot}
  {id : String}

/-! ### Readiness -/

theorem Inv.start (h : w.Inv) : (step lower errorText w .start).Inv where
  toTruthful := by
    refine ⟨?_, h.verified, h.once⟩
    constructor
    all_goals dsimp only [step, startState]
    · split_ifs <;> simp
    · split_ifs <;> simp
    · split_ifs <;> simp
    · intro _ _
      split_ifs with hready
      · exact ⟨by simp, fun _ => hready⟩
      · exact ⟨fun _ => not_not.mp hready, by simp⟩
  continuity := h.continuity
  waiting := h.waiting
  answered := h.answered
  quiet := fun hsubscribed => nomatch hsubscribed
  latest := h.latest

theorem Inv.setReadiness (h : w.Inv) (new : EcosystemReadiness) : (w.setReadiness new).Inv := by
  rw [World.setReadiness]
  split_ifs with hsame hsubscribed
  · exact h
  · refine ⟨⟨⟨h.shown, h.completed, h.executing, ?_⟩, h.verified, h.once⟩, h.continuity,
      h.waiting, h.answered, ?_, ?_⟩
    · intro _ hevents
      exact absurd hevents (List.append_ne_nil_of_right_ne_nil _ (List.cons_ne_nil new []))
    · intro hsubscribed'
      exact absurd hsubscribed (Bool.eq_false_iff.mp hsubscribed')
    · intro event hevent
      rw [List.getLast?_concat, Option.mem_some_iff] at hevent
      exact hevent.symm
  · refine ⟨⟨⟨h.shown, h.completed, h.executing, ?_⟩, h.verified, h.once⟩, h.continuity, h.waiting,
      h.answered, h.quiet, ?_⟩
    · intro hsubscribed'
      exact absurd hsubscribed' hsubscribed
    · intro event hevent
      rw [h.quiet (Bool.eq_false_iff.mpr hsubscribed)] at hevent
      cases hevent

theorem onReadinessChanged_cases (event : EcosystemReadiness) (current : SurfaceState) :
    (onReadinessChanged event current = current ∧ (current = .idle → event = .ready)
      ∧ current ≠ .degraded)
      ∨ (onReadinessChanged event current = .idle ∧ event = .ready)
      ∨ (onReadinessChanged event current = .degraded ∧ event ≠ .ready) := by
  rw [onReadinessChanged]
  split_ifs with hready hdegraded hshown
  · exact .inr (.inl ⟨rfl, hready⟩)
  · exact .inl ⟨rfl, fun _ => hready, hdegraded⟩
  · exact .inr (.inr ⟨rfl, hready⟩)
  · rw [not_or] at hshown
    exact .inl ⟨rfl, fun hidle => absurd hidle hshown.1, hshown.2⟩

/-- The last event on its way brings the state up to date. -/
theorem shows_deliver {event : EcosystemReadiness} {events : List EcosystemReadiness} (h : w.Shows)
    (hlast : events = [] → event = w.readiness) :
    Shows { w with state := onReadinessChanged event w.state, events := events } := by
  have hmirrors {state : SurfaceState} (hidle : state = .idle → event = .ready)
      (hdegraded : state = .degraded → event ≠ .ready) (hnil : events = []) :
      (state = .idle → w.readiness = .ready) ∧ (state = .degraded → w.readiness ≠ .ready) := by
    rw [← hlast hnil]
    exact ⟨hidle, hdegraded⟩
  obtain ⟨hstate, hidle, hdegraded⟩ | ⟨hstate, hready⟩ | ⟨hstate, hready⟩ :=
    onReadinessChanged_cases event w.state
  · rw [hstate]
    exact ⟨h.shown, h.completed, h.executing,
      fun _ => hmirrors hidle fun heq => absurd heq hdegraded⟩
  · rw [hstate]
    exact ⟨by simp, by simp, by simp, fun _ => hmirrors (fun _ => hready) (by simp)⟩
  · rw [hstate]
    exact ⟨by simp, by simp, by simp, fun _ => hmirrors (by simp) fun _ => hready⟩

theorem Inv.deliver (h : w.Inv) : w.deliver.Inv := by
  cases hevents : w.events with
  | nil =>
      rw [World.deliver, hevents]
      exact h
  | cons event events =>
      have hdeliver : w.deliver = { w with
          state := onReadinessChanged event w.state, events := events } := by
        rw [World.deliver, hevents]
      rw [hdeliver]
      refine ⟨⟨shows_deliver h.toShows ?_, h.verified, h.once⟩, h.continuity,
        h.waiting, h.answered, ?_, ?_⟩
      · rintro rfl
        exact h.latest event (by rw [hevents]; rfl)
      · intro hsubscribed
        rw [h.quiet hsubscribed] at hevents
        cases hevents
      · intro last hlast
        apply h.latest last
        rw [hevents]
        cases events with
        | nil => cases hlast
        | cons e es => exact hlast

/-! ### Requests -/

theorem shows_failed (w : World Snapshot) : Shows { w with state := .failed } :=
  ⟨by simp, by simp, by simp, by simp⟩

theorem shows_degraded (h : w.readiness ≠ .ready) : Shows { w with state := .degraded } :=
  ⟨by simp, by simp, by simp, fun _ _ => ⟨by simp, fun _ => h⟩⟩

theorem Inv.respond (h : w.Inv) {state : SurfaceState} {response : InteractionResponse}
    (hshows : Shows { w with state := state }) (hresponse : response.state ≠ .completed) :
    Inv { w with state := state, answers := w.answers ++ [(none, response)] } where
  shown := hshows.shown
  completed := by
    intro hstate
    obtain ⟨answer, hmem, hcompleted⟩ := hshows.completed hstate
    exact ⟨answer, List.mem_append_left _ hmem, hcompleted⟩
  executing := hshows.executing
  mirrors := hshows.mirrors
  verified := by
    intro answer hmem
    obtain hmem | hmem := List.mem_append.mp hmem
    · exact h.verified answer hmem
    · rw [List.mem_singleton.mp hmem]
      refine ⟨fun heq => absurd heq hresponse, ?_⟩
      rintro ⟨id, task, hid, -⟩
      cases hid
  once := by
    rw [List.filterMap_append]
    exact (List.append_nil (w.answers.filterMap Prod.fst)).symm ▸ h.once
  continuity := h.continuity
  waiting := h.waiting
  answered := by
    intro id hmem
    apply h.answered id
    rw [List.filterMap_append] at hmem
    exact (List.append_nil (w.answers.filterMap Prod.fst)) ▸ hmem
  quiet := h.quiet
  latest := h.latest

theorem Inv.fail (h : w.Inv) (exc : Exc) :
    Inv { w with state := .executing, raised := w.raised ++ [exc] } := by
  refine ⟨⟨⟨by simp, by simp, ?_, by simp⟩, h.verified, h.once⟩, h.continuity, h.waiting,
    h.answered, h.quiet, h.latest⟩
  intro _
  exact .inr (List.append_ne_nil_of_right_ne_nil _ (List.cons_ne_nil exc []))

/-- What has ended stays, and what has begun is not forgotten. -/
theorem Inv.withContinuity (h : w.Inv) {continuity : Continuity.World Snapshot}
    (hinv : continuity.Inv)
    (hdone : ∀ {id task result}, w.continuity.tasks.get? id = some task → task.rest = .done result →
      continuity.tasks.get? id = some task)
    (hsome : ∀ {id}, (w.continuity.tasks.get? id).isSome = true →
      (continuity.tasks.get? id).isSome = true) :
    Inv { w with continuity := continuity } where
  toShows := ⟨h.shown, h.completed, h.executing, h.mirrors⟩
  verified := by
    rintro ⟨continuityId, response⟩ hmem
    rw [h.verified _ hmem]
    cases continuityId with
    | none =>
        constructor
        · rintro ⟨id, task, hid, -⟩
          cases hid
        · rintro ⟨id, task, hid, -⟩
          cases hid
    | some id =>
        obtain ⟨task, result, htask, hrest⟩ := h.answered id (List.mem_filterMap.mpr ⟨_, hmem, rfl⟩)
        have htask' := hdone htask hrest
        constructor
        · rintro ⟨_, task', ⟨rfl⟩, hget, hverified⟩
          rw [htask, Option.some.injEq] at hget
          exact ⟨id, task, rfl, htask', hget ▸ hverified⟩
        · rintro ⟨_, task', ⟨rfl⟩, hget, hverified⟩
          rw [htask', Option.some.injEq] at hget
          exact ⟨id, task, rfl, htask, hget ▸ hverified⟩
  once := h.once
  continuity := hinv
  waiting := fun id hmem => hsome (h.waiting id hmem)
  answered := by
    intro id hmem
    obtain ⟨task, result, htask, hrest⟩ := h.answered id hmem
    exact ⟨task, result, hdone htask hrest, hrest⟩
  quiet := h.quiet
  latest := h.latest

theorem Inv.continuityStep (h : w.Inv) {action : Continuity.Action Snapshot}
    (hfresh : w.continuity.Fresh action) :
    Inv { w with continuity := w.continuity.step errorText action } :=
  h.withContinuity (h.continuity.step hfresh) (Continuity.World.get?_step_of_done hfresh)
    Continuity.World.isSome_get?_step

/-- A request that waits is executing. -/
theorem Inv.wait (h : w.Inv) (hnew : id ∉ w.answers.filterMap Prod.fst ++ w.waiting)
    (hbegun : (w.continuity.tasks.get? id).isSome = true) :
    Inv { w with state := .executing, waiting := w.waiting ++ [id] } where
  toShows := by
    refine ⟨by simp, by simp, fun _ => .inl ?_, by simp⟩
    exact List.append_ne_nil_of_right_ne_nil _ (List.cons_ne_nil id [])
  verified := h.verified
  once := by
    change (w.answers.filterMap Prod.fst ++ (w.waiting ++ [id])).Nodup
    rw [← List.append_assoc]
    exact List.nodup_append.mpr ⟨h.once, List.nodup_singleton id, fun a ha b hb => by
      rw [List.mem_singleton.mp hb]
      rintro rfl
      exact hnew ha⟩
  continuity := h.continuity
  waiting := by
    intro id' hmem
    obtain hmem | hmem := List.mem_append.mp hmem
    · exact h.waiting id' hmem
    · exact List.mem_singleton.mp hmem ▸ hbegun
  answered := h.answered
  quiet := h.quiet
  latest := h.latest

theorem Inv.not_mem_of_fresh (h : w.Inv) (hnone : w.continuity.tasks.get? id = none) :
    id ∉ w.answers.filterMap Prod.fst ++ w.waiting := by
  rw [List.mem_append]
  rintro (hanswered | hwaiting)
  · obtain ⟨task, result, htask, -⟩ := h.answered id hanswered
    rw [hnone] at htask
    cases htask
  · have hsome := h.waiting id hwaiting
    rw [hnone] at hsome
    cases hsome

theorem Inv.request (h : w.Inv) (services : RuntimeServices) (text : String)
    (hfresh : id ≠ "" ∧ w.continuity.tasks.get? id = none) :
    (w.request lower errorText id services text).Inv := by
  rw [World.request]
  obtain ⟨hready, hstep⟩ | hstep | hstep | ⟨exc, hstep⟩ | ⟨sourceDeviceId, hstep⟩ :=
    handleRequest_cases lower w.readiness services text w.state
  all_goals rw [hstep]
  · exact h.respond (shows_degraded hready) (by simp [Presenter.degradedResponse])
  · exact h.respond h.toShows (by simp [Presenter.unknownIntentResponse])
  · exact h.respond (shows_failed w) (by simp [Presenter.failureResponse])
  · exact h.fail exc
  · have hbegun :
        ((w.continuity.begin errorText id (continuityReq sourceDeviceId)).tasks.get? id).isSome
          = true := by
      rw [Continuity.World.begin, Dict.get?_set, if_pos rfl]
      rfl
    have hstepped : Inv { w with
        continuity := w.continuity.step errorText (.request id (continuityReq sourceDeviceId)) } :=
      h.continuityStep hfresh
    exact hstepped.wait (h.not_mem_of_fresh hfresh.2) hbegun

/-- A request that waited is answered by the end of its call. -/
theorem Inv.settle (h : w.Inv) {state : SurfaceState} {response : InteractionResponse}
    {task : Continuity.Task Snapshot} {result : Except Exc ContinuitySession}
    (hwaiting : id ∈ w.waiting) (htask : w.continuity.tasks.get? id = some task)
    (hdone : task.rest = .done result)
    (hstate : state = .completed ∧ response.state = .completed ∨ state = .failed)
    (hverified : response.state = .completed ↔ VerifiedSuccess task.past) :
    Inv { w with
      state := state
      waiting := w.waiting.erase id
      answers := w.answers ++ [(some id, response)] } where
  toShows := by
    obtain ⟨rfl, hcompleted⟩ | rfl := hstate
    · exact ⟨by simp, fun _ => ⟨_, List.mem_append_right _ List.mem_cons_self, hcompleted⟩,
        by simp, by simp⟩
    · exact ⟨by simp, by simp, by simp, by simp⟩
  verified := by
    intro answer hmem
    obtain hmem | hmem := List.mem_append.mp hmem
    · exact h.verified answer hmem
    · rw [List.mem_singleton.mp hmem, hverified]
      constructor
      · exact fun hsuccess => ⟨id, task, rfl, htask, hsuccess⟩
      · rintro ⟨_, task', ⟨rfl⟩, hget, hsuccess⟩
        rw [htask, Option.some.injEq] at hget
        exact hget ▸ hsuccess
  once := by
    rw [List.filterMap_append, List.append_assoc]
    exact (((List.perm_cons_erase hwaiting).append_left _).nodup_iff).mp h.once
  continuity := h.continuity
  waiting := fun id' hmem => h.waiting id' (List.mem_of_mem_erase hmem)
  answered := by
    intro id' hmem
    rw [List.filterMap_append] at hmem
    obtain hmem | hmem := List.mem_append.mp hmem
    · exact h.answered id' hmem
    · rw [List.mem_singleton.mp hmem]
      exact ⟨task, result, htask, hdone⟩
  quiet := h.quiet
  latest := h.latest

/-- A request that raises waits no more. -/
theorem Inv.abandon (h : w.Inv) (exc : Exc) :
    Inv { w with waiting := w.waiting.erase id, raised := w.raised ++ [exc] } where
  toShows := by
    refine ⟨h.shown, h.completed, fun _ => .inr ?_, h.mirrors⟩
    exact List.append_ne_nil_of_right_ne_nil _ (List.cons_ne_nil exc [])
  verified := h.verified
  once := h.once.sublist ((List.erase_sublist).append_left _)
  continuity := h.continuity
  waiting := fun id' hmem => h.waiting id' (List.mem_of_mem_erase hmem)
  answered := h.answered
  quiet := h.quiet
  latest := h.latest

theorem Inv.finish (h : w.Inv) (id : String) : (w.finish id).Inv := by
  rw [World.finish]
  cases htask : w.continuity.tasks.get? id with
  | none => exact h
  | some task =>
      cases hdone : task.rest with
      | ask op next => simpa only [hdone] using h
      | done result =>
          simp only [hdone]
          split_ifs with hwaiting
          · have hends : TaskEnds id task.request task.past result := by
              have hmeets := (h.continuity.task htask).meets
              rw [hdone] at hmeets
              exact hmeets
            rw [ended]
            obtain ⟨hfinish, hverified⟩ | ⟨detail, hfinish, hverified⟩ | ⟨exc, hfinish⟩ :=
              finishContinueWork_cases w.state hends
            all_goals rw [hfinish]
            · exact h.settle hwaiting htask hdone (.inl ⟨rfl, rfl⟩)
                ⟨fun _ => hverified, fun _ => rfl⟩
            · refine h.settle hwaiting htask hdone (.inr rfl) ⟨fun heq => ?_,
                fun hsuccess => absurd hsuccess hverified⟩
              cases heq
            · exact h.abandon exc
          · exact h

/-- **One step** keeps every answer true and the state with it. -/
theorem Inv.step (h : w.Inv) {action : Action Snapshot} (hfresh : w.Fresh action) :
    (step lower errorText w action).Inv := by
  cases action with
  | start => exact h.start
  | readiness new => exact h.setReadiness new
  | deliver => exact h.deliver
  | request id services text => exact h.request services text hfresh
  | continuity action => exact h.continuityStep hfresh
  | finish id => exact h.finish id

theorem inv_initial : Inv ({} : World Snapshot) where
  shown := by simp
  completed := by simp
  executing := by simp
  mirrors := by simp
  verified := by simp
  once := by simp
  continuity := Continuity.World.inv_initial
  waiting := by simp
  answered := by simp
  quiet := by simp
  latest := by simp

/-- **The surface is truthful.** In any order of requests, events and steps of the continuity
service, each request is answered at most once, with a success exactly when Zarya has verified one
for it. A state that says that work is being executed or is completed rests on a request, and where
no event is on its way the state tells whether the runtime is ready. -/
theorem surface_truthful (lower : String → String) (errorText : PyValue → PyValue → String)
    (actions : List (Action Snapshot)) (hfresh : Along (step lower errorText) Fresh {} actions) :
    (run (step lower errorText) {} actions).Truthful :=
  (hfresh.invariant (I := Inv) (fun _ _ h hfresh => h.step hfresh) inv_initial).toTruthful

/-- One request, on a runtime that has become ready. -/
def continuedWork : List (Action Unit) :=
  .start :: .readiness .ready :: .deliver :: .request "c" ⟨true, some (.ok "a")⟩ "Continue my work"
    :: (List.replicate 20 (.continuity (.resume "c" (ContinuityService.obliging .completed [])))
      ++ [.finish "c"])

theorem surface_truthful_continued :
    (run (step (fun text => String.ofList (text.toList.map Char.toLower)) fun _ _ => "") {}
      continuedWork).Truthful := by
  apply surface_truthful
  refine ⟨trivial, trivial, trivial, ⟨by simp, rfl⟩, along_of_forall fun action hmem w => ?_⟩
  rcases List.mem_append.mp hmem with hmem | hmem
  · rw [List.eq_of_mem_replicate hmem]
    trivial
  · rw [List.mem_singleton.mp hmem]
    trivial

example : (run (step (fun text => String.ofList (text.toList.map Char.toLower)) fun _ _ => "") {}
    continuedWork).state = .completed := by
  rfl

end World

end Surface

end Shyam

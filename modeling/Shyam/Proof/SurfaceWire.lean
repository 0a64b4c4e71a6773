import Shyam.Proof.ContinuityWire
import Shyam.Proof.SurfaceRuns

/-!
# From the surface to the wire

The coordinator, the continuity service, the navigator, the trust service and the client of Zarya
together. When the user is told that the work goes on, the runtime has sent it over HTTP for the
target of a candidate that it had ranked first and found trusted, and the answer said that the
success is verified.
-/

namespace Shyam

open Python Interaction Transition Continuity

namespace Surface

/-- Every step of a call takes place at one of the moments. -/
def Wired (d : Deployment) (moments : Set Moment) : Action EcosystemSnapshot → Prop
  | .continuity action => Continuity.Wired d moments action
  | _ => True

variable {d : Deployment} {moments : Set Moment} {errorText : PyValue → PyValue → String}
  {lower : String → String}

/-! ### Whole runs -/

namespace World

/-- What a step of the world is for the continuity service. -/
theorem continuity_step (w : World EcosystemSnapshot) (action : Action EcosystemSnapshot) :
    (step lower errorText w action).continuity = w.continuity
      ∨ (∃ id request, (step lower errorText w action).continuity
          = w.continuity.step errorText (.request id request))
      ∨ ∃ action', action = .continuity action'
          ∧ (step lower errorText w action).continuity = w.continuity.step errorText action' := by
  cases action with
  | start => exact .inl rfl
  | readiness new =>
      left
      change (w.setReadiness new).continuity = _
      rw [setReadiness]
      split_ifs <;> rfl
  | deliver =>
      left
      change w.deliver.continuity = _
      rw [deliver]
      cases w.events <;> rfl
  | request id services text =>
      have hrequest : step lower errorText w (.request id services text)
          = w.request lower errorText id services text := rfl
      rw [hrequest, request]
      rcases handleRequest lower w.readiness services text w.state
        with ⟨state, response | exc | req⟩
      · exact .inl rfl
      · exact .inl rfl
      · exact .inr (.inl ⟨id, req, rfl⟩)
  | continuity action' => exact .inr (.inr ⟨action', rfl, rfl⟩)
  | finish id =>
      left
      change (w.finish id).continuity = _
      rw [finish]
      split
      · split
        · split_ifs
          · rw [ended]
            split <;> rfl
          · rfl
        · rfl
      · rfl

theorem traced_step {w : World EcosystemSnapshot} {action : Action EcosystemSnapshot}
    (h : w.continuity.Traced errorText (Told d moments)) (hwired : Wired d moments action) :
    (step lower errorText w action).continuity.Traced errorText (Told d moments) := by
  obtain hsame | ⟨id, request, hstep⟩ | ⟨action', rfl, hstep⟩ := continuity_step w action
  · rw [hsame]
    exact h
  · rw [hstep]
    exact h.wired_step trivial
  · rw [hstep]
    exact h.wired_step hwired

theorem traced_run {actions : List (Action EcosystemSnapshot)}
    (hwired : ∀ action ∈ actions, Wired d moments action) :
    (run (step lower errorText) {} actions).continuity.Traced errorText (Told d moments) := by
  have hsteps : Along (step lower errorText) (fun _ action => Wired d moments action) {} actions :=
    along_of_forall_mem hwired
  exact hsteps.invariant (I := fun w => w.continuity.Traced errorText (Told d moments))
    (fun w action h hwired => traced_step h hwired) Continuity.World.traced_initial

/-- **From the surface to the wire.** In every run of the world, whatever the network does and
however the requests are interleaved: when the user is told that the work goes on, a candidate had
been ranked first and its trust record said TRUSTED, and the work was posted by the client for the
URL of its target, the own one where it has none, and answered with a verified success. -/
theorem success_is_verified (d : Deployment) (errorText : PyValue → PyValue → String)
    (moments : Set Moment) {actions : List (Action EcosystemSnapshot)}
    (hfresh : Along (step d.lower errorText) Fresh {} actions)
    (hwired : ∀ action ∈ actions, Wired d moments action)
    {answer : Option String × InteractionResponse}
    (hanswer : answer ∈ (run (step d.lower errorText) {} actions).answers)
    (hcompleted : answer.2.state = .completed) :
    ∃ continuityId task handover, answer.1 = some continuityId
      ∧ (run (step d.lower errorText) {} actions).continuity.tasks.get? continuityId = some task
      ∧ VerifiedBy d errorText moments continuityId task.request handover := by
  have hinv : (run (step d.lower errorText) {} actions).Inv :=
    hfresh.invariant (I := Inv) (fun _ _ h hfresh => h.step hfresh) inv_initial
  obtain ⟨id, task, hid, htask, hverified⟩ := (hinv.verified answer hanswer).mp hcompleted
  obtain ⟨handover, hverifiedBy⟩ :=
    exists_verifiedBy (hinv.continuity.task htask) (traced_run hwired id task htask) hverified
  exact ⟨id, task, handover, hid, htask, hverifiedBy⟩

end World

/-! ### A laptop that confirms -/

/-- One request to continue the work, all of it at one moment. -/
def homeActions (moment : Moment) : List (Action EcosystemSnapshot) :=
  .start :: .readiness .ready :: .deliver :: .request "c" ⟨true, some (.ok "a")⟩ "continue my work"
    :: (List.replicate 20 (.continuity (.resume "c" (moment.collaborator homeDeployment)))
      ++ [.finish "c"])

theorem fresh_homeActions (moment : Moment) :
    Along (World.step id fun _ _ => "") World.Fresh ({} : World EcosystemSnapshot)
      (homeActions moment) := by
  refine ⟨trivial, trivial, trivial, ⟨by simp, rfl⟩, along_of_forall fun action hmem w => ?_⟩
  rcases List.mem_append.mp hmem with hmem | hmem
  · rw [List.eq_of_mem_replicate hmem]
    trivial
  · rw [List.mem_singleton.mp hmem]
    trivial

theorem wired_homeActions (moment : Moment) :
    ∀ action ∈ homeActions moment, Wired homeDeployment {moment} action := by
  simp only [homeActions, List.mem_cons, List.mem_append, List.mem_replicate,
    List.not_mem_nil, or_false]
  rintro _ (rfl | rfl | rfl | rfl | ⟨-, rfl⟩ | rfl)
  · trivial
  · trivial
  · trivial
  · trivial
  · exact ⟨moment, rfl, rfl⟩
  · trivial

theorem success_is_verified_home : ∃ continuityId task handover, some "c" = some continuityId
    ∧ (run (World.step id fun _ _ => "") {} (homeActions atHome)).continuity.tasks.get? continuityId
      = some task
    ∧ VerifiedBy homeDeployment (fun _ _ => "") {atHome} continuityId task.request handover := by
  have hanswer : (some "c", Presenter.successResponse)
      ∈ (run (World.step id fun _ _ => "") {} (homeActions atHome)).answers := by
    decide +kernel
  exact World.success_is_verified homeDeployment (fun _ _ => "") {atHome} (fresh_homeActions atHome)
    (wired_homeActions atHome) hanswer rfl

end Surface

end Shyam

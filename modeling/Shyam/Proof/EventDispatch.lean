import Shyam.Events.Dispatch
import Shyam.Lib.Run
import Mathlib.Data.List.Induction

/-!
# Which handlers an event reaches

A table of handlers amounts to the registrations that are in force. A publication goes to each of
them once, and to the handlers of envelopes for a class of events even where the event is of another
class.
-/

namespace Shyam

open Python Transition

namespace EventBus

/-! ### Two passes over a list -/

section Lists

variable {α β : Type}

theorem filter_append_filter_perm {p q : α → Bool} (hdisjoint : ∀ x, p x = true → q x = false)
    (f g : α → β) (l : List α) : ((l.filter p).map f ++ (l.filter q).map g).Perm
      (l.filterMap fun x => if p x then some (f x) else if q x then some (g x) else none) := by
  induction l with
  | nil => exact .nil
  | cons x l ih =>
      cases hp : p x with
      | true =>
          simp only [List.filter_cons, hp, hdisjoint x hp, if_true, List.filterMap_cons,
            List.map_cons, List.cons_append, Bool.false_eq_true, if_false]
          exact ih.cons _
      | false =>
          cases hq : q x with
          | true =>
              simp only [List.filter_cons, hp, hq, if_true, List.filterMap_cons, List.map_cons,
                Bool.false_eq_true, if_false]
              exact List.perm_middle.trans (ih.cons _)
          | false =>
              simp only [List.filter_cons, hp, hq, List.filterMap_cons,
                Bool.false_eq_true, if_false]
              exact ih

/-- Leaving some out changes the result, unless nothing is left out. -/
theorem filterMap_perm_iff {f g : α → Option β} (hsub : ∀ x, g x = none ∨ g x = f x) {l : List α} :
    (l.filterMap f).Perm (l.filterMap g) ↔ ∀ x ∈ l, g x = f x := by
  have hlength : ∀ l : List α, (l.filterMap g).length ≤ (l.filterMap f).length := by
    intro l
    induction l with
    | nil => exact le_rfl
    | cons x l ih =>
        rcases hsub x with hnone | hsame
        · rw [List.filterMap_cons_none hnone]
          exact ih.trans ((List.sublist_cons_self x l).filterMap f).length_le
        · rw [List.filterMap_cons, List.filterMap_cons, hsame]
          cases f x with
          | none => exact ih
          | some y => exact Nat.succ_le_succ ih
  constructor
  · intro hperm
    have heq := hperm.length_eq
    clear hperm
    induction l with
    | nil => exact fun x hx => absurd hx List.not_mem_nil
    | cons x l ih =>
        have hx : g x = f x := by
          rcases hsub x with hnone | hsame
          · cases hf : f x with
            | none => exact hnone
            | some y =>
                rw [List.filterMap_cons_none hnone, List.filterMap_cons_some hf,
                  List.length_cons] at heq
                exact absurd heq (by have := hlength l; omega)
          · exact hsame
        rw [List.forall_mem_cons]
        refine ⟨hx, ih ?_⟩
        rw [List.filterMap_cons, List.filterMap_cons, hx] at heq
        cases hf : f x with
        | none =>
            rw [hf] at heq
            exact heq
        | some y =>
            rw [hf] at heq
            exact Nat.succ.inj heq
  · intro h
    rw [List.filterMap_congr h]

end Lists

variable {Class Handler : Type}

/-! ### Registrations -/

abbrev Registration (Class Handler : Type) := RegisteredType Class × Handler

def registrations (self : Bus Class Handler) : List (Registration Class Handler) :=
  self.subscribers.flatMap fun entry => entry.2.map (Prod.mk entry.1)

/-- Whether a registration is in force after a call, given whether it was before. -/
def Call.InForce (registration : Registration Class Handler) (before : Prop) :
    Call Class Handler → Prop
  | .subscribe eventType handler => (eventType, handler) = registration ∨ before
  | .unsubscribe eventType handler => (eventType, handler) ≠ registration ∧ before

/-- The last call about the registration was to subscribe. -/
def Registered (calls : List (Call Class Handler))
    (registration : Registration Class Handler) : Prop :=
  calls.foldl (fun before call => call.InForce registration before) False

/-- No type and no handler is there twice. -/
structure WellFormed (bus : Bus Class Handler) : Prop where
  types : (bus.subscribers.map Prod.fst).Nodup
  handlers : ∀ entry ∈ bus.subscribers, entry.2.Nodup

variable {self : Bus Class Handler} {registration : Registration Class Handler}

theorem mem_registrations : registration ∈ self.registrations
    ↔ ∃ entry ∈ self.subscribers, entry.1 = registration.1 ∧ registration.2 ∈ entry.2 := by
  simp only [registrations, List.mem_flatMap, List.mem_map]
  constructor
  · rintro ⟨entry, hentry, handler, hhandler, rfl⟩
    exact ⟨entry, hentry, rfl, hhandler⟩
  · rintro ⟨entry, hentry, htype, hhandler⟩
    exact ⟨entry, hentry, registration.2, hhandler, by rw [htype]⟩

theorem WellFormed.nodup_registrations (h : WellFormed self) : self.registrations.Nodup := by
  rw [registrations, List.nodup_flatMap]
  refine ⟨fun entry hentry => (h.handlers entry hentry).map (Prod.mk_right_injective entry.1), ?_⟩
  refine (List.pairwise_map.mp h.types).imp fun {entry entry'} hne => ?_
  intro registration hmem hmem'
  obtain ⟨handler, -, rfl⟩ := List.mem_map.mp hmem
  obtain ⟨handler', -, heq⟩ := List.mem_map.mp hmem'
  exact hne (congrArg Prod.fst heq).symm

theorem mem_registrations_of_entry (h : WellFormed self)
    {entry : RegisteredType Class × List Handler} (hentry : entry ∈ self.subscribers)
    (htype : entry.1 = registration.1) :
    registration ∈ self.registrations ↔ registration.2 ∈ entry.2 := by
  rw [mem_registrations]
  constructor
  · rintro ⟨entry', hentry', htype', hhandler⟩
    have hsame : entry' = entry :=
      List.inj_on_of_nodup_map h.types hentry' hentry (htype'.trans htype.symm)
    exact hsame ▸ hhandler
  · exact fun hhandler => ⟨entry, hentry, htype, hhandler⟩

theorem wellFormed_empty : WellFormed ({} : Bus Class Handler) := ⟨List.nodup_nil, by simp⟩

/-! ### Calls -/

section Calls

variable [DecidableEq Class]

/-- The entry of a type is rewritten, or made. -/
def update (self : Bus Class Handler) (eventType : RegisteredType Class)
    (f : List Handler → List Handler) :
    Bus Class Handler :=
  if eventType ∈ self.subscribers.map Prod.fst then
    { subscribers := self.subscribers.map fun entry =>
        if entry.1 = eventType then (entry.1, f entry.2) else entry }
  else { subscribers := self.subscribers ++ [(eventType, f [])] }

variable {eventType : RegisteredType Class} {f : List Handler → List Handler}

theorem types_map (entries : List (RegisteredType Class × List Handler))
    (eventType : RegisteredType Class) (f : List Handler → List Handler) :
    (entries.map fun entry => if entry.1 = eventType then (entry.1, f entry.2)
      else entry).map Prod.fst = entries.map Prod.fst := by
  rw [List.map_map]
  refine List.map_congr_left fun entry _ => ?_
  rw [Function.comp_apply]
  split_ifs
  · rfl
  · rfl

theorem WellFormed.update (h : WellFormed self)
    (hf : ∀ handlers, handlers.Nodup → (f handlers).Nodup) :
    WellFormed (self.update eventType f) := by
  rw [EventBus.update]
  split_ifs with hmem
  · refine ⟨?_, fun entry hentry => ?_⟩
    · rw [types_map]
      exact h.types
    · obtain ⟨before, hbefore, rfl⟩ := List.mem_map.mp hentry
      split_ifs
      · exact hf _ (h.handlers before hbefore)
      · exact h.handlers before hbefore
  · refine ⟨?_, fun entry hentry => ?_⟩
    · rw [List.map_append, List.map_singleton, List.nodup_append]
      refine ⟨h.types, List.nodup_singleton _, fun a ha b hb hab => hmem ?_⟩
      have htype : b = eventType := List.mem_singleton.mp hb
      rw [← htype, ← hab]
      exact ha
    · rcases List.mem_append.mp hentry with hentry | hentry
      · exact h.handlers entry hentry
      · rw [List.mem_singleton.mp hentry]
        exact hf [] List.nodup_nil

theorem mem_registrations_of_ne (hne : registration.1 ≠ eventType) :
    registration ∈ (self.update eventType f).registrations ↔ registration ∈ self.registrations := by
  rw [EventBus.update]
  split_ifs with hmem
  · simp only [mem_registrations, List.mem_map]
    constructor
    · rintro ⟨-, ⟨entry, hentry, rfl⟩, htype, hhandler⟩
      split_ifs at htype hhandler with hsame
      · exact absurd (htype.symm.trans hsame) hne
      · exact ⟨entry, hentry, htype, hhandler⟩
    · rintro ⟨entry, hentry, htype, hhandler⟩
      refine ⟨entry, ⟨entry, hentry, if_neg fun hsame => hne (htype.symm.trans hsame)⟩,
        htype, hhandler⟩
  · simp only [mem_registrations, List.mem_append, List.mem_singleton]
    constructor
    · rintro ⟨entry, hentry | rfl, htype, hhandler⟩
      · exact ⟨entry, hentry, htype, hhandler⟩
      · exact absurd htype.symm hne
    · rintro ⟨entry, hentry, htype, hhandler⟩
      exact ⟨entry, .inl hentry, htype, hhandler⟩

/-- The registrations for the type that is asked for change as `P` says. -/
theorem mem_registrations_update (h : WellFormed self)
    (hnodup : ∀ handlers, handlers.Nodup → (f handlers).Nodup) {P : Handler → Prop → Prop}
    (hf : ∀ handlers handler, handlers.Nodup →
      (handler ∈ f handlers ↔ P handler (handler ∈ handlers)))
    (handler : Handler) :
    (eventType, handler) ∈ (self.update eventType f).registrations
      ↔ P handler ((eventType, handler) ∈ self.registrations) := by
  have hafter : WellFormed (self.update eventType f) := h.update hnodup
  by_cases hmem : eventType ∈ self.subscribers.map Prod.fst
  · obtain ⟨entry, hentry, rfl⟩ := List.mem_map.mp hmem
    have hnext : (entry.1, f entry.2) ∈ (self.update entry.1 f).subscribers := by
      rw [EventBus.update, if_pos hmem]
      exact List.mem_map.mpr ⟨entry, hentry, if_pos rfl⟩
    rw [mem_registrations_of_entry hafter hnext rfl, mem_registrations_of_entry h hentry rfl]
    exact hf entry.2 handler (h.handlers entry hentry)
  · have hnext : (eventType, f []) ∈ (self.update eventType f).subscribers := by
      rw [EventBus.update, if_neg hmem]
      exact List.mem_append_right _ List.mem_cons_self
    have hnone : (eventType, handler) ∉ self.registrations := by
      rw [mem_registrations]
      rintro ⟨entry, hentry, rfl, -⟩
      exact hmem (List.mem_map_of_mem hentry)
    rw [mem_registrations_of_entry hafter hnext rfl, hf [] handler List.nodup_nil]
    simp only [hnone, List.not_mem_nil]

variable [DecidableEq Handler]

theorem subscribe_eq_update (self : Bus Class Handler) (eventType : RegisteredType Class)
    (handler : Handler) :
    self.subscribe eventType handler = self.update eventType (addHandler handler) := rfl

theorem unsubscribe_eq_update (self : Bus Class Handler) (eventType : RegisteredType Class)
    (handler : Handler) :
    (self.unsubscribe eventType handler).2 = self.update eventType fun handlers =>
      handlers.erase handler := by
  rw [unsubscribe, update]
  split_ifs
  · rfl
  · rfl

theorem nodup_addHandler (handler : Handler) {handlers : List Handler} (h : handlers.Nodup) :
    (addHandler handler handlers).Nodup := by
  rw [addHandler]
  split_ifs with hmem
  · exact h
  · rw [← List.concat_eq_append]
    exact h.concat hmem

theorem mem_addHandler {handler' : Handler} {handlers : List Handler} :
    handler' ∈ addHandler handler handlers ↔ handler = handler' ∨ handler' ∈ handlers := by
  rw [addHandler]
  split_ifs with hmem
  · refine ⟨.inr, ?_⟩
    rintro (rfl | h)
    · exact hmem
    · exact h
  · rw [List.mem_append, List.mem_singleton, eq_comm, or_comm]

/-- A call changes what is registered as it should. -/
theorem WellFormed.step (h : WellFormed self) (call : Call Class Handler) :
    WellFormed (self.step call)
      ∧ ∀ registration, registration ∈ (self.step call).registrations
        ↔ call.InForce registration (registration ∈ self.registrations) := by
  cases call with
  | subscribe eventType handler =>
      rw [EventBus.step, subscribe_eq_update]
      refine ⟨h.update fun _ => nodup_addHandler handler, fun ⟨asked, handler'⟩ => ?_⟩
      rw [Call.InForce, Prod.mk.injEq]
      by_cases hasked : asked = eventType
      · subst hasked
        rw [mem_registrations_update h (fun _ => nodup_addHandler handler)
          (P := fun handler' before => handler = handler' ∨ before) fun _ _ _ => mem_addHandler]
        simp
      · rw [mem_registrations_of_ne hasked]
        exact (or_iff_right fun hsame => hasked hsame.1.symm).symm
  | unsubscribe eventType handler =>
      rw [EventBus.step, unsubscribe_eq_update]
      refine ⟨h.update fun _ hnodup => hnodup.erase handler, fun ⟨asked, handler'⟩ => ?_⟩
      rw [Call.InForce, Ne, Prod.mk.injEq]
      by_cases hasked : asked = eventType
      · subst hasked
        rw [mem_registrations_update h (fun _ hnodup => hnodup.erase handler)
          (P := fun handler' before => handler ≠ handler' ∧ before)
          fun handlers handler' hnodup => by rw [hnodup.mem_erase_iff, ne_comm]]
        simp
      · rw [mem_registrations_of_ne hasked]
        exact (and_iff_right fun hsame => hasked hsame.1.symm).symm

/-- The table holds what was registered last. -/
theorem mem_registrations_run (calls : List (Call Class Handler)) :
    WellFormed (run step ({} : Bus Class Handler) calls)
      ∧ ∀ registration, registration ∈ (run step {} calls).registrations
        ↔ Registered calls registration := by
  induction calls using List.reverseRecOn with
  | nil => exact ⟨wellFormed_empty, fun registration => by simp [registrations, Registered]⟩
  | append_singleton calls call ih =>
      obtain ⟨hwell, hregistered⟩ := ih
      obtain ⟨hnext, hmem⟩ := hwell.step call
      rw [run_append, run_cons, run_nil]
      refine ⟨hnext, fun registration => (hmem registration).trans ?_⟩
      rw [hregistered registration, Registered, Registered, List.foldl_append,
        List.foldl_cons, List.foldl_nil]

end Calls

/-! ### Deliveries -/

/-- What a handler of the type gets of an event, and of its envelope. -/
def delivery (classes : Hierarchy Class) (event : Event Class) (envelope : EventEnvelope Class) :
    RegisteredType Class → Option (Message Class)
  | .event registered =>
      if classes.issubclass event.eventClass registered then some (.event event) else none
  | .envelope => some (.envelope envelope)
  | .envelopeOf payload =>
      if classes.issubclass event.eventClass payload then some (.envelope envelope) else none

/-- One delivery for each registration that gets one. -/
def deliveries (classes : Hierarchy Class) (event : Event Class) (envelope : EventEnvelope Class)
    (registrations : List (Registration Class Handler)) : List (Invocation Class Handler) :=
  registrations.filterMap fun registration =>
    (delivery classes event envelope registration.1).map (Prod.mk registration.2)

variable {classes : Hierarchy Class} {event : Event Class} {envelope : EventEnvelope Class}
  {invoke : Handler → Message Class → Except Exc Unit} {message : Message Class}

theorem dispatch_eq (asked : RegisteredType Class → Bool) (message : Message Class) :
    self.dispatch asked message
      = (self.registrations.filter fun registration => asked registration.1).map fun registration =>
          (registration.2, message) := by
  rw [dispatch, registrations]
  induction self.subscribers with
  | nil => rfl
  | cons entry entries ih =>
      rw [List.flatMap_cons, List.flatMap_cons, List.filter_append, List.map_append, ← ih]
      congr 1
      split_ifs with hasked
      · rw [List.filter_eq_self.mpr, List.map_map]
        · rfl
        · intro registration hregistration
          obtain ⟨handler, -, rfl⟩ := List.mem_map.mp hregistration
          exact hasked
      · rw [List.filter_eq_nil_iff.mpr, List.map_nil]
        intro registration hregistration
        obtain ⟨handler, -, rfl⟩ := List.mem_map.mp hregistration
        exact hasked

/-- Every envelope goes to every handler of envelopes, of whatever class its payload is. -/
def dispatched (classes : Hierarchy Class) (event : Event Class) (envelope : EventEnvelope Class)
    (registration : Registration Class Handler) : Option (Invocation Class Handler) :=
  if registration.1.isEventClass classes event.eventClass then some (registration.2, .event event)
  else if registration.1.isEnvelope then some (registration.2, .envelope envelope)
  else none

theorem isEnvelope_of_isEventClass {registered : RegisteredType Class}
    (h : registered.isEventClass classes event.eventClass = true) :
    registered.isEnvelope = false := by
  cases registered with
  | event registered => rfl
  | envelope => cases h
  | envelopeOf payload => cases h

theorem invocations_event_perm :
    (self.invocations classes (.event event)).Perm
      (self.registrations.filterMap (dispatched classes event (.wrap classes event))) := by
  rw [invocations, dispatch_eq, dispatch_eq]
  exact filter_append_filter_perm (fun _ h => isEnvelope_of_isEventClass h) _ _ _

theorem invocations_envelope_perm (hpayload : envelope.payload = event) :
    (self.invocations classes (.envelope envelope)).Perm
      (self.registrations.filterMap (dispatched classes event envelope)) := by
  rw [invocations, dispatch_eq, dispatch_eq, hpayload]
  refine List.perm_append_comm.trans ?_
  exact filter_append_filter_perm (fun _ h => isEnvelope_of_isEventClass h) _ _ _

theorem delivery_event (registered : Class) (handler : Handler) :
    (delivery classes event envelope (.event registered)).map (Prod.mk handler)
      = dispatched classes event envelope (.event registered, handler) := by
  rw [delivery, dispatched, RegisteredType.isEventClass, RegisteredType.isEnvelope]
  by_cases hclass : classes.issubclass event.eventClass registered = true
  · rw [if_pos hclass, if_pos hclass]
    rfl
  · rw [if_neg hclass, if_neg hclass]
    rfl

/-- No handler gets too little; only those of `EventEnvelope[X]` may get too much. -/
theorem dispatched_perm_deliveries_iff {registrations : List (Registration Class Handler)} :
    (registrations.filterMap (dispatched classes event envelope)).Perm
        (deliveries classes event envelope registrations)
      ↔ ∀ payload handler, (.envelopeOf payload, handler) ∈ registrations →
          classes.issubclass event.eventClass payload = true := by
  rw [deliveries, filterMap_perm_iff]
  · constructor
    · intro h payload handler hmem
      have hsame := h _ hmem
      rw [delivery, dispatched, RegisteredType.isEventClass, RegisteredType.isEnvelope] at hsame
      by_contra hother
      rw [if_neg hother] at hsame
      cases hsame
    · rintro h ⟨registered, handler⟩ hmem
      cases registered with
      | event registered => exact delivery_event registered handler
      | envelope => rfl
      | envelopeOf payload =>
          rw [delivery, if_pos (h payload handler hmem)]
          rfl
  · rintro ⟨registered, handler⟩
    cases registered with
    | event registered => exact .inr (delivery_event registered handler)
    | envelope => exact .inr rfl
    | envelopeOf payload =>
        rw [delivery]
        split_ifs
        · exact .inr rfl
        · exact .inl rfl

/-! ### Publication -/

/-- A handler that returns, or raises an `Exception`. -/
def Contained (isException : Exc → Bool) (outcome : Except Exc Unit) : Prop :=
  ∀ exc, outcome = .error exc → isException exc = true

variable {isException : Exc → Bool}

theorem safeInvoke_eq_ok_iff {invocation : Invocation Class Handler} :
    safeInvoke isException invoke invocation = .ok ()
      ↔ Contained isException (invoke invocation.1 invocation.2) := by
  rw [safeInvoke, Contained]
  cases invoke invocation.1 invocation.2 with
  | ok done => exact iff_of_true rfl fun exc hraised => by cases hraised
  | error exc =>
      change (if isException exc then .ok () else .error exc : Except Exc Unit) = .ok () ↔ _
      constructor
      · intro hok exc' hraised
        cases hraised
        by_contra hpasses
        rw [if_neg hpasses] at hok
        cases hok
      · intro hcontained
        exact if_pos (hcontained exc rfl)

/-- Every handler runs, whatever the others raise. -/
theorem publish_snd (self : Bus Class Handler) (isException : Exc → Bool)
    (invoke : Handler → Message Class → Except Exc Unit) (message : Message Class) :
    (self.publish classes isException invoke message).2 = self.invocations classes message := by
  rw [publish]
  split
  · rename_i hnone
    rw [hnone]
  · rename_i hsome
    rw [hsome]

theorem publish_eq_ok_iff : (self.publish classes isException invoke message).1 = .ok ()
    ↔ ∀ invocation ∈ self.invocations classes message,
      Contained isException (invoke invocation.1 invocation.2) := by
  have hgather : ∀ invocations : List (Invocation Class Handler),
      gather (invocations.map (safeInvoke isException invoke)) = .ok ()
        ↔ ∀ invocation ∈ invocations, Contained isException (invoke invocation.1 invocation.2) := by
    intro invocations
    rw [gather, Checks.forM_eq_ok_iff, List.forall_mem_map]
    exact forall₂_congr fun invocation _ => safeInvoke_eq_ok_iff
  rw [publish]
  split
  · rename_i hnone
    rw [hnone]
    exact iff_of_true rfl fun invocation hmem => absurd hmem List.not_mem_nil
  · rename_i hsome
    rw [hsome]
    exact hgather _

theorem mem_deliveries {registrations : List (Registration Class Handler)}
    {invocation : Invocation Class Handler} :
    invocation ∈ deliveries classes event envelope registrations
      ↔ ∃ registered, (registered, invocation.1) ∈ registrations
        ∧ delivery classes event envelope registered = some invocation.2 := by
  rw [deliveries, List.mem_filterMap]
  constructor
  · rintro ⟨⟨registered, handler⟩, hmem, hdelivery⟩
    obtain ⟨message, hmessage, rfl⟩ := Option.map_eq_some_iff.mp hdelivery
    exact ⟨registered, hmem, hmessage⟩
  · rintro ⟨registered, hmem, hmessage⟩
    exact ⟨(registered, invocation.1), hmem, by rw [hmessage]; rfl⟩

variable [DecidableEq Class] [DecidableEq Handler]

/-- An event reaches the registered handlers, each as often as it should, alone as well as in an
envelope. -/
def DispatchesExactly (calls : List (Call Class Handler)) (classes : Hierarchy Class)
    (isException : Exc → Bool) (invoke : Handler → Message Class → Except Exc Unit)
    (event : Event Class) : Prop :=
  ∃ registrations : List (Registration Class Handler), registrations.Nodup
    ∧ (∀ registration, registration ∈ registrations ↔ Registered calls registration)
    ∧ (((run step {} calls).publish classes isException invoke (.event event)).1 = .ok ()
      ∧ ((run step {} calls).publish classes isException invoke (.event event)).2.Perm
        (deliveries classes event (.wrap classes event) registrations))
    ∧ ∀ envelope : EventEnvelope Class, envelope.payload = event →
      ((run step {} calls).publish classes isException invoke (.envelope envelope)).1 = .ok ()
        ∧ ((run step {} calls).publish classes isException invoke (.envelope envelope)).2.Perm
          (deliveries classes event envelope registrations)

/-- The event is of every class whose envelopes have a handler. -/
def OfEveryClass (calls : List (Call Class Handler)) (classes : Hierarchy Class)
    (event : Event Class) : Prop :=
  ∀ payload handler, Registered calls (.envelopeOf payload, handler) →
    classes.issubclass event.eventClass payload = true

/-- No handler that gets the event, or an envelope of it, raises anything but an `Exception`. -/
def AllContained (calls : List (Call Class Handler)) (classes : Hierarchy Class)
    (isException : Exc → Bool) (invoke : Handler → Message Class → Except Exc Unit)
    (event : Event Class) : Prop :=
  ∀ registered handler, Registered calls (registered, handler) → ∀ envelope : EventEnvelope Class,
    envelope.payload = event → ∀ message,
      delivery classes event envelope registered = some message →
      Contained isException (invoke handler message)

theorem ofEveryClass_of_dispatchesExactly {calls : List (Call Class Handler)}
    (h : DispatchesExactly calls classes isException invoke event) :
    OfEveryClass calls classes event := by
  obtain ⟨hwell, hmem⟩ := mem_registrations_run calls
  obtain ⟨registrations, hnodup, hregistered, ⟨-, hevent⟩, -⟩ := h
  intro payload handler hhandler
  have hsame : (run step {} calls).registrations.Perm registrations :=
    (List.perm_ext_iff_of_nodup hwell.nodup_registrations hnodup).mpr fun registration =>
      (hmem registration).trans (hregistered registration).symm
  rw [publish_snd] at hevent
  have hperm := (hsame.filterMap _).symm.trans (invocations_event_perm.symm.trans hevent)
  exact dispatched_perm_deliveries_iff.mp hperm payload handler ((hregistered _).mpr hhandler)

/-- **Event dispatch.** It is exact if and only if the event is of every class whose envelopes have
a handler, and none of the handlers that get it raises anything but an `Exception`. -/
theorem dispatchesExactly_iff (calls : List (Call Class Handler)) (classes : Hierarchy Class)
    (isException : Exc → Bool) (invoke : Handler → Message Class → Except Exc Unit)
    (event : Event Class) :
    DispatchesExactly calls classes isException invoke event
      ↔ OfEveryClass calls classes event ∧ AllContained calls classes isException invoke event := by
  obtain ⟨hwell, hmem⟩ := mem_registrations_run calls
  constructor
  · intro h
    have hclasses : OfEveryClass calls classes event := ofEveryClass_of_dispatchesExactly h
    refine ⟨hclasses, fun registered handler hregistered envelope hpayload message hmessage => ?_⟩
    obtain ⟨registrations, -, hregistrations, -, henvelope⟩ := h
    obtain ⟨hok, hperm⟩ := henvelope envelope hpayload
    rw [publish_snd] at hperm
    have hdelivered : (handler, message) ∈ deliveries classes event envelope registrations :=
      mem_deliveries.mpr ⟨registered, (hregistrations _).mpr hregistered, hmessage⟩
    exact publish_eq_ok_iff.mp hok _ (hperm.mem_iff.mpr hdelivered)
  · rintro ⟨hclasses, hcontained⟩
    have hexact : ∀ envelope : EventEnvelope Class,
        ((run step {} calls).registrations.filterMap (dispatched classes event envelope)).Perm
          (deliveries classes event envelope (run step {} calls).registrations) := by
      intro envelope
      rw [dispatched_perm_deliveries_iff]
      exact fun payload handler hregistration =>
        hclasses payload handler ((hmem _).mp hregistration)
    have hreturns : ∀ (envelope : EventEnvelope Class) (message : Message Class),
      envelope.payload = event →
        ((run step {} calls).invocations classes message).Perm
          (deliveries classes event envelope (run step {} calls).registrations) →
        ((run step {} calls).publish classes isException invoke message).1 = .ok () := by
      intro envelope message hpayload hperm
      rw [publish_eq_ok_iff]
      intro invocation hinvocation
      obtain ⟨registered, hregistered, hmessage⟩ := mem_deliveries.mp (hperm.mem_iff.mp hinvocation)
      exact hcontained registered _ ((hmem _).mp hregistered) envelope hpayload _ hmessage
    refine ⟨(run step {} calls).registrations, hwell.nodup_registrations, hmem, ?_,
      fun envelope hpayload => ?_⟩
    · rw [publish_snd]
      have hperm := invocations_event_perm.trans (hexact (.wrap classes event))
      exact ⟨hreturns _ _ rfl hperm, hperm⟩
    · rw [publish_snd]
      have hperm := (invocations_envelope_perm hpayload).trans (hexact envelope)
      exact ⟨hreturns envelope _ hpayload hperm, hperm⟩

/-- Two classes, neither of which is a class of the other. -/
def twoClasses : Hierarchy Bool where
  name
    | false => "PeerLostEvent"
    | true => "PeerDiscoveredEvent"
  issubclass c c' := c = c'

/-- A handler of envelopes for the one class gets the envelope of an event of the other. -/
theorem envelope_reaches_other_class :
    ¬DispatchesExactly [.subscribe (.envelopeOf true) ()] twoClasses
      (fun _ => true) (fun _ _ => .ok ())
      ⟨false, "1", .epoch⟩ := by
  rintro ⟨registrations, -, hregistered, ⟨-, hperm⟩, -⟩
  have hnone : deliveries twoClasses ⟨false, "1", .epoch⟩
    (.wrap twoClasses ⟨false, "1", .epoch⟩) registrations
      = [] := by
    rw [deliveries, List.filterMap_eq_nil_iff]
    intro registration hregistration
    obtain hsame | hbefore := (hregistered registration).mp hregistration
    · rw [← hsame]
      rfl
    · cases hbefore
  rw [hnone] at hperm
  exact absurd hperm.length_eq (by decide)

end EventBus

end Shyam

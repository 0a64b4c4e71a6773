import Shyam.Proof.Availability

/-!
# Single-writer facts and regressions

When every node publishes availability about itself only, the value a vector stands for is the one
its author last published up to that vector. A merge keeps that as long as the envelope has heard at
least as much from a node whose value it would change, and the first merge that does not breaks it.
-/

namespace Shyam

open Python Gossip Transition

/-- The value that `nodeId` last published about itself in a bump numbered at most `bound`. The
history lists the newest bump first. -/
def lastPublished (history : List LocalUpdate) (nodeId : String) (bound : Int) : Option String :=
  (history.filter fun w => w.author = nodeId ∧ w.count ≤ bound).findSome? fun w => w.value nodeId

def OwnWrites (history : List LocalUpdate) : Prop :=
  ∀ w ∈ history, ∀ n, (w.value n).isSome → w.author = n

/-- With single writers the newest bump heard of is the author's last one within the bound. -/
theorem latest_eq_lastPublished {history : List LocalUpdate} (h : OwnWrites history)
    (v : String → Int) (n : String) : latest history v n = lastPublished history n (v n) := by
  induction history with
  | nil => rfl
  | cons w older ih =>
      have ih := ih fun w' hw' => h w' (List.mem_cons_of_mem w hw')
      cases hvalue : w.value n with
      | none =>
          rw [latest_cons_of_none hvalue, ih, lastPublished, lastPublished, List.filter_cons]
          split_ifs
          · rw [List.findSome?_cons, hvalue]
          · rfl
      | some a =>
          have hauthor : w.author = n := h w List.mem_cons_self n (by simp [hvalue])
          rw [lastPublished, List.filter_cons]
          by_cases hcount : w.count ≤ v n
          · rw [latest_cons_of_le (hauthor ▸ hcount), hvalue, if_pos (by simp [hauthor, hcount]),
              List.findSome?_cons, hvalue, Option.some_or]
          · rw [latest_cons_of_lt (by simpa [hauthor] using hcount), ih, if_neg (by simp [hcount])]
            rfl

namespace Net

variable {ι : Type} {nodes : Nodes ι} {net : Net nodes} {ed : Ed25519} {codec : RecordCodec}

/-- A local update passes availability for the node's own id only. -/
def SingleWriter (nodes : Nodes ι) : Action ι → Prop
  | .perform i (.updateLocalFacts _ availability) =>
      ∀ n v, SyncService.valueOf? availability n = some v → n = nodes.id i
  | _ => True

/-- Every availability value a node stores is the one its subject last published up to the node's
version vector. -/
def Published (net : Net nodes) : Prop :=
  ∀ i n v, (net.service i).availability n = some v →
    lastPublished net.history n ((net.service i).getVersion n) = some v

/-- A merge that would change the value of a node id comes from an envelope that has heard at least
as much from that node. -/
def NoRegress (ed : Ed25519) (codec : RecordCodec) (net : Net nodes) : Action ι → Prop
  | .perform i (.processIncomingEnvelope now trust e) =>
      SyncService.Merges ed codec now trust (net.service i) e →
      ∀ n v, e.availability n = some v → (net.service i).availability n ≠ some v →
        (net.service i).getVersion n ≤ e.getVersion n
  | _ => True

/-- What a run of single writers keeps. -/
structure Authored (net : Net nodes) : Prop where
  consistent : net.Consistent
  faithful : net.Faithful
  ownWrites : OwnWrites net.history

theorem authored_fresh : (fresh nodes).Authored :=
  ⟨consistent_fresh, faithful_fresh, fun _ hw => absurd hw List.not_mem_nil⟩

theorem Authored.availability_eq (h : net.Authored) (i : ι) (n : String) :
    (net.service i).availability n
      = lastPublished net.history n ((net.service i).getVersion n) := by
  rw [h.faithful.service, latest_eq_lastPublished h.ownWrites]

theorem Authored.published (h : net.Authored) : net.Published := fun i n v hv => by
  rw [← h.availability_eq, hv]

/-- An unheard bump about `n` is one by `n` that the receiver has heard of and
the envelope has not. -/
theorem NoRegress.mergesNewest (h : net.Authored) {a : Action ι}
    (hnoRegress : net.NoRegress ed codec a) : net.MergesNewest ed codec a := by
  cases a with
  | perform i op =>
      cases op with
      | processIncomingEnvelope now trust e =>
          intro hmerges _ n v hv hne hunheard
          obtain ⟨w, hw, hvalue, hlt, hle⟩ := hunheard.exists_lt
          rw [h.ownWrites w hw n hvalue] at hlt hle
          exact absurd (hlt.trans_le hle) (not_lt.mpr (hnoRegress hmerges n v hv hne))
      | _ => trivial
  | _ => trivial

variable [DecidableEq ι]

theorem ownWrites_step (h : OwnWrites net.history) {a : Action ι} (hsingle : SingleWriter nodes a) :
    OwnWrites (net.step ed codec a).history := by
  have hcons {w : LocalUpdate} (hw : ∀ n, (w.value n).isSome → w.author = n) :
      OwnWrites (w :: net.history) := fun w' hw' =>
    (List.mem_cons.mp hw').elim (fun heq => heq ▸ hw) fun hold => h w' hold
  cases a with
  | perform i op =>
      cases op with
      | updateLocalFacts capabilities availability =>
          refine hcons fun n hvalue => ?_
          obtain ⟨v, hv⟩ := Option.isSome_iff_exists.mp hvalue
          exact (net.named i).trans (hsingle n v hv).symm
      | incrementLocalVersion => exact hcons fun n hvalue => absurd hvalue (by simp [bump])
      | processIncomingEnvelope now trust e => exact h
  | createSyncEnvelope i order messageType messageId timestamp =>
      rw [step_createSyncEnvelope]
      exact h
  | restart i => exact h
  | recover i now requestId => exact hcons fun n hvalue => absurd hvalue (by simp [bump])

theorem Authored.step (h : net.Authored) {a : Action ι} (hadmits : net.Admits a)
    (hsingle : SingleWriter nodes a) (hnoRegress : net.NoRegress ed codec a) :
    (net.step ed codec a).Authored where
  consistent := h.consistent.step hadmits
  faithful := h.faithful.step h.consistent hadmits (hnoRegress.mergesNewest h)
  ownWrites := ownWrites_step h.ownWrites hsingle

theorem noRegress_of_published (h : net.Authored) {a : Action ι}
    (hpublished : (net.step ed codec a).Published) : net.NoRegress ed codec a := by
  cases a with
  | perform i op =>
      cases op with
      | processIncomingEnvelope now trust e =>
          intro hmerges n v hv hne
          by_contra hlt
          have hservice : (net.step ed codec
              (.perform i (.processIncomingEnvelope now trust e))).service i
              = ((net.service i).processIncomingEnvelope ed codec now trust e).service := by
            rw [step_perform_self, SyncService.perform_processIncomingEnvelope]
          have hvec :
            ((net.service i).processIncomingEnvelope ed codec now trust e).service.getVersion n
              = (net.service i).getVersion n := by
            rw [SyncService.getVersion_of_merges hmerges, Pi.sup_apply]
            exact sup_eq_left.mpr (not_le.mp hlt).le
          have hstored := hpublished i n v
          rw [hservice, SyncService.availability_of_merges hmerges, hv, hvec] at hstored
          exact hne ((h.availability_eq i n).trans (hstored (Option.some_or ..)))
      | _ => trivial
  | _ => trivial

/-- From an authored state, a run stays published exactly as long as no merge regresses. -/
theorem Authored.always_published_iff (h : net.Authored) {actions : List (Action ι)}
    (hrun : Along (Net.step ed codec) (fun net a => net.Admits a ∧ SingleWriter nodes a)
      net actions) :
    Always (Net.step ed codec) Published net actions
      ↔ Along (Net.step ed codec) (NoRegress ed codec) net actions := by
  induction actions generalizing net with
  | nil => exact ⟨fun _ => trivial, fun _ => h.published⟩
  | cons a actions ih =>
      obtain ⟨⟨hadmits, hsingle⟩, hrest⟩ := hrun
      constructor
      · rintro ⟨-, htail⟩
        have hnoRegress := noRegress_of_published h htail.head
        exact ⟨hnoRegress, (ih (h.step hadmits hsingle hnoRegress) hrest).mp htail⟩
      · rintro ⟨hnoRegress, htail⟩
        exact ⟨h.published, (ih (h.step hadmits hsingle hnoRegress) hrest).mpr htail⟩

/-- **Single-writer facts.** In a run without restarts in which every node publishes about itself
only, every state stores last published values if and only if no merge changes a value for one that
the receiver has heard more recent news about. -/
theorem published_iff_noRegress {actions : List (Action ι)}
    (hrun : Along (step ed codec) (fun net a => net.Admits a ∧ SingleWriter nodes a)
      (fresh nodes) actions) :
    Always (step ed codec) Published (fresh nodes) actions
      ↔ Along (step ed codec) (NoRegress ed codec) (fresh nodes) actions :=
  authored_fresh.always_published_iff hrun

/-! ### A regression -/

def firstUpdate : SyncService :=
  ((fresh pairNodes).service false).updateLocalFacts none (some (reportedAvailability "a" "up"))

def secondUpdate : SyncService :=
  firstUpdate.updateLocalFacts none (some (reportedAvailability "a" "down"))

/-- `b` after receiving the first update and making an unrelated one. -/
def staleReporter : SyncService :=
  (((fresh pairNodes).service true).processIncomingEnvelope transparentEd25519 .unused .epoch
    pairTrust (pairEnvelope firstUpdate "m")).service.updateLocalFacts none none

/-- `b` sends `a` the availability that `a` has replaced in the meantime. -/
def regressing : List (Action Bool) := [
  .perform false (.updateLocalFacts none (some (reportedAvailability "a" "up"))),
  .createSyncEnvelope false .insertion "sync_response" "m" .epoch,
  .perform true (.processIncomingEnvelope .epoch pairTrust (pairEnvelope firstUpdate "m")),
  .perform false (.updateLocalFacts none (some (reportedAvailability "a" "down"))),
  .perform true (.updateLocalFacts none none),
  .createSyncEnvelope true .insertion "sync_response" "n" .epoch,
  .perform false (.processIncomingEnvelope .epoch pairTrust (pairEnvelope staleReporter "n"))]

theorem merges_firstUpdate : SyncService.Merges transparentEd25519 .unused .epoch pairTrust
    ((fresh pairNodes).service true) (pairEnvelope firstUpdate "m") :=
  ⟨accepts_pairEnvelope _ _ _ (by decide) (by decide) (by decide), List.not_mem_nil,
    fun hle => absurd (hle "a") (by decide)⟩

theorem localNodeId_staleReporter : staleReporter.localNodeId = "b" := by
  rw [staleReporter, SyncService.localNodeId_updateLocalFacts, SyncService.localNodeId_process]
  rfl

theorem getVersion_staleReporter :
    staleReporter.getVersion "a" = 1 ∧ staleReporter.getVersion "b" = 1 := by
  rw [staleReporter, SyncService.getVersion_updateLocalFacts, SyncService.localNodeId_process,
    SyncService.getVersion_of_merges merges_firstUpdate]
  decide

theorem availability_staleReporter : staleReporter.availability "a" = some "up" := by
  rw [staleReporter, SyncService.availability_updateLocalFacts,
    SyncService.availability_of_merges merges_firstUpdate]
  decide

theorem accepts_staleReporter : SyncService.Accepts transparentEd25519 .unused .epoch pairTrust
    secondUpdate (pairEnvelope staleReporter "n") := by
  refine accepts_pairEnvelope _ _ _ ?_ ?_ ?_
  all_goals
    rw [localNodeId_staleReporter]
    decide

theorem merges_staleReporter : SyncService.Merges transparentEd25519 .unused .epoch pairTrust
    secondUpdate (pairEnvelope staleReporter "n") := by
  refine ⟨accepts_staleReporter, List.not_mem_nil, fun hle => ?_⟩
  have hb := hle "b"
  rw [pairEnvelope, SyncService.getVersion_signedEnvelope, getVersion_staleReporter.2] at hb
  exact absurd hb (by decide)

theorem along_regressing : Along (step transparentEd25519 .unused)
    (fun net a => (net.Admits a ∧ SingleWriter pairNodes a)
      ∧ net.Authenticates transparentEd25519 .unused a) (fresh pairNodes) regressing := by
  have hne : false ≠ true := by decide
  have hown (status : String) : SingleWriter pairNodes (.perform false
      (.updateLocalFacts none (some (reportedAvailability "a" status)))) := by
    intro n v hv
    by_contra hn
    simp [SyncService.valueOf?, reportedAvailability, Dict.get?, show n ≠ "a" from hn] at hv
  simp only [regressing, along_cons, along_nil, step_createSyncEnvelope]
  refine ⟨⟨⟨⟨trivial, trivial⟩, hown "up"⟩, trivial⟩, ⟨⟨⟨?_, trivial⟩, trivial⟩, trivial⟩,
    ⟨⟨⟨List.mem_cons_self, trivial⟩, trivial⟩, ?_⟩, ⟨⟨⟨trivial, trivial⟩, hown "down"⟩, trivial⟩,
    ⟨⟨⟨trivial, trivial⟩, ?_⟩, trivial⟩, ⟨⟨⟨?_, trivial⟩, trivial⟩, trivial⟩,
    ⟨⟨⟨?_, trivial⟩, trivial⟩, ?_⟩, trivial⟩
  · simp [Allows, put, fresh, step]
  · exact merges_firstUpdate.1
  · exact fun n v hv => absurd hv (by simp [SyncService.valueOf?])
  · simp [Allows, step_perform_sent, fresh]
  · simp only [step_perform_self, step_perform_of_ne hne.symm,
      SyncService.perform_updateLocalFacts, SyncService.perform_processIncomingEnvelope]
    exact List.mem_cons_self
  · simp only [Authenticates, step_perform_self, step_perform_of_ne hne,
      SyncService.perform_updateLocalFacts]
    exact accepts_staleReporter

theorem service_regressing :
    (run (step transparentEd25519 .unused) (fresh pairNodes) regressing).service false
      = (secondUpdate.processIncomingEnvelope transparentEd25519 .unused .epoch pairTrust
        (pairEnvelope staleReporter "n")).service := by
  have hne : false ≠ true := by decide
  simp only [regressing, run_cons, run_nil, step_createSyncEnvelope, step_perform_self,
    step_perform_of_ne hne, SyncService.perform_updateLocalFacts,
    SyncService.perform_processIncomingEnvelope]
  rfl

theorem history_regressing :
    (run (step transparentEd25519 .unused) (fresh pairNodes) regressing).history
      = [⟨"b", 1, fun _ => none⟩,
        ⟨"a", 2, SyncService.valueOf? (some (reportedAvailability "a" "down"))⟩,
        ⟨"a", 1, SyncService.valueOf? (some (reportedAvailability "a" "up"))⟩] := by
  have hne : false ≠ true := by decide
  simp only [regressing, run_cons, run_nil, step_createSyncEnvelope, step_perform_history,
    step_perform_self, step_perform_of_ne hne, step_perform_of_ne hne.symm,
    SyncService.perform_updateLocalFacts, SyncService.perform_processIncomingEnvelope]
  have hb : bump
    (((fresh pairNodes).service true).processIncomingEnvelope transparentEd25519 .unused
      .epoch pairTrust (pairEnvelope firstUpdate "m")).service (SyncService.valueOf? none)
      = ⟨"b", 1, fun _ => none⟩ := by
    rw [bump, SyncService.localNodeId_process, SyncService.getVersion_of_merges merges_firstUpdate]
    rfl
  simp only [written, hb, List.nil_append, List.cons_append]
  rfl

theorem stored_regressing :
    let net := run (step transparentEd25519 .unused) (fresh pairNodes) regressing
    (net.service false).availability "a" = some "up"
      ∧ lastPublished net.history "a" ((net.service false).getVersion "a") = some "down" := by
  simp only [history_regressing, service_regressing]
  rw [SyncService.availability_of_merges merges_staleReporter,
    SyncService.getVersion_of_merges merges_staleReporter]
  refine ⟨?_, ?_⟩
  · rw [pairEnvelope, SyncService.availability_signedEnvelope, availability_staleReporter,
      Option.some_or]
  · rw [pairEnvelope, SyncService.getVersion_signedEnvelope, Pi.sup_apply,
      getVersion_staleReporter.1]
    decide

/-- The value that `a` has replaced is back in its own entry. -/
theorem availability_regresses_regressing :
    Along (step transparentEd25519 .unused)
        (fun net a => (net.Admits a ∧ SingleWriter pairNodes a)
          ∧ net.Authenticates transparentEd25519 .unused a) (fresh pairNodes) regressing
      ∧ let net := run (step transparentEd25519 .unused) (fresh pairNodes) regressing
        (net.service false).getNodeAvailability "a" = some "up"
          ∧ lastPublished net.history "a" ((net.service false).getVersion "a") = some "down" :=
  ⟨along_regressing, stored_regressing⟩

theorem published_iff_noRegress_regressing :
    ¬Along (step transparentEd25519 .unused) (NoRegress transparentEd25519 .unused)
      (fresh pairNodes) regressing := by
  have hrun : Along (step transparentEd25519 .unused)
      (fun net a => net.Admits a ∧ SingleWriter pairNodes a) (fresh pairNodes) regressing :=
    along_regressing.mono (I := fun _ => True) (fun _ _ _ h => ⟨trivial, h.1⟩) trivial
  intro hnoRegress
  have hlast := ((published_iff_noRegress hrun).mpr hnoRegress).last false "a" "up"
    stored_regressing.1
  rw [stored_regressing.2] at hlast
  exact absurd hlast (by decide)

end Net

end Shyam

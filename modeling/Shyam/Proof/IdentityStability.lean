import Shyam.Identity.Manager
import Shyam.Proof.TrustDurability

/-!
# A node keeps its identity

A file that is there is never written, so what a node was first is what it is from then on, over any
restarts and crashes. A file that does not validate is refused, and never replaced by a new
identity.
-/

namespace Shyam

open Python AtomicFile Transition

namespace NodeIdentity

variable {lib : TextLibrary} {scalars : IdentityScalars} {identity : NodeIdentity}
  {draw : IdentityDraw}

/-- The scalars of the identity validate from what they are dumped as. -/
structure Restored (scalars : IdentityScalars) (identity : NodeIdentity) : Prop where
  uuid : scalars.parseUuid identity.nodeId = some identity.nodeId
  createdAt : scalars.validateDateTime (.str (scalars.dumpDateTime identity.createdAt))
    = some identity.createdAt

theorem plain_modelDump (scalars : IdentityScalars) (identity : NodeIdentity) :
    (identity.modelDump scalars).Plain := by
  have hnodup : ["node_id", "node_name", "created_at", "protocol_version"].Nodup := by decide
  refine .obj hnodup fun f hf => ?_
  simp only [List.mem_cons, List.not_mem_nil, or_false] at hf
  rcases hf with rfl | rfl | rfl | rfl <;> exact .str _

theorem modelValidate_modelDump (h : Restored scalars identity) (draw : IdentityDraw) :
    modelValidate scalars draw (identity.modelDump scalars) = .ok identity := by
  have hfields : validateFields scalars draw
      [("node_id", .str identity.nodeId), ("node_name", .str identity.nodeName),
        ("created_at", .str (scalars.dumpDateTime identity.createdAt)),
        ("protocol_version", .str identity.protocolVersion)] = some identity := by
    simp [validateFields, JsonValue.field, List.lookup_cons, JsonValue.asStr, h.uuid, h.createdAt]
  simp only [modelValidate, modelDump, hfields]

theorem loads_modelDumpJson (lib : TextLibrary) (scalars : IdentityScalars)
    (identity : NodeIdentity) :
    readText (writeText (identity.modelDumpJson scalars)) = some (identity.modelDumpJson scalars)
      ∧ JsonValue.loads lib.floatRepr (identity.modelDumpJson scalars)
        = some (identity.modelDump scalars) := by
  have hreadable := (plain_modelDump scalars identity).readable lib.floatRepr
  refine ⟨readText_writeText_of_notMem fun c hc => ?_, loads_dumps (.model 2) hreadable⟩
  rw [modelDumpJson, JsonValue.dumps, String.toList_ofList] at hc
  exact JsonFormat.ne_return_of_mem_print hreadable hc

end NodeIdentity

namespace IdentityManager

variable {lib : TextLibrary} {scalars : IdentityScalars} {manager : IdentityManager}
  {identity : NodeIdentity} {data : Bytes}

/-! ### The file -/

/-- **Write once.** No action writes a file that is there. -/
theorem file_step (h : manager.disk.file = some data) (action : IdentityAction) :
    (manager.step lib scalars action).disk.file = some data := by
  cases action with
  | restart customNodeName => exact h
  | getOrCreateIdentity call =>
      refine Disk.file_session_of_some (fun content => ?_) h call.ending.progress
      unfold written
      cases manager.identity <;> rfl

theorem file_run (h : manager.disk.file = some data) (actions : List IdentityAction) :
    (run (step lib scalars) manager actions).disk.file = some data :=
  run_of_invariant (I := fun manager : IdentityManager => manager.disk.file = some data)
    (fun _ action h => file_step h action) actions h

/-- Whatever a call draws, what it loads from the file is this identity. -/
def LoadsAs (lib : TextLibrary) (scalars : IdentityScalars) (data : Bytes)
    (identity : NodeIdentity) : Prop :=
  ∀ (manager : IdentityManager) (call : IdentityCall) (other : NodeIdentity),
    manager.loadIdentity lib scalars call data = .ok other → other = identity

theorem loadIdentity_written (lib : TextLibrary) (h : NodeIdentity.Restored scalars identity)
    (manager : IdentityManager) {call : IdentityCall} (hread : call.readFault = none) :
    manager.loadIdentity lib scalars call (writeText (identity.modelDumpJson scalars))
      = .ok identity := by
  obtain ⟨htext, hjson⟩ := NodeIdentity.loads_modelDumpJson lib scalars identity
  rw [loadIdentity, hread, htext]
  simp only [hjson, NodeIdentity.modelValidate_modelDump h]
  rfl

theorem loadsAs_written (h : NodeIdentity.Restored scalars identity) :
    LoadsAs lib scalars (writeText (identity.modelDumpJson scalars)) identity := by
  intro manager call other hload
  cases hread : call.readFault with
  | some text =>
      rw [loadIdentity, hread] at hload
      cases hload
  | none =>
      rw [loadIdentity_written lib h manager hread] at hload
      exact (Except.ok.inj hload).symm

/-! ### Answers -/

theorem identity_step (call : IdentityCall) (other : NodeIdentity) :
    (manager.step lib scalars (.getOrCreateIdentity call)).identity = some other
      ↔ manager.result lib scalars call = some (.ok other) := by
  rw [IdentityManager.step, IdentityManager.getOrCreateIdentity]
  cases manager.result lib scalars call with
  | none => exact iff_of_false (fun h => by cases h) (fun h => by cases h)
  | some result =>
      cases result with
      | error exc => exact iff_of_false (fun h => by cases h) (fun h => by cases h)
      | ok identity => simp only [Option.some.injEq, Except.ok.injEq]

/-- The file loads as the identity, and so does what the process holds. -/
structure Settled (lib : TextLibrary) (scalars : IdentityScalars) (identity : NodeIdentity)
    (manager : IdentityManager) : Prop where
  file : ∃ data, manager.disk.file = some data ∧ LoadsAs lib scalars data identity
  held : ∀ other ∈ manager.identity, other = identity

theorem Settled.result (h : Settled lib scalars identity manager) {call : IdentityCall}
    {other : NodeIdentity} (hresult : manager.result lib scalars call = some (.ok other)) :
    other = identity := by
  rw [IdentityManager.result] at hresult
  cases hheld : manager.identity with
  | some held =>
      rw [hheld] at hresult
      cases hresult
      exact h.held other hheld
  | none =>
      obtain ⟨data, hfile, hloads⟩ := h.file
      rw [hheld, hfile] at hresult
      exact hloads manager call other (Option.some.inj hresult)

theorem Settled.step (h : Settled lib scalars identity manager) (action : IdentityAction) :
    Settled lib scalars identity (manager.step lib scalars action) := by
  obtain ⟨data, hfile, hloads⟩ := h.file
  refine ⟨⟨data, file_step hfile action, hloads⟩, fun other hother => ?_⟩
  cases action with
  | restart customNodeName => cases hother
  | getOrCreateIdentity call => exact h.result ((identity_step call other).mp hother)

theorem Settled.answers (h : Settled lib scalars identity manager) (actions : List IdentityAction)
    {other : NodeIdentity} (hmem : .ok other ∈ manager.answers lib scalars actions) :
    other = identity := by
  induction actions generalizing manager with
  | nil => cases hmem
  | cons action actions ih =>
      cases action with
      | restart customNodeName => exact ih (h.step (.restart customNodeName)) hmem
      | getOrCreateIdentity call =>
          rcases List.mem_append.mp hmem with hnow | hlater
          · exact h.result (Option.mem_toList.mp hnow)
          · exact ih (h.step (.getOrCreateIdentity call)) hlater

/-- What a call on an absent file comes to, by how far the writing comes. -/
theorem result_of_absent (hfile : manager.disk.file = none) (hheld : manager.identity = none)
    (call : IdentityCall) :
    manager.result lib scalars call
      = match call.ending with
        | .returns => some (.ok (manager.newIdentity call))
        | .raises (.mkdir text) _ | .raises (.write text) _ | .raises (.replace text) _ =>
            some (.error (manager.failed "persist" text))
        | .stops _ => none := by
  obtain ⟨path, customNodeName, held, ⟨file, temp⟩⟩ := manager
  obtain rfl : held = none := hheld
  obtain rfl : file = none := hfile
  rfl

theorem file_of_absent (hfile : manager.disk.file = none) (hheld : manager.identity = none)
    (call : IdentityCall) :
    (manager.step lib scalars (.getOrCreateIdentity call)).disk.file
      = if call.ending.progress.isReplaced then
          some (writeText ((manager.newIdentity call).modelDumpJson scalars)) else none := by
  have hwritten : manager.written scalars call none
      = some (writeText ((manager.newIdentity call).modelDumpJson scalars)) := by
    unfold written
    simp only [hheld]
  calc
    (manager.step lib scalars (.getOrCreateIdentity call)).disk.file
      = (manager.disk.session (manager.written scalars call) call.ending.progress).file := rfl
    _ = _ := by rw [Disk.file_session, hfile, hwritten, Option.some_or]

/-- A call on an absent file leaves it absent and returns nothing, or makes an identity and may
return it. -/
theorem created_or_absent (hfile : manager.disk.file = none) (hheld : manager.identity = none)
    (call : IdentityCall) :
    ((manager.step lib scalars (.getOrCreateIdentity call)).disk.file = none
        ∧ ∀ other, manager.result lib scalars call ≠ some (.ok other))
      ∨ ((manager.step lib scalars (.getOrCreateIdentity call)).disk.file
          = some (writeText ((manager.newIdentity call).modelDumpJson scalars))
        ∧ ∀ other, manager.result lib scalars call = some (.ok other) →
          other = manager.newIdentity call) := by
  rw [file_of_absent hfile hheld, result_of_absent hfile hheld]
  cases call.ending with
  | returns => exact Or.inr ⟨rfl, fun other h => (Except.ok.inj (Option.some.inj h)).symm⟩
  | raises fault part =>
      refine Or.inl ⟨?_, ?_⟩
      · rcases fault with _ | _ | _ <;> cases part <;> rfl
      · rcases fault with _ | _ | _ <;> exact fun _ h => by cases h
  | stops progress =>
      cases hreplaced : progress.isReplaced with
      | false =>
          exact Or.inl ⟨if_neg (by simp [SaveEnding.progress, hreplaced]), fun _ h => by cases h⟩
      | true => exact Or.inr ⟨if_pos hreplaced, fun _ h => by cases h⟩

/-- What a call makes is restored, as far as the calls draw canonical ids. -/
def DrawsRestored (scalars : IdentityScalars) (actions : List IdentityAction) : Prop :=
  ∀ call, .getOrCreateIdentity call ∈ actions →
    scalars.parseUuid call.draw.nodeId = some call.draw.nodeId
    ∧ scalars.validateDateTime (.str (scalars.dumpDateTime call.draw.now)) = some call.draw.now

/-- As long as no identity has been written, the calls draw one anew; from then on it is settled. -/
theorem settled_of_absent {actions : List IdentityAction} (hdraws : DrawsRestored scalars actions)
    (hfile : manager.disk.file = none) (hheld : manager.identity = none) :
    ∃ identity, (∀ other, .ok other ∈ manager.answers lib scalars actions → other = identity)
      ∧ ((∃ other, .ok other ∈ manager.answers lib scalars actions) →
        (run (step lib scalars) manager actions).disk.file
          = some (writeText (identity.modelDumpJson scalars))) := by
  induction actions generalizing manager with
  | nil =>
      refine ⟨⟨"", "", .epoch, ""⟩, fun other hother => ?_, fun hanswered => ?_⟩
      · cases hother
      · obtain ⟨other, hother⟩ := hanswered
        cases hother
  | cons action actions ih =>
      have hrest : DrawsRestored scalars actions :=
        fun call hcall => hdraws call (List.mem_cons_of_mem _ hcall)
      cases action with
      | restart customNodeName => exact ih hrest hfile rfl
      | getOrCreateIdentity call =>
          rcases created_or_absent hfile hheld call with ⟨hfile', hnone⟩ | ⟨hfile', hnow⟩
          · have hheld' : (manager.step lib scalars (.getOrCreateIdentity call)).identity = none :=
              Option.eq_none_iff_forall_ne_some.mpr fun other h =>
                hnone other ((identity_step call other).mp h)
            have hlater : ∀ other,
              .ok other ∈ manager.answers lib scalars (.getOrCreateIdentity call :: actions) →
                .ok other ∈ (manager.step lib scalars (.getOrCreateIdentity call)).answers lib
                  scalars actions := by
              intro other hother
              exact (List.mem_append.mp hother).resolve_left fun h =>
                hnone other (Option.mem_toList.mp h)
            obtain ⟨identity, hidentity, hwritten⟩ := ih hrest hfile' hheld'
            exact ⟨identity, fun other hother => hidentity other (hlater other hother),
              fun ⟨other, hother⟩ => hwritten ⟨other, hlater other hother⟩⟩
          · have hdraw := hdraws call List.mem_cons_self
            have hsettled : Settled lib scalars (manager.newIdentity call)
                (manager.step lib scalars (.getOrCreateIdentity call)) :=
              ⟨⟨_, hfile', loadsAs_written ⟨hdraw.1, hdraw.2⟩⟩,
                fun other hother => hnow other ((identity_step call other).mp hother)⟩
            refine ⟨manager.newIdentity call, fun other hother => ?_,
              fun _ => file_run hfile' actions⟩
            rcases List.mem_append.mp hother with hother | hother
            · exact hnow other (Option.mem_toList.mp hother)
            · exact hsettled.answers actions hother

/-- **One identity.** Over any calls, faults, crashes and restarts of a node that starts without a
file, all that is returned is one identity, and the file holds it. -/
theorem identity_stable (lib : TextLibrary) {actions : List IdentityAction}
    (hdraws : DrawsRestored scalars actions) (hfile : manager.disk.file = none)
    (hheld : manager.identity = none) {identity other : NodeIdentity}
    (hidentity : .ok identity ∈ manager.answers lib scalars actions)
    (hother : .ok other ∈ manager.answers lib scalars actions) :
    identity = other
      ∧ (run (step lib scalars) manager actions).disk.file
        = some (writeText (identity.modelDumpJson scalars)) := by
  obtain ⟨first, hfirst, hwritten⟩ := settled_of_absent hdraws hfile hheld
  rw [hfirst identity hidentity, hfirst other hother]
  exact ⟨rfl, hwritten ⟨identity, hidentity⟩⟩

noncomputable def isoScalars : IdentityScalars where
  parseUuid := some
  dumpDateTime := ScalarCodec.iso.dumpDateTime
  validateDateTime := ScalarCodec.iso.validateDateTime
  errorText _ := "1 validation error for NodeIdentity"

theorem restored_isoScalars (identity : NodeIdentity) : NodeIdentity.Restored isoScalars identity :=
  ⟨rfl, ScalarCodec.iso_lawful.validateDateTime_dump identity.createdAt⟩

def newManager : IdentityManager := ⟨"identity/node.json", none, none, {}⟩

def callDrawing (nodeId : String) : IdentityCall := ⟨none, ⟨nodeId, .epoch, "desk"⟩, .returns⟩

/-- A process that makes an identity, and one after a restart. -/
def twoProcesses : List IdentityAction :=
  [.getOrCreateIdentity (callDrawing "a"), .restart (some "laptop"),
    .getOrCreateIdentity (callDrawing "b")]

theorem answer_restarted (lib : TextLibrary) :
    .ok (newManager.newIdentity (callDrawing "a")) ∈ newManager.answers lib
      isoScalars twoProcesses := by
  refine List.mem_append_right _ (List.mem_append_left _ ?_)
  have hread : (callDrawing "b").readFault = none := rfl
  have hload :=
    loadIdentity_written lib (restored_isoScalars (newManager.newIdentity (callDrawing "a")))
    ((newManager.step lib isoScalars (.getOrCreateIdentity (callDrawing "a"))).step lib isoScalars
      (.restart (some "laptop"))) hread
  exact Option.mem_toList.mpr (congrArg some hload)

theorem identity_stable_restarted :
    newManager.newIdentity (callDrawing "a") = newManager.newIdentity (callDrawing "a")
      ∧ (run (step TrustFiles.posixLibrary isoScalars) newManager twoProcesses).disk.file
        = some (writeText ((newManager.newIdentity (callDrawing "a")).modelDumpJson isoScalars)) :=
  identity_stable TrustFiles.posixLibrary
    (fun call _ => ⟨rfl, ScalarCodec.iso_lawful.validateDateTime_dump call.draw.now⟩) rfl rfl
    (answer_restarted _) (List.mem_append_left _ List.mem_cons_self)

/-! ### A file that does not validate -/

/-- What a call raises that does not accept the file. -/
inductive Refusal (lib : TextLibrary) (manager : IdentityManager) (data : Bytes) : Exc → Prop where
  | unread (text : String) : Refusal lib manager data (manager.failed "read" text)
  | undecodable : Refusal lib manager data ⟨"UnicodeDecodeError", lib.unicodeDecodeError data⟩
  | corrupted (text : String) : Refusal lib manager data (manager.corrupted text)

/-- Every call refuses the file, and the file is as it was. -/
structure Refused (lib : TextLibrary) (scalars : IdentityScalars) (data : Bytes)
    (manager : IdentityManager) (actions : List IdentityAction) : Prop where
  answers : ∀ answer ∈ manager.answers lib scalars actions, ∃ exc,
    answer = .error exc ∧ Refusal lib manager data exc
  file : (run (step lib scalars) manager actions).disk.file = some data

end IdentityManager

end Shyam

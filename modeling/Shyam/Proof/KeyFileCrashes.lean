import Shyam.Identity.KeyFiles
import Shyam.Lib.Run

/-!
# Crashes between the key pair files

A run that makes a new key replaces `public.json` first and `private.key` second. The two files are
accepted together if the identity names the right node, so a run that stops between the
replacements, over an older private key, leaves a pair that a later run for the same node returns.
-/

namespace Shyam

open Python Transition

namespace KeyFiles

variable (ed : Ed25519) (codec : IdentityCodec)

/-- If both files are there, the public one describes the key in the private one. -/
def Matched (files : KeyFiles) : Prop :=
  ∀ text raw, files.publicFile = some text → files.privateFile = some raw →
    ∃ identity, text = codec.modelDumpJson identity
      ∧ identity.publicKey = (⟨raw⟩ : KeyPair).publicKeyB64 ed

/-- Over an existing private key, the run replaces both files or leaves the public one alone. -/
def Untorn (files : KeyFiles) (attempt : Attempt) : Prop :=
  files.privateFile ≠ none → .replacePublic ∈ files.executed ed codec attempt →
    .replacePrivate ∈ files.executed ed codec attempt

/-- The identity a run returns is that of the key it returns, for the node it was asked for. -/
def ReturnsMatched (files : KeyFiles) (attempt : Attempt) : Prop :=
  ∀ kp identity, files.returned ed codec attempt = some (kp, identity) →
    identity.publicKey = kp.publicKeyB64 ed ∧ identity.nodeId = attempt.nodeId

variable {ed codec} {files : KeyFiles} {attempt : Attempt}

theorem loadExisting_eq_some {nodeId : String} {kp : KeyPair} {identity : CryptoIdentity}
    (h : files.loadExisting codec nodeId = some (kp, identity)) : ∃ text,
      files.publicFile = some text ∧ files.privateFile = some kp.privateKeyBytes
        ∧ codec.modelValidateJson text = .ok identity ∧ identity.nodeId = nodeId := by
  unfold loadExisting at h
  split at h
  · rename_i text raw hpublic hprivate
    split at h
    · rename_i kp' identity' hkp hidentity
      split_ifs at h with hnode
      cases h
      unfold KeyPair.fromPrivateBytes at hkp
      split_ifs at hkp
      cases hkp
      exact ⟨text, hpublic, hprivate, hidentity, not_not.mp hnode⟩
    · cases h
  · cases h

/-- What a run does: it loads the pair, or it makes a new one. -/
theorem loadOrCreateKeypair_cases (ed : Ed25519) (codec : IdentityCodec) (files : KeyFiles)
    (attempt : Attempt) :
    (∃ loaded, files.loadExisting codec attempt.nodeId = some loaded
        ∧ files.loadOrCreateKeypair ed codec attempt = ([], loaded))
      ∨ ∃ kp identity, kp.privateKeyBytes = attempt.seed
        ∧ identity = kp.toCryptoIdentity ed attempt.nodeId attempt.now
        ∧ files.loadOrCreateKeypair ed codec attempt
          = ([.mkdir, .writePublicTmp (codec.modelDumpJson identity), .replacePublic,
              .writePrivateTmp kp.privateKeyBytes, .replacePrivate], (kp, identity)) := by
  unfold loadOrCreateKeypair
  cases hexisting : if attempt.readFails then none else files.loadExisting codec attempt.nodeId with
  | none => exact Or.inr ⟨_, _, rfl, rfl, rfl⟩
  | some loaded =>
      split_ifs at hexisting
      exact Or.inl ⟨loaded, hexisting, rfl⟩

theorem returnsMatched_of_matched (hcodec : codec.Lawful) (h : Matched ed codec files) :
    ReturnsMatched ed codec files attempt := by
  intro kp identity hreturned
  unfold returned at hreturned
  split at hreturned
  · cases hreturned
  rcases loadOrCreateKeypair_cases ed codec files attempt with ⟨loaded, hloaded, hrun⟩
    | ⟨kp', identity', -, hidentity, hrun⟩
  · rw [hrun, Option.some.injEq] at hreturned
    subst hreturned
    obtain ⟨text, hpublic, hprivate, hvalid, hnode⟩ := loadExisting_eq_some hloaded
    obtain ⟨described, rfl, hkey⟩ := h text _ hpublic hprivate
    rw [hcodec, Except.ok.injEq] at hvalid
    exact ⟨hvalid ▸ hkey, hnode⟩
  · rw [hrun, Option.some.injEq] at hreturned
    cases hreturned
    subst hidentity
    exact ⟨rfl, rfl⟩

/-- **One run.** A run that is not torn keeps the files matched. -/
theorem matched_attempted (h : Matched ed codec files) (huntorn : Untorn ed codec files attempt) :
    Matched ed codec (files.attempted ed codec attempt) := by
  unfold Untorn at huntorn
  unfold attempted
  unfold executed at huntorn ⊢
  rcases loadOrCreateKeypair_cases ed codec files attempt with ⟨loaded, -, hrun⟩
    | ⟨kp, identity, -, hidentity, hrun⟩
  · rw [hrun]
    cases attempt.stopsAfter with
    | none => exact h
    | some n => simpa using h
  · have hcreated : Matched ed codec ([FileOp.mkdir, .writePublicTmp (codec.modelDumpJson identity),
        .replacePublic, .writePrivateTmp kp.privateKeyBytes,
          .replacePrivate].foldl apply files) := by
      intro text raw hpublic hprivate
      cases hpublic
      cases hprivate
      exact ⟨identity, rfl, by rw [hidentity]; rfl⟩
    rw [hrun] at huntorn
    rw [hrun]
    cases hstop : attempt.stopsAfter with
    | none => exact hcreated
    | some n =>
        rw [hstop] at huntorn
        rcases n with _ | _ | _ | _ | _ | n
        · exact h
        · exact h
        · exact h
        -- Only the public file is replaced, so there was no private one.
        · have hmissing : files.privateFile = none := by
            by_contra hprivate
            simpa using huntorn hprivate (by simp)
          intro text raw hpublic hprivate
          exact absurd (hprivate.symm.trans hmissing) (by simp)
        · have hmissing : files.privateFile = none := by
            by_contra hprivate
            simpa using huntorn hprivate (by simp)
          intro text raw hpublic hprivate
          exact absurd (hprivate.symm.trans hmissing) (by simp)
        · simpa using hcreated

/-- **Key pairs stay consistent** over any runs of which none is torn: whatever a run returns is a
private key, and the identity of that key for the node that was asked for. -/
theorem keypair_files_consistent (hcodec : codec.Lawful) {attempts : List Attempt}
    (huntorn : Along (attempted ed codec) (Untorn ed codec) empty attempts) :
    Along (attempted ed codec) (ReturnsMatched ed codec) empty attempts := by
  refine huntorn.mono (I := Matched ed codec) (fun files attempt h hstep => ?_) ?_
  · exact ⟨matched_attempted h hstep, returnsMatched_of_matched hcodec h⟩
  · intro text raw hpublic
    cases hpublic

/-! ### A recovery that stops between the two files -/

theorem untorn_of_complete (h : attempt.stopsAfter = none) : Untorn ed codec files attempt := by
  intro _ hpublic
  unfold executed at hpublic ⊢
  rw [h] at hpublic ⊢
  rcases loadOrCreateKeypair_cases ed codec files attempt with ⟨loaded, -, hrun⟩
    | ⟨kp, identity, -, -, hrun⟩
  · simp [hrun] at hpublic
  · simp [hrun]

def holding (codec : IdentityCodec) (identity : CryptoIdentity) (kp : KeyPair) : KeyFiles :=
  ⟨some (codec.modelDumpJson identity), none, some kp.privateKeyBytes, none⟩

/-- They load if the identity names the node, whatever key it describes. -/
theorem loadExisting_holding (hcodec : codec.Lawful) (identity : CryptoIdentity) {kp : KeyPair}
    (hkp : kp.privateKeyBytes.length = 32) (nodeId : String) :
    (holding codec identity kp).loadExisting codec nodeId
      = if identity.nodeId ≠ nodeId then none else some (kp, identity) := by
  simp only [holding, loadExisting, KeyPair.fromPrivateBytes, if_pos hkp, hcodec identity]

theorem loadOrCreateKeypair_of_none (h : files.loadExisting codec attempt.nodeId = none) :
    files.loadOrCreateKeypair ed codec attempt
      = let kp : KeyPair := ⟨attempt.seed⟩
        let identity := kp.toCryptoIdentity ed attempt.nodeId attempt.now
        ([.mkdir, .writePublicTmp (codec.modelDumpJson identity), .replacePublic,
          .writePrivateTmp kp.privateKeyBytes, .replacePrivate], (kp, identity)) := by
  rw [loadOrCreateKeypair, h, ite_self]

def firstPair : KeyPair := ⟨List.replicate 32 1⟩

def secondPair : KeyPair := ⟨List.replicate 32 2⟩

/-- The first key as the identity of `a`, and the second as the identity of `b`. -/
def identityA : CryptoIdentity := firstPair.toCryptoIdentity transparentEd25519 "a" .epoch

def identityB : CryptoIdentity := secondPair.toCryptoIdentity transparentEd25519 "b" .epoch

def complete (nodeId : String) (kp : KeyPair) (h : kp.privateKeyBytes.length = 32) : Attempt :=
  ⟨nodeId, kp.privateKeyBytes, h, .epoch, false, none⟩

def stopped : Attempt := { complete "b" secondPair rfl with stopsAfter := some 3 }

/-- The node gets a new id; the run for it stops between the replacements, and is repeated. -/
def tornRecovery : List Attempt :=
  [complete "a" firstPair rfl, stopped, complete "b" secondPair rfl]

theorem attempted_empty : empty.attempted transparentEd25519 .iso (complete "a" firstPair rfl)
    = holding .iso identityA firstPair := by
  rw [attempted, executed, loadOrCreateKeypair_of_none rfl]
  rfl

/-- The stopped run leaves the identity of the new key beside the old key. -/
theorem attempted_stopped :
    (holding .iso identityA firstPair).attempted transparentEd25519 .iso stopped
    = holding .iso identityB firstPair := by
  have hmismatch : (holding .iso identityA firstPair).loadExisting .iso stopped.nodeId = none := by
    rw [loadExisting_holding IdentityCodec.iso_lawful identityA rfl]
    exact if_pos (by decide)
  rw [attempted, executed, loadOrCreateKeypair_of_none hmismatch]
  rfl

theorem keypair_files_torn : ¬Along (attempted transparentEd25519 .iso)
    (ReturnsMatched transparentEd25519 .iso) empty tornRecovery := by
  rintro ⟨-, -, hreturns, -⟩
  rw [attempted_empty, attempted_stopped] at hreturns
  have hload : (holding .iso identityB firstPair).loadExisting .iso "b"
      = some (firstPair, identityB) := by
    rw [loadExisting_holding IdentityCodec.iso_lawful identityB rfl]
    exact if_neg (by decide)
  have hreturned : (holding .iso identityB firstPair).returned transparentEd25519 .iso
      (complete "b" secondPair rfl) = some (firstPair, identityB) := by
    rw [returned, loadOrCreateKeypair]
    simp only [complete, hload]
    rfl
  have hkey := (hreturns _ _ hreturned).1
  exact absurd (publicKeyB64_transparent_injective hkey) (by decide)

/-- The node gets a new id, and no run stops. -/
theorem keypair_files_consistent_recovery :
    ReturnsMatched transparentEd25519 .iso
      (empty.attempted transparentEd25519 .iso (complete "a" firstPair rfl))
      (complete "b" secondPair rfl) := by
  have hreturns : Along (attempted transparentEd25519 .iso) (ReturnsMatched transparentEd25519 .iso)
      empty [complete "a" firstPair rfl, complete "b" secondPair rfl] :=
    keypair_files_consistent IdentityCodec.iso_lawful
      ⟨untorn_of_complete rfl, untorn_of_complete rfl, trivial⟩
  exact hreturns.2.1

end KeyFiles

end Shyam

import Shyam.Bootstrap.Service

/-!
# What the signature of a request binds

The signed text joins the request id, the node id, the key and the timestamp with colons, which the
ids may contain too. The key and the timestamp are read back from it, the two ids only if neither
contains a colon.
-/

namespace Shyam

open Python

/-- A signature is accepted for one message at most. -/
def Ed25519.AcceptsOneMessage (ed : Ed25519) : Prop :=
  ∀ publicKey signature data data', ed.verify publicKey signature data = .ok () →
    ed.verify publicKey signature data' = .ok () → data = data'

theorem transparentEd25519_acceptsOneMessage : transparentEd25519.AcceptsOneMessage := by
  have hsigned {publicKey signature data : Bytes}
    (h : transparentEd25519.verify publicKey signature data = .ok ()) :
      signature = publicKey ++ data := by
    by_contra hne
    have hrefused : transparentEd25519.verify publicKey signature data
      = .error ⟨"InvalidSignature", ""⟩ := if_neg hne
    rw [hrefused] at h
    cases h
  intro publicKey signature data data' h h'
  exact List.append_cancel_left ((hsigned h).symm.trans (hsigned h'))

namespace KeyPair

variable {ed : Ed25519}

theorem verifyWithPublicKey_eq_true_iff {key : String} {data signature : Bytes} :
    verifyWithPublicKey ed key data signature = true
      ↔ ∃ raw, Base64.b64decode key = .ok raw ∧ ed.verify raw signature data = .ok () := by
  rw [verifyWithPublicKey]
  cases Base64.b64decode key with
  | error exc => simp
  | ok raw =>
      cases hverify : ed.verify raw signature data with
      | error exc => simp [hverify]
      | ok => simp [hverify]

end KeyPair

namespace BootstrapRequest

variable {ed : Ed25519} {request request' : BootstrapRequest}

theorem verifiedBy_eq_true_iff {key : String} :
    request.verifiedBy ed key = .ok true ↔ ∃ signature raw,
      Base64.b64decode request.signature = .ok signature ∧ Base64.b64decode key = .ok raw
      ∧ ed.verify raw signature (encodeUtf8 request.signable) = .ok () := by
  simp only [verifiedBy, Checks.bind_eq_ok_iff, Checks.pure_eq_ok_iff]
  constructor
  · rintro ⟨signature, hsignature, hverified⟩
    obtain ⟨raw, hraw, hverify⟩ := KeyPair.verifyWithPublicKey_eq_true_iff.mp hverified.symm
    exact ⟨signature, raw, hsignature, hraw, hverify⟩
  · rintro ⟨signature, raw, hsignature, hraw, hverify⟩
    exact ⟨signature, hsignature,
      (KeyPair.verifyWithPublicKey_eq_true_iff.mpr ⟨raw, hraw, hverify⟩).symm⟩

theorem toList_signable : request.signable.toList
    = request.requestId.toList ++ ':' :: request.nodeId.toList
      ++ ':' :: request.publicKey.toList ++ [':'] ++ request.timestamp.isoformat := by
  simp [signable]

/-- Under one key the signed text determines the timestamp, and the two ids as they are joined. -/
theorem signable_eq_iff (hkey : request'.publicKey = request.publicKey) :
    request'.signable = request.signable
      ↔ request'.requestId.toList ++ ':' :: request'.nodeId.toList
          = request.requestId.toList ++ ':' :: request.nodeId.toList
        ∧ request'.timestamp = request.timestamp := by
  rw [← String.toList_inj, toList_signable, toList_signable, hkey]
  constructor
  · intro h
    obtain ⟨hbefore, htimestamp⟩ := DateTime.append_isoformat_inj h
    exact ⟨List.append_cancel_right (List.append_cancel_right hbefore), htimestamp⟩
  · rintro ⟨hids, htimestamp⟩
    rw [hids, htimestamp]

/-- Two verified requests with one key and one signature say the same. -/
theorem signable_eq_of_verifiedBy (hone : ed.AcceptsOneMessage) {key : String}
    (hsignature : request'.signature = request.signature) (h : request.verifiedBy ed key = .ok true)
    (h' : request'.verifiedBy ed key = .ok true) : request'.signable = request.signable := by
  obtain ⟨signature, raw, hdecoded, hraw, hverify⟩ := verifiedBy_eq_true_iff.mp h
  obtain ⟨signature', raw', hdecoded', hraw', hverify'⟩ := verifiedBy_eq_true_iff.mp h'
  rw [hsignature, hdecoded, Except.ok.injEq] at hdecoded'
  rw [hraw, Except.ok.injEq] at hraw'
  subst hdecoded' hraw'
  exact encodeUtf8_injective (hone _ _ _ _ hverify' hverify)

/-- The request with other ids, under the same key and signature. -/
def withIds (request : BootstrapRequest) (requestId nodeId : String) : BootstrapRequest :=
  { request with requestId := requestId, nodeId := nodeId }

/-- It is verified as the request is if its ids join to the same text. -/
theorem verifiedBy_withIds {requestId nodeId key : String}
    (hids : requestId.toList ++ ':' :: nodeId.toList
      = request.requestId.toList ++ ':' :: request.nodeId.toList) :
    (request.withIds requestId nodeId).verifiedBy ed key = request.verifiedBy ed key := by
  have hkey : (request.withIds requestId nodeId).publicKey = request.publicKey := rfl
  rw [verifiedBy, verifiedBy, (signable_eq_iff hkey).mpr ⟨hids, rfl⟩]
  rfl

/-- No verified request of another id, node or time has the key and the signature. -/
def Bound (ed : Ed25519) (request : BootstrapRequest) : Prop :=
  ∀ request' : BootstrapRequest, request'.publicKey = request.publicKey →
    request'.signature = request.signature →
    request'.verifiedBy ed request'.publicKey = .ok true →
    request'.requestId = request.requestId ∧ request'.nodeId = request.nodeId
      ∧ request'.timestamp = request.timestamp

/-- **What a signature binds.** A verified request is bound by its signature if and only if neither
of its ids contains a colon. -/
theorem bound_iff (ed : Ed25519) (request : BootstrapRequest) (hone : ed.AcceptsOneMessage)
    (h : request.verifiedBy ed request.publicKey = .ok true) :
    request.Bound ed ↔ ':' ∉ request.requestId.toList ∧ ':' ∉ request.nodeId.toList := by
  rw [← join_unique_iff]
  constructor
  · intro hbound requestId nodeId hids
    have hverified : (request.withIds (String.ofList requestId) (String.ofList nodeId)).verifiedBy
      ed request.publicKey
        = .ok true := by
      rw [verifiedBy_withIds, h]
      rw [String.toList_ofList, String.toList_ofList, hids]
    obtain ⟨hrequestId, hnodeId, -⟩ := hbound
      (request.withIds (String.ofList requestId) (String.ofList nodeId)) rfl rfl hverified
    exact ⟨String.ofList_eq.mp hrequestId, String.ofList_eq.mp hnodeId⟩
  · intro hunique request' hkey hsignature h'
    obtain ⟨hids, htimestamp⟩ := (signable_eq_iff hkey).mp
      (signable_eq_of_verifiedBy hone hsignature h (hkey ▸ h'))
    obtain ⟨hrequestId, hnodeId⟩ := hunique _ _ hids
    exact ⟨String.toList_inj.mp hrequestId, String.toList_inj.mp hnodeId, htimestamp⟩

/-- A request of the node `nodeId`, signed with a key of the transparent package. -/
def signedRequest (requestId nodeId : String) : BootstrapRequest :=
  sign transparentEd25519 ⟨[1]⟩
    { requestId := requestId, nodeId := nodeId, publicKey := "", nodeName := "", timestamp := .epoch
      signature := "" }

theorem bound_iff_signedRequest : (signedRequest "r" "n").Bound transparentEd25519 :=
  (bound_iff transparentEd25519 (signedRequest "r" "n") transparentEd25519_acceptsOneMessage
    (verifiedBy_sign_self transparentEd25519_lawful _ _)).mpr ⟨by decide, by decide⟩

/-- The signature of the request `a:b` of the node `c` is one of the request
`a` of the node `b:c`. -/
theorem signature_of_another_node : transparentEd25519.AcceptsOneMessage
    ∧ (signedRequest "a:b" "c").verifiedBy transparentEd25519 (signedRequest "a:b" "c").publicKey
      = .ok true
    ∧ ¬(signedRequest "a:b" "c").Bound transparentEd25519 := by
  have hverified : (signedRequest "a:b" "c").verifiedBy transparentEd25519
    (signedRequest "a:b" "c").publicKey
      = .ok true := verifiedBy_sign_self transparentEd25519_lawful _ _
  refine ⟨transparentEd25519_acceptsOneMessage, hverified, fun hbound => ?_⟩
  obtain ⟨hrequestId, -⟩ := hbound ((signedRequest "a:b" "c").withIds "a" "b:c") rfl rfl
    ((verifiedBy_withIds rfl).trans hverified)
  exact absurd hrequestId (by decide)

end BootstrapRequest

end Shyam

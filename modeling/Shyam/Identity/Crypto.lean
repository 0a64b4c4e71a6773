import Shyam.Lib.Base64

/-!
# Cryptographic identity primitives

The Ed25519 implementation is a third-party package and stays a parameter. What is modelled is how
keys and signatures travel: base64 text, and a verification that answers `False` whenever the key
does not decode or the package raises.
-/

namespace Shyam

open Python

/-- The Ed25519 package: the public key of a seed, signing, and verification, which raises when the
key bytes are malformed or the signature is wrong. -/
structure Ed25519 where
  publicBytes : (seed : Bytes) → Bytes
  sign : (seed data : Bytes) → Bytes
  verify : (publicKey signature data : Bytes) → Except Exc Unit

/-- An in-memory key pair, by its 32-byte private seed. -/
structure KeyPair where
  privateKeyBytes : Bytes
deriving DecidableEq

namespace KeyPair

variable (ed : Ed25519)

def publicKeyB64 (kp : KeyPair) : String := Base64.b64encode (ed.publicBytes kp.privateKeyBytes)

def sign (kp : KeyPair) (data : Bytes) : Bytes := ed.sign kp.privateKeyBytes data

/-- Never raises: any failure to decode or to verify is `False`. -/
def verifyWithPublicKey (publicKeyB64 : String) (data signature : Bytes) : Bool :=
  match Base64.b64decode publicKeyB64 with
  | .error _ => false
  | .ok raw =>
      match ed.verify raw signature data with
      | .error _ => false
      | .ok () => true

end KeyPair

/-! ### What a correct package guarantees -/

/-- A signature verifies under the public key of the seed that made it; neither is empty. -/
structure Ed25519.Lawful (ed : Ed25519) : Prop where
  verify_sign : ∀ seed data, ed.verify (ed.publicBytes seed) (ed.sign seed data) data = .ok ()
  sign_ne_nil : ∀ seed data, ed.sign seed data ≠ []
  publicBytes_ne_nil : ∀ seed, ed.publicBytes seed ≠ []

namespace KeyPair

variable {ed : Ed25519} (hed : ed.Lawful) (kp : KeyPair)

include hed

theorem publicKeyB64_ne_empty : kp.publicKeyB64 ed ≠ "" :=
  Base64.b64encode_ne_empty (hed.publicBytes_ne_nil _)

theorem verifyWithPublicKey_sign (data : Bytes) :
    verifyWithPublicKey ed (kp.publicKeyB64 ed) data (kp.sign ed data) = true := by
  rw [verifyWithPublicKey, publicKeyB64, Base64.b64decode_b64encode]
  simp only [sign, hed.verify_sign]

end KeyPair

/-- A scheme that signs by putting the seed before the data, and verifies exactly such
signatures. -/
def transparentEd25519 : Ed25519 where
  publicBytes seed := 0 :: seed
  sign seed data := 0 :: seed ++ data
  verify publicKey signature data :=
    if signature = publicKey ++ data then .ok () else .error ⟨"InvalidSignature", ""⟩

theorem transparentEd25519_lawful : transparentEd25519.Lawful where
  verify_sign _ _ := if_pos rfl
  sign_ne_nil _ _ := List.cons_ne_nil _ _
  publicBytes_ne_nil _ := List.cons_ne_nil _ _

theorem publicKeyB64_transparent_injective :
    Function.Injective (KeyPair.publicKeyB64 transparentEd25519) := by
  intro kp kp' heq
  have hdecoded := congrArg Base64.b64decode heq
  rw [KeyPair.publicKeyB64, KeyPair.publicKeyB64, Base64.b64decode_b64encode,
    Base64.b64decode_b64encode, Except.ok.injEq] at hdecoded
  exact congrArg KeyPair.mk (List.cons.inj hdecoded).2

theorem verifyWithPublicKey_transparent_of_ne {kp kp' : KeyPair} (hne : kp ≠ kp') (data : Bytes) :
    KeyPair.verifyWithPublicKey transparentEd25519 (kp.publicKeyB64 transparentEd25519) data
      (kp'.sign transparentEd25519 data) = false := by
  have hsignature : kp'.sign transparentEd25519 data
      ≠ transparentEd25519.publicBytes kp.privateKeyBytes ++ data := by
    intro heq
    have hseed : kp'.privateKeyBytes = kp.privateKeyBytes :=
      (List.cons.inj (List.append_cancel_right heq)).2
    exact hne (congrArg KeyPair.mk hseed).symm
  rw [KeyPair.verifyWithPublicKey, KeyPair.publicKeyB64, Base64.b64decode_b64encode]
  simp only [transparentEd25519] at hsignature ⊢
  rw [if_neg hsignature]

end Shyam

import Shyam.Identity.Crypto
import Shyam.Lib.DateTime

/-!
# The key pair files

`load_or_create_keypair` is modelled down to its file operations, so that a run can stop between any
two of them. The JSON form of the public identity is pydantic's work and stays a parameter.
-/

namespace Shyam

open Python

/-- The public cryptographic identity of a node. The UUID is carried by its text. -/
@[ext]
structure CryptoIdentity where
  nodeId : String
  publicKey : String
  algorithm : String
  createdAt : DateTime

/-- `model_dump_json(indent=2)` and `model_validate_json` of a `CryptoIdentity`. -/
structure IdentityCodec where
  modelDumpJson : CryptoIdentity → String
  modelValidateJson : String → Except Exc CryptoIdentity

/-- What is dumped validates to what it was. -/
def IdentityCodec.Lawful (codec : IdentityCodec) : Prop :=
  ∀ identity, codec.modelValidateJson (codec.modelDumpJson identity) = .ok identity

namespace IdentityCodec

/-- `indent=2`: every field on a line of its own, after the separator. -/
def layout (separator : Char) : List (String × String) → List Char
  | [] => ['\n', '}']
  | (name, value) :: fields =>
      separator :: '\n' :: ' ' :: ' ' ::
        (JsonValue.quote name ++ ':' :: ' ' :: (JsonValue.quote value ++ layout ',' fields))

theorem layout_injective {separator : Char} (h : separator ≠ '\n') :
    Function.Injective (layout separator) := by
  intro fields fields' heq
  induction fields generalizing separator fields' with
  | nil =>
      cases fields' with
      | nil => rfl
      | cons field fields' => exact absurd (List.cons.inj heq).1.symm h
  | cons field fields ih =>
      cases fields' with
      | nil => exact absurd (List.cons.inj heq).1 h
      | cons field' fields' =>
          simp only [layout, List.cons.injEq, true_and] at heq
          obtain ⟨hname, heq⟩ := JsonValue.quote_append_inj heq
          simp only [List.cons.injEq, true_and] at heq
          obtain ⟨hvalue, heq⟩ := JsonValue.quote_append_inj heq
          rw [Prod.ext hname hvalue, ih (by decide) heq]

def text (identity : CryptoIdentity) : List Char :=
  layout '{' [("node_id", identity.nodeId), ("public_key", identity.publicKey),
    ("algorithm", identity.algorithm), ("created_at", String.ofList identity.createdAt.isoText)]

theorem text_injective : Function.Injective text := by
  intro identity identity' h
  have hfields := layout_injective (by decide) h
  simp only [List.cons.injEq, Prod.mk.injEq, true_and, and_true] at hfields
  obtain ⟨hnode, hkey, halgorithm, hcreated⟩ := hfields
  exact CryptoIdentity.ext hnode hkey halgorithm
    (DateTime.isoText_injective (String.ofList_injective hcreated))

open Classical in
/-- The codec that reads back exactly the texts that it writes. -/
noncomputable def iso : IdentityCodec where
  modelDumpJson identity := String.ofList (text identity)
  modelValidateJson s :=
    if h : ∃ identity, text identity = s.toList then .ok h.choose
    else .error ⟨"ValidationError", "1 validation error for CryptoIdentity"⟩

theorem iso_lawful : iso.Lawful := by
  intro identity
  have hread : ∃ identity', text identity' = (String.ofList (text identity)).toList :=
    ⟨identity, String.toList_ofList.symm⟩
  simp only [iso, dif_pos hread, Except.ok.injEq]
  exact text_injective (hread.choose_spec.trans String.toList_ofList)

end IdentityCodec

namespace KeyPair

def fromPrivateBytes (raw : Bytes) : Except Exc KeyPair :=
  if raw.length = 32 then .ok ⟨raw⟩
  else .error ⟨"ValueError", "An Ed25519 private key is 32 bytes long"⟩

def toCryptoIdentity (ed : Ed25519) (kp : KeyPair) (nodeId : String) (now : DateTime) :
    CryptoIdentity where
  nodeId := nodeId
  publicKey := kp.publicKeyB64 ed
  algorithm := "Ed25519"
  createdAt := now

end KeyPair

/-- The files of the `crypto` directory. -/
structure KeyFiles where
  publicFile : Option String
  publicTmp : Option String
  privateFile : Option Bytes
  privateTmp : Option Bytes

namespace KeyFiles

def empty : KeyFiles := ⟨none, none, none, none⟩

inductive FileOp where
  | mkdir
  | writePublicTmp (text : String)
  | replacePublic
  | writePrivateTmp (raw : Bytes)
  | replacePrivate
deriving DecidableEq

def apply (files : KeyFiles) : FileOp → KeyFiles
  | .mkdir => files
  | .writePublicTmp text => { files with publicTmp := some text }
  | .replacePublic => { files with publicFile := files.publicTmp, publicTmp := none }
  | .writePrivateTmp raw => { files with privateTmp := some raw }
  | .replacePrivate => { files with privateFile := files.privateTmp, privateTmp := none }

variable (ed : Ed25519) (codec : IdentityCodec)

/-- The `try` block. It finds nothing if a file is missing, if anything raises, or if the identity
belongs to another node. -/
def loadExisting (files : KeyFiles) (nodeId : String) : Option (KeyPair × CryptoIdentity) :=
  match files.publicFile, files.privateFile with
  | some text, some raw =>
      match KeyPair.fromPrivateBytes raw, codec.modelValidateJson text with
      | .ok kp, .ok identity => if identity.nodeId ≠ nodeId then none else some (kp, identity)
      | _, _ => none
  | _, _ => none

/-- One run: the node it is for, the seed the package generates, the clock, whether a read of an
existing file raises, and after how many file operations it stops, if it does. -/
structure Attempt where
  nodeId : String
  seed : Bytes
  seed_length : seed.length = 32
  now : DateTime
  readFails : Bool
  stopsAfter : Option Nat

/-- The file operations of `load_or_create_keypair`, and what it returns. -/
def loadOrCreateKeypair (files : KeyFiles) (attempt : Attempt) :
    List FileOp × (KeyPair × CryptoIdentity) :=
  let existing := if attempt.readFails then none else files.loadExisting codec attempt.nodeId
  match existing with
  | some loaded => ([], loaded)
  | none =>
      let kp : KeyPair := ⟨attempt.seed⟩
      let identity := kp.toCryptoIdentity ed attempt.nodeId attempt.now
      ([.mkdir, .writePublicTmp (codec.modelDumpJson identity), .replacePublic,
        .writePrivateTmp kp.privateKeyBytes, .replacePrivate], (kp, identity))

def executed (files : KeyFiles) (attempt : Attempt) : List FileOp :=
  let ops := (files.loadOrCreateKeypair ed codec attempt).1
  match attempt.stopsAfter with
  | some n => ops.take n
  | none => ops

def returned (files : KeyFiles) (attempt : Attempt) : Option (KeyPair × CryptoIdentity) :=
  match attempt.stopsAfter with
  | some _ => none
  | none => some (files.loadOrCreateKeypair ed codec attempt).2

def attempted (files : KeyFiles) (attempt : Attempt) : KeyFiles :=
  (files.executed ed codec attempt).foldl apply files

end KeyFiles

end Shyam

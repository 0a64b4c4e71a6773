import Shyam.Lib.Files
import Shyam.Lib.JsonFields
import Shyam.Lib.JsonRoundTrip
import Shyam.Lib.Text
import Shyam.Trust.Store

/-!
# The bytes of the trust store

The file as it is on disk, with the temporary one beside it. `save` can stop between any two of its
file operations and in the middle of the first. `fileOf` is what the store takes the bytes for.
-/

namespace Shyam

open Python AtomicFile

structure TrustFiles where
  path : String
  disk : Disk Bytes := {}

/-- How `save` ends: it returns, an operation raises `OSError`, perhaps with a part of the temporary
file written, or the process is gone. -/
inductive SaveEnding where
  | returns
  | raises (fault : SaveFault) (part : Option Bytes)
  | stops (progress : Progress Bytes)

namespace SaveEnding

def progress : SaveEnding → Progress Bytes
  | .returns => .replaced
  | .raises (.mkdir _) _ => .nothing
  | .raises (.write _) (some part) => .torn part
  | .raises (.write _) none => .nothing
  | .raises (.replace _) _ => .written
  | .stops progress => progress

def fault : SaveEnding → Option SaveFault
  | .raises fault _ => some fault
  | .returns | .stops _ => none

def isStop : SaveEnding → Bool
  | .stops _ => true
  | .returns | .raises _ _ => false

end SaveEnding

namespace TrustFiles

variable (lib : TextLibrary) (codec : RecordCodec)

/-- What the store takes the bytes for, where they are a text. -/
def fileOf (content : Option Bytes) : Option StoreFile :=
  match content with
  | none => some .absent
  | some data =>
      (readText data).map fun text =>
        if strip text = "" then .blank
        else
          match JsonValue.loads lib.floatRepr text with
          | some value => .json value
          | none => .malformed (lib.jsonDecodeError text)

/-- Bytes that do not decode raise a `ValueError` that nothing turns into an error of the store. -/
def load (files : TrustFiles) : Except Exc (Dict TrustRecord) :=
  match files.disk.file with
  | none => .ok ∅
  | some data =>
      match readText data with
      | none => .error ⟨"UnicodeDecodeError", lib.unicodeDecodeError data⟩
      | some text =>
          if strip text = "" then .ok ∅
          else
            (⟨files.path,
              match JsonValue.loads lib.floatRepr text with
              | some value => .json value
              | none => .malformed (lib.jsonDecodeError text)⟩ : TrustStore).load codec

/-- `json.dumps(payload, indent=2, sort_keys=True)` as the file holds it. -/
def content (payload : List (String × JsonValue)) : Bytes :=
  writeText ((JsonValue.canon (.obj payload)).dumps (.indented 2))

/-- The bytes that `save` writes, unless it raises before. -/
def contents (records : Dict TrustRecord) : Option Bytes :=
  match TrustStore.dumpRecords codec records with
  | .ok payload => some (content payload)
  | .error _ => none

/-- What `save` returns or raises, unless the process is gone. -/
def save (ending : SaveEnding) (files : TrustFiles) (records : Dict TrustRecord) :
    Option (Except Exc Unit) × TrustFiles :=
  let result : Except Exc Unit :=
    match ending.fault with
    | some (.mkdir text) => .error ((⟨files.path, .absent⟩ : TrustStore).notPersisted text)
    | fault =>
        match TrustStore.dumpRecords codec records with
        | .error exc => .error exc
        | .ok _ =>
            match fault with
            | some (.mkdir text) | some (.write text) | some (.replace text) =>
                .error ((⟨files.path, .absent⟩ : TrustStore).notPersisted text)
            | none => .ok ()
  (if ending.isStop then none else some result,
    { files with disk := files.disk.session (fun _ => contents codec records) ending.progress })

end TrustFiles

end Shyam

import Shyam.Lib.TextMode
import Shyam.Workflow.Executors

/-!
# The executor of the local filesystem

Reading, writing and listing files, with the files of the machine as the state. What the operating
system decides is a parameter: where a path leads, and whether a call goes wrong before or after it
has opened the file.
-/

namespace Shyam

open Python

namespace LocalFilesystemExecutor

/-- The machine. `locate` is the file that a path leads to, `resolve` the text of its resolved path,
and `typeError` what is raised for an argument of a wrong type. -/
structure Host where
  lineSep : LineSep
  locate : String → String
  resolve : String → String
  codec : String → Option TextCodec
  localeEncoding : String
  pathLike : PyValue → Except Exc String
  typeError : String → PyValue → Exc

/-- How a call goes wrong. What is left of a file that was opened to be written is up to the
machine. -/
inductive Fault where
  | mkdir (exc : Exc)
  | opening (exc : Exc)
  | transfer (exc : Exc) (left : Bytes)

/-- The machine at one call. -/
structure Conditions where
  fault : Option Fault := none
  entries : String → Option (List String) := fun _ => none

/-- The regular files, by the place that a path leads to. -/
abbrev Files := Dict Bytes

variable (host : Host) (conditions : Conditions)

/-! ### Arguments -/

/-- `Path(v)`. -/
def Host.path : PyValue → Except Exc String
  | .str s => .ok s
  | v => host.pathLike v

def requirePath (inputData : Dict PyValue) : Except Exc PyValue :=
  let path := inputData.getD "path" .none
  if path.truthy then .ok path
  else .error ⟨"ValueError", "Missing required 'path' parameter in input_data"⟩

def Host.requiredPath (inputData : Dict PyValue) : Except Exc String := do
  let path ← requirePath inputData
  host.path path

/-- The name of the encoding; `None` stands for that of the locale. -/
def Host.encoding (inputData : Dict PyValue) : Except Exc String :=
  match inputData.getD "encoding" (.str "utf-8") with
  | .str name => .ok name
  | .none => .ok host.localeEncoding
  | v => .error (host.typeError "encoding" v)

def Host.content (inputData : Dict PyValue) : Except Exc String :=
  match inputData.getD "content" (.str "") with
  | .str s => .ok s
  | v => .error (host.typeError "data" v)

def Host.lookupCodec (name : String) : Except Exc TextCodec :=
  match host.codec name with
  | some codec => .ok codec
  | none => .error ⟨"LookupError", "unknown encoding: " ++ name⟩

/-! ### Failures -/

def mkdirFailure : Option Fault → Except Exc Unit
  | some (.mkdir exc) => .error exc
  | some (.opening _) | some (.transfer _ _) | none => .ok ()

def openingFailure : Option Fault → Except Exc Unit
  | some (.opening exc) => .error exc
  | some (.mkdir _) | some (.transfer _ _) | none => .ok ()

def transferFailure : Option Fault → Except Exc Unit
  | some (.transfer exc _) => .error exc
  | some (.mkdir _) | some (.opening _) | none => .ok ()

/-! ### Reading -/

def readResult (path content : String) : PyValue :=
  .dict [("path", .str (host.resolve path)), ("content", .str content),
    ("size_bytes", .int (encodeUtf8 content).length)]

def readFile (inputData : Dict PyValue) (files : Files) : Except Exc PyValue := do
  let path ← host.requiredPath inputData
  match files.get? (host.locate path) with
  | none => .error ⟨"FileNotFoundError", "File not found: " ++ path⟩
  | some data => do
      let encoding ← host.encoding inputData
      openingFailure conditions.fault
      let codec ← host.lookupCodec encoding
      transferFailure conditions.fault
      let content ← codec.readText data
      return readResult host path content

/-! ### Writing -/

/-- What is opened to be written: its path, the content and the encoding. -/
structure Opened where
  path : String
  content : String
  encoding : String

/-- Up to the opening, the files stay as they are. -/
def openForWriting (inputData : Dict PyValue) : Except Exc Opened := do
  let path ← host.requiredPath inputData
  mkdirFailure conditions.fault
  let content ← host.content inputData
  let encoding ← host.encoding inputData
  openingFailure conditions.fault
  return ⟨path, content, encoding⟩

/-- The encoding is looked up, and the text is encoded, after the file was emptied. -/
def encodeOpened (opened : Opened) : Except Exc Bytes := do
  let codec ← host.lookupCodec opened.encoding
  codec.writeText host.lineSep opened.content

def writeResult (opened : Opened) : PyValue :=
  .dict [("path", .str (host.resolve opened.path)),
    ("written_bytes", .int (encodeUtf8 opened.content).length)]

/-- What is raised, or what the file holds. -/
def fill (opened : Opened) : Except Exc PyValue × Bytes :=
  match encodeOpened host opened with
  | .error exc => (.error exc, [])
  | .ok data =>
      match conditions.fault with
      | some (.transfer exc left) => (.error exc, left)
      | _ => (.ok (writeResult host opened), data)

def writeFile (inputData : Dict PyValue) (files : Files) : Except Exc PyValue × Files :=
  match openForWriting host conditions inputData with
  | .error exc => (.error exc, files)
  | .ok opened =>
      let (outcome, data) := fill host conditions opened
      (outcome, files.set (host.locate opened.path) data)

/-! ### Listing -/

def listDir (inputData : Dict PyValue) : Except Exc PyValue := do
  let path ← host.path (inputData.getD "path" (.str "."))
  match conditions.entries path with
  | none => .error ⟨"NotADirectoryError", "Directory not found: " ++ path⟩
  | some entries =>
      return .dict [("path", .str (host.resolve path)),
        ("entries", .list (entries.map PyValue.str)), ("count", .int entries.length)]

/-! ### The executor -/

/-- What the handler makes of an exception. -/
def wrap (cap : String) (outcome : Except Exc PyValue) : Except Exc PyValue :=
  outcome.mapError fun exc => if exc.cls = "StepExecutionError" then exc
    else stepExecutionError cap exc.text

/-- `execute`, on a target with the capability `cap`. -/
def execute (cap : String) (inputData : Dict PyValue) (files : Files) :
    Except Exc PyValue × Files :=
  match CapabilityExecutor.localFilesystemOperation cap with
  | .ok .readFile => (wrap cap (readFile host conditions inputData files), files)
  | .ok .writeFile =>
      let (outcome, files') := writeFile host conditions inputData files
      (wrap cap outcome, files')
  | .ok _ => (wrap cap (listDir host conditions inputData), files)
  | .error exc => (.error exc, files)

end LocalFilesystemExecutor

end Shyam

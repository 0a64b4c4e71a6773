import Mathlib.Data.List.Induction
import Shyam.Lib.PyValue
import Shyam.Lib.Run

/-!
# Text files and their replacement

A text file is read with universal newlines. A file is replaced by writing a temporary file beside
it and renaming that. The writer can stop at any point, also with a part of the temporary file
written, and a reader sees what the last writer wrote that came to the end.
-/

namespace Python

/-! ### Text mode -/

/-- What `newline=None` makes of the ends of lines. -/
def universalNewlines : List Char → List Char
  | '\r' :: '\n' :: cs => '\n' :: universalNewlines cs
  | c :: cs => (if c = '\r' then '\n' else c) :: universalNewlines cs
  | [] => []

/-- `path.read_text(encoding="utf-8")`; no text where the bytes do not decode. -/
def readText (data : Bytes) : Option String :=
  (decodeUtf8 data).map fun s => String.ofList (universalNewlines s.toList)

/-- `path.write_text(s, encoding="utf-8")`, where lines end in `\n`. -/
def writeText (s : String) : Bytes := encodeUtf8 s

theorem universalNewlines_of_notMem {cs : List Char} (h : ∀ c ∈ cs, c ≠ '\r') :
    universalNewlines cs = cs := by
  induction cs with
  | nil => rfl
  | cons c cs ih =>
      rw [List.forall_mem_cons] at h
      have htail : universalNewlines (c :: cs)
          = (if c = '\r' then '\n' else c) :: universalNewlines cs := by
        rw [universalNewlines.eq_def]
        split
        · next hcons => exact absurd (List.cons.inj hcons).1 h.1
        · next hcons =>
            obtain ⟨rfl, rfl⟩ := List.cons.inj hcons
            rfl
        · next hcons => cases hcons
      rw [htail, if_neg h.1, ih h.2]

theorem ne_return_of_mem_universalNewlines {cs : List Char} :
    ∀ c ∈ universalNewlines cs, c ≠ '\r' := by
  fun_induction universalNewlines cs with
  | case1 cs ih => exact List.forall_mem_cons.mpr ⟨by decide, ih⟩
  | case2 c cs _ ih =>
      refine List.forall_mem_cons.mpr ⟨?_, ih⟩
      split_ifs with hc
      · decide
      · exact hc
  | case3 => exact nofun

theorem readText_writeText (s : String) :
    readText (writeText s) = some (String.ofList (universalNewlines s.toList)) := by
  rw [readText, writeText, decodeUtf8_eq_some_iff.mpr rfl, Option.map_some]

theorem readText_writeText_of_notMem {s : String} (h : ∀ c ∈ s.toList, c ≠ '\r') :
    readText (writeText s) = some s := by
  rw [readText_writeText, universalNewlines_of_notMem h, String.ofList_toList]

end Python

/-! ### Replacing a file -/

namespace AtomicFile

open Transition

variable {β γ : Type}

/-- The file, and the temporary one beside it. -/
structure Disk (β : Type) where
  file : Option β := none
  temp : Option β := none

/-- How far a writer comes. -/
inductive Progress (β : Type) where
  | nothing
  | torn (part : β)
  | written
  | replaced

def Progress.isReplaced : Progress β → Bool
  | replaced => true
  | nothing | torn _ | written => false

namespace Disk

def replace (new : β) (progress : Progress β) (disk : Disk β) : Disk β :=
  match progress with
  | .nothing => disk
  | .torn part => { disk with temp := some part }
  | .written => { disk with temp := some new }
  | .replaced => { file := some new, temp := none }

/-- A reader sees all of what was written, or nothing of it. -/
theorem file_replace (new : β) (progress : Progress β) (disk : Disk β) :
    (disk.replace new progress).file = if progress.isReplaced then some new else disk.file := by
  cases progress <;> rfl

/-- A session reads the file and may decide to replace it. -/
def session (decide : Option β → Option β) (progress : Progress β) (disk : Disk β) : Disk β :=
  match decide disk.file with
  | some new => disk.replace new progress
  | none => disk

theorem file_session (decide : Option β → Option β) (progress : Progress β) (disk : Disk β) :
    (disk.session decide progress).file
      = if progress.isReplaced then (decide disk.file).or disk.file else disk.file := by
  rw [session]
  cases decide disk.file with
  | none => rw [Option.none_or, ite_self]
  | some new => exact file_replace new progress disk

/-- **Write once.** Where no session replaces a file that is there, a file that is there stays. -/
theorem file_session_of_some {decide : Option β → Option β}
    (honce : ∀ content, decide (some content) = none) {disk : Disk β} {content : β}
    (h : disk.file = some content) (progress : Progress β) :
    (disk.session decide progress).file = some content := by
  rw [file_session, h, honce, Option.none_or, ite_self]

/-- What the writers that came to the end have written last. -/
def lastReplaced (contents : γ → Option β) (progress : γ → Progress β)
    (writers : List γ) : Option γ :=
  (writers.filter fun writer => (contents writer).isSome && (progress writer).isReplaced).getLast?

/-- **Durability.** After any writers, the file holds what the last one wrote
that came to the end. -/
theorem file_run (contents : γ → Option β) (progress : γ → Progress β)
    (writers : List γ) (disk : Disk β) :
    (run (fun disk writer => disk.session (fun _ => contents writer) (progress writer)) disk
      writers).file = ((lastReplaced contents progress writers).bind contents).or disk.file := by
  induction writers using List.reverseRecOn with
  | nil => rfl
  | append_singleton writers writer ih =>
      rw [run_append, run_cons, run_nil, file_session, ih, lastReplaced,
        lastReplaced, List.filter_append]
      cases hcontents : contents writer with
      | none => simp [hcontents]
      | some new =>
          cases hprogress : (progress writer).isReplaced with
          | false => simp [hprogress]
          | true => simp [hcontents, hprogress]

end Disk

end AtomicFile

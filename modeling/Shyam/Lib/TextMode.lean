import Shyam.Lib.Files

/-!
# Text mode

What a text file holds on a host that ends its lines in `\n` or in `\r\n`, in an encoding that reads
back what it has written. A text comes back as it was exactly when it has no carriage return.
-/

namespace Python

/-! ### Ends of lines -/

/-- `os.linesep`. -/
inductive LineSep where
  | lf
  | crlf
deriving DecidableEq, Repr

def LineSep.chars : LineSep → List Char
  | lf => ['\n']
  | crlf => ['\r', '\n']

/-- What text mode writes for the ends of lines. -/
def LineSep.translate (sep : LineSep) (cs : List Char) : List Char :=
  cs.flatMap fun c => if c = '\n' then sep.chars else [c]

variable {sep : LineSep} {cs : List Char}

theorem LineSep.translate_cons (sep : LineSep) (c : Char) (cs : List Char) :
    sep.translate (c :: cs) = (if c = '\n' then sep.chars else [c]) ++ sep.translate cs :=
  List.flatMap_cons

theorem universalNewlines_cons {c : Char} (h : c ≠ '\r') (cs : List Char) :
    universalNewlines (c :: cs) = c :: universalNewlines cs := by
  rw [universalNewlines.eq_def]
  split
  · next hcons => exact absurd (List.cons.inj hcons).1 h
  · next hcons =>
      obtain ⟨rfl, rfl⟩ := List.cons.inj hcons
      rw [if_neg h]
  · next hcons => cases hcons

/-- What a text is after it was written and read. -/
def LineSep.through (sep : LineSep) (s : String) : String :=
  String.ofList (universalNewlines (sep.translate s.toList))

theorem universalNewlines_translate (h : '\r' ∉ cs) :
    universalNewlines (sep.translate cs) = cs := by
  induction cs with
  | nil => rfl
  | cons c cs ih =>
      rw [List.mem_cons, not_or] at h
      rw [LineSep.translate_cons]
      split_ifs with hc
      · have hsep : universalNewlines (sep.chars ++ sep.translate cs)
            = '\n' :: universalNewlines (sep.translate cs) := by
          cases sep with
          | lf => exact universalNewlines_cons (by decide) _
          | crlf => rfl
        rw [hsep, ih h.2, hc]
      · rw [List.singleton_append, universalNewlines_cons (Ne.symm h.1), ih h.2]

/-- **Text mode.** A text comes back exactly when it has no carriage return. -/
theorem LineSep.through_eq_iff (sep : LineSep) (s : String) :
    sep.through s = s ↔ '\r' ∉ s.toList := by
  constructor
  · intro hsame hmem
    rw [← hsame, through, String.toList_ofList] at hmem
    exact ne_return_of_mem_universalNewlines _ hmem rfl
  · intro h
    rw [through, universalNewlines_translate h, String.ofList_toList]

/-! ### Encodings -/

/-- An encoding reads back what it has written. -/
structure TextCodec where
  encode : String → Except Exc Bytes
  decode : Bytes → Except Exc String
  decode_encode : ∀ {s : String} {data : Bytes}, encode s = .ok data → decode data = .ok s

namespace TextCodec

variable (codec : TextCodec) (sep : LineSep)

/-- What `f.write(s)` puts into a file. -/
def writeText (s : String) : Except Exc Bytes :=
  codec.encode (String.ofList (sep.translate s.toList))

/-- `f.read()`. -/
def readText (data : Bytes) : Except Exc String :=
  (codec.decode data).map fun s => String.ofList (universalNewlines s.toList)

end TextCodec

end Python

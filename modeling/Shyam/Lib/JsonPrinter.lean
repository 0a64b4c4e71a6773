import Shyam.Lib.JsonAgree
import Shyam.Lib.JsonReader

/-!
# Printing JSON

`json.dumps` with its options, `sort_keys` apart: sorting is `canon`.
-/

namespace Python

/-- The options. The blanks follow a comma and a colon. -/
structure JsonFormat where
  ensureAscii : Bool
  indent : Option ℕ
  itemBlanks : ℕ
  keyBlanks : ℕ

namespace JsonFormat

/-- `json.dumps(v)`. -/
def default : JsonFormat := ⟨true, none, 1, 1⟩

/-- `json.dumps(v, indent=n)`. -/
def indented (n : ℕ) : JsonFormat := ⟨true, some n, 0, 1⟩

/-- `model_dump_json(indent=n)`. -/
def model (n : ℕ) : JsonFormat := ⟨false, some n, 0, 1⟩

/-- `separators=(",", ":")`, `ensure_ascii=False`. -/
def compact : JsonFormat := ⟨false, none, 0, 0⟩

def hexText (n : ℕ) : List Char :=
  [Nat.digitChar (n / 4096), Nat.digitChar (n / 256 % 16), Nat.digitChar (n / 16 % 16),
    Nat.digitChar (n % 16)]

def unicodeEscape (n : ℕ) : List Char := '\\' :: 'u' :: hexText n

/-- With `ensure_ascii`. -/
def asciiEscape (c : Char) : List Char :=
  if c = '"' then ['\\', '"']
  else if c = '\\' then ['\\', '\\']
  else if c = '\n' then ['\\', 'n']
  else if c = '\r' then ['\\', 'r']
  else if c = '\t' then ['\\', 't']
  else if c = '\x08' then ['\\', 'b']
  else if c = '\x0c' then ['\\', 'f']
  else if 32 ≤ c.toNat ∧ c.toNat < 127 then [c]
  else if c.toNat < 0x10000 then unicodeEscape c.toNat
  else
    unicodeEscape (0xd800 + (c.toNat - 0x10000) / 1024)
      ++ unicodeEscape (0xdc00 + (c.toNat - 0x10000) % 1024)

variable (format : JsonFormat)

def escape (c : Char) : List Char :=
  if format.ensureAscii then asciiEscape c else JsonValue.escapeChar c

def quote (s : String) : List Char := '"' :: s.toList.flatMap format.escape ++ ['"']

def floatText (literal : String) : List Char :=
  if literal = "nan" then "NaN".toList
  else if literal = "inf" then "Infinity".toList
  else if literal = "-inf" then "-Infinity".toList
  else literal.toList

/-- The line break before what stands at the level. -/
def newline (level : ℕ) : List Char :=
  match format.indent with
  | some n => '\n' :: List.replicate (n * level) ' '
  | none => []

def separate (sep : List Char) : List (List Char) → List Char
  | [] => []
  | x :: xs => x ++ xs.flatMap (sep ++ ·)

/-- The entries of a container between its brackets. -/
def enclose (level : ℕ) (opening closing : Char) (texts : List (List Char)) : List Char :=
  match texts with
  | [] => [opening, closing]
  | _ =>
      opening :: format.newline (level + 1)
        ++ separate (',' :: List.replicate format.itemBlanks ' '
          ++ format.newline (level + 1)) texts
        ++ format.newline level ++ [closing]

theorem opening_mem_enclose (format : JsonFormat) (level : ℕ) (opening closing : Char)
    (texts : List (List Char)) :
    opening ∈ format.enclose level opening closing texts := by
  cases texts with
  | nil => exact List.mem_cons_self
  | cons text texts => exact List.mem_cons_self

def entry (key : String) (text : List Char) : List Char :=
  format.quote key ++ ':' :: List.replicate format.keyBlanks ' ' ++ text

mutual

def print (level : ℕ) : JsonValue → List Char
  | .null => "null".toList
  | .bool true => "true".toList
  | .bool false => "false".toList
  | .int i => Text.int i
  | .float literal => floatText literal
  | .str s => format.quote s
  | .arr items => format.enclose level '[' ']' (printItems (level + 1) items)
  | .obj fields => format.enclose level '{' '}' (printFields (level + 1) fields)

def printItems (level : ℕ) : List JsonValue → List (List Char)
  | [] => []
  | v :: vs => print level v :: printItems level vs

def printFields (level : ℕ) : List (String × JsonValue) → List (List Char)
  | [] => []
  | f :: fs => printField level f :: printFields level fs

def printField (level : ℕ) : String × JsonValue → List Char
  | (key, v) => format.entry key (print level v)

end

theorem printItems_eq_map (level : ℕ) (vs : List JsonValue) :
    format.printItems level vs = vs.map (format.print level) := by
  induction vs with
  | nil => rfl
  | cons v vs ih => rw [printItems, ih, List.map_cons]

theorem printFields_eq_map (level : ℕ) (fs : List (String × JsonValue)) :
    format.printFields level fs = fs.map fun f => format.entry f.1 (format.print level f.2) := by
  induction fs with
  | nil => rfl
  | cons f fs ih =>
      obtain ⟨key, v⟩ := f
      rw [printFields, ih, printField, List.map_cons]

end JsonFormat

def JsonValue.dumps (format : JsonFormat) (v : JsonValue) : String :=
  String.ofList (format.print 0 v)

open JsonReader

variable {floatRepr : String → String}

/-! ### Values that are read back -/

/-- A value whose keys are distinct, and whose floats are texts that `float`
and `repr` give back. -/
inductive JsonValue.Readable (floatRepr : String → String) : JsonValue → Prop where
  | null : Readable floatRepr null
  | bool (b : Bool) : Readable floatRepr (bool b)
  | int (i : Int) : Readable floatRepr (int i)
  | float {literal : String} (word : ∀ c ∈ JsonFormat.floatText literal, isWord c = true)
      (nonempty : JsonFormat.floatText literal ≠ [])
      (value : wordValue floatRepr (JsonFormat.floatText literal) = some (.float literal)) :
      Readable floatRepr (float literal)
  | str (s : String) : Readable floatRepr (str s)
  | arr {items : List JsonValue} (readable : ∀ v ∈ items, Readable floatRepr v) :
      Readable floatRepr (arr items)
  | obj {fields : List (String × JsonValue)} (nodup : (fields.map Prod.fst).Nodup)
      (readable : ∀ f ∈ fields, Readable floatRepr f.2) : Readable floatRepr (obj fields)

theorem JsonValue.Plain.readable (floatRepr : String → String) {v : JsonValue} (hv : v.Plain) :
    v.Readable floatRepr := by
  induction v using JsonValue.inductionOn with
  | null => exact .null
  | bool b => exact .bool b
  | int i => exact .int i
  | float literal => cases hv
  | str s => exact .str s
  | arr items ih =>
      cases hv with
      | arr plain => exact .arr fun v hv => ih v hv (plain v hv)
  | obj fields ih =>
      cases hv with
      | obj nodup plain => exact .obj nodup fun f hf => ih f hf (plain f hf)

/-- Sorting the keys keeps a value readable. -/
theorem JsonValue.Readable.canon {v : JsonValue} (hv : v.Readable floatRepr) :
    v.canon.Readable floatRepr := by
  induction v using JsonValue.inductionOn with
  | arr items ih =>
      cases hv with
      | arr readable =>
          rw [JsonValue.canon, JsonValue.canonItems_eq_map]
          exact .arr (List.forall_mem_map.mpr fun v hv => ih v hv (readable v hv))
  | obj fields ih =>
      cases hv with
      | obj nodup readable =>
          rw [JsonValue.canon_obj]
          refine .obj (JsonValue.nodup_sortFields_map_canon nodup) fun f hf => ?_
          obtain ⟨g, hg, rfl⟩ := List.mem_map.mp ((JsonValue.perm_sortFields _).mem_iff.mp hf)
          exact ih g hg (readable g hg)
  | _ => exact hv

/-! ### Line ends -/

section Lines

variable {c : Char}

theorem isWord_of_mem_int {i : ℤ} {c : Char} (hc : c ∈ Text.int i) : isWord c = true := by
  have hdigit {n : ℕ} (h : c ∈ Nat.toDigits 10 n) : isWord c = true := by
    have hdigit := Text.isDigit_of_mem_toDigits h
    simp [isWord, Char.isAlphanum, hdigit]
  unfold Text.int at hc
  split at hc
  · rcases List.mem_cons.mp hc with rfl | hc
    · rfl
    · exact hdigit hc
  · exact hdigit hc

theorem isBlank_newline (format : JsonFormat) (level : ℕ) :
    ∀ c ∈ format.newline level, c = ' ' ∨ c = '\n' := by
  intro c hc
  unfold JsonFormat.newline at hc
  split at hc
  · rcases List.mem_cons.mp hc with hc | hc
    · exact Or.inr hc
    · exact Or.inl (List.eq_of_mem_replicate hc)
  · exact absurd hc List.not_mem_nil

theorem ne_return_of_mem_unicodeEscape {n : ℕ} (hn : n < 65536)
    (h : c ∈ JsonFormat.unicodeEscape n) : c ≠ '\r' := by
  have hdigit : ∀ n < 16, Nat.digitChar n ≠ '\r' := by decide
  simp only [JsonFormat.unicodeEscape, JsonFormat.hexText, List.mem_cons,
    List.not_mem_nil, or_false] at h
  rcases h with rfl | rfl | rfl | rfl | rfl | rfl
  · decide
  · decide
  · exact hdigit _ (by omega)
  · exact hdigit _ (by omega)
  · exact hdigit _ (by omega)
  · exact hdigit _ (by omega)

theorem ne_return_of_mem_asciiEscape {d : Char} (h : c ∈ JsonFormat.asciiEscape d) : c ≠ '\r' := by
  have hvalid : d.toNat < 0xd800 ∨ 0xdfff < d.toNat ∧ d.toNat < 0x110000 := d.valid
  unfold JsonFormat.asciiEscape at h
  split_ifs at h with hquote hslash hn hr ht hb hf hprint hplane
  iterate 7
    · rcases List.mem_cons.mp h with rfl | h
      · decide
      · rw [List.mem_singleton.mp h]
        decide
  · rw [List.mem_singleton.mp h]
    rintro rfl
    exact absurd hprint.1 (by decide)
  · exact ne_return_of_mem_unicodeEscape hplane h
  · rcases List.mem_append.mp h with h | h
    · exact ne_return_of_mem_unicodeEscape (by omega) h
    · exact ne_return_of_mem_unicodeEscape (by omega) h

theorem ne_return_of_mem_escapeChar {d : Char} (h : c ∈ JsonValue.escapeChar d) : c ≠ '\r' := by
  have hdigit : ∀ n < 32, Nat.digitChar (n / 16) ≠ '\r' ∧ Nat.digitChar (n % 16) ≠ '\r' := by decide
  unfold JsonValue.escapeChar at h
  split_ifs at h with hquote hslash hn hr ht hb hf hcontrol
  iterate 7
    · rcases List.mem_cons.mp h with rfl | h
      · decide
      · rw [List.mem_singleton.mp h]
        decide
  · simp only [List.mem_cons, List.not_mem_nil, or_false] at h
    rcases h with rfl | rfl | rfl | rfl | rfl | rfl
    · decide
    · decide
    · decide
    · decide
    · exact (hdigit _ hcontrol).1
    · exact (hdigit _ hcontrol).2
  · rw [List.mem_singleton.mp h]
    exact hr

theorem ne_return_of_isWord (h : isWord c = true) : c ≠ '\r' := by
  rintro rfl
  exact absurd h (by decide)

namespace JsonFormat

variable {format : JsonFormat}

theorem ne_return_of_mem_quote {s : String} (h : c ∈ format.quote s) : c ≠ '\r' := by
  rcases List.mem_append.mp h with h | h
  · rcases List.mem_cons.mp h with rfl | h
    · decide
    · obtain ⟨d, -, hd⟩ := List.mem_flatMap.mp h
      unfold escape at hd
      split at hd
      · exact ne_return_of_mem_asciiEscape hd
      · exact ne_return_of_mem_escapeChar hd
  · rw [List.mem_singleton.mp h]
    decide

theorem ne_return_of_mem_newline {level : ℕ} (h : c ∈ format.newline level) : c ≠ '\r' := by
  rcases isBlank_newline format level c h with rfl | rfl
  · decide
  · decide

theorem ne_return_of_mem_enclose {level : ℕ} {opening closing : Char} (hopening : opening ≠ '\r')
    (hclosing : closing ≠ '\r') {texts : List (List Char)}
    (htexts : ∀ text ∈ texts, ∀ d ∈ text, d ≠ '\r')
    (h : c ∈ format.enclose level opening closing texts) : c ≠ '\r' := by
  have hseparator : ∀ d ∈ ',' :: List.replicate format.itemBlanks ' ' ++ format.newline (level + 1),
      d ≠ '\r' := by
    intro d hd
    rcases List.mem_append.mp hd with hd | hd
    · rcases List.mem_cons.mp hd with rfl | hd
      · decide
      · rw [List.eq_of_mem_replicate hd]
        decide
    · exact ne_return_of_mem_newline hd
  cases texts with
  | nil =>
      rcases List.mem_cons.mp h with rfl | h
      · exact hopening
      · rw [List.mem_singleton.mp h]
        exact hclosing
  | cons text texts =>
      rw [List.forall_mem_cons] at htexts
      simp only [enclose, separate, List.mem_append, List.mem_cons, List.mem_flatMap,
        List.not_mem_nil, or_false] at h
      rcases h with (((rfl | h) | h | ⟨t, ht, h⟩) | h) | rfl
      · exact hopening
      · exact ne_return_of_mem_newline h
      · exact htexts.1 c h
      · rcases h with h | h
        · exact hseparator c (by simpa [or_assoc] using h)
        · exact htexts.2 t ht c h
      · exact ne_return_of_mem_newline h
      · exact hclosing

/-- No printed text has a carriage return. -/
theorem ne_return_of_mem_print {v : JsonValue} (hv : v.Readable floatRepr) {level : ℕ}
    (h : c ∈ format.print level v) : c ≠ '\r' := by
  induction v using JsonValue.inductionOn generalizing level c with
  | null =>
      have hnull : '\r' ∉ "null".toList := by decide
      exact ne_of_mem_of_not_mem h hnull
  | bool b =>
      have hfalse : '\r' ∉ "false".toList := by decide
      have htrue : '\r' ∉ "true".toList := by decide
      cases b
      · exact ne_of_mem_of_not_mem h hfalse
      · exact ne_of_mem_of_not_mem h htrue
  | int i =>
      rw [print] at h
      exact ne_return_of_isWord (isWord_of_mem_int h)
  | float literal =>
      cases hv with
      | float word nonempty value => exact ne_return_of_isWord (word c h)
  | str s => exact ne_return_of_mem_quote h
  | arr items ih =>
      cases hv with
      | arr readable =>
          rw [print, printItems_eq_map] at h
          refine ne_return_of_mem_enclose (by decide) (by decide)
            (List.forall_mem_map.mpr fun v hv d hd => ?_) h
          exact ih v hv (readable v hv) hd
  | obj fields ih =>
      cases hv with
      | obj nodup readable =>
          rw [print, printFields_eq_map] at h
          refine ne_return_of_mem_enclose (by decide) (by decide)
            (List.forall_mem_map.mpr fun f hf d hd => ?_) h
          simp only [entry, List.mem_append, List.mem_cons] at hd
          rcases hd with (hd | rfl | hd) | hd
          · exact ne_return_of_mem_quote hd
          · decide
          · rw [List.eq_of_mem_replicate hd]
            decide
          · exact ih f hf (readable f hf) hd

end JsonFormat

end Lines

end Python

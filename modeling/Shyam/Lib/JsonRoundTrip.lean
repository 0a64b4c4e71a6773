import Mathlib.Data.List.Induction
import Mathlib.Data.List.TakeDrop
import Mathlib.Data.List.TakeWhile
import Shyam.Lib.JsonPrinter

/-!
# Reading back what was printed

Whatever the options, `json.loads` reads a printed value back.
-/

namespace Python

open JsonReader JsonReader.Reader

variable {floatRepr : String → String}

/-! ### Escapes -/

theorem hexDigit_digitChar : ∀ n < 16, hexDigit (Nat.digitChar n) = some n := by decide

/-- A unit written out is read as this unit. -/
theorem run_unicodeEscape (floatRepr : String → String) (r : Reader) {n : ℕ}
    (hn : n < 65536) (before : List ℕ) :
    run floatRepr { r with mode := .string before } (JsonFormat.unicodeEscape n)
      = some { r with mode := .string (before ++ [n]) } := by
  have hunit : ofHex [n / 4096, n / 256 % 16, n / 16 % 16, n % 16] = n := by
    simp only [ofHex, List.foldl_cons, List.foldl_nil]
    omega
  rw [JsonFormat.unicodeEscape, JsonFormat.hexText,
    run_hex (hexDigit_digitChar _ (by omega)) (hexDigit_digitChar _ (by omega))
      (hexDigit_digitChar _ (by omega))
      (hexDigit_digitChar _ (by omega)), hunit]

theorem spells_unicodeEscape {c : Char} (hc : c.toNat < 65536) :
    Spells (JsonFormat.unicodeEscape c.toNat) [c] :=
  ⟨[c.toNat], fun floatRepr r before => run_unicodeEscape floatRepr r hc before,
    fun after => combine_toNat c after⟩

theorem spells_pair {c : Char} (hc : 65536 ≤ c.toNat) :
    Spells
      (JsonFormat.unicodeEscape (0xd800 + (c.toNat - 0x10000) / 1024)
        ++ JsonFormat.unicodeEscape (0xdc00 + (c.toNat - 0x10000) % 1024)) [c] := by
  have hvalid : c.toNat < 0xd800 ∨ 0xdfff < c.toNat ∧ c.toNat < 0x110000 := c.valid
  refine ⟨[0xd800 + (c.toNat - 0x10000) / 1024, 0xdc00 + (c.toNat - 0x10000) % 1024],
    fun floatRepr r before => ?_, fun after => combine_pair hc after⟩
  rw [run_append, run_unicodeEscape floatRepr r (by omega), Option.bind_some,
    run_unicodeEscape floatRepr r (by omega), List.append_assoc]
  rfl

theorem spells_asciiEscape (c : Char) : Spells (JsonFormat.asciiEscape c) [c] := by
  unfold JsonFormat.asciiEscape
  split_ifs with hquote hslash hn hr ht hb hf hprint hplane
  · exact spells_unescape (by decide) (congrArg some hquote.symm)
  · exact spells_unescape (by decide) (congrArg some hslash.symm)
  · exact spells_unescape (by decide) (congrArg some hn.symm)
  · exact spells_unescape (by decide) (congrArg some hr.symm)
  · exact spells_unescape (by decide) (congrArg some ht.symm)
  · exact spells_unescape (by decide) (congrArg some hb.symm)
  · exact spells_unescape (by decide) (congrArg some hf.symm)
  · exact spells_plain hquote hslash hprint.1
  · exact spells_unicodeEscape hplane
  · exact spells_pair (not_lt.mp hplane)

theorem spells_escapeChar (c : Char) : Spells (JsonValue.escapeChar c) [c] := by
  unfold JsonValue.escapeChar
  split_ifs with hquote hslash hn hr ht hb hf hcontrol
  · exact spells_unescape (by decide) (congrArg some hquote.symm)
  · exact spells_unescape (by decide) (congrArg some hslash.symm)
  · exact spells_unescape (by decide) (congrArg some hn.symm)
  · exact spells_unescape (by decide) (congrArg some hr.symm)
  · exact spells_unescape (by decide) (congrArg some ht.symm)
  · exact spells_unescape (by decide) (congrArg some hb.symm)
  · exact spells_unescape (by decide) (congrArg some hf.symm)
  · have hzero : c.toNat / 4096 = 0 ∧ c.toNat / 256 % 16 = 0
      ∧ c.toNat / 16 % 16 = c.toNat / 16 := by omega
    have htext : JsonFormat.unicodeEscape c.toNat
        = ['\\', 'u', '0', '0', Nat.digitChar (c.toNat / 16), Nat.digitChar (c.toNat % 16)] := by
      rw [JsonFormat.unicodeEscape, JsonFormat.hexText, hzero.1, hzero.2.1, hzero.2.2]
      rfl
    rw [← htext]
    exact spells_unicodeEscape (by omega)
  · exact spells_plain hquote hslash (not_lt.mp hcontrol)

theorem JsonFormat.spells_escape (format : JsonFormat) (c : Char) :
    Spells (format.escape c) [c] := by
  unfold escape
  split
  · exact spells_asciiEscape c
  · exact spells_escapeChar c

/-! ### Numbers -/

/-- Only zero starts with a zero. -/
theorem toDigits_of_head_zero {n : ℕ} (h : (Nat.toDigits 10 n).head? = some '0') :
    Nat.toDigits 10 n = ['0'] := by
  induction n using Nat.strong_induction_on with
  | _ n ih =>
      rcases Nat.lt_or_ge n 10 with hn | hn
      · rw [Nat.toDigits_of_lt_base hn, List.head?_cons, Option.some.injEq] at h
        rw [Nat.toDigits_of_lt_base hn, h]
      · rw [Nat.toDigits_of_base_le (by omega) hn,
          List.head?_append_of_ne_nil _ (Nat.toDigits_ne_nil (n := n / 10) (b := 10))] at h
        have hzero := congrArg (Nat.ofDigitChars 10 · 0) (ih (n / 10) (by omega) h)
        have hdiv : n / 10 = 0 := (Nat.ofDigitChars_ten_toDigits (n := n / 10)).symm.trans hzero
        omega

theorem readNat_toDigits (n : ℕ) : readNat (Nat.toDigits 10 n) = some n := by
  have hdigits : (Nat.toDigits 10 n).all Char.isDigit = true :=
    List.all_eq_true.mpr fun _ hc => Text.isDigit_of_mem_toDigits hc
  rw [readNat, if_pos ⟨Nat.toDigits_ne_nil, hdigits, toDigits_of_head_zero⟩,
    Nat.ofDigitChars_ten_toDigits]

theorem toDigits_ne_cons {n : ℕ} {c : Char} {text : List Char} (hc : c.isDigit = false) :
    Nat.toDigits 10 n ≠ c :: text := by
  intro h
  have hdigit := Text.isDigit_of_mem_toDigits (h ▸ List.mem_cons_self : c ∈ Nat.toDigits 10 n)
  rw [hc] at hdigit
  exact absurd hdigit Bool.false_ne_true

theorem unsigned_int (i : ℤ) : unsigned (Text.int i) = Nat.toDigits 10 i.natAbs := by
  unfold Text.int
  split
  · rfl
  · unfold unsigned
    split
    · next h => exact absurd h (toDigits_ne_cons rfl)
    · rfl

theorem readInt_int (i : ℤ) : readInt (Text.int i) = some i := by
  unfold Text.int
  split
  · next hneg =>
      have habs : -(i.natAbs : ℤ) = i := by omega
      rw [readInt, readNat_toDigits, Option.map_some, habs]
  · next hneg =>
      have habs : (i.natAbs : ℤ) = i := by omega
      unfold readInt
      split
      · next h => exact absurd h (toDigits_ne_cons rfl)
      · rw [readNat_toDigits, Option.map_some, habs]

theorem isFloat_int (i : ℤ) : isFloat (Text.int i) = false := by
  have hspan : (Nat.toDigits 10 i.natAbs).span Char.isDigit = (Nat.toDigits 10 i.natAbs, []) := by
    rw [List.span_eq_takeWhile_dropWhile,
      List.takeWhile_eq_self_iff.mpr fun _ => Text.isDigit_of_mem_toDigits,
      List.dropWhile_eq_nil_iff.mpr fun _ => Text.isDigit_of_mem_toDigits]
  unfold isFloat
  rw [unsigned_int, hspan]
  exact Bool.and_false _

/-- No integer is written like a word whose letters are not digits. -/
theorem int_ne {i : ℤ} {text : List Char} (h : (unsigned text).head?.any Char.isDigit = false)
    (hne : unsigned text ≠ []) : Text.int i ≠ text := by
  rintro rfl
  rw [unsigned_int] at h hne
  obtain ⟨c, ds, hds⟩ := List.exists_cons_of_ne_nil hne
  rw [hds] at h
  exact toDigits_ne_cons h hds

theorem wordValue_int (floatRepr : String → String) (i : ℤ) :
    wordValue floatRepr (Text.int i) = some (.int i) := by
  unfold wordValue
  rw [if_neg (int_ne (by decide) (by decide)), if_neg (int_ne (by decide) (by decide)),
    if_neg (int_ne (by decide) (by decide)), if_neg (int_ne (by decide) (by decide)),
    if_neg (int_ne (by decide) (by decide)), if_neg (int_ne (by decide) (by decide)), isFloat_int,
    if_neg Bool.false_ne_true, readInt_int]
  rfl

/-! ### Containers -/

/-- Where a value is wanted, the text stands for this value. -/
def Reads (floatRepr : String → String) (text : List Char) (v : JsonValue) : Prop :=
  ∀ (r : Reader) (c : Char) (rest : List Char), r.mode = .between →
    (r.want = .value ∨ r.want = .item) →
    isWord c = false → run floatRepr r (text ++ c :: rest) = run floatRepr (r.put v) (c :: rest)

/-- A reader inside a container that has no key waiting for its value. -/
def inside (r : Reader) (frame : Frame) (want : Want) : Reader :=
  { r with
    stack := frame :: r.stack
    want
    mode := .between }

section Container

variable {α : Type} {r done : Reader} {frames : List α → Frame} {opened again : Want}
  {f : α → List Char} {elems : List α}

/-- What a container does with its entries: `frames` is what the first of them leave open. -/
structure Holds (floatRepr : String → String) (r : Reader) (frames : List α → Frame)
    (opened again : Want) (f : α → List Char) (elems : List α) : Prop where
  elem : ∀ x ∈ elems, ∀ (before : List α) (want : Want), want = opened ∨ want = again →
    ∀ (c : Char) (rest : List Char),
    isWord c = false → run floatRepr (inside r (frames before) want) (f x ++ c :: rest)
      = run floatRepr (inside r (frames (before ++ [x])) .next) (c :: rest)
  comma : ∀ before, step floatRepr (inside r (frames before) .next) ','
    = some (inside r (frames before) again)

/-- After an entry, by induction on the entries that follow it. -/
theorem Holds.run_rest (h : Holds floatRepr r frames opened again f elems) {blanks : List Char}
    (hblank : ∀ c ∈ blanks, c = ' ' ∨ c = '\n') {after : List α} (hafter : ∀ x ∈ after, x ∈ elems)
    (before : List α) {c : Char} (hc : isWord c = false) (rest : List Char) :
    run floatRepr (inside r (frames before) .next)
        (after.flatMap (fun x => ',' :: blanks ++ f x) ++ c :: rest)
      = run floatRepr (inside r (frames (before ++ after)) .next) (c :: rest) := by
  induction after generalizing before with
  | nil =>
      rw [List.append_nil]
      rfl
  | cons x after ih =>
      rw [List.forall_mem_cons] at hafter
      obtain ⟨d, tail, htail, hd⟩ :
          ∃ d tail, after.flatMap (fun x => ',' :: blanks ++ f x) ++ c :: rest
            = d :: tail ∧ isWord d = false := by
        cases after with
        | nil => exact ⟨c, rest, rfl, hc⟩
        | cons y after => exact ⟨',', _, rfl, rfl⟩
      have hnext := ih hafter.2 (before ++ [x])
      rw [List.append_assoc, List.singleton_append] at hnext
      rw [List.flatMap_cons, List.cons_append, List.cons_append, List.cons_append, run_cons,
        h.comma, Option.bind_some, List.append_assoc, List.append_assoc, run_blanks rfl hblank,
        htail,
        h.elem x hafter.1 before again (Or.inr rfl) d tail hd, ← htail, hnext]

/-- **Containers.** The entries are read one after the other. -/
theorem Holds.run_enclose (h : Holds floatRepr r frames opened again f elems)
    (format : JsonFormat) (level : ℕ) {opening closing : Char} (hclosing : isWord closing = false)
    (hopen : step floatRepr r opening = some (inside r (frames []) opened))
    (hclose : ∀ want, want = opened ∨ want = .next →
      step floatRepr (inside r (frames elems) want) closing = some done) (rest : List Char) :
    run floatRepr r (format.enclose level opening closing (elems.map f) ++ rest)
      = run floatRepr done rest := by
  cases elems with
  | nil =>
      change run floatRepr r (opening :: closing :: rest) = _
      rw [run_cons, hopen, Option.bind_some, run_cons, hclose opened (Or.inl rfl), Option.bind_some]
  | cons x after =>
      have hblank : ∀ c ∈ List.replicate format.itemBlanks ' ' ++ format.newline (level + 1),
          c = ' ' ∨ c = '\n' := by
        intro c hc
        rcases List.mem_append.mp hc with hc | hc
        · exact Or.inl (List.eq_of_mem_replicate hc)
        · exact isBlank_newline format (level + 1) c hc
      have hafter : ∀ y ∈ after, y ∈ x :: after := fun y hy => List.mem_cons_of_mem x hy
      obtain ⟨d, tail, htail, hd⟩ : ∃ d tail,
          format.newline level ++ closing :: rest = d :: tail ∧ isWord d = false := by
        unfold JsonFormat.newline
        split
        · exact ⟨'\n', _, rfl, rfl⟩
        · exact ⟨closing, rest, rfl, hclosing⟩
      obtain ⟨e, tail', htail', he⟩ :
          ∃ e tail',
            after.flatMap (fun y =>
              ',' :: (List.replicate format.itemBlanks ' ' ++ format.newline (level + 1)) ++ f y)
                ++ d :: tail = e :: tail' ∧ isWord e = false := by
        cases after with
        | nil => exact ⟨d, tail, rfl, hd⟩
        | cons y after => exact ⟨',', _, rfl, rfl⟩
      have htext : format.enclose level opening closing ((x :: after).map f) ++ rest
          = opening :: (format.newline (level + 1) ++ (f x ++ (after.flatMap (fun y =>
              ',' :: (List.replicate format.itemBlanks ' ' ++ format.newline (level + 1)) ++ f y)
                ++ d :: tail))) := by
        rw [← htail]
        simp only [JsonFormat.enclose, List.map_cons, JsonFormat.separate, List.flatMap_map,
          List.append_assoc, List.cons_append, List.nil_append]
      calc run floatRepr r (format.enclose level opening closing ((x :: after).map f) ++ rest)
          = run floatRepr (inside r (frames []) opened) (f x ++ e :: tail') := by
            rw [htext, run_cons, hopen, Option.bind_some,
              run_blanks rfl (isBlank_newline format _), htail']
        _ = run floatRepr (inside r (frames [x]) .next) (e :: tail') :=
            h.elem x List.mem_cons_self [] opened (Or.inl rfl) e tail' he
        _ = run floatRepr (inside r (frames (x :: after)) .next) (d :: tail) := by
            rw [← htail', h.run_rest hblank hafter [x] hd]
            rfl
        _ = run floatRepr done rest := by
            rw [← htail, run_blanks rfl (isBlank_newline format level), run_cons,
              hclose .next (Or.inr rfl), Option.bind_some]

end Container

theorem reads_word {text : List Char} {v : JsonValue} (hvalue : wordValue floatRepr text = some v)
    (hne : text ≠ []) (hword : ∀ c ∈ text, isWord c = true) : Reads floatRepr text v :=
  fun _ _ _ hmode hwant hc => run_wordValue hmode hwant hvalue hne hword hc

theorem reads_quote (format : JsonFormat) (s : String) :
    Reads floatRepr (format.quote s) (.str s) := by
  intro r c rest hmode hwant _
  have hkey : ¬(r.want = .key ∨ r.want = .field) := by
    rcases hwant with h | h <;> rw [h] <;> decide
  have hplace : ¬(r.want = .colon ∨ r.want = .next) := by
    rcases hwant with h | h <;> rw [h] <;> decide
  have hdeliver : r.deliverString (String.ofList s.toList) = some (r.put (.str s)) := by
    rw [deliverString, if_neg hkey, deliver, if_pos hwant, String.ofList_toList]
  rw [JsonFormat.quote, List.append_assoc]
  exact (run_quoted hmode hplace (spells_flatMap format.spells_escape s.toList)).trans
    (congrArg (Option.bind · _) hdeliver)

/-- Closing a container gives its value to what is around it. -/
theorem put_inside (r : Reader) (frame : Frame) (want : Want) (v : JsonValue) :
    Reader.put v { inside r frame want with stack := r.stack } = r.put v := by
  obtain ⟨_ | ⟨_ | ⟨_, _ | _⟩, _⟩, want', _, result⟩ := r <;> rfl

theorem reads_arr (format : JsonFormat) (level : ℕ) {f : JsonValue → List Char}
    {items : List JsonValue} (h : ∀ v ∈ items, Reads floatRepr (f v) v) :
    Reads floatRepr (format.enclose level '[' ']' (items.map f)) (.arr items) := by
  intro r c rest hmode hwant _
  have hholds : Holds floatRepr r Frame.arr .item .value f items :=
    { elem := fun v hv before want hw d tail hd =>
        h v hv (inside r (.arr before) want) d tail rfl (hw.symm.imp id id) hd
      comma := fun _ => step_of_not_word rfl rfl }
  refine hholds.run_enclose format level rfl ?_ (fun want hw => ?_) (c :: rest)
  · rw [step_of_not_word hmode rfl]
    have hopen : r.punctuate '[' = some { r with stack := .arr [] :: r.stack, want := .item } :=
      if_pos hwant
    rw [hopen, inside, ← hmode]
  · rw [step_of_not_word rfl rfl, punctuate_bracket rfl hw.symm, put_inside]

/-- The fields read so far. -/
def fieldsOf {α : Type} (fields : List (String × α)) : Dict α :=
  fields.foldl (fun d f => d.set f.1 f.2) ∅

theorem entries_fieldsOf {α : Type} {fields : List (String × α)}
    (hnodup : (fields.map Prod.fst).Nodup) :
    (fieldsOf fields).entries = fields := by
  induction fields using List.reverseRecOn with
  | nil => rfl
  | append_singleton fields f ih =>
      rw [List.map_append, List.nodup_append] at hnodup
      have hentries := ih hnodup.1
      have hfresh : f.1 ∉ (fieldsOf fields).entries.map Prod.fst := by
        rw [hentries]
        exact fun hmem => hnodup.2.2 _ hmem _ List.mem_cons_self rfl
      rw [fieldsOf, List.foldl_append]
      exact (Dict.entries_set_of_notMem hfresh f.2).trans (congrArg (· ++ [f]) hentries)

theorem run_entry (format : JsonFormat) {text : List Char} {key : String} {v : JsonValue}
    (h : Reads floatRepr text v) (r : Reader) (before : List (String × JsonValue)) {want : Want}
    (hwant : want = .key ∨ want = .field) {c : Char} (hc : isWord c = false) (rest : List Char) :
    run floatRepr (inside r (.obj (fieldsOf before) none) want) (format.entry key text ++ c :: rest)
      = run floatRepr (inside r (.obj (fieldsOf (before ++ [(key, v)])) none) .next)
        (c :: rest) := by
  have hplace : ¬((inside r (.obj (fieldsOf before) none) want).want = .colon
      ∨ (inside r (.obj (fieldsOf before) none) want).want = .next) := by
    rcases hwant with rfl | rfl <;> exact fun h => by rcases h with h | h <;> cases h
  have hdeliver : (inside r (.obj (fieldsOf before) none) want).deliverString
    (String.ofList key.toList)
      = some (inside r (.obj (fieldsOf before) (some key)) .colon) := by
    rw [String.ofList_toList]
    exact if_pos hwant
  have hcolon : step floatRepr (inside r (.obj (fieldsOf before) (some key)) .colon) ':'
      = some (inside r (.obj (fieldsOf before) (some key)) .value) := step_of_not_word rfl rfl
  have hput : (inside r (.obj (fieldsOf before) (some key)) .value).put v
      = inside r (.obj (fieldsOf (before ++ [(key, v)])) none) .next := by
    rw [fieldsOf, fieldsOf, List.foldl_append]
    rfl
  have htext : format.entry key text ++ c :: rest
      = '"' :: key.toList.flatMap format.escape
          ++ '"' :: ':' :: (List.replicate format.keyBlanks ' ' ++ (text ++ c :: rest)) := by
    simp only [JsonFormat.entry, JsonFormat.quote, List.append_assoc,
      List.cons_append, List.nil_append]
  rw [htext, run_quoted rfl hplace (spells_flatMap format.spells_escape key.toList), hdeliver,
    Option.bind_some, run_cons, hcolon, Option.bind_some,
    run_blanks rfl fun d hd => Or.inl (List.eq_of_mem_replicate hd),
    h _ c rest rfl (Or.inl rfl) hc, hput]

theorem reads_obj (format : JsonFormat) (level : ℕ) {f : JsonValue → List Char}
    {fields : List (String × JsonValue)} (hnodup : (fields.map Prod.fst).Nodup)
    (h : ∀ e ∈ fields, Reads floatRepr (f e.2) e.2) :
    Reads floatRepr (format.enclose level '{' '}' (fields.map fun e => format.entry e.1 (f e.2)))
      (.obj fields) := by
  intro r c rest hmode hwant _
  have hholds : Holds floatRepr r (fun before => .obj (fieldsOf before) none) .field .key
      (fun e => format.entry e.1 (f e.2)) fields :=
    { elem := fun e he before want hw d tail hd =>
        run_entry format (h e he) r before hw.symm hd tail
      comma := fun _ => step_of_not_word rfl rfl }
  refine hholds.run_enclose format level rfl ?_ (fun want hw => ?_) (c :: rest)
  · rw [step_of_not_word hmode rfl]
    have hopen : r.punctuate '{' = some { r with
      stack := .obj ∅ none :: r.stack, want := .field } := if_pos hwant
    rw [hopen, inside, ← hmode]
    rfl
  · rw [step_of_not_word rfl rfl, punctuate_brace rfl hw.symm, put_inside, entries_fieldsOf hnodup]

/-! ### Round trip -/

/-- **Printing.** By induction on the value: what is printed at any level is read as the value. -/
theorem reads_print (format : JsonFormat) {v : JsonValue} (hv : v.Readable floatRepr) (level : ℕ) :
    Reads floatRepr (format.print level v) v := by
  induction v using JsonValue.inductionOn generalizing level with
  | null =>
      have hword : Reads floatRepr "null".toList .null :=
        reads_word rfl (by decide) (List.all_eq_true.mp (by decide))
      exact hword
  | bool b =>
      have hfalse : Reads floatRepr "false".toList (.bool false) :=
        reads_word rfl (by decide) (List.all_eq_true.mp (by decide))
      have htrue : Reads floatRepr "true".toList (.bool true) :=
        reads_word rfl (by decide) (List.all_eq_true.mp (by decide))
      cases b
      · exact hfalse
      · exact htrue
  | int i =>
      have hne : Text.int i ≠ [] := by
        obtain ⟨c, text, htext, -⟩ := Text.int_head i
        rw [htext]
        exact List.cons_ne_nil c text
      rw [JsonFormat.print]
      exact reads_word (wordValue_int floatRepr i) hne fun _ hc => isWord_of_mem_int hc
  | float literal =>
      cases hv with
      | float word nonempty value => exact reads_word value nonempty word
  | str s => exact reads_quote format s
  | arr items ih =>
      cases hv with
      | arr readable =>
          rw [JsonFormat.print, JsonFormat.printItems_eq_map]
          exact reads_arr format level fun v hv => ih v hv (readable v hv) (level + 1)
  | obj fields ih =>
      cases hv with
      | obj nodup readable =>
          rw [JsonFormat.print, JsonFormat.printFields_eq_map]
          exact reads_obj format level nodup fun e he => ih e he (readable e he) (level + 1)

theorem loads_of_reads {text : List Char} {v : JsonValue} (h : Reads floatRepr text v) :
    JsonValue.loads floatRepr (String.ofList text) = some v := by
  have hrun : run floatRepr {} (text ++ [' ']) = some (Reader.put v {}) :=
    (h {} ' ' [] rfl (Or.inl rfl) rfl).trans rfl
  have hbom : text.head? ≠ some (Char.ofNat 0xfeff) := by
    intro hhead
    obtain ⟨rest, rfl⟩ : ∃ rest, text = Char.ofNat 0xfeff :: rest := by
      cases text with
      | nil => cases hhead
      | cons c rest => exact ⟨rest, congrArg (· :: rest) (Option.some.inj hhead)⟩
    exact absurd ((run_cons {} (Char.ofNat 0xfeff) (rest ++ [' '])).symm.trans hrun) nofun
  rw [JsonValue.loads, String.toList_ofList, if_neg hbom, hrun]
  rfl

theorem loads_dumps (format : JsonFormat) {v : JsonValue} (hv : v.Readable floatRepr) :
    JsonValue.loads floatRepr (v.dumps format) = some v :=
  loads_of_reads (reads_print format hv 0)

end Python

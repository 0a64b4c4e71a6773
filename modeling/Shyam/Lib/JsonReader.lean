import Shyam.Lib.Json

/-!
# Reading JSON

`json.loads`, one character at a time. The containers that are open are a stack. A word is a literal
or a number, and it ends where no character can go on with it. What a float prints as is a
parameter, and half a surrogate pair, which is no character, is taken for an error.
-/

namespace Python

namespace JsonReader

inductive Frame where
  | arr (items : List JsonValue)
  | obj (fields : Dict JsonValue) (key : Option String)

/-- What comes next, apart from blanks: in an empty container, `item` and `field`
may also be its end. -/
inductive Want where
  | value
  | item
  | key
  | field
  | colon
  | next
deriving DecidableEq, Repr

inductive Mode where
  | between
  | word (text : List Char)
  | string (units : List ℕ)
  | escape (units : List ℕ)
  | hex (units : List ℕ) (digits : List ℕ)

structure Reader where
  stack : List Frame := []
  want : Want := .value
  mode : Mode := .between
  result : Option JsonValue := none

/-! ### Strings -/

def hexDigit (c : Char) : Option ℕ :=
  if c.isDigit then some (c.toNat - 48)
  else if 'a' ≤ c ∧ c ≤ 'f' then some (c.toNat - 87)
  else if 'A' ≤ c ∧ c ≤ 'F' then some (c.toNat - 55)
  else none

def ofHex (digits : List ℕ) : ℕ := digits.foldl (fun n d => 16 * n + d) 0

def unescape (c : Char) : Option Char :=
  [('"', '"'), ('\\', '\\'), ('/', '/'), ('b', '\x08'), ('f', '\x0c'), ('n', '\n'), ('r', '\r'),
    ('t', '\t')].lookup c

def isHigh (unit : ℕ) : Prop := 0xd800 ≤ unit ∧ unit < 0xdc00

def isLow (unit : ℕ) : Prop := 0xdc00 ≤ unit ∧ unit < 0xe000

instance (unit : ℕ) : Decidable (isHigh unit) := inferInstanceAs (Decidable (_ ∧ _))

instance (unit : ℕ) : Decidable (isLow unit) := inferInstanceAs (Decidable (_ ∧ _))

/-- Two escapes can stand for one character. -/
def combine : List ℕ → Option (List Char)
  | [] => some []
  | high :: low :: units =>
      if isHigh high then
        if isLow low then
          (combine units).map (Char.ofNat (0x10000 + 1024 * (high - 0xd800) + (low - 0xdc00)) :: ·)
        else none
      else if isLow high then none
      else (combine (low :: units)).map (Char.ofNat high :: ·)
  | [unit] => if isHigh unit ∨ isLow unit then none else some [Char.ofNat unit]

/-! ### Words -/

def isWord (c : Char) : Bool := c.isAlphanum || c = '-' || c = '+' || c = '.'

/-- `0|[1-9][0-9]*` -/
def readNat (ds : List Char) : Option ℕ :=
  if ds ≠ [] ∧ ds.all Char.isDigit ∧ (ds.head? = some '0' → ds = ['0'])
    then some (Nat.ofDigitChars 10 ds 0) else none

def readInt : List Char → Option ℤ
  | '-' :: ds => (readNat ds).map fun n : ℕ => -(n : ℤ)
  | ds => (readNat ds).map fun n : ℕ => (n : ℤ)

def unsigned : List Char → List Char
  | '-' :: ds => ds
  | ds => ds

/-- `[0-9]+` -/
def isDigits (ds : List Char) : Bool := ds ≠ [] ∧ ds.all Char.isDigit

/-- `[eE][-+]?[0-9]+` -/
def isExponent : List Char → Bool
  | e :: '-' :: ds => (e = 'e' ∨ e = 'E') ∧ isDigits ds
  | e :: '+' :: ds => (e = 'e' ∨ e = 'E') ∧ isDigits ds
  | e :: ds => (e = 'e' ∨ e = 'E') ∧ isDigits ds
  | [] => false

/-- An integer with a fraction, an exponent, or both. -/
def isFloat (text : List Char) : Bool :=
  let (whole, rest) := (unsigned text).span Char.isDigit
  (readNat whole).isSome &&
    match rest with
    | '.' :: rest =>
        let (fraction, exponent) := rest.span Char.isDigit
        isDigits fraction && (exponent.isEmpty || isExponent exponent)
    | rest => isExponent rest

variable (floatRepr : String → String)

def wordValue (text : List Char) : Option JsonValue :=
  if text = "null".toList then some .null
  else if text = "true".toList then some (.bool true)
  else if text = "false".toList then some (.bool false)
  else if text = "NaN".toList then some (.float "nan")
  else if text = "Infinity".toList then some (.float "inf")
  else if text = "-Infinity".toList then some (.float "-inf")
  else if isFloat text then some (.float (floatRepr (String.ofList text)))
  else (readInt text).map .int

/-! ### Steps -/

namespace Reader

/-- A value is complete. A repeated key keeps its last value. -/
def put (v : JsonValue) (r : Reader) : Reader :=
  match r.stack with
  | [] =>
      { r with
        mode := .between
        want := .next
        result := some v }
  | .arr items :: stack =>
      { r with
        mode := .between
        want := .next
        stack := .arr (items ++ [v]) :: stack }
  | .obj fields (some key) :: stack =>
      { r with
        mode := .between
        want := .next
        stack := .obj (fields.set key v) none :: stack }
  | .obj _ none :: _ =>
      { r with
        mode := .between
        want := .next }

def deliver (v : JsonValue) (r : Reader) : Option Reader :=
  if r.want = .value ∨ r.want = .item then some (r.put v) else none

def deliverString (s : String) (r : Reader) : Option Reader :=
  if r.want = .key ∨ r.want = .field then
    match r.stack with
    | .obj fields _ :: stack =>
        some
          { r with
            mode := .between
            want := .colon
            stack := .obj fields (some s) :: stack }
    | _ => none
  else r.deliver (.str s)

/-- Where `c` cannot be a part of a word. -/
def punctuate (c : Char) (r : Reader) : Option Reader :=
  if c = ' ' ∨ c = '\t' ∨ c = '\n' ∨ c = '\r' then some r
  else if c = '"' then
    if r.want = .colon ∨ r.want = .next then none else some { r with mode := .string [] }
  else if c = '[' then
    if r.want = .value ∨ r.want = .item then
      some
        { r with
          stack := .arr [] :: r.stack
          want := .item }
    else none
  else if c = '{' then
    if r.want = .value ∨ r.want = .item then
      some
        { r with
          stack := .obj ∅ none :: r.stack
          want := .field }
    else none
  else if c = ':' then
    if r.want = .colon then some { r with want := .value } else none
  else
    match r.stack with
    | .arr items :: stack =>
        if c = ',' ∧ r.want = .next then some { r with want := .value }
        else if c = ']' ∧ (r.want = .next ∨ r.want = .item) then
          some (put (.arr items) { r with stack })
        else none
    | .obj fields _ :: stack =>
        if c = ',' ∧ r.want = .next then some { r with want := .key }
        else if c = '}' ∧ (r.want = .next ∨ r.want = .field) then
          some (put (.obj fields.entries) { r with stack })
        else none
    | [] => none

def step (r : Reader) (c : Char) : Option Reader :=
  match r.mode with
  | .between => if isWord c then some { r with mode := .word [c] } else r.punctuate c
  | .word text =>
      if isWord c then some { r with mode := .word (text ++ [c]) }
      else ((wordValue floatRepr text).bind fun v => r.deliver v).bind (punctuate c)
  | .string units =>
      if c = '"' then (combine units).bind fun s => r.deliverString (String.ofList s)
      else if c = '\\' then some { r with mode := .escape units }
      else if c.toNat < 32 then none
      else some { r with mode := .string (units ++ [c.toNat]) }
  | .escape units =>
      if c = 'u' then some { r with mode := .hex units [] }
      else (unescape c).map fun d => { r with mode := .string (units ++ [d.toNat]) }
  | .hex units digits =>
      (hexDigit c).map fun d =>
        { r with
          mode := if digits.length = 3 then .string (units ++ [ofHex (digits ++ [d])])
            else .hex units (digits ++ [d]) }

def run (r : Reader) (text : List Char) : Option Reader := text.foldlM (step floatRepr) r

/-- The value that has been read, once nothing is open. -/
def finish (r : Reader) : Option JsonValue :=
  match r.mode, r.stack with
  | .between, [] => if r.want = .next then r.result else none
  | _, _ => none

end Reader

end JsonReader

/-- `json.loads`. The blank ends a last word. -/
def JsonValue.loads (floatRepr : String → String) (text : String) : Option JsonValue :=
  if text.toList.head? = some (Char.ofNat 0xfeff) then none
  else (JsonReader.Reader.run floatRepr {} (text.toList ++ [' '])).bind JsonReader.Reader.finish

example : JsonValue.loads id "\x7b\"a\": [1, -20, \"\\u00e9\\ud83d\\ude00\"], \"a\" : [ ] \x7d" =
    some (.obj [("a", .arr [])]) := by rfl

/-! ### How a text is read -/

namespace JsonReader

variable {floatRepr : String → String} {r : Reader} {c : Char} {text rest : List Char}
  {v : JsonValue}

theorem combine_cons_of_not_surrogate {unit : ℕ} (hhigh : ¬isHigh unit)
    (hlow : ¬isLow unit) (units : List ℕ) :
    combine (unit :: units) = (combine units).map (Char.ofNat unit :: ·) := by
  cases units with
  | nil => exact if_neg (not_or.mpr ⟨hhigh, hlow⟩)
  | cons unit' units => rw [combine, if_neg hhigh, if_neg hlow]

theorem not_isHigh_toNat (c : Char) : ¬isHigh c.toNat := by
  have hvalid : c.toNat < 0xd800 ∨ 0xdfff < c.toNat ∧ c.toNat < 0x110000 := c.valid
  unfold isHigh
  omega

theorem not_isLow_toNat (c : Char) : ¬isLow c.toNat := by
  have hvalid : c.toNat < 0xd800 ∨ 0xdfff < c.toNat ∧ c.toNat < 0x110000 := c.valid
  unfold isLow
  omega

theorem combine_toNat (c : Char) (units : List ℕ) :
    combine (c.toNat :: units) = (combine units).map (c :: ·) := by
  rw [combine_cons_of_not_surrogate (not_isHigh_toNat c) (not_isLow_toNat c), Char.ofNat_toNat]

theorem combine_pair (h : 0x10000 ≤ c.toNat) (units : List ℕ) :
    combine
      ((0xd800 + (c.toNat - 0x10000) / 1024) :: (0xdc00 + (c.toNat - 0x10000) % 1024) :: units)
      = (combine units).map (c :: ·) := by
  have hvalid : c.toNat < 0xd800 ∨ 0xdfff < c.toNat ∧ c.toNat < 0x110000 := c.valid
  have hhigh : isHigh (0xd800 + (c.toNat - 0x10000) / 1024) := by
    unfold isHigh
    omega
  have hlow : isLow (0xdc00 + (c.toNat - 0x10000) % 1024) := by
    unfold isLow
    omega
  have hchar : 0x10000 + 1024 * (0xd800 + (c.toNat - 0x10000) / 1024 - 0xd800)
      + (0xdc00 + (c.toNat - 0x10000) % 1024 - 0xdc00) = c.toNat := by
    omega
  rw [combine, if_pos hhigh, if_pos hlow, hchar, Char.ofNat_toNat]

namespace Reader

theorem run_cons (r : Reader) (c : Char) (text : List Char) :
    run floatRepr r (c :: text) = (step floatRepr r c).bind (run floatRepr · text) :=
  List.foldlM_cons

theorem run_append (r : Reader) (text rest : List Char) :
    run floatRepr r (text ++ rest) = (run floatRepr r text).bind (run floatRepr · rest) :=
  List.foldlM_append

theorem put_withMode (r : Reader) (mode : Mode) : ({ r with mode } : Reader).put v = r.put v := by
  obtain ⟨_ | ⟨_ | ⟨_, _ | _⟩, _⟩, want, _, result⟩ := r <;> rfl

theorem mode_put (v : JsonValue) (r : Reader) : (r.put v).mode = .between := by
  unfold put
  split <;> rfl

theorem deliver_withMode (r : Reader) (mode : Mode) :
    ({ r with mode } : Reader).deliver v = r.deliver v := by
  unfold deliver
  rw [put_withMode]

theorem deliverString_withMode (r : Reader) (mode : Mode) (s : String) :
    ({ r with mode } : Reader).deliverString s = r.deliverString s := by
  unfold deliverString
  rw [deliver_withMode]

theorem step_of_not_word (hmode : r.mode = .between) (hc : isWord c = false) :
    step floatRepr r c = r.punctuate c := by
  unfold step
  rw [hmode]
  dsimp only
  rw [hc]
  rfl

theorem punctuate_bracket {items : List JsonValue} {stack : List Frame}
    (hstack : r.stack = .arr items :: stack) (hwant : r.want = .next ∨ r.want = .item) :
    r.punctuate ']' = some (put (.arr items) { r with stack }) := by
  simp [punctuate, hstack, hwant]

theorem punctuate_brace {fields : Dict JsonValue} {key : Option String} {stack : List Frame}
    (hstack : r.stack = .obj fields key :: stack) (hwant : r.want = .next ∨ r.want = .field) :
    r.punctuate '}' = some (put (.obj fields.entries) { r with stack }) := by
  simp [punctuate, hstack, hwant]

theorem run_blanks (hmode : r.mode = .between) (hblank : ∀ c ∈ text, c = ' ' ∨ c = '\n') :
    run floatRepr r (text ++ rest) = run floatRepr r rest := by
  induction text with
  | nil => rfl
  | cons c text ih =>
      rw [List.forall_mem_cons] at hblank
      have hstep : step floatRepr r c = some r := by
        rcases hblank.1 with rfl | rfl
        · exact step_of_not_word hmode rfl
        · exact step_of_not_word hmode rfl
      rw [List.cons_append, run_cons, hstep, Option.bind_some, ih hblank.2]

/-! ### Words -/

theorem run_word (hword : ∀ c ∈ text, isWord c = true) (start : List Char) :
    run floatRepr { r with mode := .word start } (text ++ rest)
      = run floatRepr { r with mode := .word (start ++ text) } rest := by
  induction text generalizing start with
  | nil => rw [List.nil_append, List.append_nil]
  | cons c text ih =>
      rw [List.forall_mem_cons] at hword
      have hstep : step floatRepr { r with mode := .word start } c
          = some { r with mode := .word (start ++ [c]) } := by
        unfold step
        dsimp only
        rw [hword.1]
        rfl
      rw [List.cons_append, run_cons, hstep, Option.bind_some, ih hword.2, List.append_assoc]
      rfl

/-- **Words.** A word that stands for a value is read as this value, once something else follows. -/
theorem run_wordValue (hmode : r.mode = .between) (hwant : r.want = .value ∨ r.want = .item)
    (hvalue : wordValue floatRepr text = some v) (hne : text ≠ [])
    (hword : ∀ c ∈ text, isWord c = true) (hc : isWord c = false) :
    run floatRepr r (text ++ c :: rest) = run floatRepr (r.put v) (c :: rest) := by
  obtain ⟨d, text, rfl⟩ := List.exists_cons_of_ne_nil hne
  rw [List.forall_mem_cons] at hword
  have hfirst : step floatRepr r d = some { r with mode := .word [d] } := by
    unfold step
    rw [hmode]
    dsimp only
    rw [hword.1]
    rfl
  have hlast : step floatRepr { r with mode := .word (d :: text) } c = (r.put v).punctuate c := by
    unfold step
    dsimp only
    rw [hc, if_neg Bool.false_ne_true, hvalue, Option.bind_some, deliver_withMode, deliver,
      if_pos hwant, Option.bind_some]
  rw [List.cons_append, run_cons, hfirst, Option.bind_some, run_word hword.2, List.singleton_append,
    run_cons, hlast, run_cons, step_of_not_word (mode_put v r) hc]

/-! ### Strings -/

/-- In a string, the text stands for the characters. -/
def Spells (text chars : List Char) : Prop :=
  ∃ units, (∀ (floatRepr : String → String) (r : Reader) (before : List ℕ),
      run floatRepr { r with mode := .string before } text = some { r with
        mode := .string (before ++ units) })
    ∧ ∀ after, combine (units ++ after) = (combine after).map (chars ++ ·)

theorem spells_nil : Spells [] [] := by
  refine ⟨[], fun _ r before => ?_, fun after => ?_⟩
  · rw [List.append_nil]
    rfl
  · exact Option.map_id'.symm

theorem Spells.append {text' chars chars' : List Char} (h : Spells text chars)
    (h' : Spells text' chars') :
    Spells (text ++ text') (chars ++ chars') := by
  obtain ⟨units, hrun, hcombine⟩ := h
  obtain ⟨units', hrun', hcombine'⟩ := h'
  refine ⟨units ++ units', fun floatRepr r before => ?_, fun after => ?_⟩
  · rw [run_append, hrun, Option.bind_some, hrun', List.append_assoc]
  · rw [List.append_assoc, hcombine, hcombine', Option.map_map]
    exact congrArg (Option.map · _) (funext fun s => (List.append_assoc chars chars' s).symm)

theorem spells_flatMap {escape : Char → List Char} (h : ∀ c, Spells (escape c) [c])
    (s : List Char) :
    Spells (s.flatMap escape) s := by
  induction s with
  | nil => exact spells_nil
  | cons c s ih => exact (h c).append ih

theorem spells_plain (hquote : c ≠ '"') (hslash : c ≠ '\\')
    (hprint : 32 ≤ c.toNat) : Spells [c] [c] := by
  refine ⟨[c.toNat], fun floatRepr r before => ?_, fun after => combine_toNat c after⟩
  have hstep : step floatRepr { r with mode := .string before } c
      = some { r with mode := .string (before ++ [c.toNat]) } := by
    unfold step
    dsimp only
    rw [if_neg hquote, if_neg hslash, if_neg (by omega)]
  rw [run_cons, hstep]
  rfl

theorem spells_unescape {e : Char} (he : e ≠ 'u') (h : unescape e = some c) :
    Spells ['\\', e] [c] := by
  refine ⟨[c.toNat], fun floatRepr r before => ?_, fun after => combine_toNat c after⟩
  have hstep : step floatRepr { r with mode := .escape before } e
      = some { r with mode := .string (before ++ [c.toNat]) } := by
    unfold step
    dsimp only
    rw [if_neg he, h]
    rfl
  exact (run_cons _ _ _).trans ((run_cons _ _ _).trans (congrArg (Option.bind · _) hstep))

/-- Four digits are one unit. -/
theorem run_hex {a b d e : Char} {m n k l : ℕ} (ha : hexDigit a = some m) (hb : hexDigit b = some n)
    (hd : hexDigit d = some k) (he : hexDigit e = some l) (before : List ℕ) :
    run floatRepr { r with mode := .string before } ['\\', 'u', a, b, d, e]
      = some { r with mode := .string (before ++ [ofHex [m, n, k, l]]) } := by
  have hdigit {x : Char} {i : ℕ} (hx : hexDigit x = some i) (units digits : List ℕ) :
      step floatRepr { r with mode := .hex units digits } x
        = some
          { r with
            mode := if digits.length = 3 then .string (units ++ [ofHex (digits ++ [i])])
              else .hex units (digits ++ [i]) } := by
    unfold step
    dsimp only
    rw [hx]
    rfl
  calc run floatRepr { r with mode := .string before } ['\\', 'u', a, b, d, e]
      = run floatRepr { r with mode := .hex before [] } [a, b, d, e] := rfl
    _ = run floatRepr { r with mode := .hex before [m] } [b, d, e] := by
      rw [run_cons, hdigit ha]
      rfl
    _ = run floatRepr { r with mode := .hex before [m, n] } [d, e] := by
      rw [run_cons, hdigit hb]
      rfl
    _ = run floatRepr { r with mode := .hex before [m, n, k] } [e] := by
      rw [run_cons, hdigit hd]
      rfl
    _ = some { r with mode := .string (before ++ [ofHex [m, n, k, l]]) } := by
      rw [run_cons, hdigit he]
      rfl

/-- **Strings.** What is spelled between two quotes is read as a string. -/
theorem run_quoted (hmode : r.mode = .between) (hwant : ¬(r.want = .colon ∨ r.want = .next))
    {chars : List Char} (h : Spells text chars) :
    run floatRepr r ('"' :: text ++ '"' :: rest)
      = (r.deliverString (String.ofList chars)).bind (run floatRepr · rest) := by
  obtain ⟨units, hrun, hcombine⟩ := h
  have hopen : step floatRepr r '"' = some { r with mode := .string [] } :=
    (step_of_not_word hmode rfl).trans (if_neg hwant)
  have hchars : combine units = some chars := by
    have hall := hcombine []
    rwa [List.append_nil, combine, Option.map_some, List.append_nil] at hall
  have hclose : step floatRepr { r with mode := .string units } '"'
      = r.deliverString (String.ofList chars) := by
    unfold step
    dsimp only
    rw [if_pos rfl, hchars, Option.bind_some, deliverString_withMode]
  rw [List.cons_append, run_cons, hopen, Option.bind_some, run_append, hrun, Option.bind_some,
    List.nil_append, run_cons, hclose]

end Reader

end JsonReader

end Python

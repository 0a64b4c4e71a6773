import Shyam.Lib.PyValue

/-!
# Base64, as the standard library decodes it

`base64.b64decode` without validation skips characters outside the alphabet, stops at a padding that
completes a quad, and raises when the input is not ASCII or ends inside a quad.
-/

namespace Python.Base64

def alphabet : List Char :=
  "ABCDEFGHIJKLMNOPQRSTUVWXYZabcdefghijklmnopqrstuvwxyz0123456789+/".toList

/-- The six bits a character stands for, if it is in the alphabet. -/
def value? (c : Char) : Option Nat :=
  if 'A' ≤ c ∧ c ≤ 'Z' then some (c.toNat - 65)
  else if 'a' ≤ c ∧ c ≤ 'z' then some (c.toNat - 71)
  else if '0' ≤ c ∧ c ≤ '9' then some (c.toNat + 4)
  else if c = '+' then some 62
  else if c = '/' then some 63
  else none

def digit (n : Nat) : Char := alphabet.getD (n % 64) 'A'

/-- `base64.b64encode(raw).decode("ascii")`. -/
def encodeChars : Bytes → List Char
  | [] => []
  | [a] => [digit (a.toNat / 4), digit (a.toNat % 4 * 16), '=', '=']
  | [a, b] =>
      [digit (a.toNat / 4), digit (a.toNat % 4 * 16 + b.toNat / 16), digit (b.toNat % 16 * 4), '=']
  | a :: b :: c :: rest =>
      digit (a.toNat / 4) :: digit (a.toNat % 4 * 16 + b.toNat / 16) ::
        digit (b.toNat % 16 * 4 + c.toNat / 64) :: digit (c.toNat % 64) :: encodeChars rest

def b64encode (raw : Bytes) : String := String.ofList (encodeChars raw)

/-- The decoder between two characters: the place in the quad, the padding seen since the last data
character, the bits carried over, and the bytes decoded, last first. -/
structure Decoder where
  quadPos : Nat
  pads : Nat
  leftchar : Nat
  decoded : Bytes

def Decoder.start : Decoder := ⟨0, 0, 0, []⟩

def incorrectPadding : Exc := ⟨"Error", "Incorrect padding"⟩

def truncatedQuad (count : Nat) : Exc :=
  ⟨"Error", "Invalid base64-encoded string: number of data characters (" ++ toString count ++
    ") cannot be 1 more than a multiple of 4"⟩

def Decoder.push (d : Decoder) (v : Nat) : Decoder :=
  match d.quadPos with
  | 0 => { d with quadPos := 1, pads := 0, leftchar := v }
  | 1 => ⟨2, 0, v % 16, UInt8.ofNat (d.leftchar * 4 + v / 16) :: d.decoded⟩
  | 2 => ⟨3, 0, v % 4, UInt8.ofNat (d.leftchar * 16 + v / 4) :: d.decoded⟩
  | _ => ⟨0, 0, 0, UInt8.ofNat (d.leftchar * 64 + v) :: d.decoded⟩

def decodeChars (d : Decoder) : List Char → Except Exc Bytes
  | [] =>
      if d.quadPos = 0 then .ok d.decoded.reverse
      else if d.quadPos = 1 then .error (truncatedQuad (d.decoded.length / 3 * 4 + 1))
      else .error incorrectPadding
  | c :: cs =>
      if c = '=' then
        if d.quadPos < 2 then decodeChars d cs
        else if 4 ≤ d.quadPos + (d.pads + 1) then .ok d.decoded.reverse
        else decodeChars { d with pads := d.pads + 1 } cs
      else match value? c with
        | none => decodeChars d cs
        | some v => decodeChars (d.push v) cs

/-- `base64.b64decode(s)`. -/
def b64decode (s : String) : Except Exc Bytes :=
  if s.toList.all fun c => c.toNat < 128 then decodeChars .start s.toList
  else .error ⟨"ValueError", "string argument should contain only ASCII characters"⟩

/-! ### Round trip -/

theorem digit_of_lt : ∀ n < 64,
    value? (digit n) = some n ∧ digit n ≠ '=' ∧ (digit n).toNat < 128 := by
  decide +kernel

theorem digit_ascii {n : Nat} (hn : n < 64) : (digit n).toNat < 128 := (digit_of_lt n hn).2.2

theorem decodeChars_digit (d : Decoder) {n : Nat} (hn : n < 64) (cs : List Char) :
    decodeChars d (digit n :: cs) = decodeChars (d.push n) cs := by
  rw [decodeChars, if_neg (digit_of_lt n hn).2.1, (digit_of_lt n hn).1]

theorem ofNat_eq {n : Nat} {a : UInt8} (h : n = a.toNat) : UInt8.ofNat n = a := by
  rw [h, UInt8.ofNat_toNat]

theorem decodeChars_encodeChars (raw : Bytes) (decoded : Bytes) :
    decodeChars ⟨0, 0, 0, decoded⟩ (encodeChars raw) = .ok (decoded.reverse ++ raw) := by
  induction raw using encodeChars.induct generalizing decoded with
  | case1 => simp [encodeChars, decodeChars]
  | case2 a =>
      have ha := a.toNat_lt
      have hbyte : UInt8.ofNat (a.toNat / 4 * 4 + a.toNat % 4 * 16 / 16) = a :=
        ofNat_eq (by omega)
      rw [encodeChars, decodeChars_digit _ (by omega), decodeChars_digit _ (by omega)]
      simp only [Decoder.push, hbyte]
      simp [decodeChars]
  | case3 a b =>
      have ha := a.toNat_lt
      have hb := b.toNat_lt
      have hfirst : UInt8.ofNat (a.toNat / 4 * 4 + (a.toNat % 4 * 16 + b.toNat / 16) / 16) = a :=
        ofNat_eq (by omega)
      have hsecond : UInt8.ofNat
          ((a.toNat % 4 * 16 + b.toNat / 16) % 16 * 16 + b.toNat % 16 * 4 / 4) = b :=
        ofNat_eq (by omega)
      rw [encodeChars, decodeChars_digit _ (by omega), decodeChars_digit _ (by omega),
        decodeChars_digit _ (by omega)]
      simp only [Decoder.push, hfirst, hsecond]
      simp [decodeChars]
  | case4 a b c rest ih =>
      have ha := a.toNat_lt
      have hb := b.toNat_lt
      have hc := c.toNat_lt
      have hfirst : UInt8.ofNat (a.toNat / 4 * 4 + (a.toNat % 4 * 16 + b.toNat / 16) / 16) = a :=
        ofNat_eq (by omega)
      have hsecond : UInt8.ofNat
          ((a.toNat % 4 * 16 + b.toNat / 16) % 16 * 16 + (b.toNat % 16 * 4 + c.toNat / 64) / 4)
            = b :=
        ofNat_eq (by omega)
      have hthird : UInt8.ofNat
          ((b.toNat % 16 * 4 + c.toNat / 64) % 4 * 64 + c.toNat % 64) = c := ofNat_eq (by omega)
      rw [encodeChars, decodeChars_digit _ (by omega), decodeChars_digit _ (by omega),
        decodeChars_digit _ (by omega), decodeChars_digit _ (by omega)]
      simp only [Decoder.push, hfirst, hsecond, hthird]
      rw [ih]
      simp

theorem encodeChars_ascii (raw : Bytes) : ∀ c ∈ encodeChars raw, c.toNat < 128 := by
  have hpad : '='.toNat < 128 := by decide
  induction raw using encodeChars.induct with
  | case1 => simp [encodeChars]
  | case2 a =>
      have ha := a.toNat_lt
      simp only [encodeChars, List.forall_mem_cons]
      exact ⟨digit_ascii (by omega), digit_ascii (by omega), hpad, hpad, by simp⟩
  | case3 a b =>
      have ha := a.toNat_lt
      have hb := b.toNat_lt
      simp only [encodeChars, List.forall_mem_cons]
      exact ⟨digit_ascii (by omega), digit_ascii (by omega),
        digit_ascii (by omega), hpad, by simp⟩
  | case4 a b c rest ih =>
      have ha := a.toNat_lt
      have hb := b.toNat_lt
      have hc := c.toNat_lt
      simp only [encodeChars, List.forall_mem_cons]
      exact ⟨digit_ascii (by omega), digit_ascii (by omega),
        digit_ascii (by omega), digit_ascii (by omega), ih⟩

/-- **Round trip.** Decoding what was encoded gives the bytes back. -/
theorem b64decode_b64encode (raw : Bytes) : b64decode (b64encode raw) = .ok raw := by
  have hascii : ((b64encode raw).toList.all fun c => c.toNat < 128) = true := by
    simpa [b64encode] using encodeChars_ascii raw
  rw [b64decode, if_pos hascii, b64encode, String.toList_ofList]
  exact decodeChars_encodeChars raw []

theorem b64encode_ne_empty {raw : Bytes} (h : raw ≠ []) : b64encode raw ≠ "" := by
  intro hempty
  have hdecode := b64decode_b64encode raw
  rw [hempty] at hdecode
  exact h (Except.ok.inj hdecode).symm

example : b64encode [1, 2, 3, 255] = "AQID/w==" := by decide

example : b64decode "AQ ID/w==ignored" = .ok [1, 2, 3, 255] := by decide

end Python.Base64

import Shyam.Lib.Digits
import Shyam.Lib.Text

/-!
# Wall-clock timestamps

A Python `datetime` and its `isoformat()`. Every numeric part is a padded field, and the two
optional parts, the microseconds and the UTC offset, open with characters that no other part starts
with, so the text determines the timestamp.
-/

namespace Python

open Text

def isLeap (year : Nat) : Bool := year % 4 = 0 && (year % 100 ≠ 0 || year % 400 = 0)

def daysInMonth (year month : Nat) : Nat :=
  if month = 2 then if isLeap year then 29 else 28
  else if month ∈ [4, 6, 9, 11] then 30 else 31

theorem daysInMonth_le (year month : Nat) : daysInMonth year month ≤ 31 := by
  unfold daysInMonth
  split_ifs <;> omega

/-- A `datetime`: wall-clock fields, and the UTC offset in microseconds unless naive. -/
@[ext]
structure DateTime where
  year : Nat
  month : Nat
  day : Nat
  hour : Nat
  minute : Nat
  second : Nat
  microsecond : Nat
  utcoffset : Option Int
  date_valid : (1 ≤ year ∧ year ≤ 9999) ∧ (1 ≤ month ∧ month ≤ 12)
    ∧ 1 ≤ day ∧ day ≤ daysInMonth year month
  time_lt : hour < 24 ∧ minute < 60 ∧ second < 60 ∧ microsecond < 1000000
  utcoffset_lt : ∀ off ∈ utcoffset, off.natAbs < 86400000000
deriving DecidableEq

namespace DateTime

/-- `2000-01-01T00:00:00+00:00`. -/
def epoch : DateTime where
  year := 2000
  month := 1
  day := 1
  hour := 0
  minute := 0
  second := 0
  microsecond := 0
  utcoffset := some 0
  date_valid := by decide
  time_lt := by decide
  utcoffset_lt := by simp

/-- `2000-01-01T00:00:SS+00:00`. -/
def clock (second : Fin 60) : DateTime :=
  { epoch with
    second := second
    time_lt := ⟨Nat.zero_lt_succ 23, Nat.zero_lt_succ 59, second.isLt, Nat.zero_lt_succ 999999⟩ }

theorem date_lt (t : DateTime) : t.year < 10000 ∧ t.month < 100 ∧ t.day < 100 := by
  obtain ⟨⟨-, hyear⟩, ⟨-, hmonth⟩, -, hday⟩ := t.date_valid
  have := daysInMonth_le t.year t.month
  omega

/-- `.ffffff`, left out when zero. -/
def formatMicroseconds (us : Nat) : List Char := if us = 0 then [] else '.' :: padded 6 us

/-- `:SS[.ffffff]`, left out when zero. -/
def formatOffsetSeconds (us : Nat) : List Char :=
  if us = 0 then [] else ':' :: padded 2 (us / 1000000) ++ formatMicroseconds (us % 1000000)

/-- `_format_offset`: nothing for a naive timestamp, else `+HH:MM[:SS[.ffffff]]`. -/
def formatOffset : Option Int → List Char
  | none => []
  | some off =>
      let us := off.natAbs
      (if off < 0 then '-' else '+') :: padded 2 (us / 3600000000) ++
        ':' :: padded 2 (us % 3600000000 / 60000000) ++ formatOffsetSeconds (us % 60000000)

def isoformat (t : DateTime) : List Char :=
  padded 4 t.year ++ '-' :: padded 2 t.month ++ '-' :: padded 2 t.day ++
    'T' :: padded 2 t.hour ++ ':' :: padded 2 t.minute ++ ':' :: padded 2 t.second ++
    formatMicroseconds t.microsecond ++ formatOffset t.utcoffset

/-- `t.replace(tzinfo=None)`. -/
def naive (t : DateTime) : DateTime := { t with utcoffset := none, utcoffset_lt := by simp }

theorem eq_of_naive_eq {t t' : DateTime} (h : t.naive = t'.naive)
    (hoff : t.utcoffset = t'.utcoffset) :
    t = t' := by
  have hfields := DateTime.mk.inj h
  exact DateTime.ext hfields.1 hfields.2.1 hfields.2.2.1 hfields.2.2.2.1 hfields.2.2.2.2.1
    hfields.2.2.2.2.2.1 hfields.2.2.2.2.2.2.1 hoff

/-- The text before the `T`, and the text after it. -/
def dateText (t : DateTime) : List Char :=
  padded 4 t.year ++ '-' :: (padded 2 t.month ++ '-' :: padded 2 t.day)

def timeText (t : DateTime) : List Char :=
  padded 2 t.hour ++ ':' :: (padded 2 t.minute ++ ':' :: (padded 2 t.second ++
    (formatMicroseconds t.microsecond ++ formatOffset t.utcoffset)))

theorem isoformat_eq (t : DateTime) : t.isoformat = t.dateText ++ 'T' :: t.timeText := by
  simp [isoformat, dateText, timeText]

theorem length_dateText (t : DateTime) : t.dateText.length = 10 := by
  simp [dateText]

theorem notMem_padded {c : Char} (hc : c.isDigit = false) (width n : Nat) : c ∉ padded width n := by
  intro h
  rw [isDigit_of_mem_padded h] at hc
  cases hc

theorem notMem_timeText {c : Char} (hdigit : c.isDigit = false)
    (hsep : c ∉ ['-', '+', ':', '.']) (t : DateTime) :
    c ∉ t.timeText := by
  simp only [List.mem_cons, List.not_mem_nil, or_false, not_or] at hsep
  obtain ⟨hminus, hplus, hcolon, hdot⟩ := hsep
  have hpadded := notMem_padded hdigit
  have hmicro (us : Nat) : c ∉ formatMicroseconds us := by
    unfold formatMicroseconds
    split_ifs <;> simp [hpadded, hdot]
  have hseconds (us : Nat) : c ∉ formatOffsetSeconds us := by
    unfold formatOffsetSeconds
    split_ifs <;> simp [hpadded, hmicro, hcolon]
  have hoffset : c ∉ formatOffset t.utcoffset := by
    cases t.utcoffset with
    | none => simp [formatOffset]
    | some off =>
        simp only [formatOffset]
        split_ifs <;> simp [hpadded, hseconds, hminus, hplus, hcolon]
  simp [timeText, hpadded, hmicro, hoffset, hcolon]

/-- No text of `isoformat` ends in the `Z` that stands for UTC elsewhere. -/
theorem z_notMem_isoformat (t : DateTime) : 'Z' ∉ t.isoformat := by
  have hdate : 'Z' ∉ t.dateText := by
    simp [dateText, notMem_padded (c := 'Z') (by decide)]
  rw [isoformat_eq, List.mem_append, List.mem_cons, not_or, not_or]
  exact ⟨hdate, by decide, notMem_timeText (by decide) (by decide) t⟩

theorem formatMicroseconds_append_inj {a b : Nat} (ha : a < 1000000) (hb : b < 1000000)
    {r r' : List Char} (hr : r.head? ≠ some '.') (hr' : r'.head? ≠ some '.')
    (h : formatMicroseconds a ++ r = formatMicroseconds b ++ r') : a = b ∧ r = r' := by
  unfold formatMicroseconds at h
  split at h <;> split at h <;> rename_i hzero hzero'
  · exact ⟨hzero.trans hzero'.symm, h⟩
  · rw [List.nil_append] at h
    exact absurd (by rw [h]; rfl) hr
  · rw [List.nil_append] at h
    exact absurd (by rw [← h]; rfl) hr'
  · exact padded_append_inj ha hb (List.cons.inj h).2

theorem formatOffsetSeconds_injective {a b : Nat} (ha : a < 60000000) (hb : b < 60000000)
    (h : formatOffsetSeconds a = formatOffsetSeconds b) : a = b := by
  unfold formatOffsetSeconds at h
  split at h <;> split at h <;> rename_i hzero hzero'
  · exact hzero.trans hzero'.symm
  · simp at h
  · simp at h
  · obtain ⟨hsec, hmicro⟩ := padded_append_inj (by omega) (by omega) (List.cons.inj h).2
    have hend : ([] : List Char).head? ≠ some '.' := by simp
    obtain ⟨hus, -⟩ := formatMicroseconds_append_inj (Nat.mod_lt a (by omega))
      (Nat.mod_lt b (by omega)) hend hend (by simpa using hmicro)
    omega

theorem formatOffset_head (off : Option Int) : (formatOffset off).head? ≠ some '.' := by
  cases off with
  | none => simp [formatOffset]
  | some off =>
      unfold formatOffset
      simp only [List.cons_append, List.head?_cons]
      split <;> simp

theorem formatOffset_injective {a b : Option Int} (ha : ∀ off ∈ a, off.natAbs < 86400000000)
    (hb : ∀ off ∈ b, off.natAbs < 86400000000) (h : formatOffset a = formatOffset b) : a = b := by
  cases a with
  | none =>
      cases b with
      | none => rfl
      | some off' => simp [formatOffset] at h
  | some off =>
      cases b with
      | none => simp [formatOffset] at h
      | some off' =>
          have hoff := ha off rfl
          have hoff' := hb off' rfl
          simp only [formatOffset, List.cons_append, List.append_assoc, List.cons.injEq] at h
          obtain ⟨hsign, h⟩ := h
          obtain ⟨hhour, h⟩ := padded_append_inj (by omega) (by omega) h
          obtain ⟨hminute, h⟩ := padded_append_inj (by omega) (by omega) (List.cons.inj h).2
          have hsecond := formatOffsetSeconds_injective (by omega) (by omega) h
          have hneg : off < 0 ↔ off' < 0 := by
            by_cases hlt : off < 0 <;> by_cases hlt' : off' < 0 <;> simp [hlt, hlt'] at hsign ⊢
          exact congrArg some (by omega)

/-- **`isoformat` is injective**: the text determines every wall-clock field and the offset. -/
theorem isoformat_injective : Function.Injective isoformat := by
  intro t t' h
  have hdate := t.date_lt
  have hdate' := t'.date_lt
  have htime := t.time_lt
  have htime' := t'.time_lt
  simp only [isoformat, List.append_assoc, List.cons_append] at h
  obtain ⟨hyear, h⟩ := padded_append_inj (by omega) (by omega) h
  obtain ⟨hmonth, h⟩ := padded_append_inj (by omega) (by omega) (List.cons.inj h).2
  obtain ⟨hday, h⟩ := padded_append_inj (by omega) (by omega) (List.cons.inj h).2
  obtain ⟨hhour, h⟩ := padded_append_inj (by omega) (by omega) (List.cons.inj h).2
  obtain ⟨hminute, h⟩ := padded_append_inj (by omega) (by omega) (List.cons.inj h).2
  obtain ⟨hsecond, h⟩ := padded_append_inj (by omega) (by omega) (List.cons.inj h).2
  obtain ⟨hmicro, h⟩ := formatMicroseconds_append_inj (by omega) (by omega)
    (formatOffset_head _) (formatOffset_head _) h
  exact DateTime.ext hyear hmonth hday hhour hminute hsecond hmicro
    (formatOffset_injective t.utcoffset_lt t'.utcoffset_lt h)

/-- A timestamp at the end of a text is read back: its only `T` is the tenth character of it. -/
theorem append_isoformat_inj {x x' : List Char} {t t' : DateTime}
    (h : x ++ t.isoformat = x' ++ t'.isoformat) :
    x = x' ∧ t = t' := by
  have hlast (t : DateTime) : 'T' ∉ t.timeText := notMem_timeText (by decide) (by decide) t
  rw [isoformat_eq, isoformat_eq, ← List.append_assoc, ← List.append_assoc] at h
  obtain ⟨hbefore, htime⟩ := append_cons_inj_right (hlast t) (hlast t') h
  obtain ⟨hrest, hdate⟩ :=
    List.append_inj' hbefore ((length_dateText t).trans (length_dateText t').symm)
  refine ⟨hrest, isoformat_injective ?_⟩
  rw [isoformat_eq, isoformat_eq, hdate, htime]

/-- As pydantic writes a timestamp in JSON: `isoformat()`, with `Z` for the UTC offset zero. -/
def isoText (t : DateTime) : List Char :=
  if t.utcoffset = some 0 then t.naive.isoformat ++ ['Z'] else t.isoformat

theorem isoText_injective : Function.Injective isoText := by
  intro t t' h
  unfold isoText at h
  split_ifs at h with hutc hutc' hutc'
  · have hnaive := isoformat_injective (List.append_cancel_right h)
    exact eq_of_naive_eq hnaive (hutc.trans hutc'.symm)
  · exact absurd (h ▸ List.mem_append_right _ List.mem_cons_self) t'.z_notMem_isoformat
  · exact absurd (h ▸ List.mem_append_right _ List.mem_cons_self) t.z_notMem_isoformat
  · exact isoformat_injective h

end DateTime

end Python

import Mathlib.Data.List.Perm.Basic
import Mathlib.Data.List.Sort
import Mathlib.Data.String.Basic
import Shyam.Lib.Dict
import Shyam.Lib.Digits

/-!
# Canonical JSON text

`text` is what `json.dumps` prints with sorted keys, compact separators and non-ASCII characters
kept. Every value's text is self-delimiting, numbers once no digit follows them, so two texts agree
only if the values do, up to the order in which their objects list their keys.
-/

namespace Python

/-- A JSON value. Objects list their fields in insertion order; a float is carried by its text. -/
inductive JsonValue where
  | null
  | bool (b : Bool)
  | int (i : Int)
  | float (literal : String)
  | str (s : String)
  | arr (items : List JsonValue)
  | obj (fields : List (String × JsonValue))
deriving Inhabited

namespace JsonValue

open Text

/-! ### The text -/

/-- The escapes of `json.dumps` with `ensure_ascii=False`. -/
def escapeChar (c : Char) : List Char :=
  if c = '"' then ['\\', '"']
  else if c = '\\' then ['\\', '\\']
  else if c = '\n' then ['\\', 'n']
  else if c = '\r' then ['\\', 'r']
  else if c = '\t' then ['\\', 't']
  else if c = '\x08' then ['\\', 'b']
  else if c = '\x0c' then ['\\', 'f']
  else if c.toNat < 32 then
    ['\\', 'u', '0', '0', Nat.digitChar (c.toNat / 16), Nat.digitChar (c.toNat % 16)]
  else [c]

def quote (s : String) : List Char := '"' :: s.toList.flatMap escapeChar ++ ['"']

def joinComma : List (List Char) → List Char
  | [] => []
  | x :: xs => x ++ xs.flatMap fun y => ',' :: y

def entry (f : String × List Char) : List Char := quote f.1 ++ ':' :: f.2

/-- `sorted(d.items())`: the keys are distinct, so only they are compared. -/
def sortFields {α : Type} (fields : List (String × α)) : List (String × α) :=
  fields.insertionSort fun f g => f.1 ≤ g.1

mutual

/-- `json.dumps(v, sort_keys=True, ensure_ascii=False, separators=(",", ":"))`. -/
def text : JsonValue → List Char
  | null => ['n', 'u', 'l', 'l']
  | bool true => ['t', 'r', 'u', 'e']
  | bool false => ['f', 'a', 'l', 's', 'e']
  | int i => Text.int i
  | float literal => literal.toList
  | str s => quote s
  | arr items => '[' :: joinComma (itemTexts items) ++ [']']
  | obj fields => '{' :: joinComma ((sortFields (fieldTexts fields)).map entry) ++ ['}']

def itemTexts : List JsonValue → List (List Char)
  | [] => []
  | v :: vs => v.text :: itemTexts vs

def fieldTexts : List (String × JsonValue) → List (String × List Char)
  | [] => []
  | f :: fs => fieldText f :: fieldTexts fs

def fieldText : String × JsonValue → String × List Char
  | (k, v) => (k, v.text)

end

theorem itemTexts_eq_map (vs : List JsonValue) : itemTexts vs = vs.map text := by
  induction vs with
  | nil => rfl
  | cons v vs ih => simp [itemTexts, ih]

theorem fieldTexts_eq_map (fs : List (String × JsonValue)) :
    fieldTexts fs = fs.map fun f => (f.1, f.2.text) := by
  induction fs with
  | nil => rfl
  | cons f fs ih =>
      obtain ⟨k, v⟩ := f
      simp [fieldTexts, fieldText, ih]

/-! ### Agreement -/

/-- Equality up to the order of object fields: the fields of one side can be reordered so that the
keys match and the values agree. -/
inductive Agree : JsonValue → JsonValue → Prop where
  | null : Agree null null
  | bool (b : Bool) : Agree (bool b) (bool b)
  | int (i : Int) : Agree (int i) (int i)
  | float (literal : String) : Agree (float literal) (float literal)
  | str (s : String) : Agree (str s) (str s)
  | arr {xs ys : List JsonValue} (items : List.Forall₂ Agree xs ys) : Agree (arr xs) (arr ys)
  | obj {fs gs hs : List (String × JsonValue)} (reorder : gs.Perm hs)
      (keys : fs.map Prod.fst = hs.map Prod.fst)
      (values : List.Forall₂ Agree (fs.map Prod.snd) (hs.map Prod.snd)) : Agree (obj fs) (obj gs)

/-- Built from null, booleans, integers, strings, lists and objects with distinct keys. -/
inductive Plain : JsonValue → Prop where
  | null : Plain null
  | bool (b : Bool) : Plain (bool b)
  | int (i : Int) : Plain (int i)
  | str (s : String) : Plain (str s)
  | arr {items : List JsonValue} (plain : ∀ v ∈ items, Plain v) : Plain (arr items)
  | obj {fields : List (String × JsonValue)} (nodup : (fields.map Prod.fst).Nodup)
      (plain : ∀ f ∈ fields, Plain f.2) : Plain (obj fields)

/-- Induction on a value, with the hypothesis for every item and every field. -/
@[elab_as_elim]
theorem inductionOn {motive : JsonValue → Prop} (v : JsonValue)
    (null : motive null) (bool : ∀ b, motive (bool b)) (int : ∀ i, motive (int i))
    (float : ∀ literal, motive (float literal)) (str : ∀ s, motive (str s))
    (arr : ∀ items, (∀ v ∈ items, motive v) → motive (arr items))
    (obj : ∀ fields, (∀ f ∈ fields, motive f.2) → motive (obj fields)) : motive v :=
  @JsonValue.rec motive (fun items => ∀ v ∈ items, motive v)
    (fun fields => ∀ f ∈ fields, motive f.2) (fun f => motive f.2)
    null bool int float str arr obj
    (by simp)
    (fun _ _ hv hvs => List.forall_mem_cons.mpr ⟨hv, hvs⟩)
    (by simp)
    (fun _ _ hf hfs => List.forall_mem_cons.mpr ⟨hf, hfs⟩)
    (fun _ _ hv => hv) v

/-! ### Sorting fields -/

section Sorting

variable {α β : Type}

theorem perm_sortFields (fs : List (String × α)) : (sortFields fs).Perm fs :=
  List.perm_insertionSort _ _

theorem sortFields_map (f : String × α → β) (fs : List (String × α)) :
    sortFields (fs.map fun e => (e.1, f e)) = (sortFields fs).map fun e => (e.1, f e) :=
  (List.map_insertionSort (fun e e' : String × α => e.1 ≤ e'.1)
    (fun e e' : String × β => e.1 ≤ e'.1) (fun e => (e.1, f e)) fs fun _ _ _ _ => Iff.rfl).symm

theorem sorted_sortFields (fs : List (String × α)) :
    (sortFields fs).Pairwise fun f g => f.1 ≤ g.1 := by
  have : Std.Total fun f g : String × α => f.1 ≤ g.1 := ⟨fun f g => le_total f.1 g.1⟩
  have : IsTrans (String × α) fun f g => f.1 ≤ g.1 := ⟨fun _ _ _ => le_trans⟩
  exact List.pairwise_insertionSort _ _

/-- With distinct keys, sorting forgets the order the fields came in. -/
theorem sortFields_congr {fs gs : List (String × α)} (hnodup : (fs.map Prod.fst).Nodup)
    (hperm : fs.Perm gs) : sortFields fs = sortFields gs := by
  have hsorted : (sortFields fs).Perm (sortFields gs) :=
    ((perm_sortFields fs).trans hperm).trans (perm_sortFields gs).symm
  refine List.Perm.eq_of_pairwise (fun f g hf hg hle hge => ?_) (sorted_sortFields fs)
    (sorted_sortFields gs) hsorted
  have hf := (perm_sortFields fs).mem_iff.mp hf
  have hg := hperm.mem_iff.mpr ((perm_sortFields gs).mem_iff.mp hg)
  exact List.inj_on_of_nodup_map hnodup hf hg (le_antisymm hle hge)

end Sorting

/-! ### Strings are self-delimiting -/

def hexVal (c : Char) : Nat := if c.isDigit then c.toNat - 48 else c.toNat - 87

def readChar : List Char → Option (Char × List Char)
  | '\\' :: '"' :: r => some ('"', r)
  | '\\' :: '\\' :: r => some ('\\', r)
  | '\\' :: 'n' :: r => some ('\n', r)
  | '\\' :: 'r' :: r => some ('\r', r)
  | '\\' :: 't' :: r => some ('\t', r)
  | '\\' :: 'b' :: r => some ('\x08', r)
  | '\\' :: 'f' :: r => some ('\x0c', r)
  | '\\' :: 'u' :: '0' :: '0' :: a :: b :: r => some (Char.ofNat (16 * hexVal a + hexVal b), r)
  | c :: r => some (c, r)
  | [] => none

theorem hexVal_digitChar : ∀ n < 32,
    16 * hexVal (Nat.digitChar (n / 16)) + hexVal (Nat.digitChar (n % 16)) = n := by
  decide

theorem readChar_escapeChar (c : Char) (r : List Char) :
    readChar (escapeChar c ++ r) = some (c, r) := by
  unfold escapeChar
  split_ifs with h1 h2 h3 h4 h5 h6 h7 h8
  · simp [readChar, h1]
  · simp [readChar, h2]
  · simp [readChar, h3]
  · simp [readChar, h4]
  · simp [readChar, h5]
  · simp [readChar, h6]
  · simp [readChar, h7]
  · simp [readChar, hexVal_digitChar _ h8, Char.ofNat_toNat]
  · rw [List.singleton_append, readChar.eq_def]
    split <;> simp_all

theorem escapeChar_append_inj {c d : Char} {r r' : List Char}
    (h : escapeChar c ++ r = escapeChar d ++ r') : c = d ∧ r = r' := by
  have hread := readChar_escapeChar c r
  rw [h, readChar_escapeChar] at hread
  exact ⟨congrArg Prod.fst (Option.some.inj hread.symm),
    congrArg Prod.snd (Option.some.inj hread.symm)⟩

/-- The closing quote is no character's escape. -/
theorem escapeChar_append_ne_quote (c : Char) (r r' : List Char) :
    escapeChar c ++ r ≠ '"' :: r' := by
  unfold escapeChar
  split_ifs with h1 <;> simp_all

theorem escaped_append_inj {cs ds r r' : List Char}
    (h : cs.flatMap escapeChar ++ '"' :: r = ds.flatMap escapeChar ++ '"' :: r') :
    cs = ds ∧ r = r' := by
  induction cs generalizing ds with
  | nil =>
      cases ds with
      | nil => simpa using h
      | cons d ds =>
          rw [List.flatMap_cons, List.append_assoc] at h
          exact absurd h.symm (escapeChar_append_ne_quote d _ _)
  | cons c cs ih =>
      cases ds with
      | nil =>
          rw [List.flatMap_cons, List.append_assoc] at h
          exact absurd h (escapeChar_append_ne_quote c _ _)
      | cons d ds =>
          rw [List.flatMap_cons, List.flatMap_cons, List.append_assoc, List.append_assoc] at h
          obtain ⟨hhead, htail⟩ := escapeChar_append_inj h
          obtain ⟨hrest, hr⟩ := ih htail
          exact ⟨by rw [hhead, hrest], hr⟩

theorem quote_append_inj {s t : String} {r r' : List Char} (h : quote s ++ r = quote t ++ r') :
    s = t ∧ r = r' := by
  simp only [quote, List.cons_append, List.append_assoc, List.cons.injEq, true_and,
    List.nil_append] at h
  obtain ⟨hchars, hrest⟩ := escaped_append_inj h
  exact ⟨String.toList_inj.mp hchars, hrest⟩

/-! ### Lists are self-delimiting when their chunks are -/

section Chunks

variable {α : Type} {R : α → α → Prop} {f : α → List Char} {close : Char} {xs ys : List α}
  {r r' : List Char}

/-- After the first chunk: each chunk opens with a comma, and the list ends where none does. -/
theorem commaTail_append_inj (hclose : close.isDigit = false) (hcomma : close ≠ ',')
    (hinj : ∀ x ∈ xs, ∀ y ∈ ys, ∀ s s', NoDigit s → NoDigit s' → f x ++ s = f y ++ s' →
      R x y ∧ s = s')
    (h : xs.flatMap (fun x => ',' :: f x) ++ close :: r
      = ys.flatMap (fun y => ',' :: f y) ++ close :: r') :
    List.Forall₂ R xs ys ∧ r = r' := by
  have hfollow : ∀ (zs : List α) (s : List Char),
      NoDigit (zs.flatMap (fun z => ',' :: f z) ++ close :: s) := by
    intro zs s
    cases zs with
    | nil => exact noDigit_cons hclose
    | cons z zs => exact noDigit_cons (by decide)
  induction xs generalizing ys with
  | nil =>
      cases ys with
      | nil => exact ⟨List.Forall₂.nil, (List.cons.inj h).2⟩
      | cons y ys => exact absurd (List.cons.inj h).1 hcomma
  | cons x xs ih =>
      cases ys with
      | nil => exact absurd (List.cons.inj h).1.symm hcomma
      | cons y ys =>
          simp only [List.flatMap_cons, List.cons_append, List.append_assoc, List.cons.injEq,
            true_and] at h
          obtain ⟨hxy, hrest⟩ := hinj x List.mem_cons_self y List.mem_cons_self _ _
            (hfollow xs r) (hfollow ys r') h
          obtain ⟨hall, hr⟩ := ih (fun x hx y hy => hinj x (List.mem_cons_of_mem _ hx) y
            (List.mem_cons_of_mem _ hy)) hrest
          exact ⟨List.Forall₂.cons hxy hall, hr⟩

theorem joinComma_append_inj (hclose : close.isDigit = false) (hcomma : close ≠ ',')
    (hhead : ∀ x s s', x ∈ xs ∨ x ∈ ys → f x ++ s ≠ close :: s')
    (hinj : ∀ x ∈ xs, ∀ y ∈ ys, ∀ s s', NoDigit s → NoDigit s' → f x ++ s = f y ++ s' →
      R x y ∧ s = s')
    (h : joinComma (xs.map f) ++ close :: r = joinComma (ys.map f) ++ close :: r') :
    List.Forall₂ R xs ys ∧ r = r' := by
  cases xs with
  | nil =>
      cases ys with
      | nil => exact ⟨List.Forall₂.nil, (List.cons.inj h).2⟩
      | cons y ys =>
          simp only [joinComma, List.map_nil, List.map_cons, List.append_assoc] at h
          exact absurd h.symm (hhead y _ _ (Or.inr List.mem_cons_self))
  | cons x xs =>
      cases ys with
      | nil =>
          simp only [joinComma, List.map_nil, List.map_cons, List.append_assoc] at h
          exact absurd h (hhead x _ _ (Or.inl List.mem_cons_self))
      | cons y ys =>
          -- A leading comma turns the first chunk into one of the tail.
          apply commaTail_append_inj hclose hcomma hinj
          simpa [joinComma, List.flatMap_map] using h

end Chunks

/-! ### Values are self-delimiting -/

def tag : JsonValue → Nat
  | null => 0
  | bool _ => 1
  | int _ => 2
  | float _ => 2
  | str _ => 3
  | arr _ => 4
  | obj _ => 5

def headTag (c : Char) : Nat :=
  if c = 'n' then 0 else if c = 't' ∨ c = 'f' then 1 else if c = '"' then 3
  else if c = '[' then 4 else if c = '{' then 5 else 2

theorem headTag_number {c : Char} (h : c = '-' ∨ c.isDigit = true) : headTag c = 2 := by
  have hne : ∀ d : Char, d.isDigit = false → d ≠ '-' → c ≠ d := by
    rintro d hd hminus rfl
    rcases h with h | h
    · exact hminus h
    · rw [hd] at h
      exact absurd h (by decide)
  simp [headTag, hne 'n', hne 't', hne 'f', hne '"', hne '[', hne '{']

theorem text_head {v : JsonValue} (hv : v.Plain) : ∃ c r, v.text = c :: r ∧ headTag c = v.tag := by
  cases hv with
  | null => exact ⟨_, _, rfl, rfl⟩
  | bool b => cases b <;> exact ⟨_, _, rfl, rfl⟩
  | int i =>
      obtain ⟨c, r, htext, hc⟩ := int_head i
      exact ⟨c, r, htext, headTag_number hc⟩
  | str s => exact ⟨_, _, rfl, rfl⟩
  | arr plain => exact ⟨_, _, rfl, rfl⟩
  | obj nodup plain => exact ⟨_, _, rfl, rfl⟩

theorem tag_eq_of_append_eq {v w : JsonValue} (hv : v.Plain) (hw : w.Plain) {r r' : List Char}
    (h : v.text ++ r = w.text ++ r') : v.tag = w.tag := by
  obtain ⟨c, s, hvtext, hc⟩ := text_head hv
  obtain ⟨d, t, hwtext, hd⟩ := text_head hw
  rw [hvtext, hwtext, List.cons_append, List.cons_append, List.cons.injEq] at h
  rw [← hc, ← hd, h.1]

theorem text_append_ne_close {v : JsonValue} (hv : v.Plain) {close : Char}
    (hclose : close = ']' ∨ close = '}') (r r' : List Char) : v.text ++ r ≠ close :: r' := by
  intro h
  have hne : ∀ c : Char, headTag c = v.tag → c ≠ close := by
    rintro c hc rfl
    have hnumber : v.tag = 2 := by
      rcases hclose with rfl | rfl <;> exact hc.symm
    cases hv with
    | int i =>
        obtain ⟨d, s, htext, hd⟩ := int_head i
        rw [show (int i).text = Text.int i from rfl, htext, List.cons_append,
          List.cons.injEq] at h
        rcases hclose with rfl | rfl <;> rw [h.1] at hd <;> exact absurd hd (by decide)
    | _ => simp [tag] at hnumber
  obtain ⟨c, s, htext, hc⟩ := text_head hv
  rw [htext, List.cons_append, List.cons.injEq] at h
  exact hne c hc h.1

theorem forall₂_fields {fs gs : List (String × JsonValue)}
    (h : List.Forall₂ (fun f g => f.1 = g.1 ∧ Agree f.2 g.2) fs gs) :
    fs.map Prod.fst = gs.map Prod.fst ∧ List.Forall₂ Agree (fs.map Prod.snd) (gs.map Prod.snd) := by
  induction h with
  | nil => exact ⟨rfl, List.Forall₂.nil⟩
  | cons hfg _ ih => exact ⟨by simp [hfg.1, ih.1], List.Forall₂.cons hfg.2 ih.2⟩

theorem agree_obj_of_sorted {fs gs : List (String × JsonValue)}
    (h : List.Forall₂ (fun f g => f.1 = g.1 ∧ Agree f.2 g.2) (sortFields fs) (sortFields gs)) :
    Agree (obj fs) (obj gs) := by
  obtain ⟨hs, hmatch, hperm⟩ := List.perm_comp_forall₂ (perm_sortFields fs).symm h
  obtain ⟨hkeys, hvalues⟩ := forall₂_fields hmatch
  exact .obj ((perm_sortFields gs).symm.trans hperm.symm) hkeys hvalues

theorem obj_text_eq (fields : List (String × JsonValue)) :
    (obj fields).text
      = '{' :: joinComma ((sortFields fields).map fun f => entry (f.1, f.2.text)) ++ ['}'] := by
  rw [text, fieldTexts_eq_map, sortFields_map, List.map_map]
  rfl

/-- **Plain values are self-delimiting.** A text determines its value, up to the order of object
fields, and what follows it. -/
theorem text_append_inj {v w : JsonValue} (hv : v.Plain) (hw : w.Plain) {r r' : List Char}
    (hr : NoDigit r) (hr' : NoDigit r') (h : v.text ++ r = w.text ++ r') :
    Agree v w ∧ r = r' := by
  have htag := tag_eq_of_append_eq hv hw h
  induction v using inductionOn generalizing w r r' with
  | null =>
      cases hw with
      | null => exact ⟨.null, List.append_cancel_left h⟩
      | _ => simp [tag] at htag
  | bool b =>
      cases hw with
      | bool b' =>
          cases b <;> cases b' <;> simp only [text, List.cons_append, List.nil_append,
            List.cons.injEq] at h
          · exact ⟨.bool false, by simpa using h⟩
          · exact absurd h.1 (by decide)
          · exact absurd h.1 (by decide)
          · exact ⟨.bool true, by simpa using h⟩
      | _ => simp [tag] at htag
  | int i =>
      cases hw with
      | int j =>
          obtain ⟨rfl, hrest⟩ := int_append_inj hr hr' h
          exact ⟨.int i, hrest⟩
      | _ => simp [tag] at htag
  | float literal => cases hv
  | str s =>
      cases hw with
      | str t =>
          obtain ⟨rfl, hrest⟩ := quote_append_inj h
          exact ⟨.str s, hrest⟩
      | _ => simp [tag] at htag
  | arr items ih =>
      cases hv with | arr plain =>
      cases hw with
      | arr plain' =>
          simp only [text, itemTexts_eq_map, List.cons_append, List.append_assoc, List.cons.injEq,
            true_and, List.nil_append] at h
          obtain ⟨hitems, hrest⟩ := joinComma_append_inj (R := Agree) (by decide) (by decide)
            (fun x s s' hx => text_append_ne_close
              (hx.elim (plain x) (plain' x)) (Or.inl rfl) s s')
            (fun x hx y hy s s' hs hs' heq => ih x hx (plain x hx) (plain' y hy) hs hs' heq
              (tag_eq_of_append_eq (plain x hx) (plain' y hy) heq)) h
          exact ⟨.arr hitems, hrest⟩
      | _ => simp [tag] at htag
  | obj fields ih =>
      cases hv with | obj nodup plain =>
      cases hw with
      | @obj fields' nodup' plain' =>
          simp only [obj_text_eq, List.cons_append, List.append_assoc, List.cons.injEq,
            true_and, List.nil_append] at h
          have hmem : ∀ {gs : List (String × JsonValue)} {f}, f ∈ sortFields gs → f ∈ gs :=
            fun hf => (perm_sortFields _).mem_iff.mp hf
          obtain ⟨hfields, hrest⟩ := joinComma_append_inj
            (R := fun f g => f.1 = g.1 ∧ Agree f.2 g.2) (by decide) (by decide)
            (fun f s s' _ heq => by simp [entry, quote] at heq)
            (fun f hf g hg s s' hs hs' heq => by
              simp only [entry, List.append_assoc, List.cons_append] at heq
              obtain ⟨hkey, heq⟩ := quote_append_inj heq
              have hf := hmem hf
              have hg := hmem hg
              obtain ⟨hvalue, hrest⟩ := ih f hf (plain f hf) (plain' g hg) hs hs'
                (List.cons.inj heq).2 (tag_eq_of_append_eq (plain f hf) (plain' g hg)
                  (List.cons.inj heq).2)
              exact ⟨⟨hkey, hvalue⟩, hrest⟩) h
          exact ⟨agree_obj_of_sorted hfields, hrest⟩
      | _ => simp [tag] at htag

/-! ### Agreement decides the text -/

theorem map_text_eq {xs ys : List JsonValue} (h : List.Forall₂ Agree xs ys)
    (heq : ∀ v ∈ xs, ∀ w ∈ ys, Agree v w → v.text = w.text) : xs.map text = ys.map text := by
  induction h with
  | nil => rfl
  | cons hxy _ ih =>
      rw [List.map_cons, List.map_cons, heq _ List.mem_cons_self _ List.mem_cons_self hxy,
        ih fun v hv w hw => heq v (List.mem_cons_of_mem _ hv) w (List.mem_cons_of_mem _ hw)]

/-- Agreeing values print alike: sorting undoes the reordering at every object. -/
theorem text_eq_of_agree {v w : JsonValue} (hv : v.Plain) (hw : w.Plain) (h : Agree v w) :
    v.text = w.text := by
  induction v using inductionOn generalizing w with
  | arr xs ih =>
      cases h with | arr items =>
      cases hv with | arr plain =>
      cases hw with | arr plain' =>
      rw [text, text, itemTexts_eq_map, itemTexts_eq_map,
        map_text_eq items fun v hv w hw => ih v hv (plain v hv) (plain' w hw)]
  | obj fs ih =>
      cases h with | @obj _ gs hs reorder keys values =>
      cases hv with | obj nodup plain =>
      cases hw with | obj nodup' plain' =>
      have hvalues : (fs.map Prod.snd).map text = (hs.map Prod.snd).map text := by
        refine map_text_eq values fun v hv w hw hagree => ?_
        obtain ⟨f, hf, rfl⟩ := List.mem_map.mp hv
        obtain ⟨g, hg, rfl⟩ := List.mem_map.mp hw
        exact ih f hf (plain f hf) (plain' g (reorder.mem_iff.mpr hg)) hagree
      have hsame : fieldTexts fs = fieldTexts hs := by
        rw [fieldTexts_eq_map, fieldTexts_eq_map, ← List.zip_map', ← List.zip_map', keys]
        simpa [List.map_map, Function.comp_def] using congrArg _ hvalues
      have hsort : sortFields (fieldTexts gs) = sortFields (fieldTexts hs) := by
        rw [fieldTexts_eq_map, fieldTexts_eq_map]
        refine sortFields_congr ?_ (reorder.map _)
        rwa [List.map_map]
      rw [text, text, hsame, hsort]
  | _ => cases h; rfl

/-- **Canonical text.** Plain values have the same text exactly when they agree. -/
theorem text_eq_iff {v w : JsonValue} (hv : v.Plain) (hw : w.Plain) :
    v.text = w.text ↔ Agree v w := by
  refine ⟨fun h => ?_, text_eq_of_agree hv hw⟩
  exact (text_append_inj hv hw noDigit_nil noDigit_nil (by rw [h])).1

end JsonValue

end Python

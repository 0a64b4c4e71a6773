import Mathlib.Data.List.Nodup
import Mathlib.Data.List.Basic
import Mathlib.Data.String.Basic

/-!
# Insertion-ordered dictionaries and sets

A Python `dict` with string keys keeps its entries in insertion order and holds each key once; a
Python `set` holds each element once. Both carry that as a field, so a lookup determines an entry
and every fold over `items()` has one write per key.
-/

namespace Python

/-- A `dict[str, α]`: the entries in insertion order, each key once. -/
@[ext]
structure Dict (α : Type) where
  entries : List (String × α)
  nodup : (entries.map Prod.fst).Nodup

/-- A `set`: its elements in the order they were added, each once. -/
structure PySet (α : Type) where
  elems : List α
  nodup : elems.Nodup

namespace PySet

variable {α : Type} [DecidableEq α]

instance : Membership α (PySet α) := ⟨fun s a => a ∈ s.elems⟩

instance (s : PySet α) (a : α) : Decidable (a ∈ s) := inferInstanceAs (Decidable (a ∈ s.elems))

def empty : PySet α := ⟨[], List.nodup_nil⟩

def add (s : PySet α) (a : α) : PySet α :=
  if h : a ∈ s.elems then s
  else ⟨s.elems ++ [a], by simpa [List.nodup_append] using ⟨s.nodup, fun b hb e => h (e ▸ hb)⟩⟩

/-- `s.update(xs)`, and for two sets `s | t`. -/
def update (s : PySet α) (xs : List α) : PySet α := xs.foldl add s

omit [DecidableEq α] in
@[simp] theorem mem_elems {s : PySet α} {a : α} : a ∈ s.elems ↔ a ∈ s := Iff.rfl

omit [DecidableEq α] in
@[simp] theorem not_mem_empty (a : α) : a ∉ (empty : PySet α) := List.not_mem_nil

@[simp] theorem mem_add {s : PySet α} {a b : α} : b ∈ s.add a ↔ b ∈ s ∨ b = a := by
  unfold add
  split
  · rename_i h
    constructor
    · exact Or.inl
    · rintro (hb | rfl)
      · exact hb
      · exact h
  · simp [← mem_elems]

@[simp] theorem mem_update {s : PySet α} {xs : List α} {b : α} :
    b ∈ s.update xs ↔ b ∈ s ∨ b ∈ xs := by
  induction xs generalizing s with
  | nil => simp [update]
  | cons x xs ih =>
      change b ∈ (s.add x).update xs ↔ _
      rw [ih, mem_add, List.mem_cons, or_assoc]

end PySet

namespace Dict

variable {α β : Type}

def empty : Dict α := ⟨[], List.nodup_nil⟩

instance : EmptyCollection (Dict α) := ⟨empty⟩

/-- `d.get(k)`. -/
def get? (d : Dict α) (k : String) : Option α := d.entries.lookup k

/-- `d.get(k, default)`. -/
def getD (d : Dict α) (k : String) (default : α) : α := (d.get? k).getD default

def keys (d : Dict α) : PySet String := ⟨d.entries.map Prod.fst, d.nodup⟩

/-- `d[k] = v`: an existing key keeps its place, a new one goes last. -/
def set (d : Dict α) (k : String) (v : α) : Dict α :=
  if h : k ∈ d.entries.map Prod.fst then
    ⟨d.entries.map fun e => if e.1 = k then (k, v) else e, by
      have hkeys : (d.entries.map fun e => if e.1 = k then (k, v) else e).map Prod.fst
          = d.entries.map Prod.fst := by
        rw [List.map_map]
        refine List.map_congr_left fun e _ => ?_
        by_cases he : e.1 = k <;> simp [he]
      rw [hkeys]
      exact d.nodup⟩
  else
    ⟨d.entries ++ [(k, v)], by
      rw [List.map_append]
      simpa [List.nodup_append] using ⟨d.nodup, fun a x hmem e => h (e ▸ List.mem_map_of_mem hmem)⟩⟩

/-- `for k, b in d'.items(): d[k] = f(d.get(k), b)`. -/
def mergeWith (f : Option α → β → α) (d : Dict α) (d' : Dict β) : Dict α :=
  d'.entries.foldl (fun acc e => acc.set e.1 (f (acc.get? e.1) e.2)) d

/-- `d.update(d')`. -/
def update (d d' : Dict α) : Dict α := d.mergeWith (fun _ v => v) d'

/-- `{k: f(v) for k, v in d.items()}`. -/
def mapValues (f : α → β) (d : Dict α) : Dict β :=
  ⟨d.entries.map fun e => (e.1, f e.2), by
    rw [List.map_map]
    exact d.nodup⟩

/-- `{k: v for k, v in d.items() if p(v)}`. -/
def filter (p : α → Bool) (d : Dict α) : Dict α :=
  ⟨d.entries.filter fun e => p e.2, d.nodup.sublist (List.filter_sublist.map Prod.fst)⟩

/-- `d.pop(k, None)`, as the dictionary that is left. -/
def erase (d : Dict α) (k : String) : Dict α :=
  ⟨d.entries.filter fun e => e.1 ≠ k, d.nodup.sublist (List.filter_sublist.map Prod.fst)⟩

/-- `{k: f(k) for k in ks}`. -/
def ofKeys (ks : PySet String) (f : String → α) : Dict α :=
  ⟨ks.elems.map fun k => (k, f k), by
    rw [List.map_map, show (Prod.fst ∘ fun k => (k, f k)) = id from rfl, List.map_id]
    exact ks.nodup⟩

@[simp] theorem get?_empty (k : String) : (∅ : Dict α).get? k = none := rfl

theorem lookup_cons_eq (e : String × α) (l : List (String × α)) (k : String) :
    (e :: l).lookup k = if k = e.1 then some e.2 else l.lookup k := by
  rw [List.lookup_cons]
  by_cases he : k = e.1
  · simp [he]
  · simp [he, beq_eq_false_iff_ne.mpr he]

theorem lookup_append (l m : List (String × α)) (k : String) :
    (l ++ m).lookup k = (l.lookup k).or (m.lookup k) := by
  induction l with
  | nil => simp
  | cons e l ih =>
      rw [List.cons_append, lookup_cons_eq, lookup_cons_eq, ih]
      by_cases he : k = e.1 <;> simp [he]

theorem lookup_eq_none_iff {l : List (String × α)} {k : String} :
    l.lookup k = none ↔ k ∉ l.map Prod.fst := by
  induction l with
  | nil => simp
  | cons e l ih =>
      rw [lookup_cons_eq, List.map_cons, List.mem_cons, not_or, ← ih]
      by_cases he : k = e.1 <;> simp [he]

theorem lookup_eq_some_iff {l : List (String × α)} (hnodup : (l.map Prod.fst).Nodup)
    {k : String} {v : α} : l.lookup k = some v ↔ (k, v) ∈ l := by
  induction l with
  | nil => simp
  | cons e l ih =>
      rw [List.map_cons, List.nodup_cons] at hnodup
      rw [lookup_cons_eq, List.mem_cons]
      by_cases he : k = e.1
      · have hnotMem : (k, v) ∉ l := fun h => hnodup.1 (he ▸ List.mem_map_of_mem (f := Prod.fst) h)
        rw [if_pos he, Option.some.injEq]
        constructor
        · rintro rfl
          exact Or.inl (Prod.ext he rfl)
        · rintro (h | h)
          · exact congrArg Prod.snd h.symm
          · exact absurd h hnotMem
      · have hne : (k, v) ≠ e := fun h => he (congrArg Prod.fst h)
        rw [if_neg he, ih hnodup.2]
        exact ⟨Or.inr, fun h => h.resolve_left hne⟩

theorem lookup_of_perm {l m : List (String × α)} (hperm : l.Perm m)
    (hnodup : (l.map Prod.fst).Nodup) (k : String) : l.lookup k = m.lookup k := by
  have hnodup' : (m.map Prod.fst).Nodup := (hperm.map Prod.fst).nodup hnodup
  apply Option.ext
  intro v
  rw [lookup_eq_some_iff hnodup, lookup_eq_some_iff hnodup', hperm.mem_iff]

theorem map_fst_of_forall₂ {l : List (String × α)} {m : List (String × β)}
    (h : List.Forall₂ (fun e f => f.1 = e.1) l m) : l.map Prod.fst = m.map Prod.fst := by
  induction h with
  | nil => rfl
  | cons hhead _ ih => rw [List.map_cons, List.map_cons, ih, hhead]

theorem rel_lookup {R : α → β → Prop} {l : List (String × α)} {m : List (String × β)}
    (h : List.Forall₂ (fun e f => f.1 = e.1 ∧ R e.2 f.2) l m) (k : String) :
    Option.Rel R (l.lookup k) (m.lookup k) := by
  induction h with
  | nil => exact .none
  | cons hhead _ ih =>
      rw [lookup_cons_eq, lookup_cons_eq, hhead.1]
      split_ifs
      · exact .some hhead.2
      · exact ih

theorem get?_eq_some_iff {d : Dict α} {k : String} {v : α} :
    d.get? k = some v ↔ (k, v) ∈ d.entries := lookup_eq_some_iff d.nodup

theorem get?_eq_none_iff {d : Dict α} {k : String} : d.get? k = none ↔ k ∉ d.keys :=
  lookup_eq_none_iff

theorem mem_keys_iff {d : Dict α} {k : String} : k ∈ d.keys ↔ (d.get? k).isSome := by
  rw [← not_iff_not, ← get?_eq_none_iff]
  simp

theorem lookup_map_set {l : List (String × α)} {k : String} (hk : k ∈ l.map Prod.fst) (v : α)
    (q : String) : (l.map fun e => if e.1 = k then (k, v) else e).lookup q
      = if q = k then some v else l.lookup q := by
  induction l with
  | nil => simp at hk
  | cons e l ih =>
      rw [List.map_cons, lookup_cons_eq, lookup_cons_eq]
      by_cases he : e.1 = k
      · have hrest : k ∉ l.map Prod.fst →
            (l.map fun e => if e.1 = k then (k, v) else e).lookup q = l.lookup q := by
          intro hnotMem
          have hsame : ∀ a ∈ l, (if a.1 = k then (k, v) else a) = id a := fun a ha =>
            if_neg fun h : a.1 = k => hnotMem (h ▸ List.mem_map_of_mem ha)
          rw [List.map_congr_left hsame, List.map_id]
        by_cases hq : q = k
        · simp [he, hq]
        · by_cases hmem : k ∈ l.map Prod.fst
          · simp [he, hq, ih hmem]
          · simp [he, hq, hrest hmem]
      · have hmem : k ∈ l.map Prod.fst :=
          (List.mem_cons.mp hk).resolve_left fun h => he h.symm
        rw [if_neg he, ih hmem]
        by_cases hq : q = k
        · have hqe : q ≠ e.1 := fun h => he (h ▸ hq)
          simp [hq, hq ▸ hqe]
        · simp [hq]

@[simp] theorem get?_set (d : Dict α) (k : String) (v : α) (q : String) :
    (d.set k v).get? q = if q = k then some v else d.get? q := by
  unfold set
  split
  · rename_i h
    exact lookup_map_set h v q
  · rename_i h
    change (d.entries ++ [(k, v)]).lookup q = if q = k then some v else d.entries.lookup q
    rw [lookup_append, lookup_cons_eq]
    by_cases hq : q = k
    · rw [hq, lookup_eq_none_iff.mpr h]
      simp
    · simp [hq]

/-- A merge writes each key of `d'` once, from the value `d` had there. -/
@[simp] theorem get?_mergeWith (f : Option α → β → α) (d : Dict α) (d' : Dict β) (q : String) :
    (d.mergeWith f d').get? q = ((d'.get? q).map (f (d.get? q))).or (d.get? q) := by
  obtain ⟨l, hnodup⟩ := d'
  change (l.foldl (fun acc e => acc.set e.1 (f (acc.get? e.1) e.2)) d).get? q
    = ((l.lookup q).map (f (d.get? q))).or (d.get? q)
  induction l generalizing d with
  | nil => simp
  | cons e l ih =>
      rw [List.map_cons, List.nodup_cons] at hnodup
      rw [List.foldl_cons, ih _ hnodup.2, get?_set, lookup_cons_eq]
      by_cases hq : q = e.1
      · have hnone : l.lookup e.1 = none := lookup_eq_none_iff.mpr hnodup.1
        simp [hq, hnone]
      · simp [hq]

theorem entries_set_of_notMem {d : Dict α} {k : String} (h : k ∉ d.entries.map Prod.fst) (v : α) :
    (d.set k v).entries = d.entries ++ [(k, v)] := by
  rw [set, dif_neg h]

theorem set_of_get? {d : Dict α} {k : String} {v : α} (h : d.get? k = some v) : d.set k v = d := by
  have hmem : (k, v) ∈ d.entries := get?_eq_some_iff.mp h
  have hsame : ∀ e ∈ d.entries, (if e.1 = k then (k, v) else e) = id e := by
    intro e he
    split_ifs with hk
    · have hvalue : d.get? k = some e.2 := get?_eq_some_iff.mpr (hk ▸ he)
      rw [h, Option.some.injEq] at hvalue
      rw [← hk, hvalue]
      rfl
    · rfl
  apply Dict.ext
  rw [set, dif_pos (List.mem_map_of_mem hmem)]
  exact (List.map_congr_left hsame).trans (List.map_id _)

theorem mergeWith_empty (f : β → α) (d : Dict β) :
    mergeWith (fun _ v => f v) ∅ d = d.mapValues f := by
  have hfold : ∀ (l : List (String × β)) (acc : Dict α),
      (acc.entries.map Prod.fst ++ l.map Prod.fst).Nodup →
        (l.foldl (fun acc e => acc.set e.1 (f e.2)) acc).entries
          = acc.entries ++ l.map fun e => (e.1, f e.2) := by
    intro l
    induction l with
    | nil => simp
    | cons e l ih =>
        intro acc hnodup
        have hfresh : e.1 ∉ acc.entries.map Prod.fst := fun hmem =>
          (List.disjoint_of_nodup_append hnodup) hmem List.mem_cons_self
        have hentries := entries_set_of_notMem hfresh (f e.2)
        rw [List.foldl_cons, ih, hentries, List.append_assoc, List.singleton_append, List.map_cons]
        rw [hentries, List.map_append, List.append_assoc]
        exact hnodup
  apply Dict.ext
  exact hfold d.entries ∅ d.nodup

@[simp] theorem get?_update (d d' : Dict α) (q : String) :
    (d.update d').get? q = (d'.get? q).or (d.get? q) := by
  simp [update]

@[simp] theorem get?_mapValues (f : α → β) (d : Dict α) (q : String) :
    (d.mapValues f).get? q = (d.get? q).map f := by
  obtain ⟨l, hnodup⟩ := d
  change (l.map fun e => (e.1, f e.2)).lookup q = (l.lookup q).map f
  clear hnodup
  induction l with
  | nil => simp
  | cons e l ih =>
      rw [List.map_cons, lookup_cons_eq, lookup_cons_eq, ih]
      by_cases hq : q = e.1 <;> simp [hq]

@[simp] theorem get?_filter (p : α → Bool) (d : Dict α) (q : String) :
    (d.filter p).get? q = (d.get? q).filter p := by
  ext v
  rw [get?_eq_some_iff, filter, List.mem_filter, ← get?_eq_some_iff, Option.filter_eq_some_iff]

@[simp] theorem get?_erase (d : Dict α) (k q : String) :
    (d.erase k).get? q = if q = k then none else d.get? q := by
  ext v
  rw [get?_eq_some_iff, erase, List.mem_filter, ← get?_eq_some_iff]
  by_cases hq : q = k <;> simp [hq]

@[simp] theorem get?_ofKeys (ks : PySet String) (f : String → α) (q : String) :
    (ofKeys ks f).get? q = if q ∈ ks then some (f q) else none := by
  by_cases hq : q ∈ ks
  · rw [if_pos hq, get?_eq_some_iff]
    exact List.mem_map.mpr ⟨q, hq, rfl⟩
  · rw [if_neg hq, get?_eq_none_iff]
    intro hmem
    have hkeys : (ofKeys ks f).keys.elems = ks.elems := by
      simp [ofKeys, keys, List.map_map, Function.comp_def]
    exact hq (by rwa [← PySet.mem_elems, ← hkeys, PySet.mem_elems])

/-- Where only the entry of `k` contributes to a part, the part is what that entry contributes. -/
theorem filter_flatMap_entries {d : Dict α} {k : String} {f : String × α → List β} {p : β → Bool}
    (h : ∀ e ∈ d.entries, e.1 ≠ k → (f e).filter p = []) :
    (d.entries.flatMap f).filter p = ((d.get? k).map fun v => (f (k, v)).filter p).getD [] := by
  obtain ⟨l, hnodup⟩ := d
  change (l.flatMap f).filter p = ((l.lookup k).map fun v => (f (k, v)).filter p).getD []
  induction l with
  | nil => rfl
  | cons e l ih =>
      rw [List.map_cons, List.nodup_cons] at hnodup
      have hrest := ih hnodup.2 fun e' he' => h e' (List.mem_cons_of_mem e he')
      rw [List.flatMap_cons, List.filter_append, hrest, lookup_cons_eq]
      by_cases hk : k = e.1
      · have hnone : l.lookup k = none := lookup_eq_none_iff.mpr (hk ▸ hnodup.1)
        rw [hnone, if_pos hk, hk]
        exact List.append_nil _
      · rw [if_neg hk, h e List.mem_cons_self (Ne.symm hk)]
        rfl

theorem countP_eq_of_keys {d : Dict α} {d' : Dict β} {p : α → Bool} {q : β → Bool}
    (h : ∀ k, (∃ v, d.get? k = some v ∧ p v = true) ↔ ∃ v, d'.get? k = some v ∧ q v = true) :
    d.entries.countP (fun e => p e.2) = d'.entries.countP (fun e => q e.2) := by
  have hkeys {γ : Type} (d : Dict γ) (r : γ → Bool) (k : String) :
      k ∈ (d.entries.filter fun e => r e.2).map Prod.fst ↔ ∃ v, d.get? k = some v ∧ r v = true := by
    simp only [get?_eq_some_iff]
    constructor
    · intro h
      obtain ⟨⟨_, v⟩, hmem, rfl⟩ := List.mem_map.mp h
      obtain ⟨hentry, hr⟩ := List.mem_filter.mp hmem
      exact ⟨v, hentry, hr⟩
    · rintro ⟨v, hentry, hr⟩
      exact List.mem_map.mpr ⟨(k, v), List.mem_filter.mpr ⟨hentry, hr⟩, rfl⟩
  have hnodup {γ : Type} (d : Dict γ) (r : γ → Bool) :
      ((d.entries.filter fun e => r e.2).map Prod.fst).Nodup :=
    d.nodup.sublist (List.filter_sublist.map Prod.fst)
  have hperm := (List.perm_ext_iff_of_nodup (hnodup d p) (hnodup d' q)).mpr fun k => by
    rw [hkeys, hkeys, h]
  calc
    d.entries.countP (fun e => p e.2)
        = ((d.entries.filter fun e => p e.2).map Prod.fst).length := by
          rw [List.length_map, List.countP_eq_length_filter]
    _ = ((d'.entries.filter fun e => q e.2).map Prod.fst).length := hperm.length_eq
    _ = d'.entries.countP (fun e => q e.2) := by
          rw [List.length_map, List.countP_eq_length_filter]

end Dict

end Python

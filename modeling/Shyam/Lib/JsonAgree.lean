import Shyam.Lib.Json

/-!
# Agreement, field by field

Two objects with distinct keys agree when their lookups do. Dictionaries and lists encoded value by
value agree when they are equal as maps and as lists. `canon` sorts the fields of every object, and
agrees with the value it sorts.
-/

namespace Python

namespace JsonValue

theorem agree_refl (v : JsonValue) : Agree v v := by
  induction v using inductionOn with
  | null => exact .null
  | bool b => exact .bool b
  | int i => exact .int i
  | float literal => exact .float literal
  | str s => exact .str s
  | arr items ih => exact .arr (List.forall₂_same.mpr ih)
  | obj fields ih =>
      refine .obj (List.Perm.refl fields) rfl (List.forall₂_same.mpr fun v hv => ?_)
      obtain ⟨f, hf, rfl⟩ := List.mem_map.mp hv
      exact ih f hf

theorem agree_str_iff {s t : String} : Agree (str s) (str t) ↔ s = t :=
  ⟨fun h => by cases h; rfl, fun h => h ▸ agree_refl _⟩

theorem agree_int_iff {i j : Int} : Agree (int i) (int j) ↔ i = j :=
  ⟨fun h => by cases h; rfl, fun h => h ▸ agree_refl _⟩

theorem agree_arr_iff {xs ys : List JsonValue} :
    Agree (arr xs) (arr ys) ↔ List.Forall₂ Agree xs ys :=
  ⟨fun h => by cases h; assumption, .arr⟩

/-! ### Objects as maps -/

section Lookup

theorem lookup_rel {fs hs : List (String × JsonValue)} (keys : fs.map Prod.fst = hs.map Prod.fst)
    (values : List.Forall₂ Agree (fs.map Prod.snd) (hs.map Prod.snd)) (k : String) :
    Option.Rel Agree (fs.lookup k) (hs.lookup k) := by
  refine Dict.rel_lookup ?_ k
  induction fs generalizing hs with
  | nil =>
      cases hs with
      | nil => exact .nil
      | cons h hs => simp at keys
  | cons f fs ih =>
      cases hs with
      | nil => simp at keys
      | cons h hs =>
          rw [List.map_cons, List.map_cons, List.cons.injEq] at keys
          rw [List.map_cons, List.map_cons, List.forall₂_cons] at values
          exact .cons ⟨keys.1.symm, values.1⟩ (ih keys.2 values.2)

theorem agree_obj_iff {fs gs : List (String × JsonValue)} (hfs : (fs.map Prod.fst).Nodup)
    (hgs : (gs.map Prod.fst).Nodup) :
    Agree (obj fs) (obj gs) ↔ ∀ k, Option.Rel Agree (fs.lookup k) (gs.lookup k) := by
  constructor
  · rintro (_ | _ | _ | _ | _ | _ | @⟨_, _, hs, reorder, keys, values⟩) k
    rw [Dict.lookup_of_perm reorder hgs]
    exact lookup_rel keys values k
  · intro h
    have hfind : ∀ f ∈ fs, ∃ w, (f.1, w) ∈ gs ∧ Agree f.2 w := by
      intro f hf
      have hrel := h f.1
      rw [(Dict.lookup_eq_some_iff hfs).mpr hf] at hrel
      cases hlook : gs.lookup f.1 with
      | none => rw [hlook] at hrel; cases hrel
      | some w =>
          rw [hlook] at hrel
          cases hrel with
          | some hagree => exact ⟨w, (Dict.lookup_eq_some_iff hgs).mp hlook, hagree⟩
    choose! w hmem hagree using hfind
    -- The fields of `gs` in the order of `fs`.
    refine @Agree.obj fs gs (fs.map fun f => (f.1, w f)) ?_
      (by simp [List.map_map, Function.comp_def]) ?_
    · refine (List.perm_ext_iff_of_nodup (List.Nodup.of_map _ hgs)
        (List.Nodup.of_map Prod.fst ?_)).mpr ?_
      · simpa [List.map_map, Function.comp_def] using hfs
      rintro ⟨k, v⟩
      constructor
      · intro hv
        have hrel := h k
        rw [(Dict.lookup_eq_some_iff hgs).mpr hv] at hrel
        cases hlook : fs.lookup k with
        | none => rw [hlook] at hrel; cases hrel
        | some u =>
            have hf : (k, u) ∈ fs := (Dict.lookup_eq_some_iff hfs).mp hlook
            refine List.mem_map.mpr ⟨(k, u), hf, ?_⟩
            rw [Prod.mk.injEq]
            exact ⟨rfl, congrArg Prod.snd (List.inj_on_of_nodup_map hgs (hmem _ hf) hv rfl)⟩
      · intro hv
        obtain ⟨f, hf, heq⟩ := List.mem_map.mp hv
        exact heq ▸ hmem f hf
    · rw [List.map_map, List.forall₂_map_left_iff, List.forall₂_map_right_iff, List.forall₂_same]
      exact hagree

theorem agree_obj_iff_forall₂ {fs gs : List (String × JsonValue)}
    (hkeys : fs.map Prod.fst = gs.map Prod.fst) (hnodup : (fs.map Prod.fst).Nodup) :
    Agree (obj fs) (obj gs) ↔ List.Forall₂ (fun f g => Agree f.2 g.2) fs gs := by
  rw [agree_obj_iff hnodup (hkeys ▸ hnodup)]
  induction fs generalizing gs with
  | nil =>
      cases gs with
      | nil => simp
      | cons g gs => simp at hkeys
  | cons f fs ih =>
      cases gs with
      | nil => simp at hkeys
      | cons g gs =>
          simp only [List.map_cons, List.cons.injEq] at hkeys
          rw [List.map_cons, List.nodup_cons] at hnodup
          rw [List.forall₂_cons, ← ih hkeys.2 hnodup.2]
          simp only [Dict.lookup_cons_eq, ← hkeys.1]
          have hmissing : Option.Rel Agree (fs.lookup f.1) (gs.lookup f.1) := by
            rw [Dict.lookup_eq_none_iff.mpr hnodup.1,
              Dict.lookup_eq_none_iff.mpr (hkeys.2 ▸ hnodup.1)]
            exact .none
          constructor
          · intro h
            refine ⟨by simpa using h f.1, fun k => ?_⟩
            by_cases hk : k = f.1
            · exact hk ▸ hmissing
            · simpa [hk] using h k
          · rintro ⟨hhead, htail⟩ k
            by_cases hk : k = f.1
            · simpa [hk] using hhead
            · simpa [hk] using htail k

end Lookup

/-! ### Encoded dictionaries and lists -/

section Encoded

variable {α : Type} {enc : α → JsonValue}

def ofDict (enc : α → JsonValue) (d : Dict α) : JsonValue := obj (d.mapValues enc).entries

theorem agree_ofDict_iff' {d d' : Dict α} :
    Agree (ofDict enc d) (ofDict enc d')
      ↔ ∀ k, Option.Rel (fun a b => Agree (enc a) (enc b)) (d.get? k) (d'.get? k) := by
  rw [ofDict, ofDict, agree_obj_iff (d.mapValues enc).nodup (d'.mapValues enc).nodup]
  refine forall_congr' fun k => ?_
  change Option.Rel Agree ((d.mapValues enc).get? k) ((d'.mapValues enc).get? k) ↔ _
  rw [Dict.get?_mapValues, Dict.get?_mapValues]
  cases d.get? k <;> cases d'.get? k <;> simp

/-- An encoding that tells values apart tells maps apart, and nothing more. -/
theorem agree_ofDict_iff (henc : ∀ a b, Agree (enc a) (enc b) ↔ a = b) {d d' : Dict α} :
    Agree (ofDict enc d) (ofDict enc d') ↔ ∀ k, d.get? k = d'.get? k := by
  rw [agree_ofDict_iff']
  refine forall_congr' fun k => ?_
  cases d.get? k <;> cases d'.get? k <;> simp [henc]

theorem agree_map_iff (henc : ∀ a b, Agree (enc a) (enc b) ↔ a = b) {xs ys : List α} :
    Agree (arr (xs.map enc)) (arr (ys.map enc)) ↔ xs = ys := by
  rw [agree_arr_iff, List.forall₂_map_left_iff, List.forall₂_map_right_iff, ← List.forall₂_eq_eq_eq]
  simp only [henc]

theorem plain_ofDict {d : Dict α} (henc : ∀ k a, d.get? k = some a → (enc a).Plain) :
    (ofDict enc d).Plain := by
  refine .obj (d.mapValues enc).nodup fun f hf => ?_
  obtain ⟨e, he, rfl⟩ := List.mem_map.mp hf
  exact henc e.1 e.2 (Dict.get?_eq_some_iff.mpr he)

theorem plain_map (henc : ∀ a, (enc a).Plain) (xs : List α) : (arr (xs.map enc)).Plain := by
  refine .arr fun v hv => ?_
  obtain ⟨a, -, rfl⟩ := List.mem_map.mp hv
  exact henc a

end Encoded

/-! ### The sorted form -/

mutual

/-- The value with the fields of every object sorted by key. -/
def canon : JsonValue → JsonValue
  | arr items => arr (canonItems items)
  | obj fields => obj (sortFields (canonFields fields))
  | null => null
  | bool b => bool b
  | int i => int i
  | float literal => float literal
  | str s => str s

def canonItems : List JsonValue → List JsonValue
  | [] => []
  | v :: vs => v.canon :: canonItems vs

def canonFields : List (String × JsonValue) → List (String × JsonValue)
  | [] => []
  | f :: fs => canonField f :: canonFields fs

def canonField : String × JsonValue → String × JsonValue
  | (k, v) => (k, v.canon)

end

theorem canonItems_eq_map (vs : List JsonValue) : canonItems vs = vs.map canon := by
  induction vs with
  | nil => rfl
  | cons v vs ih => simp [canonItems, ih]

theorem canonFields_eq_map (fs : List (String × JsonValue)) :
    canonFields fs = fs.map fun f => (f.1, f.2.canon) := by
  induction fs with
  | nil => rfl
  | cons f fs ih =>
      obtain ⟨k, v⟩ := f
      simp [canonFields, canonField, ih]

theorem canon_obj (fields : List (String × JsonValue)) :
    (obj fields).canon = obj (sortFields (fields.map fun f => (f.1, f.2.canon))) := by
  rw [canon, canonFields_eq_map]

theorem nodup_sortFields_map_canon {fields : List (String × JsonValue)}
    (hnodup : (fields.map Prod.fst).Nodup) :
    ((sortFields (fields.map fun f => (f.1, f.2.canon))).map Prod.fst).Nodup := by
  refine ((perm_sortFields _).map Prod.fst).nodup_iff.mpr ?_
  rwa [List.map_map]

/-- What an object's sorted form holds under a key is the sorted form of what it held. -/
theorem lookup_sortFields_map_canon {fields : List (String × JsonValue)}
    (hnodup : (fields.map Prod.fst).Nodup) (k : String) :
    (sortFields (fields.map fun f => (f.1, f.2.canon))).lookup k
      = (fields.lookup k).map canon := by
  rw [Dict.lookup_of_perm (perm_sortFields _) (nodup_sortFields_map_canon hnodup)]
  clear hnodup
  induction fields with
  | nil => rfl
  | cons f fields ih =>
      rw [List.map_cons, Dict.lookup_cons_eq, Dict.lookup_cons_eq, ih]
      split_ifs <;> rfl

theorem plain_canon {v : JsonValue} (hv : v.Plain) : v.canon.Plain := by
  induction v using inductionOn with
  | arr items ih =>
      cases hv with | arr plain =>
      rw [canon, canonItems_eq_map]
      refine .arr fun w hw => ?_
      obtain ⟨v, hv, rfl⟩ := List.mem_map.mp hw
      exact ih v hv (plain v hv)
  | obj fields ih =>
      cases hv with | obj nodup plain =>
      rw [canon, canonFields_eq_map, sortFields_map]
      refine .obj ?_ fun w hw => ?_
      · rw [List.map_map]
        exact ((perm_sortFields fields).map Prod.fst).nodup_iff.mpr nodup
      · obtain ⟨f, hf, rfl⟩ := List.mem_map.mp hw
        have hf := (perm_sortFields fields).mem_iff.mp hf
        exact ih f hf (plain f hf)
  | _ => exact hv

theorem agree_canon (v : JsonValue) : Agree v.canon v := by
  induction v using inductionOn with
  | arr items ih =>
      rw [canon, canonItems_eq_map, agree_arr_iff, List.forall₂_map_left_iff, List.forall₂_same]
      exact ih
  | obj fields ih =>
      rw [canon, canonFields_eq_map, sortFields_map]
      refine .obj (perm_sortFields fields).symm (by simp [List.map_map, Function.comp_def]) ?_
      rw [List.map_map, List.forall₂_map_left_iff, List.forall₂_map_right_iff, List.forall₂_same]
      exact fun f hf => ih f ((perm_sortFields fields).mem_iff.mp hf)
  | _ => exact agree_refl _

/-- Sorting beforehand does not change the text. -/
theorem text_canon {v : JsonValue} (hv : v.Plain) : v.canon.text = v.text :=
  text_eq_of_agree (plain_canon hv) hv (agree_canon v)

end JsonValue

end Python

import Shyam.Lib.Text

/-!
# Character classes

`str.isdigit` and `str.isidentifier`, and the checks of version numbers and of dotted names. They
and `str.title` ask the character database, of which only the ASCII part is fixed here.
-/

namespace Python

structure CharacterDatabase where
  isDigit : Char → Bool
  isIdStart : Char → Bool
  isIdContinue : Char → Bool
  title : String → String
  isDigit_ascii : ∀ c, c.toNat < 128 → isDigit c = c.isDigit
  isIdStart_ascii : ∀ c, c.toNat < 128 → isIdStart c = (c.isAlpha || c == '_')
  isIdContinue_ascii : ∀ c, c.toNat < 128 → isIdContinue c = (c.isAlphanum || c == '_')

namespace CharacterDatabase

/-- The letters that follow a letter in lower case, the others in upper case. -/
def titleFrom : Bool → List Char → List Char
  | _, [] => []
  | inWord, c :: cs => (if inWord then c.toLower else c.toUpper) :: titleFrom c.isAlpha cs

/-- Nothing beyond ASCII belongs to a class. -/
def ascii : CharacterDatabase where
  isDigit := Char.isDigit
  isIdStart c := c.isAlpha || c == '_'
  isIdContinue c := c.isAlphanum || c == '_'
  title s := String.ofList (titleFrom false s.toList)
  isDigit_ascii _ _ := rfl
  isIdStart_ascii _ _ := rfl
  isIdContinue_ascii _ _ := rfl

end CharacterDatabase

/-- `s.split(".")`. -/
def splitDots (s : String) : List (List Char) := s.toList.splitOn '.'

variable (db : CharacterDatabase)

def isdigit (part : List Char) : Bool := !part.isEmpty && part.all db.isDigit

def isidentifier : List Char → Bool
  | [] => false
  | c :: cs => db.isIdStart c && cs.all db.isIdContinue

/-- One to three dot-separated numbers. -/
def validateVersion (v : String) : Except String String :=
  if 3 < (splitDots v).length then
    .error ("Version must be 1-3 dot-separated integers, got: '" ++ v ++ "'")
  else if (splitDots v).all (isdigit db) then .ok v
  else .error ("Version parts must be non-negative integers, got: '" ++ v ++ "'")

/-- Identifiers with dots between them. -/
def validateDotted (namespaced parts v : String) : Except String String :=
  match validateNamespaced namespaced v with
  | .error message => .error message
  | .ok v => if (splitDots v).all (isidentifier db) then .ok v else .error parts

/-! ### ASCII texts -/

variable {db} {s : String}

/-- A text of ASCII characters. -/
def IsAscii (s : String) : Prop := ∀ c ∈ s.toList, c.toNat < 128

instance (s : String) : Decidable (IsAscii s) :=
  List.decidableBAll (fun c : Char => c.toNat < 128) s.toList

theorem mem_of_mem_splitOn {l part : List Char} {sep c : Char}
    (hpart : part ∈ l.splitOn sep) (hc : c ∈ part) :
    c ∈ l := by
  induction l generalizing part with
  | nil =>
      rw [List.splitOn_nil, List.mem_singleton] at hpart
      exact hpart ▸ hc
  | cons x l ih =>
      rw [List.splitOn_cons_eq_if_modifyHead] at hpart
      split_ifs at hpart
      · obtain rfl | hrest := List.mem_cons.mp hpart
        · exact absurd hc List.not_mem_nil
        · exact List.mem_cons_of_mem x (ih hrest hc)
      · obtain ⟨first, rest, hsplit⟩ := List.exists_cons_of_ne_nil (List.splitOn_ne_nil sep l)
        rw [hsplit, List.modifyHead_cons] at hpart
        obtain rfl | hrest := List.mem_cons.mp hpart
        · obtain rfl | hfirst := List.mem_cons.mp hc
          · exact List.mem_cons_self
          · exact List.mem_cons_of_mem x (ih (hsplit ▸ List.mem_cons_self) hfirst)
        · exact List.mem_cons_of_mem x (ih (hsplit ▸ List.mem_cons_of_mem first hrest) hc)

theorem all_splitDots_congr {p q : List Char → Bool} (h : IsAscii s)
    (hpq : ∀ part, (∀ c ∈ part, c.toNat < 128) → p part = q part) :
    (splitDots s).all p = (splitDots s).all q := by
  rw [Bool.eq_iff_iff, List.all_eq_true, List.all_eq_true]
  refine forall₂_congr fun part hpart => ?_
  rw [hpq part fun c hc => h c (mem_of_mem_splitOn hpart hc)]

theorem all_congr {p q : Char → Bool} {l : List Char} (hascii : ∀ c ∈ l, c.toNat < 128)
    (h : ∀ c, c.toNat < 128 → p c = q c) : l.all p = l.all q := by
  rw [Bool.eq_iff_iff, List.all_eq_true, List.all_eq_true]
  exact forall₂_congr fun c hc => by rw [h c (hascii c hc)]

/-- Every database takes an ASCII text for a version where ASCII does. -/
theorem validateVersion_of_ascii (h : IsAscii s) :
    validateVersion db s = validateVersion .ascii s := by
  have hparts : (splitDots s).all (isdigit db) = (splitDots s).all (isdigit .ascii) := by
    apply all_splitDots_congr h
    intro part hpart
    rw [isdigit, isdigit, all_congr hpart db.isDigit_ascii]
    rfl
  rw [validateVersion, validateVersion, hparts]

theorem validateDotted_of_ascii (h : IsAscii s) (namespaced parts : String) :
    validateDotted db namespaced parts s = validateDotted .ascii namespaced parts s := by
  have hparts : (splitDots s).all (isidentifier db) = (splitDots s).all (isidentifier .ascii) := by
    apply all_splitDots_congr h
    intro part hpart
    cases part with
    | nil => rfl
    | cons c cs =>
        rw [List.forall_mem_cons] at hpart
        rw [isidentifier, isidentifier, db.isIdStart_ascii c hpart.1,
          all_congr hpart.2 db.isIdContinue_ascii]
        rfl
  rw [validateDotted, validateDotted]
  cases hnamespaced : validateNamespaced namespaced s with
  | error message => rfl
  | ok v =>
      have hv : v = s := by
        rw [validateNamespaced] at hnamespaced
        split_ifs at hnamespaced
        exact (Except.ok.inj hnamespaced).symm
      dsimp only
      rw [hv, hparts]

example : validateVersion .ascii "1.0.0" = .ok "1.0.0" := by decide

end Python

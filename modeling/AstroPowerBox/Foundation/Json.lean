import Mathlib.Data.Rat.Floor

/-!
# JSON documents

A document is built by assigning members and read by looking them up. Looking a member up never fails:
what is not there is `null`. Assigning a member to `null` makes an object of it.

Numbers are kept as rationals: the text between two programs is not modelled.
-/

namespace Foundation

/-- A JSON value without arrays. -/
inductive Json where
  | null
  | bool (b : Bool)
  | num (x : ℚ)
  | str (s : String)
  | obj (members : List (String × Json))

namespace Json

/-- The member `key`, `null` if there is none. -/
def get (doc : Json) (key : String) : Json :=
  match doc with
  | obj members => (members.lookup key).getD null
  | _ => null

/-- The members with `key` replaced, or added at the end. -/
def setMember (key : String) (value : Json) : List (String × Json) → List (String × Json)
  | [] => [(key, value)]
  | (k, w) :: members =>
    if k = key then (k, value) :: members else (k, w) :: setMember key value members

/-- Assignment of the member `key`; a value that is no object has none. -/
def set (doc : Json) (key : String) (value : Json) : Json :=
  match doc with
  | null => obj [(key, value)]
  | obj members => obj (setMember key value members)
  | doc => doc

/-- Members can be assigned. -/
def takesMembers : Json → Bool
  | null => true
  | obj _ => true
  | _ => false

variable {doc value : Json} {key key' : String} {members : List (String × Json)}

@[simp] lemma get_null : null.get key = null := rfl

@[simp] lemma takesMembers_null : null.takesMembers = true := rfl

/-- The member that was set is found. -/
lemma lookup_setMember_self : (setMember key value members).lookup key = some value := by
  induction members with
  | nil => simp [setMember]
  | cons m members ih =>
    rw [setMember]
    split_ifs with h
    · simp [h]
    · have hne : (key == m.1) = false := by simpa using Ne.symm h
      rw [List.lookup_cons, hne]
      exact ih

/-- Setting a member changes no other. -/
lemma lookup_setMember_of_ne (h : key ≠ key') :
    (setMember key value members).lookup key' = members.lookup key' := by
  induction members with
  | nil => simp [setMember, h.symm]
  | cons m members ih =>
    rw [setMember]
    split_ifs with hk
    · have hne : (key' == m.1) = false := by simpa [hk] using h.symm
      rw [List.lookup_cons, List.lookup_cons, hne]
    · rw [List.lookup_cons, List.lookup_cons, ih]

/-- A member of a document after an assignment. -/
@[simp] lemma get_set :
    (doc.set key value).get key' =
      if doc.takesMembers = true ∧ key = key' then value else doc.get key' := by
  split_ifs with h
  · obtain ⟨hdoc, rfl⟩ := h
    cases doc with
    | null => simp [set, get]
    | obj members => simp [set, get, lookup_setMember_self]
    | bool b => cases hdoc
    | num x => cases hdoc
    | str s => cases hdoc
  · cases doc with
    | null =>
      have hne : (key' == key) = false := beq_false_of_ne fun heq => h ⟨rfl, heq.symm⟩
      simp [set, get, List.lookup_cons, hne]
    | obj members =>
      have hne : key ≠ key' := fun heq => h ⟨rfl, heq⟩
      simp [set, get, lookup_setMember_of_ne hne]
    | bool b => rfl
    | num x => rfl
    | str s => rfl

/-- An assignment does not change what kind of value it is. -/
@[simp] lemma takesMembers_set : (doc.set key value).takesMembers = doc.takesMembers := by
  cases doc <;> rfl

example : ((null.set "a" (num 1)).set "b" (bool true)).get "a" = num 1 := by simp

end Json
end Foundation

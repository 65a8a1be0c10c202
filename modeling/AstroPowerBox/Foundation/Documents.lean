import AstroPowerBox.Foundation.Json
import AstroPowerBox.Foundation.Run

/-!
# Documents of bounded size

A library for documents may have room for a fixed number of members only: a member for which there is
no room is dropped without notice (`BoundedDocuments`). A `Member` is given by its path, an object
before its own members (`Follows`). Members that are assigned one after the other are there up to the
number that there is room for (`held_run`).

A document is read by paths too. Members at other paths do not matter (`getPath_of_apart`), and
nothing is read where nothing was written (`getPath_of_unwritten`).
-/

namespace Foundation

abbrev Path := List String

namespace Json

/-- Assignment of the member at a path. -/
def setPath (doc : Json) (path : Path) (value : Json) : Json :=
  match path with
  | [] => value
  | key :: path => doc.set key ((doc.get key).setPath path value)

/-- The member at a path, `null` if there is none. -/
def getPath (doc : Json) : Path → Json
  | [] => doc
  | key :: path => (doc.get key).getPath path

variable {doc value : Json} {key : String} {p q r : Path}

/-- A later assignment of a member replaces the first one. -/
lemma setMember_setMember {value' : Json} {members : List (String × Json)} :
    setMember key value' (setMember key value members) = setMember key value' members := by
  induction members with
  | nil => simp [setMember]
  | cons m members ih =>
    simp only [setMember]
    split_ifs with h
    · simp [setMember, h]
    · simp [setMember, h, ih]

/-- So it does in a document. -/
lemma set_set {value' : Json} : (doc.set key value).set key value' = doc.set key value' := by
  cases doc with
  | null => simp [set, setMember]
  | obj members => exact congrArg obj setMember_setMember
  | bool b => rfl
  | num x => rfl
  | str s => rfl

@[simp] lemma getPath_null : null.getPath p = null := by
  induction p with
  | nil => rfl
  | cons key p ih => exact ih

/-- A member does not matter at a path that neither leads to it nor through it. -/
lemma getPath_setPath_of_apart (hqp : ¬ q <+: p) (hpq : ¬ p <+: q) :
    (doc.setPath q value).getPath p = doc.getPath p := by
  induction q generalizing doc p with
  | nil => exact absurd List.nil_prefix hqp
  | cons key q ih =>
    cases p with
    | nil => exact absurd List.nil_prefix hpq
    | cons key' p =>
      rw [setPath, getPath, getPath, get_set]
      split_ifs with hkey
      · obtain ⟨-, rfl⟩ := hkey
        rw [List.cons_prefix_cons] at hqp hpq
        exact ih (fun h => hqp ⟨rfl, h⟩) fun h => hpq ⟨rfl, h⟩
      · rfl

/-- A member without members of its own at the path hides nothing but itself. -/
lemma getPath_setPath_of_null (hdoc : doc.getPath (q ++ r) = null)
    (hvalue : value.getPath r = null) :
    (doc.setPath q value).getPath (q ++ r) = null := by
  induction q generalizing doc with
  | nil => exact hvalue
  | cons key q ih =>
    rw [setPath, List.cons_append, getPath, get_set]
    split_ifs
    · exact ih hdoc
    · exact hdoc

end Json

/-- A member of a document: where it is, and its value, which for an object is still empty. -/
abbrev Member := Path × Json

namespace Member

def paths (ms : List Member) : List Path := ms.map Prod.fst

/-- The document made of members. -/
def toJson (ms : List Member) : Json := run (fun doc m => doc.setPath m.1 m.2) .null ms

/-- The members under a key. -/
def under (key : String) (ms : List Member) : List Member := ms.map fun m => (key :: m.1, m.2)

variable {ms ms' : List Member} {m : Member} {p : Path}

@[simp] lemma length_paths : (paths ms).length = ms.length := List.length_map _

lemma paths_concat : paths (ms ++ [m]) = paths ms ++ [m.1] := List.map_append

lemma toJson_concat : toJson (ms ++ [m]) = (toJson ms).setPath m.1 m.2 := run_concat _

/-- An object is assigned as a whole. -/
lemma run_under {doc value : Json} {key : String} (h : doc.takesMembers = true) :
    run (fun doc m => doc.setPath m.1 m.2) doc (([key], value) :: under key ms)
      = doc.set key (run (fun doc m => doc.setPath m.1 m.2) value ms) := by
  induction ms using List.reverseRecOn with
  | nil => rfl
  | append_singleton ms m ih =>
    rw [under, List.map_append, List.map_singleton, ← List.cons_append, run_concat, run_concat,
      ← under, ih, Json.setPath, Json.set_set, Json.get_set, if_pos ⟨h, rfl⟩]

/-- Assignments along other paths do not change a member. -/
lemma getPath_of_apart (h : ∀ m ∈ ms', ¬ m.1 <+: p ∧ ¬ p <+: m.1) :
    (toJson (ms ++ ms')).getPath p = (toJson ms).getPath p := by
  induction ms' using List.reverseRecOn with
  | nil => rw [List.append_nil]
  | append_singleton ms' m ih =>
    obtain ⟨hmp, hpm⟩ := h m (by simp)
    rw [← List.append_assoc, toJson_concat, Json.getPath_setPath_of_apart hmp hpm]
    exact ih fun m' hm' => h m' (List.mem_append_left _ hm')

/-- Members without members, none of which is at the path or behind it. -/
lemma getPath_of_unwritten (hplain : ∀ m ∈ ms, ∀ key, m.2.get key = .null)
    (h : ∀ m ∈ ms, ¬ p <+: m.1) (hp : p ≠ []) : (toJson ms).getPath p = .null := by
  induction ms using List.reverseRecOn with
  | nil => exact Json.getPath_null
  | append_singleton ms m ih =>
    have hold := ih (fun m' hm' => hplain m' (List.mem_append_left _ hm'))
      fun m' hm' => h m' (List.mem_append_left _ hm')
    rw [toJson_concat]
    by_cases hmp : m.1 <+: p
    · obtain ⟨r, rfl⟩ := hmp
      refine Json.getPath_setPath_of_null hold ?_
      cases r with
      | nil => exact absurd (by simp) (h m (by simp))
      | cons key r =>
        rw [Json.getPath, hplain m (by simp), Json.getPath_null]
    · rw [Json.getPath_setPath_of_apart hmp (h m (by simp))]
      exact hold

end Member

/-! ## Bounded documents -/

/-- Every member is new, and comes after the object that it belongs to. -/
def Follows (seen : List Path) : List Path → Prop
  | [] => True
  | path :: paths =>
    path ∉ seen ∧ (path.dropLast = [] ∨ path.dropLast ∈ seen) ∧ Follows (seen ++ [path]) paths

instance decidableFollows : ∀ seen paths, Decidable (Follows seen paths)
  | _, [] => isTrue trivial
  | seen, path :: paths =>
    have := decidableFollows (seen ++ [path]) paths
    inferInstanceAs (Decidable (_ ∧ _ ∧ _))

/-- The last path comes after the others. -/
lemma follows_concat {seen paths : List Path} {path : Path} : Follows seen (paths ++ [path]) ↔
    Follows seen paths ∧ path ∉ seen ++ paths ∧
      (path.dropLast = [] ∨ path.dropLast ∈ seen ++ paths) := by
  induction paths generalizing seen with
  | nil => simp [Follows]
  | cons path' paths ih =>
    rw [List.cons_append, Follows, ih, Follows, List.append_assoc, List.singleton_append]
    simp only [and_assoc]

/-- A library for documents that have room for a number of members, with what it is documented to do
when a member is assigned that is not there yet. -/
structure BoundedDocuments where
  Doc : Type
  room : ℕ
  empty : Doc
  /-- Assignment of a member. -/
  put : Doc → Member → Doc
  /-- The members that the document has. -/
  held : Doc → List Path
  /-- What is written out. -/
  content : Doc → Json
  held_empty : held empty = []
  content_empty : content empty = .null
  /-- As long as there is room, a member of the document or of one of its objects is added. -/
  held_put : ∀ d m, m.1 ∉ held d → (m.1.dropLast = [] ∨ m.1.dropLast ∈ held d) →
    (held d).length < room → held (put d m) = held d ++ [m.1]
  content_put : ∀ d m, m.1 ∉ held d → (m.1.dropLast = [] ∨ m.1.dropLast ∈ held d) →
    (held d).length < room → content (put d m) = (content d).setPath m.1 m.2
  /-- Afterwards it is dropped without notice. -/
  held_full : ∀ d m, m.1 ∉ held d → room ≤ (held d).length → held (put d m) = held d
  content_full : ∀ d m, m.1 ∉ held d → room ≤ (held d).length → content (put d m) = content d

namespace BoundedDocuments
variable {L : BoundedDocuments} {ms : List Member}

/-- Members that are assigned in order: the first ones are there, as many as there is room for. -/
lemma held_run (inOrder : Follows [] (Member.paths ms)) :
    L.held (run L.put L.empty ms) = Member.paths (ms.take L.room) ∧
      L.content (run L.put L.empty ms) = Member.toJson (ms.take L.room) := by
  induction ms using List.reverseRecOn with
  | nil =>
    rw [List.take_nil]
    exact ⟨L.held_empty, L.content_empty⟩
  | append_singleton ms m ih =>
    rw [Member.paths_concat, follows_concat, List.nil_append] at inOrder
    obtain ⟨hms, hnew, hparent⟩ := inOrder
    obtain ⟨hheld, hcontent⟩ := ih hms
    have hunseen : m.1 ∉ L.held (run L.put L.empty ms) := by
      rw [hheld]
      exact fun h => hnew (((List.take_sublist _ _).map _).mem h)
    have hlength : (L.held (run L.put L.empty ms)).length = min L.room ms.length := by
      rw [hheld, Member.length_paths, List.length_take]
    rw [run_concat]
    rcases Nat.lt_or_ge ms.length L.room with hroom | hfull
    · -- everything so far is there, and the member is added
      have htake : ms.take L.room = ms := List.take_of_length_le hroom.le
      have htake' : (ms ++ [m]).take L.room = ms ++ [m] :=
        List.take_of_length_le (by rw [List.length_append]; exact hroom)
      rw [htake] at hheld hcontent
      have hparent' : m.1.dropLast = [] ∨ m.1.dropLast ∈ L.held (run L.put L.empty ms) := by
        rw [hheld]
        exact hparent
      have hlt : (L.held (run L.put L.empty ms)).length < L.room := by omega
      rw [L.held_put _ _ hunseen hparent' hlt, L.content_put _ _ hunseen hparent' hlt, hheld,
        hcontent, htake']
      exact ⟨Member.paths_concat.symm, Member.toJson_concat.symm⟩
    · have hle : L.room ≤ (L.held (run L.put L.empty ms)).length := by omega
      rw [L.held_full _ _ hunseen hle, L.content_full _ _ hunseen hle,
        List.take_append_of_le_length hfull]
      exact ⟨hheld, hcontent⟩

/-- A library that keeps the list of the members. -/
def ofList (room : ℕ) : BoundedDocuments where
  Doc := List Member
  room := room
  empty := []
  put d m := if d.length < room then d ++ [m] else d
  held := Member.paths
  content := Member.toJson
  held_empty := rfl
  content_empty := rfl
  held_put d m _ _ hroom := by
    have hlt : d.length < room := by simpa using hroom
    rw [if_pos hlt, Member.paths_concat]
  content_put d m _ _ hroom := by
    have hlt : d.length < room := by simpa using hroom
    rw [if_pos hlt, Member.toJson_concat]
  held_full d m _ hfull := by
    have hle : room ≤ d.length := by simpa using hfull
    rw [if_neg hle.not_gt]
  content_full d m _ hfull := by
    have hle : room ≤ d.length := by simpa using hfull
    rw [if_neg hle.not_gt]

end BoundedDocuments
end Foundation

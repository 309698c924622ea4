import RequestCatalog.Store.Lookup

/-! # The tree of folders

  Folders name the folder they lie in. Written carefully these names make a tree,
  but the tables allow any folder to name any other, so every walk here expects
  loops and says where it met one.

  * `climb` goes up: from a parent to its parent, until a folder has none. It
    remembers the identifiers it met, and fails when one comes again.
  * `comesBack` goes the same way for an answer only: whether the way leads to a
    certain folder, or goes round in a loop. It gives up where a folder is missing.
  * `gather` goes down for requests. It works off a stack of folders to enter and folders to
    leave, and fails when it comes to enter a folder again.
  * `below` goes down by recursion: all folders below one, each after the folders inside
    it. A folder lies in one folder only, so the one way to meet a folder twice is to
    come back to the start.

  All of them end because they use folders up: the first two those not yet met, the
  third those whose parent was not yet entered, the last those not yet known to lie below.
-/

namespace RequestCatalog

namespace Store

/-! ### Upwards -/

/-- The folders that a walk has not met. -/
def unmet (s : Store) (met : List String) : List (Row .folder) :=
  s.folders.filter fun f => !met.contains f.id

/-- Meeting a stored folder for the first time leaves fewer to meet. -/
theorem length_unmet_lt {s : Store} {met : List String} {id : String} {f : Row .folder}
    (hnew : met.contains id = false) (hget : s.get? .folder id = some f) :
    (s.unmet (id :: met)).length < (s.unmet met).length := by
  have hmem : f ∈ s.folders := List.mem_of_find?_eq_some hget
  have hid : f.id = id := by simpa using List.find?_some hget
  have hsplit : s.unmet (id :: met) = (s.unmet met).filter fun g => g.id != id := by
    simp only [unmet, List.filter_filter]
    refine List.filter_congr fun g _ => ?_
    by_cases h : g.id = id <;> simp [h]
  rw [hsplit]
  refine List.length_filter_lt_length_iff_exists.mpr ⟨f, ?_, by simp [hid]⟩
  simp only [unmet, List.mem_filter]
  exact ⟨hmem, by rw [hid, hnew]; rfl⟩

/-- The folders above a place, the nearest first. The place lies in the folder `parent`,
    and the folders of `met` may not come again. -/
def climb (s : Store) (met : List String) :
    (parent : Option String) → Except Fault (List (Row .folder))
  | none => .ok []
  | some id =>
    match _hmet : met.contains id with
    | true => .error (.folderCycle id)
    | false =>
      match _hget : s.get? .folder id with
      | none => .error (.notFound .folder (.text id))
      | some f => (f :: ·) <$> climb s (id :: met) f.data.folderId
termination_by (s.unmet met).length
decreasing_by exact length_unmet_lt _hmet _hget

/-- The way up from a place leads to the folder `target`, or to a folder of `met` again. The
    place lies in the folder `parent`, and whether that is the target is not asked. -/
def comesBack (s : Store) (target : String) (met : List String) :
    (parent : Option String) → Bool
  | none => false
  | some id =>
    match _hmet : met.contains id with
    | true => true
    | false =>
      match _hget : s.get? .folder id with
      | none => false
      | some f =>
        f.data.folderId == some target || comesBack s target (id :: met) f.data.folderId
termination_by (s.unmet met).length
decreasing_by exact length_unmet_lt _hmet _hget

/-- Putting a folder into a new parent would close a loop: the parent is the folder itself, or
    the way up from the parent comes back to the folder or loops before that. -/
def wouldLoop (s : Store) (folderId : String) (parent : Option String) : Bool :=
  parent == some folderId || s.comesBack folderId [] parent

/-! ### Downwards -/

/-- The folders of the pool that lie directly in a folder. -/
def childrenIn (pool : List (Row .folder)) (id : String) : List (Row .folder) :=
  pool.filter fun f => f.data.folderId == some id

/-- The folders of the pool that lie elsewhere. -/
def othersIn (pool : List (Row .folder)) (id : String) : List (Row .folder) :=
  pool.filter fun f => f.data.folderId != some id

/-- Every folder of the pool lies directly in the folder or elsewhere. -/
theorem length_childrenIn_add (pool : List (Row .folder)) (id : String) :
    (childrenIn pool id).length + (othersIn pool id).length = pool.length := by
  induction pool with
  | nil => rfl
  | cons f rest ih =>
    simp only [childrenIn, othersIn] at ih ⊢
    by_cases h : f.data.folderId = some id
    · simp only [List.filter_cons, h, beq_self_eq_true, bne_self_eq_false, if_true,
        Bool.false_eq_true, if_false, List.length_cons]
      omega
    · have hb : (f.data.folderId == some id) = false := by simpa using h
      have hn : (f.data.folderId != some id) = true := by simpa using h
      simp only [List.filter_cons, hb, hn, if_true, Bool.false_eq_true, if_false,
        List.length_cons]
      omega

mutual

/-- A folder and the folders of the pool below it, each after those inside it. The walk
    may not come back to `start`. -/
def below (start : String) (pool : List (Row .folder)) (id : String) :
    Except Fault (List String) :=
  (· ++ [id]) <$> belowAll start (othersIn pool id) (childrenIn pool id)
termination_by 2 * pool.length + 1
decreasing_by
  have h := length_childrenIn_add pool id
  omega

/-- Several folders in turn, each with the folders of the pool below it. -/
def belowAll (start : String) (pool : List (Row .folder)) :
    List (Row .folder) → Except Fault (List String)
  | [] => .ok []
  | f :: rest =>
    if f.id = start then .error (.folderCycle start)
    else do
      let first ← below start pool f.id
      let others ← belowAll start pool rest
      return first ++ others
termination_by fs => 2 * pool.length + 2 * fs.length
decreasing_by
  · simp only [List.length_cons]
    omega
  · simp only [List.length_cons]
    omega

end

/-- The identifiers of a folder and of all folders below it, each after those inside it. -/
def foldersUnder (s : Store) (id : String) : Except Fault (List String) :=
  below id s.folders id

/-! ### Downwards, with a stack -/

/-- What is still to be visited. -/
inductive Visit where
  /-- Go into a folder. -/
  | enter (id : String)
  /-- Come out of a folder. All folders inside it were visited. -/
  | leave (id : String)

/-- The steps that visits take by themselves. One that goes in leaves one to do that comes out. -/
def steps : List Visit → Nat
  | [] => 0
  | .enter _ :: rest => steps rest + 2
  | .leave _ :: rest => steps rest + 1

theorem steps_enter_append (fs : List (Row .folder)) (rest : List Visit) :
    steps (fs.map (fun f => .enter f.id) ++ rest) = 2 * fs.length + steps rest := by
  induction fs with
  | nil => simp
  | cons f fs ih =>
    simp only [List.map_cons, List.cons_append, steps, ih, List.length_cons]
    omega

/-- The folders that lie in a folder which was not entered. -/
def unentered (s : Store) (seen : List String) : List (Row .folder) :=
  s.folders.filter fun f => f.data.folderId.any (!seen.contains ·)

/-- Whoever enters a folder for the first time leaves fewer folders in folders not entered, or as
    many where nothing lies in it. -/
theorem length_unentered_add {s : Store} {seen : List String} {id : String}
    (hnew : seen.contains id = false) :
    (s.unentered (id :: seen)).length + (childrenIn s.folders id).length =
      (s.unentered seen).length := by
  simp only [unentered, childrenIn, List.contains_cons]
  induction s.folders with
  | nil => rfl
  | cons f rest ih =>
    simp only [List.filter_cons]
    cases hparent : f.data.folderId with
    | none => simpa using ih
    | some parent =>
      by_cases hin : parent = id
      · subst hin
        simp only [Option.any_some, beq_self_eq_true, Bool.true_or, hnew,
          Bool.not_true, Bool.not_false, Bool.false_eq_true, if_false, if_true, List.length_cons]
        omega
      · have hne : (parent == id) = false := by simpa using hin
        have hout : (some parent == some id) = false := by simpa using hin
        simp only [Option.any_some, hne, Bool.false_or, hout,
          Bool.false_eq_true, if_false]
        split
        · simp only [List.length_cons]
          omega
        · exact ih

/-- What is left to do, as a measure: every folder that lies in a folder not entered may still
    have to be entered and left. -/
def toVisit (s : Store) (seen : List String) (visits : List Visit) : Nat :=
  2 * (s.unentered seen).length + steps visits

theorem toVisit_leave_lt {s : Store} {seen : List String} {id : String} {rest : List Visit} :
    s.toVisit seen rest < s.toVisit seen (.leave id :: rest) := by
  simp [toVisit, steps]

theorem toVisit_enter_lt {s : Store} {seen : List String} {id : String} {rest : List Visit}
    (hnew : seen.contains id = false) :
    s.toVisit (id :: seen)
        ((childrenIn s.folders id).map (fun f => .enter f.id) ++ .leave id :: rest) <
      s.toVisit seen (.enter id :: rest) := by
  have hlength := length_unentered_add (s := s) hnew
  simp only [toVisit, steps_enter_append, steps]
  omega

/-- The requests that are met while the visits are paid. A folder is left after all folders
    inside it, and its own requests are met then. No folder may be entered twice. -/
def gather (s : Store) (p : Protocol) (seen : List String) :
    List Visit → Except Fault (List (Row (.request p)))
  | [] => .ok []
  | .leave id :: rest => (s.requestsIn p id ++ ·) <$> gather s p seen rest
  | .enter id :: rest =>
    match _hseen : seen.contains id with
    | true => .error (.folderCycle id)
    | false =>
      gather s p (id :: seen)
        ((childrenIn s.folders id).map (fun f => .enter f.id) ++ .leave id :: rest)
termination_by visits => s.toVisit seen visits
decreasing_by
  · exact toVisit_leave_lt
  · exact toVisit_enter_lt _hseen

/-- All requests in a folder or below it. Each folder inside is listed completely before
    the requests that lie directly in a folder. -/
def requestsUnder (s : Store) (p : Protocol) (id : String) :
    Except Fault (List (Row (.request p))) :=
  s.gather p [] [.enter id]

end Store

end RequestCatalog

import RequestCatalog.Api.Form
import RequestCatalog.Api.Payload
import RequestCatalog.Proofs.Writing

/-! # Values that can be put in writing

  A free-form column takes a value only if it can be put in writing: not too many lists and
  objects stand inside each other, and no whole number has too many digits.

  * `Api.Payload.obstacle?_of_value`: what a call carries can be put in writing, because the
    reader of bodies has the narrower limits. The machine keeps the values of its open lists and
    objects so (`Json.Machine.Within`), whatever token comes next.
  * `Draft.obstacle?_settled`: a copy can be put in writing where its source can.
  * `Store.Writable`: all that is stored was put in writing once and can be again.
-/

namespace RequestCatalog

/-! ### Values -/

namespace Json

variable {room more : Nat}

theorem obstacleOfItems?_eq_none_iff {items : List Json} :
    obstacleOfItems? room items = none ↔ ∀ j ∈ items, j.obstacle? room = none := by
  induction items with
  | nil => simp [obstacleOfItems?]
  | cons j rest ih => simp [obstacleOfItems?, ih]

theorem obstacleOfMembers?_eq_none_iff {members : List (Text × Json)} :
    obstacleOfMembers? room members = none ↔
      ∀ member ∈ members, member.2.obstacle? room = none := by
  induction members with
  | nil => simp [obstacleOfMembers?]
  | cons member rest ih => simp [obstacleOfMembers?, ih]

theorem obstacle?_list_eq_none_iff {items : List Json} :
    (Json.list items).obstacle? room = none ↔
      0 < room ∧ ∀ j ∈ items, j.obstacle? (room - 1) = none := by
  rw [obstacle?]
  split
  · simp_all
  · rw [obstacleOfItems?_eq_none_iff]
    exact (and_iff_right (by omega)).symm

theorem obstacle?_object_eq_none_iff {members : List (Text × Json)} :
    (Json.object members).obstacle? room = none ↔
      0 < room ∧ ∀ member ∈ members, member.2.obstacle? (room - 1) = none := by
  rw [obstacle?]
  split
  · simp_all
  · rw [obstacleOfMembers?_eq_none_iff]
    exact (and_iff_right (by omega)).symm

@[simp] theorem obstacle?_text (t : Text) : (Json.text t).obstacle? room = none := by
  simp [obstacle?]

mutual

/-- A value that can be put in writing stays within the room. -/
theorem nesting_le_of_obstacle (room : Nat) :
    ∀ j : Json, j.obstacle? room = none → j.nesting ≤ room
  | .null | .bool _ | .int _ | .real _ | .text _ => fun _ => by
    simp only [nesting, Nat.zero_le]
  | .list items => fun h => by
    obtain ⟨hroom, hitems⟩ := obstacle?_list_eq_none_iff.mp h
    have hnesting := nestingOfItems_le_of_obstacle (room - 1) items hitems
    rw [nesting]
    omega
  | .object members => fun h => by
    obtain ⟨hroom, hmembers⟩ := obstacle?_object_eq_none_iff.mp h
    have hnesting := nestingOfMembers_le_of_obstacle (room - 1) members hmembers
    rw [nesting]
    omega

theorem nestingOfItems_le_of_obstacle (room : Nat) : ∀ items : List Json,
    (∀ j ∈ items, j.obstacle? room = none) → nestingOfItems items ≤ room
  | [] => fun _ => by simp only [nestingOfItems, Nat.zero_le]
  | j :: rest => fun h => by
    obtain ⟨hfirst, hrest⟩ := List.forall_mem_cons.mp h
    rw [nestingOfItems]
    exact Nat.max_le.mpr
      ⟨nesting_le_of_obstacle room j hfirst, nestingOfItems_le_of_obstacle room rest hrest⟩

theorem nestingOfMembers_le_of_obstacle (room : Nat) : ∀ members : List (Text × Json),
    (∀ member ∈ members, member.2.obstacle? room = none) → nestingOfMembers members ≤ room
  | [] => fun _ => by simp only [nestingOfMembers, Nat.zero_le]
  | (name, j) :: rest => fun h => by
    obtain ⟨hfirst, hrest⟩ := List.forall_mem_cons.mp h
    rw [nestingOfMembers]
    exact Nat.max_le.mpr
      ⟨nesting_le_of_obstacle room j hfirst, nestingOfMembers_le_of_obstacle room rest hrest⟩

end

mutual

/-- A value that could be put in writing with another room can be with this one if it is not
    nested more. -/
theorem obstacle?_of_nesting (more room : Nat) :
    ∀ j : Json, j.obstacle? more = none → j.nesting ≤ room → j.obstacle? room = none
  | .null | .bool _ | .real _ | .text _ => fun _ _ => by simp only [obstacle?]
  | .int _ => fun h _ => by simpa only [obstacle?] using h
  | .list items => fun h hnesting => by
    obtain ⟨-, hitems⟩ := obstacle?_list_eq_none_iff.mp h
    rw [nesting] at hnesting
    exact obstacle?_list_eq_none_iff.mpr ⟨by omega,
      obstacleOfItems?_of_nesting (more - 1) (room - 1) items hitems (by omega)⟩
  | .object members => fun h hnesting => by
    obtain ⟨-, hmembers⟩ := obstacle?_object_eq_none_iff.mp h
    rw [nesting] at hnesting
    exact obstacle?_object_eq_none_iff.mpr ⟨by omega,
      obstacleOfMembers?_of_nesting (more - 1) (room - 1) members hmembers (by omega)⟩

theorem obstacleOfItems?_of_nesting (more room : Nat) : ∀ items : List Json,
    (∀ j ∈ items, j.obstacle? more = none) → nestingOfItems items ≤ room →
      ∀ j ∈ items, j.obstacle? room = none
  | [] => fun _ _ => by simp
  | j :: rest => fun h hnesting => by
    rw [nestingOfItems, Nat.max_le] at hnesting
    obtain ⟨hfirst, hrest⟩ := List.forall_mem_cons.mp h
    exact List.forall_mem_cons.mpr ⟨obstacle?_of_nesting more room j hfirst hnesting.1,
      obstacleOfItems?_of_nesting more room rest hrest hnesting.2⟩

theorem obstacleOfMembers?_of_nesting (more room : Nat) : ∀ members : List (Text × Json),
    (∀ member ∈ members, member.2.obstacle? more = none) → nestingOfMembers members ≤ room →
      ∀ member ∈ members, member.2.obstacle? room = none
  | [] => fun _ _ => by simp
  | (name, j) :: rest => fun h hnesting => by
    rw [nestingOfMembers, Nat.max_le] at hnesting
    obtain ⟨hfirst, hrest⟩ := List.forall_mem_cons.mp h
    exact List.forall_mem_cons.mpr ⟨obstacle?_of_nesting more room j hfirst hnesting.1,
      obstacleOfMembers?_of_nesting more room rest hrest hnesting.2⟩

end

/-- What can be put in writing can be where there is more room. -/
theorem obstacle?_mono (hle : room ≤ more) {j : Json} (h : j.obstacle? room = none) :
    j.obstacle? more = none :=
  obstacle?_of_nesting room more j h (Nat.le_trans (nesting_le_of_obstacle room j h) hle)

theorem mem_put {name : Text} {value : Json} {members : List (Text × Json)}
    {member : Text × Json} (h : member ∈ put name value members) :
    member = (name, value) ∨ member ∈ members := by
  induction members with
  | nil => exact .inl (List.mem_singleton.mp h)
  | cons head rest ih =>
    obtain ⟨other, old⟩ := head
    unfold put at h
    split at h
    · rcases List.mem_cons.mp h with rfl | hrest
      · exact .inl rfl
      · exact .inr (List.mem_cons_of_mem _ hrest)
    · rcases List.mem_cons.mp h with rfl | hrest
      · exact .inr (List.mem_cons_self ..)
      · exact (ih hrest).imp_right (List.mem_cons_of_mem _)

/-! ### Values that are read -/

section tokens

/-- A token that is a value has no parts. -/
def Symbol.IsFlat : Symbol → Prop
  | .scalar j => j.nesting = 0
  | _ => True

theorem isFlat_wordOrNumber (place : Nat) (cs : List Char) : (wordOrNumber place cs).1.IsFlat := by
  have hunsigned : ∀ negative cs j n, unsigned? negative cs = some (j, n) → j.nesting = 0 := by
    intro negative cs j n h
    simp only [unsigned?] at h
    split_ifs at h <;> cases h <;> simp only [nesting]
  unfold wordOrNumber
  split
  · next word j hfind =>
    have hwords : ∀ entry ∈ words, entry.2.nesting = 0 := by simp [words, nesting]
    exact hwords _ (List.mem_of_find?_eq_some hfind)
  · simp only
    split
    · next j n hnumber =>
      split at hnumber
      · obtain ⟨⟨j', n'⟩, hrest, heq⟩ := Option.map_eq_some_iff.mp hnumber
        cases heq
        exact hunsigned _ _ _ _ hrest
      · exact hunsigned _ _ _ _ hnumber
    · trivial

theorem isFlat_symbolAt (place : Nat) (l : Letter) (rest : List Letter) :
    (symbolAt place l rest).1.IsFlat := by
  unfold symbolAt
  split
  case h_7 => split <;> trivial
  case h_8 => exact isFlat_wordOrNumber _ _
  all_goals trivial

theorem isFlat_tokens (place : Nat) (letters : List Letter) :
    ∀ t ∈ tokens place letters, t.symbol.IsFlat := by
  induction place, letters using tokens.induct with
  | case1 place => simp [tokens, Symbol.IsFlat]
  | case2 place l rest hblank ih =>
    rw [tokens, if_pos hblank]
    exact ih
  | case3 place l rest hblank fault n hsymbol =>
    rw [tokens, if_neg hblank, hsymbol]
    simp [Symbol.IsFlat]
  | case4 place l rest hblank symbol n hbroken hsymbol ih =>
    have hflat : symbol.IsFlat := by simpa [hsymbol] using isFlat_symbolAt place l rest
    rw [tokens, if_neg hblank, hsymbol]
    cases symbol with
    | broken fault => exact absurd rfl (hbroken fault)
    | _ => exact List.forall_mem_cons.mpr ⟨hflat, ih⟩

end tokens

section reading

/-- The values that an open list or object has so far can be put in writing. -/
def Frame.Within (room : Nat) : Frame → Prop
  | .item before => ∀ j ∈ before, j.obstacle? room = none
  | .member before _ => ∀ member ∈ before, member.2.obstacle? room = none

/-- So can those of the open lists and objects, each with the room that is left inside the ones
    around it. -/
def FramesWithin (most : Nat) : List Frame → Prop
  | [] => True
  | frame :: outer =>
    outer.length < most ∧ frame.Within (most - (outer.length + 1)) ∧ FramesWithin most outer

/-- So can what the machine holds beside them. -/
def Expecting.Within (most depth : Nat) : Expecting → Prop
  | .value => True
  | .firstItem | .firstName => depth < most
  | .name before | .colon before _ =>
    depth < most ∧ ∀ member ∈ before, member.2.obstacle? (most - (depth + 1)) = none
  | .after j | .nothing j => j.obstacle? (most - depth) = none

/-- All that the machine holds can be put in writing. -/
structure Machine.Within (most : Nat) (m : Machine) : Prop where
  frames : FramesWithin most m.frames
  expecting : m.expecting.Within most m.frames.length

variable {most : Nat} {limits : Limits} {frames : List Frame} {t : Token} {m m' : Machine}

theorem obstacle?_of_admitsNumber (hdigits : limits.digits = some greatestDigits) {j : Json}
    (h : limits.admitsNumber j = true) (hflat : j.nesting = 0) : j.obstacle? room = none := by
  cases j with
  | int n =>
    simp only [Limits.admitsNumber, hdigits, Option.all_some, decide_eq_true_eq] at h
    have hshort : isTooLong n = false := by
      rw [isTooLong, decide_eq_false_iff_not]
      exact Nat.not_le.mpr h
    rw [obstacle?, hshort, if_neg Bool.false_ne_true]
  | list items | object members => simp [nesting] at hflat
  | null | bool | real | text => simp only [obstacle?]

theorem Machine.within_name {before : List (Text × Json)} (hframes : FramesWithin most frames)
    (hbefore : (Expecting.name before).Within most frames.length)
    (h : Machine.name frames before t = .ok m) : m.Within most := by
  unfold Machine.name at h
  split at h
  · cases h
    exact ⟨hframes, hbefore⟩
  · cases h
  · cases h

/-- A value that is complete goes into the list or the object around it, which has one more room
    for its parts than for itself. -/
theorem Machine.within_after {j : Json} (hframes : FramesWithin most frames)
    (hj : (Expecting.after j).Within most frames.length)
    (h : Machine.after frames j t = .ok m) : m.Within most := by
  have hput : ∀ {room : Nat} {before : List (Text × Json)} {name : Text},
      j.obstacle? room = none → (∀ member ∈ before, member.2.obstacle? room = none) →
        ∀ member ∈ put name j before, member.2.obstacle? room = none := by
    intro room before name hvalue hbefore member hmember
    rcases mem_put hmember with rfl | hold
    · exact hvalue
    · exact hbefore member hold
  unfold Machine.after at h
  split at h
  · cases h
    exact ⟨hframes, hj⟩
  · cases h
    obtain ⟨hlength, hbefore, houter⟩ := hframes
    exact ⟨⟨hlength, List.forall_mem_cons.mpr ⟨hj, hbefore⟩, houter⟩, trivial⟩
  · cases h
    obtain ⟨hlength, hbefore, houter⟩ := hframes
    refine ⟨houter, obstacle?_list_eq_none_iff.mpr ⟨Nat.sub_pos_of_lt hlength, ?_⟩⟩
    simp only [List.mem_reverse]
    exact List.forall_mem_cons.mpr ⟨hj, hbefore⟩
  · cases h
    obtain ⟨hlength, hbefore, houter⟩ := hframes
    exact ⟨houter, hlength, hput hj hbefore⟩
  · cases h
    obtain ⟨hlength, hbefore, houter⟩ := hframes
    refine ⟨houter, obstacle?_object_eq_none_iff.mpr ⟨Nat.sub_pos_of_lt hlength, ?_⟩⟩
    exact hput hj hbefore
  · cases h

section step

variable (hdigits : limits.digits = some greatestDigits) (hnesting : limits.nesting = some most)
  (hflat : t.symbol.IsFlat)

include hdigits hnesting hflat

theorem Machine.within_value (hframes : FramesWithin most frames)
    (h : Machine.value limits frames t = .ok m) : m.Within most := by
  unfold Machine.value at h
  split at h
  · next j hsymbol =>
    rw [hsymbol] at hflat
    split at h
    · next hnumber =>
      cases h
      exact ⟨hframes, obstacle?_of_admitsNumber hdigits hnumber hflat⟩
    · cases h
  · cases h
    exact ⟨hframes, obstacle?_text _⟩
  · split at h
    · next hopening =>
      cases h
      simp only [Limits.admitsOpening, hnesting, Option.all_some, decide_eq_true_eq] at hopening
      exact ⟨hframes, hopening⟩
    · cases h
  · split at h
    · next hopening =>
      cases h
      simp only [Limits.admitsOpening, hnesting, Option.all_some, decide_eq_true_eq] at hopening
      exact ⟨hframes, hopening⟩
    · cases h
  · cases h
  · cases h

/-- A token leaves the machine within the limits. -/
theorem Machine.Within.step (hm : m.Within most) (h : m.step limits t = .ok m') :
    m'.Within most := by
  obtain ⟨frames, expecting⟩ := m
  obtain ⟨hframes, hexpecting⟩ := hm
  unfold Machine.step at h
  simp only at h hframes hexpecting
  split at h
  -- a value is expected, or the end of an empty list
  case h_1 => exact within_value hdigits hnesting hflat hframes h
  case h_2 =>
    cases h
    exact ⟨hframes, obstacle?_list_eq_none_iff.mpr ⟨Nat.sub_pos_of_lt hexpecting, by simp⟩⟩
  case h_3 =>
    have hempty : (Frame.item []).Within (most - (frames.length + 1)) := by simp [Frame.Within]
    have hopen : FramesWithin most (.item [] :: frames) := ⟨hexpecting, hempty, hframes⟩
    exact within_value hdigits hnesting hflat hopen h
  -- a name is expected, or the end of an empty object
  case h_4 =>
    cases h
    exact ⟨hframes, obstacle?_object_eq_none_iff.mpr ⟨Nat.sub_pos_of_lt hexpecting, by simp⟩⟩
  case h_5 => exact within_name hframes ⟨hexpecting, by simp⟩ h
  case h_6 => exact within_name hframes hexpecting h
  case h_7 =>
    cases h
    exact ⟨⟨hexpecting.1, hexpecting.2, hframes⟩, trivial⟩
  case h_8 => cases h
  -- a value is complete
  case h_9 => exact within_after hframes hexpecting h
  case h_10 => cases h

end step

/-- What is read within limits can be put in writing with the same limits. -/
theorem obstacle?_of_read (hdigits : limits.digits = some greatestDigits)
    (hnesting : limits.nesting = some most) {letters : List Letter} {j : Json}
    (h : read limits letters = .ok j) : j.obstacle? most = none := by
  -- along the tokens
  have hrun : ∀ (ts : List Token) (m m' : Machine), (∀ t ∈ ts, t.symbol.IsFlat) →
      m.Within most → ts.foldlM (Machine.step limits) m = .ok m' → m'.Within most := by
    intro ts
    induction ts with
    | nil =>
      intro m m' _ hm hrun
      cases hrun
      exact hm
    | cons t rest ih =>
      intro m m' hflat hm hrun
      obtain ⟨hfirst, hrest⟩ := List.forall_mem_cons.mp hflat
      obtain ⟨next, hnext, hrun⟩ := bind_eq_ok_iff.mp hrun
      exact ih next m' hrest (hm.step hdigits hnesting hfirst hnext) hrun
  unfold read at h
  obtain ⟨m, hm, h⟩ := bind_eq_ok_iff.mp h
  have hstart : Machine.Within most ⟨[], .value⟩ := ⟨trivial, trivial⟩
  have hwithin := hrun _ _ m (isFlat_tokens _ _) hstart hm
  obtain ⟨frames, expecting⟩ := m
  cases expecting with
  | nothing j' =>
    cases h
    exact obstacle?_mono (Nat.sub_le _ _) hwithin.expecting
  | _ => cases h

end reading

end Json

/-- What a call carries as a value can be put in writing. -/
theorem Api.Payload.obstacle?_of_value {payload : Payload} {j : Json}
    (h : payload.value = .sound (some j)) : j.obstacle? Payload.greatestNesting = Option.none := by
  cases payload with
  | none => cases h
  | json j' =>
    simp only [value] at h
    split at h
    · next hfree =>
      cases h
      exact Option.isNone_iff_eq_none.mp hfree
    · cases h
  | text s =>
    simp only [value, ofText] at h
    split at h
    · cases h
    · split at h
      · cases h
      · split at h
        · next hread =>
          cases h
          exact Json.obstacle?_of_read rfl rfl hread
        · cases h
        · cases h

/-! ### Free-form columns -/

theorem Json.isTooLong_of_fits64 {n : Int} (h : fits64 n = true) : isTooLong n = false := by
  simp only [fits64, Bool.and_eq_true, decide_eq_true_eq] at h
  have hsmall : n.natAbs < 10 ^ 19 := by omega
  have hpower : ∀ digits, 19 ≤ digits → 10 ^ 19 ≤ Nat.pow 10 digits := fun digits =>
    Nat.pow_le_pow_right (by omega)
  exact decide_eq_false
    (Nat.not_le.mpr (Nat.lt_of_lt_of_le hsmall (hpower greatestDigits (by decide))))

namespace FreeForm

variable {room : Nat}

/-- Only nothing agrees with nothing. -/
theorem value_eq_null {f : FreeForm} (h : (written .null).agrees f = true) : f.value = .null := by
  unfold agrees at h
  cases hvalue : f.value with
  | null => rfl
  | bool | int | real | text | list | object =>
    rw [hvalue] at h
    simp [FreeForm.value, Json.agrees, Json.number?] at h

/-- A number that was read can be put in writing. -/
theorem obstacle?_number (n : Number.Reading) : (number n).value.obstacle? room = none := by
  obtain ⟨number, hread⟩ := n
  cases number with
  | whole n =>
    have hshort : Json.isTooLong n = false := Json.isTooLong_of_fits64 hread
    show (Json.int n).obstacle? room = none
    rw [Json.obstacle?, hshort, if_neg Bool.false_ne_true]
  | real x =>
    show (Json.real x).obstacle? room = none
    simp only [Json.obstacle?]

/-- What a column holds can be put in writing if what it was given can. -/
theorem obstacle?_kept {f : FreeForm} (h : f.value.obstacle? room = none) :
    f.kept.value.obstacle? room = none := by
  have hvalue : ∀ j : Json, j.obstacle? room = none →
      (keptValue j).value.obstacle? room = none := by
    intro j hj
    unfold keptValue
    split
    · next n =>
      cases (Number.whole n).kept? with
      | none => exact hj
      | some m => exact obstacle?_number m
    · next x =>
      cases (Number.real x).kept? with
      | none => exact hj
      | some m => exact obstacle?_number m
    · exact hj
  cases f with
  | loose j | written j => exact hvalue j h
  | number n => exact obstacle?_number n

/-- The value that is laid over another one is one of the two. -/
theorem laid_cases (new old : Option FreeForm) : laid new old = new ∨ laid new old = old := by
  cases new with
  | none => exact .inr rfl
  | some given =>
    cases old with
    | none => exact .inl rfl
    | some held =>
      simp only [laid]
      cases held.agrees given with
      | true => exact .inr rfl
      | false => exact .inl rfl

end FreeForm

/-! ### Settings -/

namespace Settings

theorem Sketch.obstacle?_eq_none_iff {s : Settings.Sketch} :
    s.obstacle? = none ↔
      (∀ f, s.authentication = some f → f.value.obstacle? greatestNesting = none) ∧
        ∀ f, s.entries = some f → f.value.obstacle? greatestNesting = none := by
  obtain ⟨type, authentication, entries⟩ := s
  cases authentication <;> cases entries <;> simp [obstacle?]

theorem Sketch.obstacle?_over {rule : ColumnRule} {s base : Settings.Sketch}
    (hs : s.obstacle? = none) (hbase : base.obstacle? = none) :
    (s.over rule base).obstacle? = none := by
  rw [obstacle?_eq_none_iff] at hs hbase ⊢
  constructor
  · intro f hf
    rcases FreeForm.laid_cases s.authentication base.authentication with hnew | hold
    · exact hs.1 f (hnew.symm.trans hf)
    · exact hbase.1 f (hold.symm.trans hf)
  · intro f hf
    rcases FreeForm.laid_cases s.entries base.entries with hnew | hold
    · exact hs.2 f (hnew.symm.trans hf)
    · exact hbase.2 f (hold.symm.trans hf)

theorem obstacle?_kept {s : Settings.Sketch} (hs : s.obstacle? = none) :
    s.complete.kept.sketch.obstacle? = none := by
  rw [Sketch.obstacle?_eq_none_iff] at hs ⊢
  have hcolumn : ∀ f : Option FreeForm,
      (∀ g, f = some g → g.value.obstacle? greatestNesting = none) →
      ((f.getD (.written .null)).kept).value.obstacle? greatestNesting = none := by
    intro f hf
    cases f with
    | none => simp [FreeForm.kept, FreeForm.keptValue, FreeForm.value, Json.obstacle?]
    | some g => exact FreeForm.obstacle?_kept (hf g rfl)
  constructor
  · rintro f hf
    cases hf
    exact hcolumn _ hs.1
  · rintro f hf
    cases hf
    exact hcolumn _ hs.2

/-- A value that is copied can be put in writing where the one that it is copied from can. -/
theorem Sketch.obstacle?_copy (rule : ColumnRule) (s : Settings.Sketch) :
    (s.over rule blank).copy.obstacle? = s.obstacle? := by
  have hcolumn : ∀ f : Option FreeForm,
      ((FreeForm.laid f (some (.written .null))).map FreeForm.loosened).bind
          (fun f => f.value.obstacle? greatestNesting) =
        f.bind fun f => f.value.obstacle? greatestNesting := by
    intro f
    cases f with
    | none => simp [FreeForm.loosened, FreeForm.value, Json.obstacle?]
    | some given =>
      cases hagrees : (FreeForm.written .null).agrees given with
      | true =>
        simp [FreeForm.laid, hagrees, FreeForm.loosened, FreeForm.value_eq_null hagrees]
        simp [FreeForm.value]
      | false => simp [FreeForm.laid, hagrees, FreeForm.loosened, FreeForm.value]
  simp only [obstacle?, Sketch.over, copy, blank, hcolumn]

end Settings

/-! ### Whole records -/

theorem Draft.obstacle?_settled {k : Kind} (d : Draft k) :
    d.settled.data.obstacle? = d.data.obstacle? := by
  cases k with
  | exchange p => rfl
  | workspace => exact Settings.Sketch.obstacle?_copy _ _
  | folder => exact Settings.Sketch.obstacle?_copy _ _
  | request p => cases p <;> exact Settings.Sketch.obstacle?_copy _ _

namespace Sketch

variable {k : Kind}

theorem obstacle?_defaults : (Columns.defaults k).obstacle? = none := by
  cases k with
  | exchange p => rfl
  | workspace | folder => decide +kernel
  | request p => cases p <;> decide +kernel

theorem obstacle?_over {rule : ColumnRule} {d base : Sketch k} (hd : d.obstacle? = none)
    (hbase : base.obstacle? = none) : (d.over rule base).obstacle? = none := by
  cases k with
  | exchange p => rfl
  | workspace | folder | request p => exact Settings.Sketch.obstacle?_over hd hbase

theorem obstacle?_of_columns? {d : Sketch k} {columns : Columns k} (hd : d.obstacle? = none)
    (h : d.columns? = .ok columns) : (Columns.sketch columns).obstacle? = none := by
  cases k with
  | exchange p => rfl
  | workspace =>
    show columns.settings.sketch.obstacle? = none
    rw [(columns?_workspace h).2]
    exact Settings.obstacle?_kept hd
  | folder =>
    show columns.settings.sketch.obstacle? = none
    rw [(columns?_folder h).2.2.2.2]
    exact Settings.obstacle?_kept hd
  | request p =>
    show columns.settings.sketch.obstacle? = none
    rw [(columns?_request h).2.2.2.2.2]
    exact Settings.obstacle?_kept hd

end Sketch

/-! ### Stores -/

namespace Store

variable {s t : Store}

/-- All that is stored can be put in writing. -/
def Writable (s : Store) : Prop :=
  ∀ k, ∀ row ∈ s.rows k, (Columns.sketch row.data).obstacle? = none

theorem writable_empty : empty.Writable := fun _ _ h => absurd h not_mem_rows_empty

theorem Writable.write (hs : s.Writable) {k : Kind} {id : String} {d : Sketch k} {now : Instant}
    {row : Row k} (hd : d.obstacle? = none) (h : s.write id d now = .ok (row, t)) :
    t.Writable := by
  obtain ⟨hcandidate, -, rfl⟩ := write_eq_ok_iff.mp h
  intro l x hx
  rcases mem_rows_put_cases hx with hmem | heq
  · exact hs l x hmem
  · cases heq
    obtain ⟨-, -, ⟨old, hold, -, hcolumns⟩ | ⟨-, -, hcolumns⟩⟩ := candidate_cases hcandidate
    · exact Sketch.obstacle?_of_columns?
        (Sketch.obstacle?_over hd (hs k old (mem_of_get? hold))) hcolumns
    · exact Sketch.obstacle?_of_columns?
        (Sketch.obstacle?_over hd Sketch.obstacle?_defaults) hcolumns

theorem Writable.keep (hs : s.Writable) {condition : Key → Bool} :
    (s.keep condition).Writable :=
  fun k row hrow => hs k row (mem_rows_keep.mp hrow).1

end Store

end RequestCatalog

import Mathlib.Logic.Relation
import RequestCatalog.Proofs.Cascade
import RequestCatalog.Proofs.Writable
import RequestCatalog.Requests

/-! # What operations leave

  An operation that fails leaves what it wrote, so what an operation does to the
  store is told by the catalogue it leaves (`Op.left`) and not by what it returns.

  * `Op.Moves R` says that the store moves along `R`, in any number of steps. It
    passes through sequences of operations, and questions never move the store.
  * `Op.upsert_left` is the one account of what an insertion or update leaves, and
    `Op.delete_left` of what a deletion does.
-/

namespace RequestCatalog

/-! ### Drafts that the tables can be handed -/

namespace Sketch

variable {k : Kind} {d : Sketch k} {garbled : List (String × Text)}

/-- The values of the draft can be handed to the tables: its free-form values can be put in
    writing, and its whole numbers are not too large. -/
structure Fits (d : Sketch k) : Prop where
  writable : d.obstacle? = none
  numbersFit : d.numbersFit = true

/-- Why a draft that is handed on with these garbled texts cannot be handed to the tables, its
    identifier apart. -/
def refusal? (d : Sketch k) (garbled : List (String × Text)) : Option Fault :=
  match d.obstacle? with
  | some o => some (.violation (.unwritable o))
  | none => (d.unfit? garbled).map .unfit

theorem refusal?_of_writable (h : d.obstacle? = none) :
    d.refusal? garbled = (d.unfit? garbled).map .unfit := by
  rw [refusal?, h]

theorem unfit?_nil : d.unfit? [] = if d.numbersFit then none else some .tooLarge := by
  simp [unfit?]

theorem refusal?_eq_none_iff : d.refusal? [] = none ↔ d.Fits := by
  constructor
  · intro h
    unfold refusal? at h
    split at h
    · cases h
    · next hwritable =>
      refine ⟨hwritable, ?_⟩
      rw [unfit?_nil] at h
      by_contra hlarge
      simp [hlarge] at h
  · intro h
    rw [refusal?_of_writable h.writable, unfit?_nil, if_pos h.numbersFit]
    rfl

/-- A draft that is handed on with a garbled text cannot be handed to the tables. -/
theorem exists_refusal (d : Sketch k) (h : garbled ≠ []) :
    ∃ fault, d.refusal? garbled = some fault := by
  obtain ⟨field, rest, rfl⟩ := List.exists_cons_of_ne_nil h
  unfold refusal?
  cases d.obstacle? with
  | some o => exact ⟨_, rfl⟩
  | none =>
    have hunfit : ∃ u, d.unfit? (field :: rest) = some u := by
      unfold unfit?
      cases hlate : k.isLate field.1 with
      | false => simp [hlate]
      | true =>
        cases (field :: rest).find? (fun field => k.isLate field.1 == false) <;>
          cases d.numbersFit <;> simp [hlate]
    obtain ⟨u, hu⟩ := hunfit
    exact ⟨.unfit u, by rw [hu]; rfl⟩

end Sketch

/-! ### Identifiers for drafts -/

/-- The identifier that a draft names. An empty one is none. -/
def Draft.named? {k : Kind} (d : Draft k) : Option String :=
  d.id.toOption.filter fun id => !id.isEmpty

/-- The identifier under which a draft is written. -/
def Catalog.idFor (c : Catalog) {k : Kind} (d : Draft k) : String :=
  d.named?.getD (c.nextId k)

/-- No identifier that is made is empty: it begins with letters. -/
theorem Catalog.nextId_ne (c : Catalog) (k : Kind) : c.nextId k ≠ "" := by
  intro h
  have hletters := congrArg String.toList h
  unfold nextId Kind.identifier at hletters
  simp at hletters

/-- No draft is written under an empty identifier. -/
theorem Catalog.idFor_ne (c : Catalog) {k : Kind} (d : Draft k) : c.idFor d ≠ "" := by
  unfold idFor
  cases hnamed : d.named? with
  | none => exact c.nextId_ne k
  | some id =>
    unfold Draft.named? at hnamed
    have hid := (Option.filter_eq_some_iff.mp hnamed).2
    simpa using hid

/-- The identifiers made so far once a draft has one. -/
def Catalog.issuedFor (c : Catalog) {k : Kind} (d : Draft k) : List Key :=
  if d.named?.isSome then c.issued else c.issued ++ [⟨k, c.nextId k⟩]

namespace Op

open Relation

variable {α β : Type} {R : Store → Store → Prop}

/-- The catalogue that an operation leaves, whether it succeeds or fails. -/
def left (op : Op α) (c : Catalog) : Catalog :=
  match op c with
  | .ok _ c => c
  | .error _ c => c

/-- The operation takes every store to one that is reached from it in steps of `R`. -/
def Moves (R : Store → Store → Prop) (op : Op α) : Prop :=
  ∀ c, ReflTransGen R c.store (op.left c).store

theorem run_bind (op : Op α) (f : α → Op β) (c : Catalog) :
    (op >>= f) c =
      match op c with
      | .ok a c => f a c
      | .error e c => .error e c := by
  show EStateM.bind op f c = _
  unfold EStateM.bind
  cases op c <;> rfl

theorem run_bind_of_ok {op : Op α} {a : α} {c c' : Catalog} (h : op c = .ok a c')
    (f : α → Op β) : (op >>= f) c = f a c' := by
  rw [run_bind, h]

theorem run_map_of_ok {op : Op α} {a : α} {c c' : Catalog} (h : op c = .ok a c') (f : α → β) :
    (f <$> op) c = .ok (f a) c' := by
  show EStateM.map f op c = _
  unfold EStateM.map
  rw [h]

theorem run_map_of_error {op : Op α} {e : Fault} {c c' : Catalog} (h : op c = .error e c')
    (f : α → β) : (f <$> op) c = .error e c' := by
  show EStateM.map f op c = _
  unfold EStateM.map
  rw [h]

theorem left_of_ok {op : Op α} {a : α} {c c' : Catalog} (h : op c = .ok a c') :
    op.left c = c' := by
  unfold left
  rw [h]

theorem left_of_error {op : Op α} {e : Fault} {c c' : Catalog} (h : op c = .error e c') :
    op.left c = c' := by
  unfold left
  rw [h]

theorem left_bind_of_ok {op : Op α} {a : α} {c c' : Catalog} (h : op c = .ok a c')
    (f : α → Op β) : (op >>= f).left c = (f a).left c' := by
  unfold left
  rw [run_bind_of_ok h]

/-- What is made of the result at the end changes nothing. -/
theorem left_map (op : Op α) (f : α → β) (c : Catalog) :
    (op >>= fun a => (pure (f a) : Op β)).left c = op.left c := by
  unfold left
  rw [run_bind]
  cases op c <;> rfl

/-! ### Operations that move nothing -/

theorem moves_of_store_eq {op : Op α} (h : ∀ c, (op.left c).store = c.store) : op.Moves R := by
  intro c
  rw [h c]

theorem moves_pure (a : α) : (pure a : Op α).Moves R :=
  moves_of_store_eq fun _ => rfl

theorem moves_throw (e : Fault) : (throw e : Op α).Moves R :=
  moves_of_store_eq fun _ => rfl

theorem moves_get : (get : Op Catalog).Moves R :=
  moves_of_store_eq fun _ => rfl

theorem moves_note (notice : Notice) : (note notice).Moves R :=
  moves_of_store_eq fun _ => rfl

theorem moves_ask (question : Store → α) : (ask question).Moves R :=
  moves_of_store_eq fun _ => rfl

theorem run_consult (question : Store → Except Fault α) (c : Catalog) :
    consult question c =
      match question c.store with
      | .ok a => .ok a c
      | .error e => .error e c := by
  show (match question c.store with
      | .ok a => (pure a : Op α)
      | .error e => throw e) c = _
  cases question c.store <;> rfl

/-- A stored record is found. -/
theorem run_fetch {k : Kind} {id : String} {row : Row k} {c : Catalog}
    (hget : c.store.get? k id = some row) : fetch k id c = .ok row c := by
  unfold fetch
  rw [run_consult, Store.fetch_some, hget]

/-- A stored record that an operation is about is found. -/
theorem run_draftOf {k : Kind} {id : String} {row : Row k} {c : Catalog}
    (hget : c.store.get? k id = some row) : draftOf (.stored id) c = .ok row.draft c :=
  run_bind_of_ok (run_fetch hget) _

theorem left_consult_bind (question : Store → Except Fault α) (f : α → Op β) (c : Catalog) :
    (consult question >>= f).left c =
      match question c.store with
      | .ok a => (f a).left c
      | .error _ => c := by
  unfold left
  rw [run_bind, run_consult]
  cases question c.store <;> rfl

theorem moves_consult (question : Store → Except Fault α) : (consult question).Moves R := by
  apply moves_of_store_eq
  intro c
  unfold left
  rw [run_consult]
  cases question c.store <;> rfl

/-! ### Sequences -/

theorem Moves.bind {op : Op α} {f : α → Op β} (hop : op.Moves R) (hf : ∀ a, (f a).Moves R) :
    (op >>= f).Moves R := by
  intro c
  have hfirst : ReflTransGen R c.store (op.left c).store := hop c
  unfold left at hfirst ⊢
  rw [run_bind]
  cases hrun : op c with
  | ok a c' =>
    rw [hrun] at hfirst
    exact hfirst.trans (hf a c')
  | error e c' =>
    rw [hrun] at hfirst
    exact hfirst

theorem moves_fetch (k : Kind) (id : String) : (fetch k id).Moves R :=
  moves_consult _

theorem moves_draftOf {k : Kind} (subject : Subject k) : (draftOf subject).Moves R := by
  cases subject with
  | stored id => exact (moves_fetch k id).bind fun _ => moves_pure _
  | unsaved d => exact moves_pure d

theorem moves_nodeOf {k : Kind} (subject : Subject k) : (nodeOf subject).Moves R := by
  cases subject with
  | stored id => exact (moves_fetch k id).bind fun _ => moves_pure _
  | unsaved d => exact moves_pure d.node

theorem moves_askUpwards (question : Store → Except Fault α) : (askUpwards question).Moves R := by
  refine moves_get.bind fun c => ?_
  cases question c.store with
  | ok a => exact moves_pure a
  | error e =>
    cases e with
    | folderCycle id => exact (moves_note _).bind fun _ => moves_throw _
    | _ => exact moves_throw _

section upwards

variable {question : Store → Except Fault α} {c : Catalog}

theorem run_askUpwards_of_ok {a : α} (h : question c.store = .ok a) :
    askUpwards question c = .ok a c := by
  unfold askUpwards
  rw [run_bind_of_ok (rfl : (get : Op Catalog) c = .ok c c), h]
  rfl

/-- A loop that the walk meets is reported. -/
theorem run_askUpwards_of_cycle {id : String} (h : question c.store = .error (.folderCycle id)) :
    askUpwards question c =
      .error (.folderCycle id) { c with journal := c.journal ++ [.circularChain id] } := by
  unfold askUpwards
  rw [run_bind_of_ok (rfl : (get : Op Catalog) c = .ok c c), h]
  rfl

theorem run_askUpwards_of_fault {fault : Fault} (h : question c.store = .error fault)
    (hfault : ∀ id, fault ≠ .folderCycle id) : askUpwards question c = .error fault c := by
  unfold askUpwards
  rw [run_bind_of_ok (rfl : (get : Op Catalog) c = .ok c c), h]
  cases fault with
  | folderCycle id => exact absurd rfl (hfault id)
  | _ => rfl

end upwards

theorem moves_copy {k : Kind} (d : Draft k) : (copy d).Moves R := by
  unfold copy
  split
  · exact moves_pure _
  · exact moves_throw _

/-! ### Writing -/

section upsert

variable {k : Kind} (d : Draft k) (c : Catalog)

theorem run_idFor : idFor d c = .ok (c.idFor d) { c with issued := c.issuedFor d } := by
  unfold idFor Catalog.idFor Catalog.issuedFor Draft.named?
  cases d.id with
  | absent => rfl
  | null => rfl
  | value id =>
    show (if id.isEmpty then freshId k else return id) c = _
    cases hempty : id.isEmpty with
    | true =>
      simp only [Given.toOption, Option.filter, hempty]
      rfl
    | false =>
      simp only [Given.toOption, Option.filter, hempty]
      rfl

section prepare

variable {garbled : List (String × Text)}

theorem run_prepare_of_garbled_id {t : Text} (h : garbled.lookup "id" = some t) :
    prepare d garbled c = .error (.unfit (.garbled t)) c := by
  unfold prepare
  rw [run_bind, run_consult, demand, h]

/-- Unless its identifier is garbled, a draft gets one, and its values are looked at. -/
theorem run_prepare (h : garbled.lookup "id" = none) :
    prepare d garbled c =
      match d.data.refusal? garbled with
      | some fault => .error fault { c with issued := c.issuedFor d }
      | none => .ok (c.idFor d) { c with issued := c.issuedFor d } := by
  have hdemand : consult (fun _ => demand garbled "id") c = .ok () c := by
    rw [run_consult, demand, h]
  unfold prepare Sketch.refusal?
  rw [run_bind_of_ok hdemand, run_bind_of_ok (run_idFor d c)]
  cases d.data.obstacle? with
  | some o => rfl
  | none => cases d.data.unfit? garbled <;> rfl

theorem run_prepare_of_refusal (h : garbled.lookup "id" = none) {fault : Fault}
    (hrefusal : d.data.refusal? garbled = some fault) :
    prepare d garbled c = .error fault { c with issued := c.issuedFor d } := by
  rw [run_prepare d c h, hrefusal]

end prepare

theorem run_prepare_of_fits (hfits : d.data.Fits) :
    prepare d [] c = .ok (c.idFor d) { c with issued := c.issuedFor d } := by
  rw [run_prepare d c rfl, Sketch.refusal?_eq_none_iff.mpr hfits]

/-- Where the draft cannot be prepared, nothing is written. -/
theorem run_save_of_error {garbled : List (String × Text)} {fault : Fault} {c' : Catalog}
    (h : prepare d garbled c = .error fault c') (source : String) :
    save d garbled source c = .error fault c' := by
  unfold save
  rw [run_bind, h]

/-- An insertion or update in one piece, once its values can be handed to the tables. -/
theorem run_upsert (hfits : d.data.Fits) (source : String) :
    upsert d source c =
      match c.store.write (c.idFor d) d.data c.now with
      | .error v => .error (.violation v) { c with issued := c.issuedFor d }
      | .ok (row, store) =>
        match Source.ofName? source with
        | some known =>
          .ok row { c with store, issued := c.issuedFor d,
                           journal := c.journal ++ [.written k row.id known] }
        | none => .error (.unknownSource source) { c with store, issued := c.issuedFor d } := by
  unfold upsert save
  rw [run_bind_of_ok (run_prepare_of_fits d c hfits)]
  show (match c.store.write (c.idFor d) d.data c.now with
    | .error v => (throw (Fault.violation v) : Op (Row k))
    | .ok (row, store) => do
      set { c with store, issued := c.issuedFor d }
      noteFrom source (.written k row.id)
      return row) { c with issued := c.issuedFor d } = _
  cases c.store.write (c.idFor d) d.data c.now with
  | error v => rfl
  | ok written =>
    -- the write took effect; what is left is to report it
    show (noteFrom source (.written k written.1.id) >>= fun _ => (pure written.1 : Op (Row k)))
      { c with store := written.2, issued := c.issuedFor d } = _
    unfold noteFrom
    cases Source.ofName? source <;> rfl

theorem run_upsert_of_write (source : Source) (hfits : d.data.Fits) {row : Row k} {t : Store}
    (hwrite : c.store.write (c.idFor d) d.data c.now = .ok (row, t)) :
    upsert d source.name c =
      .ok row { c with store := t, issued := c.issuedFor d,
                       journal := c.journal ++ [.written k row.id source] } := by
  rw [run_upsert d c hfits, hwrite]
  simp only [Source.ofName?_name]

/-- A draft is prepared, or there is a reason why it is not. Either way it has its identifier. -/
theorem prepare_cases :
    d.data.Fits ∨
      ∃ fault, prepare d [] c = .error fault { c with issued := c.issuedFor d } := by
  cases hrefusal : d.data.refusal? [] with
  | some fault => exact .inr ⟨fault, run_prepare_of_refusal d c rfl hrefusal⟩
  | none => exact .inl (Sketch.refusal?_eq_none_iff.mp hrefusal)

/-- What an insertion or update leaves: one more identifier if the draft names none, and the
    store as it was or with the draft written into it. -/
theorem upsert_left (source : String) :
    ((upsert d source).left c).issued = c.issuedFor d ∧
      (((upsert d source).left c).store = c.store ∨
        d.data.Fits ∧ ∃ row, c.store.write (c.idFor d) d.data c.now =
          .ok (row, ((upsert d source).left c).store)) := by
  rcases prepare_cases d c with hfits | ⟨fault, hprepare⟩
  · unfold left
    rw [run_upsert d c hfits]
    cases hwrite : c.store.write (c.idFor d) d.data c.now with
    | error v => exact ⟨rfl, .inl rfl⟩
    | ok written =>
      cases hsource : Source.ofName? source with
      | some known => exact ⟨rfl, .inr ⟨hfits, written.1, rfl⟩⟩
      | none => exact ⟨rfl, .inr ⟨hfits, written.1, rfl⟩⟩
  · have hrun : upsert d source c = .error fault { c with issued := c.issuedFor d } :=
      run_save_of_error d c hprepare source
    rw [left_of_error hrun]
    exact ⟨rfl, .inl rfl⟩

/-- What an insertion or update that comes with garbled texts leaves: the store as it was, or what
    one without them leaves. -/
theorem save_left (garbled : List (String × Text)) (source : String) :
    ((save d garbled source).left c).store = c.store ∨
      garbled = [] ∧ (save d garbled source).left c = (upsert d source).left c := by
  by_cases hgarbled : garbled = []
  · subst hgarbled
    exact .inr ⟨rfl, rfl⟩
  · left
    cases hid : garbled.lookup "id" with
    | some t =>
      rw [left_of_error (run_save_of_error d c (run_prepare_of_garbled_id d c hid) source)]
    | none =>
      obtain ⟨fault, hrefusal⟩ := Sketch.exists_refusal d.data hgarbled
      rw [left_of_error
        (run_save_of_error d c (run_prepare_of_refusal d c hid hrefusal) source)]

end upsert

/-! ### Copying -/

/-- The copy of a request as it is written: a new record at this place. -/
def copyAt {p : Protocol} (d : Draft (.request p)) (place : Float) : Draft (.request p) where
  id := .value ""
  data := { d.settled.data with sortPriority := .value place }

theorem fits_copyAt {p : Protocol} {d : Draft (.request p)} (h : d.data.obstacle? = none)
    {place : Float} : (copyAt d place).data.Fits where
  writable := d.obstacle?_settled.trans h
  numbersFit := rfl

section duplicate

variable {p : Protocol} (d : Draft (.request p)) (c : Catalog)

theorem run_forM_note (notices : List Notice) (c : Catalog) :
    notices.forM note c = .ok () { c with journal := c.journal ++ notices } := by
  induction notices generalizing c with
  | nil =>
    rw [List.append_nil]
    rfl
  | cons notice rest ih =>
    have hfirst : note notice c = .ok () { c with journal := c.journal ++ [notice] } := rfl
    show (note notice >>= fun _ => rest.forM note) c = _
    rw [run_bind_of_ok hfirst, ih, List.append_assoc]
    rfl

theorem run_copy {k : Kind} (d : Draft k) (c : Catalog) :
    copy d c =
      if d.data.height ≤ Sketch.greatestCopied then .ok d.settled c else .error .tooDeep c := by
  unfold copy
  split <;> rfl

/-- Copying a request that is not too deep, once the siblings are known. -/
theorem run_duplicate_of_height (source : String)
    (hheight : d.data.height ≤ Sketch.greatestCopied) :
    duplicate d source c =
      (match d.data.sortPriority with
      | .value priority =>
        match Priority.after ⟨d.id.toOption, priority⟩ ((siblings c.store d).map placed) with
        | (place, notices) => do
          notices.forM note
          let stored ← upsert (copyAt d place) source
          note (.copied p d.id.toOption stored.id stored.data.sortPriority)
          return stored
      | _ => do
        if !((siblings c.store d).map placed).any (·.id == d.id.toOption) then
          note (.strayAnchor d.id.toOption Priority.strayOffset)
        throw .noPriority : Op (Row (.request p))) c := by
  have hcopy : copy d c = .ok d.settled c := by rw [run_copy, if_pos hheight]
  have hask : ask (fun s => (siblings s d).map placed) c =
      .ok ((siblings c.store d).map placed) c := rfl
  unfold duplicate
  rw [run_bind_of_ok hcopy, run_bind_of_ok hask]
  cases d.data.sortPriority <;> rfl

/-- Copying a request that has a priority and is not too deep, up to the write. -/
theorem run_duplicate (source : String) {priority : Float}
    (hheight : d.data.height ≤ Sketch.greatestCopied)
    (hpriority : d.data.sortPriority = .value priority) {place : Float} {notices : List Notice}
    (hplace : Priority.after ⟨d.id.toOption, priority⟩ ((siblings c.store d).map placed) =
      (place, notices)) :
    duplicate d source c =
      (upsert (copyAt d place) source >>= fun stored => do
        note (.copied p d.id.toOption stored.id stored.data.sortPriority)
        return stored) { c with journal := c.journal ++ notices } := by
  rw [run_duplicate_of_height d c source hheight, hpriority]
  simp only [hplace]
  exact run_bind_of_ok (run_forM_note notices c) _

/-- Copying a request whose copy can be written. -/
theorem run_duplicate_of_write (source : Source) {priority : Float}
    (hheight : d.data.height ≤ Sketch.greatestCopied)
    (hpriority : d.data.sortPriority = .value priority) {place : Float} {notices : List Notice}
    (hplace : Priority.after ⟨d.id.toOption, priority⟩ ((siblings c.store d).map placed) =
      (place, notices))
    (hwritable : d.data.obstacle? = none) {copy : Row (.request p)} {t : Store}
    (hwrite : c.store.write (c.nextId (.request p)) (copyAt d place).data c.now =
      .ok (copy, t)) :
    duplicate d source.name c =
      .ok copy
        { c with
          store := t
          issued := c.issued ++ [⟨.request p, c.nextId (.request p)⟩]
          journal := c.journal ++ notices ++ [.written (.request p) copy.id source] ++
            [.copied p d.id.toOption copy.id copy.data.sortPriority] } := by
  have hnamed : (copyAt d place).named? = none := rfl
  -- a copy names no identifier, so it gets the next one
  have hid : ∀ c : Catalog, c.idFor (copyAt d place) = c.nextId (.request p) := by
    intro c
    rw [Catalog.idFor, hnamed, Option.getD_none]
  have hissued : ∀ c : Catalog, c.issuedFor (copyAt d place) =
      c.issued ++ [⟨.request p, c.nextId (.request p)⟩] := by
    intro c
    rw [Catalog.issuedFor, hnamed, if_neg (by simp)]
  rw [← hid] at hwrite
  have hupsert := run_upsert_of_write (copyAt d place) { c with journal := c.journal ++ notices }
    source (fits_copyAt hwritable) hwrite
  rw [run_duplicate d c source.name hheight hpriority hplace, run_bind_of_ok hupsert, hissued]
  rfl

/-- What copying a request leaves, when it comes to the write: a new identifier, and the store as
    it was or with the copy at its place. -/
theorem duplicate_left_of_height (source : String) {priority : Float}
    (hheight : d.data.height ≤ Sketch.greatestCopied)
    (hpriority : d.data.sortPriority = .value priority) :
    ((duplicate d source).left c).issued = c.issued ++ [⟨.request p, c.nextId (.request p)⟩] ∧
      (((duplicate d source).left c).store = c.store ∨
        d.data.obstacle? = none ∧ ∃ row, c.store.write (c.nextId (.request p))
            (copyAt d (Priority.after ⟨d.id.toOption, priority⟩
              ((siblings c.store d).map placed)).1).data c.now =
          .ok (row, ((duplicate d source).left c).store)) := by
  cases hplace : Priority.after ⟨d.id.toOption, priority⟩ ((siblings c.store d).map placed) with
  | mk place notices =>
    unfold left
    rw [run_duplicate d c source hheight hpriority hplace]
    -- what is reported on the way to the write is not looked at by it
    obtain ⟨hissued, hstore⟩ :=
      upsert_left (copyAt d place) { c with journal := c.journal ++ notices } source
    rw [run_bind]
    cases hrun : upsert (copyAt d place) source { c with journal := c.journal ++ notices } with
    | ok stored c' =>
      rw [left_of_ok hrun] at hissued hstore
      exact ⟨hissued, hstore.imp_right fun ⟨hfits, hwrite⟩ =>
        ⟨d.obstacle?_settled.symm.trans hfits.writable, hwrite⟩⟩
    | error e c' =>
      rw [left_of_error hrun] at hissued hstore
      exact ⟨hissued, hstore.imp_right fun ⟨hfits, hwrite⟩ =>
        ⟨d.obstacle?_settled.symm.trans hfits.writable, hwrite⟩⟩

/-- What copying a request leaves: the store as it was, or a new identifier and the copy at its
    place. -/
theorem duplicate_left (source : String) :
    ((duplicate d source).left c).store = c.store ∨
      ((duplicate d source).left c).issued = c.issued ++ [⟨.request p, c.nextId (.request p)⟩] ∧
        d.data.obstacle? = none ∧ ∃ priority row, d.data.sortPriority = .value priority ∧
          c.store.write (c.nextId (.request p))
            (copyAt d (Priority.after ⟨d.id.toOption, priority⟩
              ((siblings c.store d).map placed)).1).data c.now =
            .ok (row, ((duplicate d source).left c).store) := by
  by_cases hheight : d.data.height ≤ Sketch.greatestCopied
  · cases hpriority : d.data.sortPriority with
    | value priority =>
      obtain ⟨hissued, hstore⟩ := duplicate_left_of_height d c source hheight hpriority
      exact hstore.imp_right fun ⟨hwritable, row, hwrite⟩ =>
        ⟨hissued, hwritable, priority, row, rfl, hwrite⟩
    -- without a priority the copy fails before it is written
    | absent | null =>
      left
      unfold Op.left
      rw [run_duplicate_of_height d c source hheight, hpriority]
      cases ((siblings c.store d).map placed).any (·.id == d.id.toOption) <;> rfl
  · left
    unfold Op.left duplicate
    rw [run_bind, run_copy, if_neg hheight]

end duplicate

/-! ### Deleting -/

section delete

variable {k : Kind} (row : Row k) (source : String) (c : Catalog)

/-- A deletion that the tables do not refuse takes effect whatever its origin, and reports itself
    if the origin is known. -/
theorem run_delete_of_ok {t : Store} (h : c.store.erase row.key = .ok t) :
    delete row source c =
      match Source.ofName? source with
      | some known =>
        .ok row { c with store := t, journal := c.journal ++ [.deleted k row.id known] }
      | none => .error (.unknownSource source) { c with store := t } := by
  unfold delete
  rw [run_bind_of_ok (rfl : (get : Op Catalog) c = .ok c c), h]
  show (noteFrom source (.deleted k row.id) >>= fun _ => (pure row : Op (Row k)))
    { c with store := t } = _
  unfold noteFrom
  cases Source.ofName? source <;> rfl

theorem run_delete_known {source : Source} {t : Store} (h : c.store.erase row.key = .ok t) :
    delete row source.name c =
      .ok row { c with store := t, journal := c.journal ++ [.deleted k row.id source] } := by
  rw [run_delete_of_ok row source.name c h, Source.ofName?_name]

theorem run_delete_unknown {name : String} (hunknown : Source.ofName? name = none) {t : Store}
    (h : c.store.erase row.key = .ok t) :
    delete row name c = .error (.unknownSource name) { c with store := t } := by
  rw [run_delete_of_ok row name c h, hunknown]

theorem run_delete_of_error {v : Violation} (h : c.store.erase row.key = .error v) :
    delete row source c = .error (.violation v) c := by
  unfold delete
  rw [run_bind_of_ok (rfl : (get : Op Catalog) c = .ok c c), h]
  rfl

/-- What a deletion leaves. -/
theorem delete_left : ((delete row source).left c).store = c.store.erased row.key := by
  cases herase : c.store.erase row.key with
  | ok t =>
    rw [Store.erased_of_ok herase]
    unfold left
    rw [run_delete_of_ok row source c herase]
    cases Source.ofName? source <;> rfl
  | error v =>
    rw [Store.erased_of_error herase, left_of_error (run_delete_of_error row source c herase)]

end delete

section deletions

variable {k : Kind} (hR : ∀ s t key, s.erase key = .ok t → R s t)

include hR

theorem moves_delete (row : Row k) (source : String) : (delete row source).Moves R := by
  intro c
  rw [delete_left]
  rcases c.store.erased_cases row.key with hsame | ⟨herase, -⟩
  · rw [hsame]
  · exact .single (hR _ _ _ herase)

theorem moves_deleteAll (source : String) (rows : List (Row k)) :
    (deleteAll source rows).Moves R := by
  induction rows with
  | nil => exact moves_pure _
  | cons row rest ih =>
    exact (moves_delete hR row source).bind fun _ => ih.bind fun _ => moves_pure _

theorem moves_deleteExchanges (p : Protocol) (requestId source : String) :
    (deleteExchanges p requestId source).Moves R :=
  (moves_ask _).bind fun _ => moves_deleteAll hR source _

theorem moves_deleteRequest {p : Protocol} (r : Row (.request p)) (source : String) :
    (deleteRequest r source).Moves R :=
  (moves_deleteExchanges hR p r.id source).bind fun _ => moves_delete hR r source

end deletions

end Op

end RequestCatalog

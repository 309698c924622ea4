import RequestCatalog.Proofs.Answering

/-! # The fields that a body declares

  The check of a body is put together from checks of single values. Here it is told without
  them, as a list of fields. Each field has the names under which it may stand in the body, and
  it says what is wrong with a value that stands there. What is wrong with the body is what its
  fields say, one after the other.

  * `Kind.fields` lists the fields of a kind of record, in their order. The entries of a gRPC
    request have two names, and the first one that is there counts (`Field.found?`).
  * `objectFlaws` lists what is wrong with a value that should have such fields.
  * `Form.complaints_check`: the check complains about this and about nothing else, and it
    refuses only what it complains about (`Checked.Explained`).
  * `Form.check_congr`: bodies in which every field is found with the same value are the same
    to the check.
-/

namespace RequestCatalog

namespace Api

/-! ### Fields -/

/-- The complaint about a value that stands further inside. -/
def Complaint.within (part : String) (c : Complaint) : Complaint :=
  { c with loc := part :: c.loc }

/-- A field of a body. -/
structure Field where
  /-- The names under which it may stand in the body. The first one that is there counts. -/
  names : List String
  /-- It has to be there. -/
  isRequired : Bool
  /-- What is wrong with a value of the field. -/
  flaws : Json → List Complaint

namespace Field

/-- A field that has to be there. -/
def required {α : Type} (name : String) (check : Json → Checked α) : Field where
  names := [name]
  isRequired := true
  flaws j := (check j).complaints

/-- A field that may be left out. -/
def optional {α : Type} (name : String) (check : Json → Checked α) : Field where
  names := [name]
  isRequired := false
  flaws j := (check j).complaints

/-- The value of the field in a body, with the name under which it stands there. -/
def found? (f : Field) (members : List (Text × Json)) : Option (String × Json) :=
  f.names.findSome? fun name => (members.lookup (.sound name)).map (name, ·)

/-- A field of one name is found by this name alone. -/
theorem found?_eq_iff {f : Field} {name : String} (hf : f.names = [name])
    {others members : List (Text × Json)} :
    f.found? others = f.found? members ↔ others.lookup (.sound name) =
        members.lookup (.sound name) := by
  unfold found?
  simp only [hf, List.findSome?_cons, List.findSome?_nil]
  cases others.lookup (.sound name) <;> cases members.lookup (.sound name) <;> simp

/-- What is wrong with the field in a body. -/
def complaints (f : Field) (members : List (Text × Json)) : List Complaint :=
  match f.found? members with
  | some (name, j) => (f.flaws j).map (.within name)
  | none => if f.isRequired then f.names.map fun name => ⟨[name], .missing⟩ else []

end Field

/-- What is wrong with a value that should be an object with these fields. -/
def objectFlaws (fields : List Field) : Json → List Complaint
  | .object members => fields.flatMap fun f => f.complaints members
  | _ => [⟨[], .notObject⟩]

/-- The fields of a header or metadata entry. -/
def entryFields : List Field :=
  [.required "name" text, .optional "value" text, .optional "enabled" flag,
    .optional "id" textOrNull]

/-- What is wrong with a value that should be a list of entries, entry by entry. -/
def entriesFlaws : Json → List Complaint
  | .list items => items.zipIdx.flatMap fun (j, position) =>
      (objectFlaws entryFields j).map (.within (toString position))
  | _ => [⟨[], .notList⟩]

/-- The entries of a record, under one of these names. -/
def Field.entries (names : List String) : Field := ⟨names, false, entriesFlaws⟩

end Api

open Api in
/-- The fields of a body that sends a record. What came back from a request is never sent. -/
def Kind.fields : Kind → List Field
  | .workspace =>
    [.required "name" text, .optional "authentication_type" textOrNull,
      .optional "authentication" mapping, .entries ["headers"], .optional "id" text]
  | .folder =>
    [.required "workspace_id" text, .optional "folder_id" textOrNull, .required "name" text,
      .optional "sort_priority" priority, .optional "authentication_type" textOrNull,
      .optional "authentication" mapping, .entries ["headers"], .optional "id" text]
  | .request .http =>
    [.required "workspace_id" text, .optional "folder_id" textOrNull, .optional "name" text,
      .optional "sort_priority" priority, .optional "authentication_type" textOrNull,
      .optional "authentication" mapping, .optional "method" (oneOf Form.methods .notMethod),
      .optional "url" text, .optional "body_type" (oneOfOrNull Form.bodyTypes .notBodyType),
      .optional "body" textOrNull, .entries ["headers"], .optional "id" text]
  | .request .grpc =>
    [.required "workspace_id" text, .optional "folder_id" textOrNull, .optional "name" text,
      .optional "sort_priority" priority, .optional "authentication_type" textOrNull,
      .optional "authentication" mapping, .optional "url" text, .optional "service" textOrNull,
      .optional "method" textOrNull, .optional "message" text,
      .entries ["metadata_", "metadata"], .optional "id" text]
  | .exchange _ => []

namespace Api

/-! ### What checks complain about -/

section complaints

variable {α : Type} {members : List (Text × Json)} {name : String}

theorem complaints_required (check : Json → Checked α) :
    (required members name check).complaints =
      (Field.required name check).complaints members := by
  unfold required Field.complaints Field.found? Field.required
  cases hlookup : members.lookup (.sound name) with
  | none =>
    simp only [List.findSome?_cons, List.findSome?_nil, hlookup, Option.map_none]
    rfl
  | some j =>
    simp only [List.findSome?_cons, hlookup, Option.map_some, Checked.complaints_within]
    rfl

theorem complaints_optional (default : α) (check : Json → Checked α) :
    (optional members name default check).complaints =
      (Field.optional name check).complaints members := by
  unfold optional Field.complaints Field.found? Field.optional
  cases hlookup : members.lookup (.sound name) with
  | none =>
    simp only [List.findSome?_cons, List.findSome?_nil, hlookup, Option.map_none]
    rfl
  | some j =>
    simp only [List.findSome?_cons, hlookup, Option.map_some, Checked.complaints_within]
    rfl

theorem complaints_headerEntry (j : Json) :
    (headerEntry j).complaints = objectFlaws entryFields j := by
  cases j with
  | object members =>
    simp only [headerEntry, objectFlaws, entryFields, Checked.complaints_seq,
      Checked.complaints_map, complaints_required, complaints_optional, List.flatMap_cons,
      List.flatMap_nil, List.append_nil, List.append_assoc]
  | null | bool | int | real | text | list => rfl

theorem complaints_headerEntriesFrom (position : Nat) (items : List Json) :
    (headerEntriesFrom position items).complaints =
      (items.zipIdx position).flatMap fun (j, position) =>
        (objectFlaws entryFields j).map (.within (toString position)) := by
  induction items generalizing position with
  | nil => rfl
  | cons j rest ih =>
    rw [headerEntriesFrom, Checked.complaints_seq, Checked.complaints_map,
      Checked.complaints_within, complaints_headerEntry, ih, List.zipIdx_cons, List.flatMap_cons]
    rfl

/-- Entries are complained about in their order. -/
theorem complaints_headerEntries (j : Json) : (headerEntries j).complaints = entriesFlaws j := by
  cases j with
  | list items => exact complaints_headerEntriesFrom 0 items
  | null | bool | int | real | text | object => rfl

end complaints

/-! ### Entries under several names -/

/-- The entries of a body, from where they were found. -/
def entriesAt : Option (String × Json) → Checked Json
  | some (name, j) => Form.storedEntries <$> (headerEntries j).within name
  | none => Form.storedEntries <$> pure []

section entries

variable {members : List (Text × Json)}

theorem entries_eq (name : String) :
    Form.entries members name = entriesAt ((Field.entries [name]).found? members) := by
  unfold Form.entries optional Field.found? Field.entries
  cases hlookup : members.lookup (.sound name) with
  | none =>
    simp only [List.findSome?_cons, List.findSome?_nil, hlookup, Option.map_none]
    rfl
  | some j =>
    simp only [List.findSome?_cons, hlookup, Option.map_some]
    rfl

/-- The shorter name of the metadata counts only where the longer one is not there. -/
theorem entries_metadata_eq :
    Form.entries members (Form.metadataName members) =
      entriesAt ((Field.entries ["metadata_", "metadata"]).found? members) := by
  rw [entries_eq]
  unfold Form.metadataName Field.found? Field.entries
  cases hlookup : members.lookup (.sound "metadata_") with
  | none => simp [List.findSome?_cons, hlookup]
  | some j => simp [hlookup]

/-- The entries of a request, whichever protocol it speaks. -/
theorem complaints_entriesAt (names : List String) :
    (entriesAt ((Field.entries names).found? members)).complaints =
      (Field.entries names).complaints members := by
  unfold Field.complaints
  cases (Field.entries names).found? members with
  | none => rfl
  | some found =>
    rw [entriesAt, Checked.complaints_map, Checked.complaints_within, complaints_headerEntries]
    rfl

end entries

/-! ### Whole bodies -/

section check

variable {k : Kind}

/-- The check of a body complains about what is wrong with its fields, field by field. -/
theorem Form.complaints_check (hk : ∀ p, k ≠ .exchange p) (members : List (Text × Json)) :
    (Form.check k members).complaints = k.fields.flatMap fun f => f.complaints members := by
  rcases k with _ | _ | (_ | _) | p
  case exchange => exact absurd rfl (hk p)
  case request.grpc =>
    simp only [check, request, call, grpcCall, authenticationType, authentication, identifier,
      entriesName, entries_metadata_eq, Kind.fields, Checked.complaints_seq,
      Checked.complaints_map, complaints_required, complaints_optional, complaints_entriesAt,
      List.flatMap_cons, List.flatMap_nil, List.append_nil, List.append_assoc]
  all_goals
    simp only [check, workspace, folder, request, call, httpCall, authenticationType,
      authentication, identifier, entriesName, entries_eq, Kind.fields,
      Checked.complaints_seq, Checked.complaints_map, complaints_required, complaints_optional,
      complaints_entriesAt, List.flatMap_cons, List.flatMap_nil, List.append_nil,
      List.append_assoc]

/-- A field of text is declared, under one name. -/
theorem Kind.exists_field_of_text {name : String} (h : name ∈ Form.textFields k) :
    ∃ f ∈ k.fields, f.names = [name] := by
  revert name
  rcases k with _ | _ | (_ | _) | p
  case exchange => exact fun h => absurd h List.not_mem_nil
  all_goals decide

theorem Form.garbledFields_congr {others members : List (Text × Json)}
    (h : ∀ name ∈ textFields k, others.lookup (.sound name) = members.lookup (.sound name)) :
    garbledFields k others = garbledFields k members :=
  List.filterMap_congr fun name hname => by rw [garbledText?, garbledText?, h name hname]

/-- Bodies in which every field is found with the same value are the same to the check. -/
theorem Form.check_congr {others members : List (Text × Json)}
    (h : ∀ f ∈ k.fields, f.found? others = f.found? members) :
    Form.check k others = Form.check k members := by
  have hone : ∀ {α : Type} (name : String) (check : Json → Checked α),
      ((Field.required name check).found? others = (Field.required name check).found? members ↔
        others.lookup (.sound name) = members.lookup (.sound name)) ∧
      ((Field.optional name check).found? others = (Field.optional name check).found? members ↔
        others.lookup (.sound name) = members.lookup (.sound name)) :=
    fun name check => ⟨Field.found?_eq_iff rfl, Field.found?_eq_iff rfl⟩
  have hgarbled : garbledFields k others = garbledFields k members := by
    refine garbledFields_congr fun name hname => ?_
    obtain ⟨f, hf, hnames⟩ := Kind.exists_field_of_text hname
    exact (Field.found?_eq_iff hnames).mp (h f hf)
  rcases k with _ | _ | (_ | _) | p
  case exchange => rfl
  case request.grpc =>
    simp only [Kind.fields, List.forall_mem_cons, hone] at h
    simp only [check, request, call, grpcCall, authenticationType, authentication, identifier,
      entriesName, entries_metadata_eq, required, optional, hgarbled, h]
  all_goals
    simp only [Kind.fields, List.forall_mem_cons, hone] at h
    simp only [check, workspace, folder, request, call, httpCall, authenticationType,
      authentication, identifier, entriesName, entries_eq, required, optional, hgarbled, h]

end check

/-! ### Refusals are explained -/

/-- What is refused is complained about, and not because it could not be read. -/
def Checked.Explained {α : Type} (a : Checked α) : Prop :=
  ∀ cs, a = .flawed cs → cs ≠ [] ∧ ∀ c ∈ cs, c.flaw ≠ .unreadable

namespace Checked

variable {α β : Type}

theorem explained_pure (a : α) : (pure a : Checked α).Explained := by
  intro cs h
  cases h

theorem explained_refuse {flaw : Flaw} (hflaw : flaw ≠ .unreadable) :
    (refuse flaw : Checked α).Explained := by
  intro cs h
  cases h
  simpa using hflaw

theorem Explained.map {a : Checked α} (ha : a.Explained) (f : α → β) : (f <$> a).Explained := by
  intro cs h
  cases a with
  | sound a => cases h
  | flawed ds =>
    cases h
    exact ha _ rfl

theorem Explained.seq {f : Checked (α → β)} {a : Checked α} (hf : f.Explained)
    (ha : a.Explained) : (f <*> a).Explained := by
  intro cs h
  cases f with
  | sound f =>
    cases a with
    | sound a => cases h
    | flawed ds =>
      cases h
      exact ha _ rfl
  | flawed ds =>
    obtain ⟨hne, hds⟩ := hf ds rfl
    cases a with
    | sound a =>
      cases h
      exact hf _ rfl
    | flawed es =>
      cases h
      obtain ⟨-, hes⟩ := ha es rfl
      refine ⟨List.append_ne_nil_of_left_ne_nil hne es, fun c hc => ?_⟩
      rcases List.mem_append.mp hc with hc | hc
      · exact hds c hc
      · exact hes c hc

theorem Explained.within {a : Checked α} (ha : a.Explained) (part : String) :
    (a.within part).Explained := by
  intro cs h
  cases a with
  | sound a => cases h
  | flawed ds =>
    cases h
    obtain ⟨hne, hds⟩ := ha ds rfl
    refine ⟨by simpa using hne, ?_⟩
    simpa using hds

end Checked

open Checked

section explained

variable {α : Type} {members : List (Text × Json)} {name : String} {check : Json → Checked α}

theorem explained_required (hcheck : ∀ j, (check j).Explained) :
    (required members name check).Explained := by
  unfold required
  split
  · exact (hcheck _).within name
  · exact (explained_refuse (by decide)).within name

theorem explained_optional (hcheck : ∀ j, (check j).Explained) (default : α) :
    (optional members name default check).Explained := by
  unfold optional
  split
  · exact (hcheck _).within name
  · exact explained_pure default

theorem explained_text (j : Json) : (text j).Explained := by
  cases j with
  | text s => exact explained_pure s
  | _ => exact explained_refuse (by decide)

theorem explained_textOrNull (j : Json) : (textOrNull j).Explained := by
  cases j with
  | null => exact explained_pure none
  | _ => exact (explained_text _).map some

theorem explained_oneOf (choices : List String) {flaw : Flaw} (hflaw : flaw ≠ .unreadable)
    (j : Json) : (oneOf choices flaw j).Explained := by
  unfold oneOf
  split
  · split
    · exact explained_pure _
    · exact explained_refuse hflaw
  · exact explained_refuse (by decide)
  · exact explained_refuse hflaw

theorem explained_oneOfOrNull (choices : List String) {flaw : Flaw} (hflaw : flaw ≠ .unreadable)
    (j : Json) : (oneOfOrNull choices flaw j).Explained := by
  cases j with
  | null => exact explained_pure none
  | _ => exact (explained_oneOf choices hflaw _).map some

theorem explained_mapping (j : Json) : (mapping j).Explained := by
  cases j with
  | object members => exact explained_pure _
  | _ => exact explained_refuse (by decide)

theorem explained_finite (x : Float) : (finite x).Explained := by
  unfold finite
  split
  · exact explained_pure x
  · exact explained_refuse (by decide)

theorem explained_priority (j : Json) : (priority j).Explained := by
  unfold priority
  split
  · simp only
    split
    · exact explained_pure _
    · exact explained_refuse (by decide)
  · exact explained_finite _
  · exact explained_pure _
  · split
    · exact explained_finite _
    · exact explained_refuse (by decide)
  · exact explained_refuse (by decide)
  · exact explained_refuse (by decide)

theorem explained_flag (j : Json) : (flag j).Explained := by
  unfold flag
  repeat' split
  all_goals first | exact explained_pure _ | exact explained_refuse (by decide)

theorem explained_headerEntry (j : Json) : (headerEntry j).Explained := by
  cases j with
  | object members =>
    exact ((((explained_required explained_text).map _).seq
        (explained_optional explained_text _)).seq
      (explained_optional explained_flag _)).seq (explained_optional explained_textOrNull _)
  | _ => exact explained_refuse (by decide)

theorem explained_headerEntriesFrom (position : Nat) (items : List Json) :
    (headerEntriesFrom position items).Explained := by
  induction items generalizing position with
  | nil => exact explained_pure []
  | cons j rest ih => exact (((explained_headerEntry j).within _).map _).seq (ih (position + 1))

theorem explained_headerEntries (j : Json) : (headerEntries j).Explained := by
  cases j with
  | list items => exact explained_headerEntriesFrom 0 items
  | _ => exact explained_refuse (by decide)

/-- The check of a body explains what it refuses. -/
theorem Form.explained_check (k : Kind) (members : List (Text × Json)) :
    (Form.check k members).Explained := by
  have htext : ∀ name, (required members name text).Explained :=
    fun _ => explained_required explained_text
  have htext' : ∀ name default, (optional members name default text).Explained :=
    fun _ => explained_optional explained_text
  have hnull : ∀ name default, (optional members name default textOrNull).Explained :=
    fun _ => explained_optional explained_textOrNull
  have hsettings : ∀ default, (optional members "authentication" default mapping).Explained :=
    explained_optional explained_mapping
  have hpriority : ∀ default, (optional members "sort_priority" default priority).Explained :=
    explained_optional explained_priority
  have hentries : ∀ name, (Form.entries members name).Explained :=
    fun _ => (explained_optional explained_headerEntries _).map _
  have hhttp : (Form.httpCall members).Explained :=
    ((((explained_optional (explained_oneOf _ (by decide)) _).map _).seq (htext' _ _)).seq
      (explained_optional (explained_oneOfOrNull _ (by decide)) _)).seq (hnull _ _)
  have hgrpc : (Form.grpcCall members).Explained :=
    ((((htext' _ _).map _).seq (hnull _ _)).seq (hnull _ _)).seq (htext' _ _)
  have hcall : ∀ p, (Form.call p members).Explained := fun p => by
    cases p with
    | http => exact hhttp
    | grpc => exact hgrpc
  cases k with
  | workspace =>
    exact (((((htext _).map _).seq (hnull _ _)).seq (hsettings _)).seq (hentries _)).seq
      (htext' _ _)
  | folder =>
    exact ((((((((htext _).map _).seq (hnull _ _)).seq (htext _)).seq (hpriority _)).seq
      (hnull _ _)).seq (hsettings _)).seq (hentries _)).seq (htext' _ _)
  | request p =>
    exact (((((((((htext _).map _).seq (hnull _ _)).seq (htext' _ _)).seq (hpriority _)).seq
      (hnull _ _)).seq (hsettings _)).seq (hcall p)).seq (hentries _)).seq (htext' _ _)
  | exchange p => exact explained_refuse (by decide)

end explained

end Api

end RequestCatalog

import RequestCatalog.Proofs.Tables

/-! # What a write stores

  A write completes a draft, column by column, over the stored record of its
  identifier or over the defaults of its kind. The record that comes out is put
  into its table if all its references are held.

  * `Store.write_eq_ok_iff` splits a write that succeeds into these two parts.
  * `Store.candidate_cases` says over what the draft was completed.
  * One lemma for each kind says what the columns of the new record are.
-/

namespace RequestCatalog

/-! ### Single columns -/

theorem bind_eq_ok_iff {ε α β : Type} {x : Except ε α} {f : α → Except ε β} {b : β} :
    (x >>= f) = .ok b ↔ ∃ a, x = .ok a ∧ f a = .ok b := by
  cases x with
  | error e => simp [bind, Except.bind]
  | ok a => simp [bind, Except.bind]

theorem bind_eq_error_iff {ε α β : Type} {x : Except ε α} {f : α → Except ε β} {e : ε} :
    (x >>= f) = .error e ↔ x = .error e ∨ ∃ a, x = .ok a ∧ f a = .error e := by
  cases x with
  | error e => simp [bind, Except.bind]
  | ok a => simp [bind, Except.bind]

theorem pure_eq_ok_iff {ε α : Type} {a b : α} : (pure a : Except ε α) = .ok b ↔ a = b := by
  simp [pure, Except.pure]

theorem map_eq_ok_iff {ε α β : Type} {x : Except ε α} {f : α → β} {b : β} :
    f <$> x = .ok b ↔ ∃ a, x = .ok a ∧ f a = b := by
  cases x with
  | error e => simp [Functor.map, Except.map]
  | ok a => simp [Functor.map, Except.map]

theorem map_eq_error_iff {ε α β : Type} {x : Except ε α} {f : α → β} {e : ε} :
    f <$> x = .error e ↔ x = .error e := by
  cases x with
  | error e => simp [Functor.map, Except.map]
  | ok a => simp [Functor.map, Except.map]

theorem Given.required_eq_ok_iff {α : Type} {k : Kind} {column : String} {g : Given α} {a : α} :
    g.required k column = .ok a ↔ g = .value a := by
  cases g <;> simp [required]

@[simp] theorem Given.laidOver_value {α : Type} (a : α) (base : Given α) :
    laidOver (.value a) base = .value a := rfl

@[simp] theorem Given.filledFrom_value {α : Type} (a : α) (base : Given α) :
    filledFrom (.value a) base = .value a := rfl

@[simp] theorem Given.laidOver_ofOption {α : Type} (o : Option α) (base : Given α) :
    laidOver (ofOption o) base = ofOption o := by
  cases o <;> rfl

@[simp] theorem Given.filledFrom_ofOption_null {α : Type} (o : Option α) :
    filledFrom (ofOption o) .null = ofOption o := by
  cases o <;> rfl

/-- A call that gives every column stands as it is. -/
theorem Call.Sketch.laidOver_sketch {p : Protocol} (c : Call p) (base : Call.Sketch p) :
    Call.Sketch.over Given.laidOver (Call.sketch c) base = Call.sketch c := by
  cases p <;> simp [Call.Sketch.over, Call.sketch]

/-! ### Priorities -/

/-- The form in which priorities are kept: a number, and zero without a sign. -/
def Priority.IsKept (x : Float) : Prop :=
  (Given.value x).keptPriority = .value x

instance (x : Float) : Decidable (Priority.IsKept x) :=
  inferInstanceAs (Decidable (_ = _))

theorem Given.keptPriority_value (x : Float) :
    (value x).keptPriority =
      if x.isNaN then .null else if x == 0.0 then .value 0.0 else .value x := rfl

/-- Every number is kept in some form. -/
theorem Priority.exists_kept {x : Float} (hx : x.isNaN = false) :
    ∃ y, (Given.value x).keptPriority = .value y := by
  rw [Given.keptPriority_value, hx, if_neg (by simp)]
  split
  · exact ⟨_, rfl⟩
  · exact ⟨_, rfl⟩

theorem Priority.IsKept.isNaN_eq_false {x : Float} (h : Priority.IsKept x) : x.isNaN = false := by
  unfold Priority.IsKept at h
  rw [Given.keptPriority_value] at h
  cases hnan : x.isNaN with
  | false => rfl
  | true =>
    rw [hnan, if_pos rfl] at h
    cases h

/-- A kept zero has no sign. -/
theorem Priority.IsKept.ne_negative_zero {x : Float} (h : Priority.IsKept x) : x ≠ -0.0 := by
  rintro rfl
  revert h
  decide +kernel

/-- What is kept of a priority is kept as it is. -/
theorem Given.isKept_of_keptPriority {g : Given Float} {x : Float}
    (h : g.keptPriority = .value x) : Priority.IsKept x := by
  cases g with
  | absent => cases h
  | null => cases h
  | value y =>
    rw [keptPriority_value] at h
    split at h
    · cases h
    · next hnan =>
      split at h
      · cases h
        decide +kernel
      · next hzero =>
        cases h
        unfold Priority.IsKept
        rw [keptPriority_value, if_neg hnan, if_neg hzero]

/-! ### Whole records -/

namespace Sketch

theorem columns?_workspace {d : Sketch .workspace} {w : Workspace} (h : d.columns? = .ok w) :
    d.name = .value w.name ∧ w.settings = d.settings.complete.kept := by
  simp only [columns?, bind_eq_ok_iff, Given.required_eq_ok_iff, pure_eq_ok_iff] at h
  obtain ⟨name, hname, rfl⟩ := h
  exact ⟨hname, rfl⟩

theorem columns?_folder {d : Sketch .folder} {f : Folder} (h : d.columns? = .ok f) :
    d.workspaceId = .value f.workspaceId ∧ f.folderId = d.folderId.toOption ∧
      d.name = .value f.name ∧ d.sortPriority.keptPriority = .value f.sortPriority ∧
      f.settings = d.settings.complete.kept := by
  simp only [columns?, bind_eq_ok_iff, Given.required_eq_ok_iff, pure_eq_ok_iff] at h
  obtain ⟨workspaceId, hworkspace, name, hname, priority, hpriority, rfl⟩ := h
  exact ⟨hworkspace, rfl, hname, hpriority, rfl⟩

theorem columns?_request {p : Protocol} {d : Sketch (.request p)} {r : Request p}
    (h : d.columns? = .ok r) :
    d.workspaceId = .value r.workspaceId ∧ r.folderId = d.folderId.toOption ∧
      d.name = .value r.name ∧ Call.Sketch.columns? d.call = .ok r.call ∧
      d.sortPriority.keptPriority = .value r.sortPriority ∧
      r.settings = d.settings.complete.kept := by
  simp only [columns?, bind_eq_ok_iff, Given.required_eq_ok_iff, pure_eq_ok_iff] at h
  obtain ⟨workspaceId, hworkspace, name, hname, call, hcall, priority, hpriority, rfl⟩ := h
  exact ⟨hworkspace, rfl, hname, hcall, hpriority, rfl⟩

theorem columns?_exchange {p : Protocol} {d : Sketch (.exchange p)} {e : Exchange p}
    (h : d.columns? = .ok e) :
    d.workspaceId = .value e.workspaceId ∧ d.requestId = .value e.requestId := by
  simp only [columns?, bind_eq_ok_iff, Given.required_eq_ok_iff, pure_eq_ok_iff] at h
  obtain ⟨workspaceId, hworkspace, requestId, hrequest, status, -, elapsedMs, -, rfl⟩ := h
  exact ⟨hworkspace, hrequest⟩

end Sketch

/-- The place of a record among its siblings, if it is of a kind that has one. -/
def Columns.priority? : {k : Kind} → Columns k → Option Float
  | .folder, f => some f.sortPriority
  | .request _, r => some r.sortPriority
  | .workspace, _ | .exchange _, _ => none

/-- What a draft says of the place of a record among its siblings. -/
def Sketch.priority : {k : Kind} → Sketch k → Given Float
  | .folder, d => d.sortPriority
  | .request _, d => d.sortPriority
  | .workspace, _ | .exchange _, _ => .absent

/-- The priority of a record that is written is a kept one. -/
theorem Sketch.isKept_of_columns? {k : Kind} {d : Sketch k} {columns : Columns k}
    (h : d.columns? = .ok columns) :
    ∀ x, Columns.priority? columns = some x → Priority.IsKept x := by
  intro x hx
  cases k with
  | workspace => cases hx
  | folder =>
    cases hx
    exact Given.isKept_of_keptPriority (columns?_folder h).2.2.2.1
  | request p =>
    cases hx
    exact Given.isKept_of_keptPriority (columns?_request h).2.2.2.2.1
  | exchange p => cases hx

namespace Store

variable {s t : Store} {k : Kind} {id : String} {d : Sketch k} {now : Instant} {row : Row k}

/-- A draft is completed over the stored record of its identifier, or else over the defaults
    of its kind. -/
theorem candidate_cases (h : s.candidate id d now = .ok row) :
    row.id = id ∧ row.updatedAt = now ∧
      ((∃ old, s.get? k id = some old ∧ row.createdAt = old.createdAt ∧
          (d.over Given.laidOver (Columns.sketch old.data)).columns? = .ok row.data) ∨
        (s.get? k id = none ∧ row.createdAt = now ∧
          (d.over Given.filledFrom (Columns.defaults k)).columns? = .ok row.data)) := by
  unfold candidate at h
  cases hget : s.get? k id with
  | some old =>
    simp only [hget, bind_eq_ok_iff, pure_eq_ok_iff] at h
    obtain ⟨columns, hcolumns, rfl⟩ := h
    exact ⟨rfl, rfl, .inl ⟨old, rfl, rfl, hcolumns⟩⟩
  | none =>
    simp only [hget, bind_eq_ok_iff, pure_eq_ok_iff] at h
    obtain ⟨columns, hcolumns, rfl⟩ := h
    exact ⟨rfl, rfl, .inr ⟨rfl, rfl, hcolumns⟩⟩

/-- The columns of a record that is written come from a completed draft. -/
theorem columns?_of_candidate (h : s.candidate id d now = .ok row) :
    ∃ completed : Sketch k, completed.columns? = .ok row.data := by
  obtain ⟨-, -, ⟨old, -, -, hcolumns⟩ | ⟨-, -, hcolumns⟩⟩ := candidate_cases h
  · exact ⟨_, hcolumns⟩
  · exact ⟨_, hcolumns⟩

theorem write_eq_ok_iff :
    s.write id d now = .ok (row, t) ↔
      s.candidate id d now = .ok row ∧ s.resolvesRefs row = true ∧ t = s.put row := by
  simp only [write, bind_eq_ok_iff]
  constructor
  · rintro ⟨found, hfound, h⟩
    split at h
    · next hrefs =>
      simp only [pure_eq_ok_iff, Prod.mk.injEq] at h
      obtain ⟨rfl, rfl⟩ := h
      exact ⟨hfound, hrefs, rfl⟩
    · cases h
  · rintro ⟨hfound, hrefs, rfl⟩
    exact ⟨row, hfound, by rw [if_pos hrefs]; rfl⟩

/-- Every reference of a record that is written is held afterwards. -/
theorem holds_of_resolvesRefs (h : s.resolvesRefs row = true) {ref : Key}
    (href : ref ∈ row.refs) : (s.put row).holds ref = true := by
  rw [holds_put]
  simpa using List.all_eq_true.mp h ref href

/-- A folder is stored where a draft that says so wants it. -/
theorem place_of_candidate_folder {d : Sketch .folder} {f : Row .folder}
    {workspaceId : String} {folderId : Option String} (h : s.candidate id d now = .ok f)
    (hworkspace : d.workspaceId = .value workspaceId) (hfolder : d.folderId = .ofOption folderId) :
    f.data.workspaceId = workspaceId ∧ f.data.folderId = folderId := by
  obtain ⟨-, -, ⟨old, -, -, hcolumns⟩ | ⟨-, -, hcolumns⟩⟩ := candidate_cases h
  all_goals
    obtain ⟨hw, hf, -⟩ := Sketch.columns?_folder hcolumns
    simp only [Sketch.over, hworkspace, hfolder, Given.laidOver_value, Given.filledFrom_value,
      Given.laidOver_ofOption, Columns.defaults, Given.filledFrom_ofOption_null,
      Given.toOption_ofOption] at hw hf
    exact ⟨(Given.value.inj hw).symm, hf⟩

/-- A request is stored where a draft that says so wants it. -/
theorem place_of_candidate_request {p : Protocol} {d : Sketch (.request p)}
    {r : Row (.request p)} {workspaceId : String} {folderId : Option String}
    (h : s.candidate id d now = .ok r) (hworkspace : d.workspaceId = .value workspaceId)
    (hfolder : d.folderId = .ofOption folderId) :
    r.data.workspaceId = workspaceId ∧ r.data.folderId = folderId := by
  obtain ⟨-, -, ⟨old, -, -, hcolumns⟩ | ⟨-, -, hcolumns⟩⟩ := candidate_cases h
  all_goals
    obtain ⟨hw, hf, -⟩ := Sketch.columns?_request hcolumns
    simp only [Sketch.over, hworkspace, hfolder, Given.laidOver_value, Given.filledFrom_value,
      Given.laidOver_ofOption, Columns.defaults, Given.filledFrom_ofOption_null,
      Given.toOption_ofOption] at hw hf
    exact ⟨(Given.value.inj hw).symm, hf⟩

/-- What came back from a request is stored where a draft that says so wants it. -/
theorem place_of_candidate_exchange {p : Protocol} {d : Sketch (.exchange p)}
    {e : Row (.exchange p)} {workspaceId requestId : String} (h : s.candidate id d now = .ok e)
    (hworkspace : d.workspaceId = .value workspaceId) (hrequest : d.requestId = .value requestId) :
    e.data.workspaceId = workspaceId ∧ e.data.requestId = requestId := by
  obtain ⟨-, -, ⟨old, -, -, hcolumns⟩ | ⟨-, -, hcolumns⟩⟩ := candidate_cases h
  all_goals
    obtain ⟨hw, hr⟩ := Sketch.columns?_exchange hcolumns
    simp only [Sketch.over, hworkspace, hrequest, Given.laidOver_value,
      Given.filledFrom_value] at hw hr
    exact ⟨(Given.value.inj hw).symm, (Given.value.inj hr).symm⟩

/-- A record is stored with the priority that a draft gives, in the form in which it is kept. -/
theorem priority_of_candidate {x y : Float} (h : s.candidate id d now = .ok row)
    (hgiven : Sketch.priority d = .value x) (hy : Columns.priority? row.data = some y) :
    (Given.value x).keptPriority = .value y := by
  cases k with
  | workspace | exchange p => cases hgiven
  | folder =>
    obtain rfl := Option.some.inj hy
    have hgiven : d.sortPriority = .value x := hgiven
    obtain ⟨-, -, ⟨old, -, -, hcolumns⟩ | ⟨-, -, hcolumns⟩⟩ := candidate_cases h
    all_goals
      have hkept := (Sketch.columns?_folder hcolumns).2.2.2.1
      rwa [Sketch.over, hgiven] at hkept
  | request p =>
    obtain rfl := Option.some.inj hy
    have hgiven : d.sortPriority = .value x := hgiven
    obtain ⟨-, -, ⟨old, -, -, hcolumns⟩ | ⟨-, -, hcolumns⟩⟩ := candidate_cases h
    all_goals
      have hkept := (Sketch.columns?_request hcolumns).2.2.2.2.1
      rwa [Sketch.over, hgiven] at hkept

/-- A request is stored with the call that a draft gives. -/
theorem call_of_candidate {p : Protocol} {d : Sketch (.request p)} {r : Row (.request p)}
    {c : Call p} (h : s.candidate id d now = .ok r) (hgiven : d.call = Call.sketch c) :
    r.data.call = c := by
  obtain ⟨-, -, ⟨old, -, -, hcolumns⟩ | ⟨-, -, hcolumns⟩⟩ := candidate_cases h
  all_goals
    have hcall := (Sketch.columns?_request hcolumns).2.2.2.1
    rw [Sketch.over, hgiven] at hcall
    cases p
    all_goals
      simp [Call.Sketch.over, Call.sketch, Call.Sketch.columns?, Columns.defaults, Call.defaults,
        Given.required, bind_eq_ok_iff] at hcall
      exact hcall.symm

end Store

end RequestCatalog

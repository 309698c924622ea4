import RequestCatalog.Proofs.Nesting

/-! # Workspaces keep to themselves

  A call names a workspace with the record that it sends, or by the stored record that it
  is about (`Command.Names`). All that it writes or deletes belongs to such a workspace, so
  the store before the call and the store after it agree on every other one. Questions
  about those are answered as before.
-/

namespace RequestCatalog

/-! ### Calls and workspaces -/

namespace Api

/-- The record that a command is about, by the identifier in its address or in its body. -/
def Command.addresses? : Command → Option Key
  | .get k id | .delete k id _ => some ⟨k, id⟩
  | .duplicate p id _ | .requestAuthentication p id | .requestEntries p id => some ⟨.request p, id⟩
  | .listContents _ id | .folderAuthentication id | .folderEntries id => some ⟨.folder, id⟩
  | command => command.form?.map fun ⟨k, form⟩ => ⟨k, form.id⟩

/-- The command names the workspace: it was sent with a record, or it is the workspace of the
    stored record that the command is about. -/
def Command.Names (command : Command) (s : Store) (w : String) : Prop :=
  (∃ k form, command.form? = some ⟨k, form⟩ ∧ form.workspaceId? = some w) ∨
    ∃ key, command.addresses? = some key ∧ s.workspaceOf? key = some w

/-- The command asks about the workspace: about its folders or requests as a whole, or about a
    single record that belongs to it. -/
inductive Command.Concerns (s : Store) (w : String) : Command → Prop where
  | folders : Concerns s w (.listFolders w)
  | requests {p : Protocol} : Concerns s w (.listRequests p w)
  | contents {p : Protocol} {f : Row .folder} (hf : f ∈ s.rows .folder)
      (hw : f.workspaceId = w) : Concerns s w (.listContents p f.id)
  | record {k : Kind} {row : Row k} (hrow : row ∈ s.rows k) (hw : row.workspaceId = w) :
      Concerns s w (.get k row.id)
  | folderAuthentication {f : Row .folder} (hf : f ∈ s.rows .folder) (hw : f.workspaceId = w) :
      Concerns s w (.folderAuthentication f.id)
  | folderEntries {f : Row .folder} (hf : f ∈ s.rows .folder) (hw : f.workspaceId = w) :
      Concerns s w (.folderEntries f.id)
  | request {p : Protocol} {r : Row (.request p)} {command : Command}
      (hr : r ∈ s.rows (.request p)) (hw : r.workspaceId = w) (hresolves : command.Resolves r) :
      Concerns s w command

variable {command : Command} {s t : Store} {w : String}

theorem Command.addresses?_of_form? {k : Kind} {form : Form k}
    (h : command.form? = some ⟨k, form⟩) : command.addresses? = some ⟨k, form.id⟩ := by
  cases command with
  | writeWorkspace | writeFolder | writeRequest =>
    cases h
    rfl
  | _ => cases h

/-- No command sends what came back from a request. -/
theorem Command.form?_ne_exchange {p : Protocol} {form : Form (.exchange p)} :
    command.form? ≠ some ⟨.exchange p, form⟩ := by
  intro h
  cases command with
  | _ => cases h

/-- A command leaves every stored workspace as it is that it does not name. -/
theorem Command.Acts.agreesOn (h : command.Acts s t) (hs : s.Settled)
    (hheld : s.holds ⟨.workspace, w⟩ = true) (hnot : ¬ command.Names s w) : s.AgreesOn t w := by
  cases h with
  | rests => exact fun _ => rfl
  | @writes k form row hform hid hworkspace =>
    have hold : ∀ old ∈ s.rows k, old.id = row.id → old.workspaceId ≠ w := by
      intro old hmem hsame hw
      rcases hid with hnamed | hnew
      · -- the call is about the record that is replaced
        refine hnot (.inr ⟨old.key, ?_, ?_⟩)
        · rw [addresses?_of_form? hform, Row.key, hsame, hnamed]
        · rw [hs.coherent.workspaceOf?_key hmem, hw]
      · exact Store.id_ne_of_not_holds hnew hmem hsame
    refine .put (fun hw => ?_) hold
    cases k with
    | workspace =>
      -- a workspace that is stored is not new
      obtain ⟨old, hmem, hsame⟩ := Store.holds_iff.mp hheld
      exact hold old hmem (hsame.trans hw.symm) hsame
    | folder | request p =>
      exact hnot (.inl ⟨_, form, hform, by rw [← hw, hworkspace _ rfl]; rfl⟩)
    | exchange p => exact form?_ne_exchange hform
  | @copies p id source r row hcommand hget hnew hworkspace =>
    refine .put (fun hw => ?_) fun old hmem hsame => ?_
    · refine hnot (.inr ⟨⟨.request p, id⟩, by rw [hcommand]; rfl, ?_⟩)
      simp only [Store.workspaceOf?, hget, Option.map_some]
      rw [← hw]
      exact congrArg some hworkspace.symm
    · exact absurd hsame (Store.id_ne_of_not_holds hnew hmem)
  | @deletes k id source row hcommand hget =>
    refine .delete hs fun hw => hnot (.inr ⟨row.key, ?_, hw⟩)
    rw [hcommand, Row.key, Store.id_of_get? hget]
    rfl

/-- A question about a workspace is answered alike where the stores agree on it. -/
theorem Command.Concerns.alike {c d : Catalog} (h : command.Concerns c.store w)
    (hagrees : c.store.AgreesOn d.store w) (hc : c.store.Settled) (hd : d.store.Settled)
    (hjournal : d.journal = c.journal) : command.run.Alike c d := by
  have hfetched : ∀ {k : Kind} {row : Row k}, row ∈ c.store.rows k → row.workspaceId = w →
      c.store.get? k row.id = some row ∧ d.store.get? k row.id = some row := by
    intro k row hrow hw
    have hget := hc.distinct.get?_of_mem hrow
    exact ⟨hget, hagrees.get?_eq hd.distinct hget hw⟩
  have habove : ∀ {f : Row .folder}, f ∈ c.store.rows .folder → f.workspaceId = w →
      c.store.AgreesAbove d.store f.node := by
    rintro f hf rfl
    exact hagrees.agreesAbove hc.contained hd.distinct rfl (hc.contained.folder f hf)
  cases h with
  | folders => exact Op.alike_ask_bind hagrees.foldersOf_eq hjournal (Op.alike_pure _ hjournal)
  | requests =>
    exact Op.alike_ask_bind (hagrees.requestsOf_eq _) hjournal (Op.alike_pure _ hjournal)
  | @contents p f hf hw =>
    have hsame := hagrees.requestsUnder_eq hc hd (hfetched hf hw).1 hw p
    exact Op.alike_consult_bind hsame hjournal fun _ _ => Op.alike_pure _ hjournal
  | record hrow hw =>
    obtain ⟨hstored, hkept⟩ := hfetched hrow hw
    exact Op.alike_fetch_bind hstored hkept hjournal (Op.alike_pure _ hjournal)
  | folderAuthentication hf hw =>
    obtain ⟨hstored, hkept⟩ := hfetched hf hw
    apply Op.alike_fetch_bind hstored hkept hjournal
    exact Op.alike_askUpwards_map (habove hf hw).folderAuthentication_eq hjournal
  | folderEntries hf hw =>
    obtain ⟨hstored, hkept⟩ := hfetched hf hw
    apply Op.alike_fetch_bind hstored hkept hjournal
    exact Op.alike_askUpwards_map (habove hf hw).folderEntries_eq hjournal
  | @request p r command hr hw hresolves =>
    obtain ⟨hstored, hkept⟩ := hfetched hr hw
    have hplace := hc.contained.request p r hr
    subst hw
    exact hresolves.alike hjournal hstored hkept hplace
      (hagrees.agreesAbove hc.contained hd.distinct rfl hplace)

/-! ### The list of workspaces -/

section listed

variable {a b c : Row .workspace}

theorem listedBefore_iff : listedBefore a b = true ↔
    a.createdAt.seconds < b.createdAt.seconds ∨ (a.createdAt = b.createdAt ∧ a.id ≤ b.id) := by
  simp [listedBefore]

theorem listedBefore_trans (hab : listedBefore a b = true) (hbc : listedBefore b c = true) :
    listedBefore a c = true := by
  rw [listedBefore_iff] at hab hbc ⊢
  rcases hab with hab | ⟨hab, hid⟩
  · rcases hbc with hbc | ⟨hbc, -⟩
    · exact .inl (Int.lt_trans hab hbc)
    · exact .inl (hbc ▸ hab)
  · rcases hbc with hbc | ⟨hbc, hid'⟩
    · exact .inl (hab ▸ hbc)
    · exact .inr ⟨hab.trans hbc, String.le_trans hid hid'⟩

theorem listedBefore_total (a b : Row .workspace) :
    (listedBefore a b || listedBefore b a) = true := by
  rw [Bool.or_eq_true, listedBefore_iff, listedBefore_iff]
  rcases Int.lt_trichotomy a.createdAt.seconds b.createdAt.seconds with hlt | heq | hgt
  · exact .inl (.inl hlt)
  · have hsame : a.createdAt = b.createdAt := by
      rw [← Instant.mk.injEq] at heq
      exact heq
    rcases String.le_total a.id b.id with hle | hle
    · exact .inl (.inr ⟨hsame, hle⟩)
    · exact .inr (.inr ⟨hsame.symm, hle⟩)
  · exact .inr (.inl hgt)

/-- Two workspaces that may stand either way have the same identifier. -/
theorem id_eq_of_listedBefore (hab : listedBefore a b = true) (hba : listedBefore b a = true) :
    a.id = b.id := by
  rw [listedBefore_iff] at hab hba
  rcases hab with hlt | ⟨hsame, hle⟩
  · have hnot : ¬ b.createdAt.seconds < a.createdAt.seconds := Int.lt_asymm hlt
    rcases hba with hlt' | ⟨hsame, -⟩
    · exact absurd hlt' hnot
    · rw [hsame] at hlt
      exact absurd hlt (Int.lt_irrefl _)
  · rcases hba with hlt | ⟨-, hle'⟩
    · rw [hsame] at hlt
      exact absurd hlt (Int.lt_irrefl _)
    · exact String.le_antisymm hle hle'

end listed

/-- Workspaces with identifiers of their own can be listed in one order only, so listing and
    selecting can be exchanged. -/
theorem filter_mergeSort_listedBefore {rows : List (Row .workspace)}
    (hnodup : (rows.map Row.id).Nodup) (q : Row .workspace → Bool) :
    (rows.filter q).mergeSort listedBefore = (rows.mergeSort listedBefore).filter q := by
  have hsorted : ∀ l : List (Row .workspace),
      (l.mergeSort listedBefore).Pairwise (listedBefore · · = true) :=
    List.pairwise_mergeSort (fun _ _ _ => listedBefore_trans) listedBefore_total
  have hperm : ((rows.filter q).mergeSort listedBefore).Perm
      ((rows.mergeSort listedBefore).filter q) :=
    (List.mergeSort_perm _ _).trans ((List.mergeSort_perm rows _).filter q).symm
  have hmem : ∀ x ∈ (rows.mergeSort listedBefore).filter q, x ∈ rows := fun x hx =>
    List.mem_mergeSort.mp (List.mem_of_mem_filter hx)
  refine hperm.eq_of_pairwise (fun a b ha hb hab hba => ?_) (hsorted _) ((hsorted rows).filter q)
  exact List.inj_on_of_nodup_map hnodup (hmem a (hperm.mem_iff.mp ha)) (hmem b hb)
    (id_eq_of_listedBefore hab hba)

end Api

namespace Catalog

variable {c : Catalog} {at? : Option Int} {incoming : Api.Incoming} {w : String}

/-- Every question about the workspace is answered alike in both catalogues, at any time. -/
def SameAbout (c d : Catalog) (w : String) : Prop :=
  ∀ question asked, question.Gives asked → asked.Concerns c.store w → ∀ first? second?,
    (TimedStep.take ⟨second?, .call question⟩ d).1 = (TimedStep.take ⟨first?, .call question⟩ c).1

/-- A call leaves every stored workspace as it is that it does not name. -/
theorem Served.agreesOn (hc : c.Served)
    (hfresh : c.MakesFresh (TimedStep.take ⟨at?, .call incoming⟩ c).2)
    (hheld : c.store.holds ⟨.workspace, w⟩ = true)
    (hnot : ∀ command, incoming.Gives command → ¬ command.Names c.store w) :
    c.store.AgreesOn (TimedStep.take ⟨at?, .call incoming⟩ c).2.store w := by
  rcases hc.acts hfresh with hsame | ⟨command, hgives, hacts⟩
  · rw [hsame]
    exact fun _ => rfl
  · exact hacts.agreesOn hc.settled hheld (hnot command hgives)

theorem Served.sameAbout (hc : c.Served)
    (hfresh : c.MakesFresh (TimedStep.take ⟨at?, .call incoming⟩ c).2)
    (hheld : c.store.holds ⟨.workspace, w⟩ = true)
    (hnot : ∀ command, incoming.Gives command → ¬ command.Names c.store w) :
    c.SameAbout (TimedStep.take ⟨at?, .call incoming⟩ c).2 w := by
  intro question asked hgives hconcerns first? second?
  have hagrees := hc.agreesOn hfresh hheld hnot
  have hlater := (hc.call at? incoming hfresh).settled
  apply TimedStep.answer_of_alike hgives
  exact Api.Command.Concerns.alike (c := TimedStep.before ⟨first?, .call question⟩ c) hconcerns
    hagrees hc.settled hlater rfl

/-- The answer that lists these workspaces. -/
def showing (rows : List (Row .workspace)) : Answer where
  outcome := .ok (.reply (.showing 200 (Api.shownRows? rows)))
  journal := []

theorem take_listWorkspaces {question : Api.Incoming} (hasks : question.Gives .listWorkspaces)
    (at? : Option Int) (c : Catalog) : (TimedStep.take ⟨at?, .call question⟩ c).1 =
      showing (c.store.workspaces.mergeSort Api.listedBefore) := by
  have hrun : Api.Command.listWorkspaces.run (TimedStep.before ⟨at?, .call question⟩ c) =
      .ok (.showing 200 (Api.shownRows? (c.store.workspaces.mergeSort Api.listedBefore)))
        (TimedStep.before ⟨at?, .call question⟩ c) := rfl
  rw [TimedStep.take_call_of_ok hasks hrun]
  rfl

/-- A deleted workspace that is not too deep is gone with the records that belong to it. All other
    records stay as they are, in their order. -/
theorem rows_of_delete_workspace (hc : c.store.Coherent) {source : Source}
    (hgives : incoming.Gives (.delete .workspace w source))
    (hshallow : ¬ c.store.TooDeep ⟨.workspace, w⟩) (at? : Option Int) (k : Kind) :
    (TimedStep.take ⟨at?, .call incoming⟩ c).2.store.rows k =
      (c.store.rows k).filter (·.workspaceId != w) := by
  let b := TimedStep.before ⟨at?, .call incoming⟩ c
  have hleft := Api.serve_left_of_gives hgives b
  rw [TimedStep.take_snd, Step.call_left, hleft]
  cases hget : c.store.get? .workspace w with
  | some row =>
    have hfound : b.store.get? .workspace w = some row := hget
    obtain rfl := Store.id_of_get? hget
    rw [Api.Command.delete_left_of_found source hfound]
    show ((Op.delete row source.name).left b).store.rows k = _
    have herase := Store.erase_of_not_tooDeep hc.distinct (Store.holds_of_get? hget) hshallow
    rw [Op.delete_left, show b.store.erased row.key = _ from Store.erased_of_ok herase]
    exact hc.rows_delete_workspace row.id k
  | none =>
    have hmissing : b.store.get? .workspace w = none := hget
    rw [Api.Command.delete_left_of_missing source hmissing]
    -- nothing belongs to a workspace that is not stored
    have hnone : ∀ row ∈ c.store.rows k, (row.workspaceId != w) = true := by
      intro row hrow
      rw [bne_iff_ne]
      rintro rfl
      have hheld := hc.holds_workspace hrow
      rw [Store.get?_eq_none_iff.mp hget] at hheld
      cases hheld
    exact (List.filter_eq_self.mpr hnone).symm

/-- A workspace that is too deep stays. -/
theorem store_of_delete_workspace_of_tooDeep (hs : c.store.Distinct) {source : Source}
    (hgives : incoming.Gives (.delete .workspace w source))
    (hdeep : c.store.TooDeep ⟨.workspace, w⟩) (at? : Option Int) :
    (TimedStep.take ⟨at?, .call incoming⟩ c).2.store = c.store := by
  let b := TimedStep.before ⟨at?, .call incoming⟩ c
  rw [TimedStep.take_snd, Step.call_left, Api.serve_left_of_gives hgives b]
  cases hget : c.store.get? .workspace w with
  | some row =>
    have hfound : b.store.get? .workspace w = some row := hget
    obtain rfl := Store.id_of_get? hget
    rw [Api.Command.delete_left_of_found source hfound]
    show ((Op.delete row source.name).left b).store = _
    rw [Op.delete_left]
    exact Store.erased_of_error ((Store.erase_eq_error_iff hs (Store.holds_of_get? hget)).mpr hdeep)
  | none =>
    have hmissing : b.store.get? .workspace w = none := hget
    rw [Api.Command.delete_left_of_missing source hmissing]
    rfl

/-- A workspace that is too deep has a folder, so it is stored. -/
theorem Served.exists_workspace_of_tooDeep (hc : c.Served)
    (h : c.store.TooDeep ⟨.workspace, w⟩) : ∃ row, c.store.get? .workspace w = some row := by
  obtain ⟨before, f, after, hfolders, -⟩ := h
  have hmem : f ∈ c.store.foldersOf w := by
    rw [hfolders]
    exact List.mem_append_right _ List.mem_cons_self
  obtain ⟨hf, hworkspace⟩ := List.mem_filter.mp hmem
  have hheld := (hc.contained.folder f hf).1
  rw [beq_iff_eq.mp hworkspace] at hheld
  exact Store.get?_of_holds hheld

/-- Wherever calls get, a call changes or removes records of those workspaces only that it names:
    with the record that it sends, or by the stored record that it is about. All that can be asked
    about another stored workspace has the same answer as before. If the call deletes a workspace
    that is not too deep, exactly the records that belong to it are removed, and the others are
    listed as before without it. If the workspace is too deep, the tables refuse, and all stays. -/
theorem Served.workspaces_isolated (hc : c.Served)
    (hfresh : c.MakesFresh (TimedStep.take ⟨at?, .call incoming⟩ c).2) :
    (∀ k, ∀ row ∈ c.store.rows k,
      row ∉ (TimedStep.take ⟨at?, .call incoming⟩ c).2.store.rows k →
        ∃ command, incoming.Gives command ∧ command.Names c.store row.workspaceId) ∧
    (∀ w, c.store.holds ⟨.workspace, w⟩ = true →
      (∀ command, incoming.Gives command → ¬ command.Names c.store w) →
        c.SameAbout (TimedStep.take ⟨at?, .call incoming⟩ c).2 w) ∧
    ∀ w source, incoming.Gives (.delete .workspace w source) →
      (∀ other, c.store.holds ⟨.workspace, other⟩ = true → other ≠ w →
        c.SameAbout (TimedStep.take ⟨at?, .call incoming⟩ c).2 other) ∧
      (¬ c.store.TooDeep ⟨.workspace, w⟩ →
        (∀ k, (TimedStep.take ⟨at?, .call incoming⟩ c).2.store.rows k =
          (c.store.rows k).filter (·.workspaceId != w)) ∧
        ∀ question, question.Gives .listWorkspaces → ∀ first? second?, ∃ listed,
          (TimedStep.take ⟨first?, .call question⟩ c).1 = showing listed ∧
          (TimedStep.take ⟨second?, .call question⟩
              (TimedStep.take ⟨at?, .call incoming⟩ c).2).1 =
            showing (listed.filter (·.id != w))) ∧
      (c.store.TooDeep ⟨.workspace, w⟩ → ∃ left,
        TimedStep.take ⟨at?, .call incoming⟩ c =
          (⟨.ok (.reply .notStored), left.journal⟩, left) ∧ left.store = c.store) := by
  refine ⟨fun k row hrow hgone => ?_, fun w => hc.sameAbout hfresh, fun w source hdeletes => ?_⟩
  · by_contra hnone
    have hnot : ∀ command, incoming.Gives command → ¬ command.Names c.store row.workspaceId :=
      fun command hgives hnames => hnone ⟨command, hgives, hnames⟩
    have hagrees := hc.agreesOn hfresh (hc.settled.holds_workspace hrow) hnot
    exact hgone (hagrees.mem_rows hrow rfl)
  refine ⟨fun other hheld hother => hc.sameAbout hfresh hheld ?_, fun hshallow => ?_,
    fun hdeep => ?_⟩
  · -- the call names the workspace that it deletes, and no other one
    intro command hgives hnames
    obtain rfl := hdeletes.unique hgives
    rcases hnames with ⟨k, form, hform, -⟩ | ⟨key, haddressed, hworkspace⟩
    · cases hform
    · obtain rfl := Option.some.inj haddressed
      obtain ⟨found, hget, hid⟩ := Option.map_eq_some_iff.mp hworkspace
      exact hother (hid.symm.trans (Store.id_of_get? hget))
  · have hrows := rows_of_delete_workspace hc.settled.coherent hdeletes hshallow at?
    refine ⟨hrows, fun question hasks first? second? => ?_⟩
    refine ⟨_, take_listWorkspaces hasks first? c, ?_⟩
    rw [take_listWorkspaces hasks second?]
    have hleft : (TimedStep.take ⟨at?, .call incoming⟩ c).2.store.workspaces =
        c.store.workspaces.filter (·.id != w) := hrows .workspace
    have hlisted := Api.filter_mergeSort_listedBefore (hc.settled.distinct .workspace) (·.id != w)
    rw [hleft]
    exact congrArg showing hlisted
  · obtain ⟨row, hget⟩ := hc.exists_workspace_of_tooDeep hdeep
    have hkey : row.key = ⟨.workspace, w⟩ := congrArg (Key.mk .workspace) (Store.id_of_get? hget)
    obtain ⟨left, htake, hstore, -⟩ := hc.take_deletesTooDeep hdeletes
      ⟨.workspace, w, source, row, rfl, hget, hkey.symm ▸ hdeep⟩ at?
    exact ⟨left, htake, hstore⟩

/-- The run of calls, and a second workspace with a folder and a request in it. -/
def neighbouring : Catalog :=
  (runFrom toured
    [.post "/api/workspaces" [("id", .text "v"), ("name", .text "v")],
     .post "/api/folders" [("id", .text "f"), ("workspace_id", .text "v"), ("name", .text "f")],
     .post "/api/grpc-requests" [("id", .text "g"), ("workspace_id", .text "v"),
      ("folder_id", .text "f")]]).2

theorem neighbouring_served : neighbouring.Served :=
  toured_served.runFrom (by decide +kernel)

/-- The first workspace is deleted with its folders and requests. The second one goes on to have
    its folder and its request, and the answer that lists them is the same. -/
theorem neighbouring_workspaces_isolated :
    let deleting : TimedStep := ⟨none, .call (bare "DELETE" "/api/workspaces/w")⟩
    let asking : TimedStep := ⟨none, .call (bare "GET" "/api/folders/f/grpc-requests")⟩
    (neighbouring.store.rows .folder).map Row.id = ["outer", "inner", "top", "f"] ∧
      (deleting.take neighbouring).2.store.rows .folder =
        (neighbouring.store.rows .folder).filter (·.workspaceId != "w") ∧
      ((deleting.take neighbouring).2.store.rows .folder).map Row.id = ["f"] ∧
      (asking.take neighbouring).1.status? = some 200 ∧
      (asking.take (deleting.take neighbouring).2).1 = (asking.take neighbouring).1 := by
  intro deleting asking
  have hdeletes : (bare "DELETE" "/api/workspaces/w").Gives (.delete .workspace "w" .window) :=
    ⟨.record .workspace "w", by decide +kernel, rfl⟩
  obtain ⟨f, hf, hid⟩ : ∃ f ∈ neighbouring.store.rows .folder, f.id = "f" :=
    Store.holds_iff.mp (by decide +kernel)
  have hworkspace : f.workspaceId = "v" := by
    have hall : ∀ f ∈ neighbouring.store.rows .folder, f.id = "f" → f.workspaceId = "v" := by
      decide +kernel
    exact hall f hf hid
  have hasks : (bare "GET" "/api/folders/f/grpc-requests").Gives (.listContents .grpc f.id) := by
    rw [hid]
    exact ⟨.contents .grpc "f", by decide +kernel, rfl⟩
  have hfresh : neighbouring.MakesFresh (deleting.take neighbouring).2 := by decide +kernel
  have hshallow : ¬ neighbouring.store.TooDeep ⟨.workspace, "w"⟩ :=
    Store.not_tooDeep_of_erase neighbouring_served.reached.intact.distinct (by decide +kernel)
      (by decide +kernel)
  obtain ⟨hothers, hremoved, -⟩ :=
    (neighbouring_served.workspaces_isolated hfresh).2.2 "w" .window hdeletes
  refine ⟨by decide +kernel, (hremoved hshallow).1 .folder, by decide +kernel,
      by decide +kernel, ?_⟩
  exact hothers "v" (by decide +kernel) (by decide) _ _ hasks (.contents hf hworkspace) none none

/-! ### A workspace that stays -/

/-- The call that deletes a workspace with a thousand folders inside each other leaves it there,
    with all that belongs to it. -/
theorem nested_workspace_stays :
    let deleting : TimedStep := ⟨none, .call (bare "DELETE" "/api/workspaces/w")⟩
    (nested 999).Served ∧ (nested 999).MakesFresh (deleting.take (nested 999)).2 ∧
      (bare "DELETE" "/api/workspaces/w").Gives (.delete .workspace "w" .window) ∧
      (nested 999).store.holds ⟨.workspace, "w"⟩ = true ∧
      (deleting.take (nested 999)).2.store = (nested 999).store := by
  intro deleting
  have hserved := (nesting 999).served
  have hgives : (bare "DELETE" "/api/workspaces/w").Gives (.delete .workspace "w" .window) :=
    ⟨.record .workspace "w", by decide +kernel, rfl⟩
  have hheld := (nesting 999).holds_workspace
  obtain ⟨row, hget⟩ := Store.get?_of_holds hheld
  have hkey : row.key = ⟨.workspace, "w"⟩ := congrArg (Key.mk .workspace) (Store.id_of_get? hget)
  have hdeletes : (Api.Command.delete .workspace "w" .window).DeletesTooDeep (nested 999).store :=
    ⟨.workspace, "w", .window, row, rfl, hget, hkey.symm ▸ nested_workspace_tooDeep (by decide)⟩
  obtain ⟨left, htake, hstore, hissued⟩ := hserved.take_deletesTooDeep hgives hdeletes none
  have htaken : (deleting.take (nested 999)).2 = left := congrArg Prod.snd htake
  refine ⟨hserved, ?_, hgives, hheld, htaken ▸ hstore⟩
  rw [htaken]
  intro key hkey
  rw [hissued, List.drop_length] at hkey
  cases hkey

end Catalog

end RequestCatalog

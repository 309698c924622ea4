import RequestCatalog.Proofs.Recording

/-! # Clearing a request away

  A request can be deleted in two ways. One deletes what came back from it, result by result,
  and then the request, each with a write of its own. The other deletes the request and leaves
  it to the tables to take along what refers to it.

  Nothing refers to a result. So each write of the first way takes one record, and when the
  request is reached nothing refers to it any more. The second way takes the same records at
  once: nothing refers to them but what is taken.

  * `Store.without` is the store without some records and says what each of the writes leaves.
  * `Store.ClearedOf` says what either way leaves of the tables.
  * `Catalog.Reached.clears_request`: the two ways leave the same. Under a name that no source
    has the first way stops after its first write.
-/

namespace RequestCatalog

namespace Store

variable {s t : Store} {k : Kind} {p : Protocol}

/-! ### Stores without some records -/

/-- The store without these records. -/
def without (s : Store) (gone : List Key) : Store :=
  s.keep fun key => !gone.contains key

theorem rows_without {gone : List Key} :
    (s.without gone).rows k = (s.rows k).filter fun row => !gone.contains row.key :=
  rows_keep s _ k

theorem mem_rows_without {gone : List Key} {row : Row k} :
    row ∈ (s.without gone).rows k ↔ row ∈ s.rows k ∧ row.key ∉ gone := by
  unfold without
  rw [mem_rows_keep, Bool.not_eq_true', List.contains_eq_mem, decide_eq_false_iff_not]

theorem without_nil : s.without [] = s := by
  refine ext_rows fun k => ?_
  rw [rows_without]
  exact List.filter_eq_self.mpr fun _ _ => rfl

theorem without_without (gone more : List Key) :
    (s.without gone).without more = s.without (gone ++ more) := by
  refine ext_rows fun k => ?_
  rw [rows_without, rows_without, rows_without, List.filter_filter]
  refine List.filter_congr fun row _ => ?_
  rw [List.contains_append, Bool.not_or, Bool.and_comm]

/-- Of the records that go with one, only those matter that are stored. -/
theorem delete_eq_without {key : Key} {gone : List Key}
    (hgone : ∀ k, ∀ row ∈ s.rows k, s.Depends key row.key ↔ row.key ∈ gone) :
    s.delete key = s.without gone := by
  refine ext_rows fun k => ?_
  show (s.without (s.dependents key)).rows k = _
  rw [rows_without, rows_without]
  refine List.filter_congr fun row hrow => ?_
  have hsame : row.key ∈ s.dependents key ↔ row.key ∈ gone :=
    mem_dependents_iff.trans (hgone k row hrow)
  simp only [List.contains_eq_mem, hsame]

/-- A record that no other refers to is deleted alone. -/
theorem delete_of_unreferred {key : Key} (hnone : ∀ k, ∀ row ∈ s.rows k, key ∉ row.refs) :
    s.delete key = s.without [key] := by
  refine delete_eq_without fun k row _ => ?_
  rw [List.mem_singleton]
  constructor
  · intro h
    generalize hother : row.key = other at h
    -- the record that another one depends on is the deleted one itself
    have halone : ∀ other, s.Depends key other → other = key := by
      intro other h
      induction h with
      | self => rfl
      | refers hrow href _ ih =>
        rw [ih] at href
        exact absurd href (hnone _ _ hrow)
    exact halone other h
  · intro h
    rw [h]
    exact .self

/-! ### Who refers to requests and to what came back from them -/

/-- Nothing refers to a result. -/
theorem exchange_not_mem_refs (row : Row k) (id : String) : ⟨.exchange p, id⟩ ∉ row.refs := by
  cases k <;> simp [Row.refs, Columns.refs]

theorem erase_exchange_eq (s : Store) (e : Row (.exchange p)) :
    s.erase e.key = .ok (s.without [e.key]) := by
  have halone : s.delete e.key = s.without [e.key] :=
    delete_of_unreferred fun _ row _ => exchange_not_mem_refs row e.id
  rw [erase_of_request (.inl rfl), halone]

/-- Only results refer to a request. -/
theorem request_mem_refs {row : Row k} {id : String} (h : ⟨.request p, id⟩ ∈ row.refs) :
    ∃ e : Row (.exchange p), (⟨k, row⟩ : (k : Kind) × Row k) = ⟨.exchange p, e⟩ ∧
      e.data.requestId = id := by
  cases k with
  | workspace | folder | request => simp [Row.refs, Columns.refs] at h
  | exchange q =>
    obtain ⟨rfl, hid⟩ : p = q ∧ id = row.data.requestId := by
      simpa [Row.refs, Columns.refs] using h
    exact ⟨row, rfl, hid.symm⟩

/-- A request with what came back from it, in the order in which they are deleted one by one. -/
def belongings (s : Store) (r : Row (.request p)) : List Key :=
  (s.exchangesOf p r.id).map Row.key ++ [r.key]

theorem key_mem_belongings {r : Row (.request p)} {row : Row k} (hrow : row ∈ s.rows k)
    (href : r.key ∈ row.refs) : row.key ∈ (s.exchangesOf p r.id).map Row.key := by
  obtain ⟨e, hsame, hid⟩ := request_mem_refs href
  cases hsame
  exact List.mem_map_of_mem (mem_exchangesOf.mpr ⟨hrow, hid⟩)

/-- The tables take along with a request what came back from it. -/
theorem erase_request_eq (s : Store) (r : Row (.request p)) :
    s.erase r.key = .ok (s.without (s.belongings r)) := by
  rw [erase_of_request (.inr rfl)]
  refine congrArg Except.ok (delete_eq_without fun k row hrow => ?_)
  constructor
  · generalize row.key = other
    intro h
    induction h with
    | self => exact List.mem_append_right _ (List.mem_singleton.mpr rfl)
    | refers hrow href _ ih =>
      refine List.mem_append_left _ ?_
      rcases List.mem_append.mp ih with hresult | hself
      · obtain ⟨e, -, rfl⟩ := List.mem_map.mp hresult
        exact absurd href (exchange_not_mem_refs _ _)
      · rw [List.mem_singleton.mp hself] at href
        exact key_mem_belongings hrow href
  · intro h
    rcases List.mem_append.mp h with hresult | hself
    · obtain ⟨e, he, hkey⟩ := List.mem_map.mp hresult
      obtain ⟨hmem, hid⟩ := mem_exchangesOf.mp he
      rw [← hkey]
      exact .refers hmem (by simp [Row.refs, Columns.refs, hid, Row.key]) .self
    · rw [List.mem_singleton.mp hself]
      exact .self

/-- Once what came back from a request is gone, the request goes alone. -/
theorem erase_request_of_without (s : Store) (r : Row (.request p)) :
    (s.without ((s.exchangesOf p r.id).map Row.key)).erase r.key =
      .ok (s.without (s.belongings r)) := by
  rw [erase_of_request (.inr rfl), delete_of_unreferred, without_without]
  · rfl
  · intro k row hrow href
    obtain ⟨hmem, hstays⟩ := mem_rows_without.mp hrow
    exact hstays (key_mem_belongings hmem href)

/-! ### What is left of the tables -/

/-- Between the two stores a request went with everything that came back from it. What came back
    from other requests stays, and so does every record of another kind. -/
structure ClearedOf (s t : Store) (r : Row (.request p)) : Prop where
  requests : t.rows (.request p) = (s.rows (.request p)).filter (·.id != r.id)
  exchanges : t.rows (.exchange p) = (s.rows (.exchange p)).filter (·.data.requestId != r.id)
  others : ∀ k, k ≠ .request p → k ≠ .exchange p → t.rows k = s.rows k

/-- Between the two stores one record went, and nothing else changed. -/
def Drops (s t : Store) (key : Key) : Prop :=
  ∀ k, t.rows k = (s.rows k).filter fun row => row.key != key

theorem drops_without (s : Store) (key : Key) : s.Drops (s.without [key]) key := by
  intro k
  rw [rows_without]
  refine List.filter_congr fun row _ => ?_
  rw [List.contains_cons, List.contains_nil, Bool.or_false]
  rfl

/-- Identifiers tell the results of one request from those of all others. -/
theorem Distinct.clearedOf (hs : s.Distinct) (r : Row (.request p)) :
    s.ClearedOf (s.without (s.belongings r)) r := by
  have hmem : ∀ key, key ∈ s.belongings r ↔
      (∃ e ∈ s.exchangesOf p r.id, e.key = key) ∨ key = r.key := by
    simp [belongings]
  refine ⟨?_, ?_, fun k hrequest hexchange => ?_⟩
  · rw [rows_without]
    refine List.filter_congr fun row _ => ?_
    have hgone : row.key ∈ s.belongings r ↔ row.id = r.id := by
      simp [hmem, Row.key]
    simp [hgone, bne, Bool.beq_eq_decide_eq]
  · rw [rows_without]
    refine List.filter_congr fun row hrow => ?_
    have hgone : row.key ∈ s.belongings r ↔ row.data.requestId = r.id := by
      rw [hmem]
      constructor
      · rintro (⟨e, he, hkey⟩ | hkey)
        · obtain ⟨hstored, hid⟩ := mem_exchangesOf.mp he
          rwa [← hs.eq_of_id hstored hrow (congrArg Key.id hkey)]
        · cases congrArg Key.kind hkey
      · exact fun hid => .inl ⟨row, mem_exchangesOf.mpr ⟨hrow, hid⟩, rfl⟩
    simp [hgone, bne, Bool.beq_eq_decide_eq]
  · rw [rows_without]
    refine List.filter_eq_self.mpr fun row _ => ?_
    have hstays : row.key ∉ s.belongings r := by
      rw [hmem]
      rintro (⟨e, -, hkey⟩ | hkey)
      · exact hexchange (congrArg Key.kind hkey).symm
      · exact hrequest (congrArg Key.kind hkey)
    simp [hstays]

end Store

/-! ### Result by result -/

namespace Op

variable {p : Protocol}

/-- Under the name of a source the results go one by one, and each is reported. -/
theorem run_deleteAll (source : Source) (results : List (Row (.exchange p))) (c : Catalog) :
    deleteAll source.name results c = .ok results { c with
      store := c.store.without (results.map Row.key)
      journal := c.journal ++ results.map fun e => .deleted (.exchange p) e.id source } := by
  induction results generalizing c with
  | nil =>
    rw [List.map_nil, List.map_nil, Store.without_nil, List.append_nil]
    rfl
  | cons e rest ih =>
    have hfirst : delete e source.name c = .ok e { c with
        store := c.store.without [e.key]
        journal := c.journal ++ [.deleted (.exchange p) e.id source] } :=
      run_delete_known e c (Store.erase_exchange_eq _ _)
    unfold deleteAll
    rw [run_bind_of_ok hfirst, run_bind_of_ok (ih _), Store.without_without, List.append_assoc]
    rfl

/-- Under a name that no source has it ends with the first result, which is gone by then. -/
theorem run_deleteAll_of_unknown {name : String} (hunknown : Source.ofName? name = none)
    (e : Row (.exchange p)) (rest : List (Row (.exchange p))) (c : Catalog) :
    deleteAll name (e :: rest) c =
      .error (.unknownSource name) { c with store := c.store.without [e.key] } := by
  have hfirst : delete e name c =
      .error (.unknownSource name) { c with store := c.store.without [e.key] } :=
    run_delete_unknown e c hunknown (Store.erase_exchange_eq _ _)
  unfold deleteAll
  rw [run_bind, hfirst]

variable (r : Row (.request p)) (c : Catalog)

theorem run_deleteRequest (source : Source) :
    deleteRequest r source.name c = .ok r { c with
      store := c.store.without (c.store.belongings r)
      journal := c.journal ++
        (c.store.exchangesOf p r.id).map (fun e => .deleted (.exchange p) e.id source) ++
        [.deleted (.request p) r.id source] } := by
  have hresults : deleteExchanges p r.id source.name c = _ :=
    run_deleteAll source (c.store.exchangesOf p r.id) c
  unfold deleteRequest
  rw [run_bind_of_ok hresults]
  exact run_delete_known r _ (Store.erase_request_of_without _ _)

theorem run_deleteRequest_of_unknown {name : String} (hunknown : Source.ofName? name = none) :
    ∃ key, (c.store.belongings r).head? = some key ∧
      deleteRequest r name c =
        .error (.unknownSource name) { c with store := c.store.without [key] } := by
  unfold deleteRequest Store.belongings
  cases hresults : c.store.exchangesOf p r.id with
  | nil =>
    have hnone : deleteExchanges p r.id name c = .ok [] c := by
      show deleteAll name (c.store.exchangesOf p r.id) c = _
      rw [hresults]
      rfl
    -- nothing came back from the request, so nothing refers to it
    have halone : c.store.erase r.key = .ok (c.store.without [r.key]) := by
      rw [Store.erase_request_eq, Store.belongings, hresults]
      rfl
    refine ⟨r.key, rfl, ?_⟩
    rw [run_bind_of_ok hnone]
    exact run_delete_unknown r c hunknown halone
  | cons e rest =>
    have hfirst : deleteExchanges p r.id name c =
        .error (.unknownSource name) { c with store := c.store.without [e.key] } := by
      show deleteAll name (c.store.exchangesOf p r.id) c = _
      rw [hresults]
      exact run_deleteAll_of_unknown hunknown e rest c
    refine ⟨e.key, rfl, ?_⟩
    rw [run_bind, hfirst]

end Op

/-! ### The steps -/

namespace Catalog

/-- Wherever sessions get, a stored request is deleted result by result:

    * Under the name of a source this leaves the same store as deleting the request alone. It
      reports each result in the order in which the results were stored, and then the request.
      The request went with what came back from it, and nothing else did.
    * Under any other name it fails. What came back first is gone by then or, if nothing came
      back, the request. -/
theorem Reached.clears_request {c : Catalog} (hc : c.Reached) {p : Protocol}
    {r : Row (.request p)} (hr : r ∈ c.store.rows (.request p)) (at? : Option Int) :
    (∀ source : Source, ∃ left alone,
      TimedStep.take ⟨at?, .deleteRequest p r.id source.name⟩ c =
        (⟨.ok (.value (.text r.id)),
          (c.store.exchangesOf p r.id).map (fun e => .deleted (.exchange p) e.id source) ++
            [.deleted (.request p) r.id source]⟩, left) ∧
      TimedStep.take ⟨at?, .delete (.request p) r.id source.name⟩ c =
        (⟨.ok (.value (.text r.id)), [.deleted (.request p) r.id source]⟩, alone) ∧
      left.store = alone.store ∧ c.store.ClearedOf left.store r) ∧
    ∀ name, Source.ofName? name = none → ∃ left key,
      TimedStep.take ⟨at?, .deleteRequest p r.id name⟩ c =
        (⟨.error (.unknownSource name), []⟩, left) ∧
      ((c.store.exchangesOf p r.id).map Row.key ++ [r.key]).head? = some key ∧
      c.store.Drops left.store key := by
  have hget := hc.intact.distinct.get?_of_mem hr
  refine ⟨fun source => ?_, fun name hunknown => ?_⟩
  · let clearing : TimedStep := ⟨at?, .deleteRequest p r.id source.name⟩
    let deleting : TimedStep := ⟨at?, .delete (.request p) r.id source.name⟩
    have hclear := Op.run_deleteRequest r (clearing.before c) source
    have hclearing : clearing.step.run (clearing.before c) = .ok (.value (.text r.id)) _ :=
      (Op.run_bind_of_ok (c := clearing.before c) (Op.run_fetch hget) _).trans
        (Op.run_bind_of_ok hclear _)
    have hdelete : Op.delete r source.name (deleting.before c) = .ok r { deleting.before c with
        store := c.store.without (c.store.belongings r)
        journal := [.deleted (.request p) r.id source] } :=
      Op.run_delete_known r (deleting.before c) (Store.erase_request_eq _ _)
    have hdeleting : deleting.step.run (deleting.before c) = .ok (.value (.text r.id)) _ :=
      (Op.run_bind_of_ok (c := deleting.before c) (Op.run_fetch hget) _).trans
        (Op.run_bind_of_ok hdelete _)
    exact ⟨_, _, TimedStep.take_of_ok clearing hclearing, TimedStep.take_of_ok deleting hdeleting,
      rfl, hc.intact.distinct.clearedOf r⟩
  · let clearing : TimedStep := ⟨at?, .deleteRequest p r.id name⟩
    obtain ⟨key, hfirst, hdelete⟩ :=
      Op.run_deleteRequest_of_unknown r (clearing.before c) hunknown
    have hclearing : clearing.step.run (clearing.before c) = .error (.unknownSource name)
        { clearing.before c with store := c.store.without [key] } := by
      show (Op.fetch (.request p) r.id >>= fun r => Op.deleteRequest r name >>= _) _ = _
      rw [Op.run_bind_of_ok (c := clearing.before c) (Op.run_fetch hget), Op.run_bind, hdelete]
      rfl
    exact ⟨_, key, TimedStep.take_of_error clearing hclearing, hfirst,
      c.store.drops_without key⟩

/-- Two requests of each protocol in one workspace, with results of the first ones. -/
def answered : Catalog :=
  (runFrom {}
    [.post "/api/workspaces" [("id", .text "w"), ("name", .text "shop")],
     .post "/api/http-requests" [("id", .text "r"), ("workspace_id", .text "w")],
     .post "/api/http-requests" [("id", .text "q"), ("workspace_id", .text "w")],
     .post "/api/grpc-requests" [("id", .text "r"), ("workspace_id", .text "w")],
     result .http "first" "r", result .http "other" "q", result .http "second" "r",
     result .grpc "first" "r"]).2
where
  /-- Record a result of a request. -/
  result : Protocol → String → String → TimedStep
    | .http, id, requestId => ⟨none, .upsert (.exchange .http)
        { id := .value id, data := { workspaceId := .value "w", requestId := .value requestId,
                                     detail := {} } } "window"⟩
    | .grpc, id, requestId => ⟨none, .upsert (.exchange .grpc)
        { id := .value id, data := { workspaceId := .value "w", requestId := .value requestId,
                                     detail := {} } } "window"⟩

/-- The first HTTP request goes with its two results. What came back from the others stays. Under
    the name of no source the first of the two results goes alone. -/
theorem answered_clears_request :
    ∃ r ∈ answered.store.rows (.request .http), ∃ left stopped, r.id = "r" ∧
      TimedStep.take ⟨none, .deleteRequest .http "r" "window"⟩ answered =
        (⟨.ok (.value (.text "r")), [.deleted (.exchange .http) "first" .window,
          .deleted (.exchange .http) "second" .window, .deleted (.request .http) "r" .window]⟩,
          left) ∧
      answered.store.ClearedOf left.store r ∧
      TimedStep.take ⟨none, .deleteRequest .http "r" "nobody"⟩ answered =
        (⟨.error (.unknownSource "nobody"), []⟩, stopped) ∧
      answered.store.Drops stopped.store ⟨.exchange .http, "first"⟩ := by
  have hreached : answered.Reached := .runFrom (.start rfl) _
  obtain ⟨r, hr, hid⟩ : ∃ r ∈ answered.store.rows (.request .http), r.id = "r" :=
    Store.holds_iff.mp (by decide +kernel)
  have hresults : (answered.store.exchangesOf .http "r").map Row.id = ["first", "second"] := by
    decide +kernel
  have hkeys : (answered.store.exchangesOf .http "r").map Row.key =
      [⟨.exchange .http, "first"⟩, ⟨.exchange .http, "second"⟩] := by
    have hmap := congrArg (List.map (Key.mk (.exchange .http))) hresults
    rwa [List.map_map] at hmap
  have hjournal : (answered.store.exchangesOf .http "r").map
      (fun e => Notice.deleted (.exchange .http) e.id .window) =
      [.deleted (.exchange .http) "first" .window,
          .deleted (.exchange .http) "second" .window] := by
    have hmap := congrArg (List.map (Notice.deleted (.exchange .http) · .window)) hresults
    rwa [List.map_map] at hmap
  obtain ⟨hknown, hunknown⟩ := hreached.clears_request hr none
  obtain ⟨left, -, htake, -, -, hcleared⟩ := hknown .window
  obtain ⟨stopped, key, hstops, hfirst, hdrops⟩ := hunknown "nobody" rfl
  rw [hid, hjournal] at htake
  rw [hid] at hstops
  rw [hid, hkeys] at hfirst
  obtain rfl := Option.some.inj hfirst
  exact ⟨r, hr, left, stopped, hid, htake, hcleared, hstops, hdrops⟩

end Catalog

end RequestCatalog

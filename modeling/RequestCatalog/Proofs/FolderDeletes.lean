import RequestCatalog.Proofs.Gathering
import RequestCatalog.Proofs.Nesting

/-! # What a folder takes along

  Listing the requests below a folder and deleting the folder are done by different means: a
  stack of folders on the one side, a cascade through the tables on the other. Both come to what
  lies below the folder, so a deletion takes exactly the requests that the listing shows.

  There is one exception. The tables refuse a deletion that is too deep (`Store.TooDeep`), while
  the stack goes down any number of folders.
-/

namespace RequestCatalog

open Relation

namespace Store

variable {s : Store}

/-! ### Listing requests -/

section listing

variable {p : Protocol} {id : String} {ids : List String}

/-- A request is listed if the way up from its folder comes to the folder that was asked about. -/
theorem mem_listed_iff (hs : s.Distinct) (h : s.foldersUnder id = .ok ids)
    {r : Row (.request p)} :
    r ∈ ids.flatMap (s.requestsIn p) ↔ r ∈ s.rows (.request p) ∧
      ∃ folderId, r.data.folderId = some folderId ∧ ReflTransGen s.LiesIn folderId id := by
  simp only [List.mem_flatMap, mem_requestsIn, mem_foldersUnder_iff hs h]
  constructor
  · rintro ⟨folderId, hleads, hr, hlies⟩
    exact ⟨hr, folderId, hlies, hleads⟩
  · rintro ⟨hr, folderId, hlies, hleads⟩
    exact ⟨folderId, hleads, hr, hlies⟩

end listing

/-! ### Deleting a folder -/

section delete

variable {id : String} {ids : List String} {p : Protocol}

theorem loses_delete_folder (hs : s.Distinct) :
    s.Loses (s.delete ⟨.folder, id⟩) .folder fun g => ReflTransGen s.LiesIn g.id id :=
  loses_delete.congr fun _ _ => depends_iff_below hs

/-- The requests that go with a folder are those that its listing shows. -/
theorem loses_delete_request (hs : s.Distinct) (h : s.foldersUnder id = .ok ids) :
    s.Loses (s.delete ⟨.folder, id⟩) (.request p) (· ∈ ids.flatMap (s.requestsIn p)) := by
  refine loses_delete.congr fun r hr => ?_
  rw [depends_iff_below hs, mem_listed_iff hs h]
  constructor
  · rintro ⟨found, hfound, hid, hlies⟩
    obtain rfl := hs.eq_of_id hfound hr hid
    exact ⟨hr, hlies⟩
  · rintro ⟨-, hlies⟩
    exact ⟨r, hr, rfl, hlies⟩

/-- What came back from a request goes with the request. -/
theorem loses_delete_exchange (hs : s.Distinct) (h : s.foldersUnder id = .ok ids) :
    s.Loses (s.delete ⟨.folder, id⟩) (.exchange p)
      fun e => ∃ r ∈ ids.flatMap (s.requestsIn p), r.id = e.data.requestId := by
  refine loses_delete.congr fun e he => ?_
  rw [depends_iff_below hs]
  constructor
  · rintro ⟨found, hfound, hid, r, hr, hrequest, hlies⟩
    obtain rfl := hs.eq_of_id hfound he hid
    exact ⟨r, (mem_listed_iff hs h).mpr ⟨hr, hlies⟩, hrequest⟩
  · rintro ⟨r, hr, hrequest⟩
    obtain ⟨hmem, hlies⟩ := (mem_listed_iff hs h).mp hr
    exact ⟨e, he, rfl, r, hmem, hrequest, hlies⟩

/-- No workspace depends on a folder. -/
theorem rows_workspace_delete (hs : s.Distinct) :
    (s.delete ⟨.folder, id⟩).rows .workspace = s.rows .workspace := by
  unfold delete
  rw [rows_keep, List.filter_eq_self]
  intro w _
  have hstays : ¬ s.Depends ⟨.folder, id⟩ w.key := fun h => (depends_iff_below hs).mp h
  simpa [← mem_dependents_iff] using hstays

end delete

end Store

/-! ### The step -/

/-- The step deletes the folder, as an operation of the catalogue or as a call from outside. -/
inductive Step.DeletesFolder (id : String) : Step → Prop where
  | operation (source : String) : DeletesFolder id (.delete .folder id source)
  | call {incoming : Api.Incoming} {source : Source}
      (h : incoming.Gives (.delete .folder id source)) : DeletesFolder id (.call incoming)

/-- A folder that is deleted leaves the store that `Store.erased` says, whatever the origin. -/
theorem TimedStep.take_deletesFolder {t : TimedStep} {c : Catalog} {f : Row .folder}
    (hget : c.store.get? .folder f.id = some f) (ht : t.step.DeletesFolder f.id) :
    (t.take c).2.store = c.store.erased f.key := by
  have hfetch : Op.fetch .folder f.id (t.before c) = .ok f (t.before c) := Op.run_fetch hget
  rw [t.take_snd]
  obtain ⟨at?, step⟩ := t
  cases ht with
  | operation source =>
    have hrun : (Step.delete .folder f.id source).run.left _ = (Op.delete f source).left _ :=
      (Op.left_bind_of_ok hfetch _).trans (Op.left_map _ _ _)
    rw [hrun, Op.delete_left]
    rfl
  | @call incoming source h =>
    have hrun : (Api.Command.delete .folder f.id source).run.left _ =
        (Op.delete f source.name).left _ :=
      (Op.left_bind_of_ok hfetch _).trans (Op.left_map _ _ _)
    rw [Step.call_left, Api.serve_left_of_gives h, hrun, Op.delete_left]
    rfl

namespace Catalog

/-- Wherever sessions get, a stored folder whose listing succeeds takes along exactly what the
    listings of both protocols show when it is deleted, if it is not too deep: these requests and
    no others, what came back from them, the folder and the folders below it, and no workspace. All
    else stays as it is, in its order. A folder that is too deep, which is one with a folder or a
    request `Cascade.greatestLevel` or more below it, stays with all the rest. -/
theorem Reached.folder_takes_its_listings {c : Catalog} (hc : c.Reached) {f : Row .folder}
    (hf : f ∈ c.store.rows .folder) {q : Protocol} {found : List (Row (.request q))}
    (hfound : c.store.requestsUnder q f.id = .ok found) {t : TimedStep}
    (ht : t.step.DeletesFolder f.id) :
    (c.store.TooDeep f.key → (t.take c).2.store = c.store) ∧
    (¬ c.store.TooDeep f.key → ∃ listed : (p : Protocol) → List (Row (.request p)),
      (∀ p, c.store.requestsUnder p f.id = .ok (listed p)) ∧
      (∀ p, ∀ r ∈ listed p, r ∈ c.store.rows (.request p)) ∧
      (∀ p, c.store.Loses (t.take c).2.store (.request p) (· ∈ listed p)) ∧
      c.store.Loses (t.take c).2.store .folder
        (fun g => ReflTransGen c.store.LiesIn g.id f.id) ∧
      (∀ p, c.store.Loses (t.take c).2.store (.exchange p)
        fun e => ∃ r ∈ listed p, r.id = e.data.requestId) ∧
      (t.take c).2.store.rows .workspace = c.store.rows .workspace) := by
  have hs := hc.intact.distinct
  have hheld := Store.holds_of_mem hf
  obtain ⟨ids, hids⟩ := Store.foldersUnder_of_requestsUnder hs hfound
  rw [TimedStep.take_deletesFolder (hs.get?_of_mem hf) ht]
  constructor
  · intro hdeep
    exact Store.erased_of_error ((Store.erase_eq_error_iff hs hheld).mpr hdeep)
  · intro hdeep
    rw [Store.erased_of_ok (Store.erase_of_not_tooDeep hs hheld hdeep)]
    refine ⟨fun p => ids.flatMap (c.store.requestsIn p), fun p => Store.requestsUnder_eq hs hids,
      fun p r hr => ((Store.mem_listed_iff hs hids).mp hr).1, ?_, ?_, ?_, ?_⟩
    · exact fun p => Store.loses_delete_request hs hids
    · exact Store.loses_delete_folder hs
    · exact fun p => Store.loses_delete_exchange hs hids
    · exact Store.rows_workspace_delete hs

/-- A session that stores a folder inside a folder and another one beside them, requests of both
    protocols below the first, one request in the other, and what came back from each. -/
def furnished : Catalog :=
  (runFrom {}
    [⟨none, .upsert .workspace ⟨.value "w", {}⟩ "window"⟩,
     ⟨none, .upsert .folder ⟨.value "a", { workspaceId := .value "w" }⟩ "window"⟩,
     ⟨none, .upsert .folder
        ⟨.value "b", { workspaceId := .value "w", folderId := .value "a" }⟩ "window"⟩,
     ⟨none, .upsert .folder ⟨.value "z", { workspaceId := .value "w" }⟩ "window"⟩,
     ⟨none, .upsert (.request .http)
        ⟨.value "far", { workspaceId := .value "w", folderId := .value "z", call := {} }⟩
        "window"⟩,
     ⟨none, .upsert (.request .http)
        ⟨.value "near", { workspaceId := .value "w", folderId := .value "b", call := {} }⟩
        "window"⟩,
     ⟨none, .upsert (.request .grpc)
        ⟨.value "near", { workspaceId := .value "w", folderId := .value "a", call := {} }⟩
        "window"⟩,
     ⟨none, .upsert (.exchange .http)
        ⟨.value "x", { workspaceId := .value "w", requestId := .value "near", detail := {} }⟩
        "window"⟩,
     ⟨none, .upsert (.exchange .http)
        ⟨.value "y", { workspaceId := .value "w", requestId := .value "far", detail := {} }⟩
        "window"⟩]).2

theorem furnished_reached : furnished.Reached :=
  .runFrom (.start rfl) _

/-- The call that deletes the folder `a`. -/
def removal : TimedStep where
  at? := none
  step := .call
    { method := "DELETE", path := "/api/folders/a", query := [], headers := [], payload := .none }

/-- A call that deletes the outer folder takes along the inner one, the requests of both and one
    of the two responses. -/
theorem furnished_folder_takes_its_listings :
    ((removal.take furnished).2.store.rows .folder).map Row.id = ["z"] ∧
      ((removal.take furnished).2.store.rows (.request .http)).map Row.id = ["far"] ∧
      ((removal.take furnished).2.store.rows (.exchange .http)).map Row.id = ["y"] ∧
      ∃ f ∈ furnished.store.rows .folder, f.id = "a" ∧
        ∃ listed : List (Row (.request .http)),
          furnished.store.requestsUnder .http f.id = .ok listed ∧
          furnished.store.Loses (removal.take furnished).2.store (.request .http) (· ∈ listed) := by
  refine ⟨by decide +kernel, by decide +kernel, by decide +kernel, ?_⟩
  obtain ⟨f, hf, hid⟩ : ∃ f ∈ furnished.store.rows .folder, f.id = "a" :=
    Store.holds_iff.mp (by decide +kernel)
  obtain ⟨ids, hids⟩ : ∃ ids, furnished.store.foldersUnder f.id = .ok ids := by
    have hends : (furnished.store.foldersUnder "a").isOk = true := by decide +kernel
    rw [hid]
    cases hwalk : furnished.store.foldersUnder "a" with
    | ok ids => exact ⟨ids, rfl⟩
    | error => simp [hwalk, Except.isOk, Except.toBool] at hends
  have hremoval : removal.step.DeletesFolder f.id := by
    rw [hid]
    exact .call ⟨.record .folder "a", by decide +kernel, rfl⟩
  have hkey : f.key = ⟨.folder, "a"⟩ := congrArg (Key.mk .folder) hid
  have hshallow : ¬ furnished.store.TooDeep f.key :=
    Store.not_tooDeep_of_erase furnished_reached.intact.distinct (Store.holds_of_mem hf)
      (hkey ▸ by decide +kernel)
  obtain ⟨listed, hall, -, hloses, -⟩ := (furnished_reached.folder_takes_its_listings hf
    (Store.requestsUnder_eq (p := .http) furnished_reached.intact.distinct hids)
    hremoval).2 hshallow
  exact ⟨f, hf, hid, listed .http, hall .http, hloses .http⟩

/-! ### A folder that is listed and stays -/

/-- A thousand folders below the first one are listed with it, and yet the call that deletes the
    folder takes nothing along. -/
theorem nested_folder_keeps_its_listings :
    (nested 1000).Reached ∧ ∃ f ∈ (nested 1000).store.rows .folder, f.id = "a" ∧
      (∃ listed, (nested 1000).store.requestsUnder .http f.id = .ok listed) ∧
      removal.step.DeletesFolder f.id ∧
      (removal.take (nested 1000)).2.store = (nested 1000).store := by
  have hserved := (nesting 1000).served
  have hs := hserved.reached.intact.distinct
  obtain ⟨f, hf, hid⟩ := (nesting 1000).exists_outermost
  have hkey : f.key = ⟨.folder, level 0⟩ := congrArg (Key.mk .folder) hid
  have ha : f.id = "a" := hid
  have hremoval : removal.step.DeletesFolder f.id := by
    rw [ha]
    exact .call ⟨.record .folder "a", by decide +kernel, rfl⟩
  refine ⟨hserved.reached, f, hf, ha, ?_, hremoval, ?_⟩
  · have hfree := hserved.contained.unlooped hs f hf
    obtain ⟨listed, hlisted, -⟩ := Store.exists_postOrder (p := .http) hs
      fun hcycle => hfree ⟨f.id, .refl, hcycle⟩
    exact ⟨listed, hlisted⟩
  · have hdeep : (nested 1000).store.TooDeep f.key := hkey ▸ nested_folder_tooDeep (by decide)
    rw [TimedStep.take_deletesFolder (hs.get?_of_mem hf) hremoval]
    exact Store.erased_of_error ((Store.erase_eq_error_iff hs (Store.holds_of_mem hf)).mpr hdeep)

end Catalog

end RequestCatalog

import RequestCatalog.Proofs.Acting
import RequestCatalog.Proofs.Inheritance.Authentication
import RequestCatalog.Proofs.Inheritance.Entries
import RequestCatalog.Proofs.Subtree

/-! # What a request inherits comes from its line

  The line of a request is the request, its workspace, and the folders above it. What it
  inherits is found by looking up records of the line and no others, so two stores that
  hold the same there give the same answer (`AgreesAbove`).

  A line is closed: whatever one of its records refers to belongs to it as well. So a
  deletion reaches the line only from a record of the line, and a call that is about
  another record leaves the answers as they were.
-/

namespace RequestCatalog

open Relation

namespace Store

variable {s t : Store}

/-! ### Places above places -/

/-- The folders above a folder of the workspace belong to the workspace as well. -/
theorem HasPlace.along (hc : s.Contained) {workspaceId start id : String}
    (h : s.HasPlace workspaceId (some start)) (habove : ReflTransGen s.LiesIn start id) :
    s.HasPlace workspaceId (some id) := by
  induction habove with
  | refl => exact h
  | tail _ hlies ih =>
    obtain ⟨f, hget, hparent⟩ := hlies
    obtain ⟨found, hfound, hsame⟩ := ih.2 _ rfl
    obtain rfl : f = found := Option.some.inj (hget.symm.trans hfound)
    have hplace := hc.folder f (mem_of_get? hget)
    rwa [hsame, hparent] at hplace

/-! ### Two stores that agree above a record -/

/-- Both stores hold the same workspace of the record, and the same folders above it. -/
structure AgreesAbove (s t : Store) (n : Node) : Prop where
  folder : ∀ start id, n.folderId = some start → ReflTransGen s.LiesIn start id →
    t.get? .folder id = s.get? .folder id
  workspace : ∀ id, n.workspaceId = some id → t.get? .workspace id = s.get? .workspace id

/-- A climb looks at the folders above the place that it has not met, and at no others. -/
theorem climb_congr {met : List String} {parent : Option String}
    (h : ∀ start id, parent = some start → ReflTransGen s.LiesIn start id → id ∉ met →
      t.get? .folder id = s.get? .folder id) : t.climb met parent = s.climb met parent := by
  induction met, parent using climb.induct s with
  | case1 met => rw [climb, climb]
  | case2 met id hmet => rw [climb_of_met hmet, climb_of_met hmet]
  | case3 met id hmet hget =>
    have hnew : id ∉ met := by simpa using hmet
    have hsame : t.get? .folder id = none := (h id id rfl .refl hnew).trans hget
    rw [climb_of_missing hmet hget, climb_of_missing hmet hsame]
  | case4 met id hmet f hget ih =>
    have hnew : id ∉ met := by simpa using hmet
    have hsame : t.get? .folder id = some f := (h id id rfl .refl hnew).trans hget
    have hrest : t.climb (id :: met) f.data.folderId = s.climb (id :: met) f.data.folderId := by
      apply ih
      intro start other hstart habove hother
      have hunmet : other ∉ met := fun hmem => hother (List.mem_cons_of_mem _ hmem)
      exact h id other rfl (.head ⟨f, hget, hstart⟩ habove) hunmet
    rw [climb_of_get? hmet hget, climb_of_get? hmet hsame, hrest]

theorem fetch_congr {k : Kind} {id? : Option String}
    (h : ∀ id, id? = some id → t.get? k id = s.get? k id) : t.fetch k id? = s.fetch k id? := by
  cases id? with
  | none => rfl
  | some id => rw [fetch_some, fetch_some, h id rfl]

namespace AgreesAbove

variable {n : Node}

theorem chain_eq (h : s.AgreesAbove t n) : t.chain n = s.chain n := by
  unfold chain
  rw [climb_congr fun start id hstart habove _ => h.folder start id hstart habove]

theorem fetch_workspace (h : s.AgreesAbove t n) :
    t.fetch .workspace n.workspaceId = s.fetch .workspace n.workspaceId :=
  fetch_congr h.workspace

theorem folderAuthentication_eq (h : s.AgreesAbove t n) :
    t.folderAuthentication n = s.folderAuthentication n := by
  unfold folderAuthentication
  rw [h.chain_eq, h.fetch_workspace]

theorem folderEntries_eq (h : s.AgreesAbove t n) : t.folderEntries n = s.folderEntries n := by
  unfold folderEntries
  rw [h.chain_eq, h.fetch_workspace]

section request

variable {p : Protocol} {r : Row (.request p)} {folderId : String}

/-- Stores that agree above a request agree above the folder that it lies in. -/
theorem above_folder (h : s.AgreesAbove t r.node)
    (hplace : s.HasPlace r.data.workspaceId r.data.folderId)
    (hlies : r.data.folderId = some folderId) :
    ∃ f, s.get? .folder folderId = some f ∧ t.get? .folder folderId = some f ∧
      s.AgreesAbove t f.node := by
  obtain ⟨f, hget, hsame⟩ := hplace.2 folderId hlies
  refine ⟨f, hget, (h.folder folderId folderId hlies .refl).trans hget, ?_, ?_⟩
  · intro start id hstart habove
    exact h.folder folderId id hlies (.head ⟨f, hget, hstart⟩ habove)
  · intro id hid
    refine h.workspace id (Eq.trans ?_ hid)
    exact congrArg some hsame.symm

/-- Stores that agree above a request of the first give it the same authentication. -/
theorem requestAuthentication_eq (h : s.AgreesAbove t r.node)
    (hplace : s.HasPlace r.data.workspaceId r.data.folderId) :
    t.requestAuthentication r.node = s.requestAuthentication r.node := by
  rw [Store.requestAuthentication_eq, Store.requestAuthentication_eq]
  cases hlies : r.data.folderId with
  | none =>
    have hworkspace := h.fetch_workspace
    simp only [show r.node.workspaceId = some r.data.workspaceId from rfl] at hworkspace
    simp only [hworkspace]
  | some folderId =>
    obtain ⟨f, hs, ht, habove⟩ := h.above_folder hplace hlies
    simp only [fetch_some, hs, ht, bind, Except.bind, habove.folderAuthentication_eq]

/-- Stores that agree above a request of the first give it the same entries. -/
theorem requestEntries_eq (h : s.AgreesAbove t r.node)
    (hplace : s.HasPlace r.data.workspaceId r.data.folderId) :
    t.requestEntries r.node = s.requestEntries r.node := by
  unfold requestEntries
  cases hlies : r.node.folderId with
  | none => simp only [h.fetch_workspace]
  | some folderId =>
    obtain ⟨f, hs, ht, habove⟩ := h.above_folder hplace hlies
    simp only [fetch_some, hs, ht, bind, Except.bind, habove.folderEntries_eq]

end request

end AgreesAbove

/-! ### The line of a request -/

/-- The request, its workspace, and the folders above it. -/
inductive InLine (s : Store) {p : Protocol} (r : Row (.request p)) : Key → Prop where
  | request : InLine s r r.key
  | workspace : InLine s r ⟨.workspace, r.data.workspaceId⟩
  | folder {start id : String} (hlies : r.data.folderId = some start)
      (habove : ReflTransGen s.LiesIn start id) : InLine s r ⟨.folder, id⟩

namespace InLine

variable {p : Protocol} {r : Row (.request p)} {key other : Key}

/-- What stands in the line of a stored request is stored. -/
theorem holds (h : s.InLine r key) (hc : s.Contained) (hr : r ∈ s.rows (.request p)) :
    s.holds key = true := by
  have hplace := hc.request p r hr
  cases h with
  | request => exact holds_of_mem hr
  | workspace => exact hplace.1
  | folder hlies habove =>
    rw [hlies] at hplace
    obtain ⟨f, hget, -⟩ := (hplace.along hc habove).2 _ rfl
    exact holds_of_get? hget

/-- What a record of the line refers to stands in the line. -/
theorem ref (hc : s.Contained) (hd : s.Distinct) (hr : r ∈ s.rows (.request p)) {k : Kind}
    {row : Row k} (hrow : row ∈ s.rows k) (h : s.InLine r row.key) {ref : Key}
    (href : ref ∈ row.refs) : s.InLine r ref := by
  generalize hkey : row.key = key at h
  cases h with
  | request =>
    obtain ⟨rfl, hid⟩ : k = .request p ∧ row.id = r.id := by simpa [Row.key] using hkey
    obtain rfl : row = r := hd.eq_of_id hrow hr hid
    rcases List.mem_cons.mp href with rfl | hfolder
    · exact .workspace
    · obtain ⟨folderId, hlies, rfl⟩ : ∃ folderId, row.data.folderId = some folderId ∧
          (⟨.folder, folderId⟩ : Key) = ref := by simpa using hfolder
      exact .folder hlies .refl
  | workspace =>
    obtain ⟨rfl, -⟩ : k = .workspace ∧ row.id = r.data.workspaceId := by
      simpa [Row.key] using hkey
    cases href
  | @folder start id hstart habove =>
    obtain ⟨rfl, rfl⟩ : k = .folder ∧ row.id = id := by simpa [Row.key] using hkey
    -- the folder belongs to the workspace of the request, and the next one stands above it
    have hplace := hc.request p r hr
    rw [hstart] at hplace
    obtain ⟨f, hget, hsame⟩ := (hplace.along hc habove).2 _ rfl
    obtain rfl : row = f := Option.some.inj ((hd.get?_of_mem hrow).symm.trans hget)
    rcases List.mem_cons.mp href with rfl | hparent
    · rw [hsame]
      exact .workspace
    · obtain ⟨parent, hlies, rfl⟩ : ∃ parent, row.data.folderId = some parent ∧
          (⟨.folder, parent⟩ : Key) = ref := by simpa using hparent
      exact .folder hstart (habove.tail ⟨row, hget, hlies⟩)

/-- What a record of the line depends on stands in the line. -/
theorem of_depends (hc : s.Contained) (hd : s.Distinct) (hr : r ∈ s.rows (.request p))
    (h : s.InLine r other) (hdepends : s.Depends key other) : s.InLine r key := by
  induction hdepends with
  | self => exact h
  | refers hrow href _ ih => exact ih (h.ref hc hd hr hrow href)

/-- A stored request depends on all that stands in its line. -/
theorem depends (hd : s.Distinct) (hr : r ∈ s.rows (.request p)) (h : s.InLine r key) :
    s.Depends key r.key := by
  cases h with
  | request => exact .self
  | workspace => exact .refers hr (by simp [Row.refs, Columns.refs]) .self
  | @folder start id hlies habove =>
    exact (depends_iff_below hd).mpr ⟨r, hr, rfl, start, hlies, habove⟩

/-- Stores that hold the same in the line agree above the request. -/
theorem agreesAbove
    (h : ∀ k id, s.InLine r ⟨k, id⟩ → t.get? k id = s.get? k id) : s.AgreesAbove t r.node where
  folder start id hstart habove := h .folder id (.folder hstart habove)
  workspace id hid := by
    obtain rfl := Option.some.inj hid
    exact h .workspace _ .workspace

end InLine

end Store

/-! ### Calls about other records -/

namespace Api

/-- The record that a command is to write or to delete, if it names one. A copy is a new record,
    so it is never named. -/
def Command.changes? (command : Command) : Option Key :=
  match command with
  | .delete k id _ => some ⟨k, id⟩
  | _ => command.form?.map fun ⟨k, form⟩ => ⟨k, form.id⟩

theorem Command.changes?_of_form? {command : Command} {k : Kind} {form : Form k}
    (h : command.form? = some ⟨k, form⟩) : command.changes? = some ⟨k, form.id⟩ := by
  cases command with
  | writeWorkspace | writeFolder | writeRequest =>
    cases h
    rfl
  | _ => cases h

/-- A command that is to change no record of the line leaves the line as it was. -/
theorem Command.Acts.get?_eq {command : Command} {s t : Store} (h : command.Acts s t)
    (hc : s.Contained) (hd : s.Distinct) {p : Protocol} {r : Row (.request p)}
    (hr : r ∈ s.rows (.request p)) (hspares : ∀ key, command.changes? = some key → ¬ s.InLine r key)
    {k : Kind} {id : String} (hline : s.InLine r ⟨k, id⟩) : t.get? k id = s.get? k id := by
  have hheld : s.holds ⟨k, id⟩ = true := hline.holds hc hr
  -- a record that is written anew stands in no line
  have hput : ∀ {l : Kind} {row : Row l}, s.holds row.key = false →
      (s.put row).get? k id = s.get? k id := by
    intro l row hnew
    apply Store.get?_put_ne
    rintro hkey
    rw [hkey, hnew] at hheld
    cases hheld
  cases h with
  | rests => rfl
  | @writes l form row hform hid _ =>
    rcases hid with hnamed | hnew
    · apply Store.get?_put_ne
      intro hkey
      have hchanged : command.changes? = some row.key := by
        rw [Command.changes?_of_form? hform, ← hnamed]
        rfl
      rw [hkey] at hline
      exact hspares row.key hchanged hline
    · exact hput hnew
  | copies _ _ hnew _ => exact hput hnew
  | @deletes l deleted source row hcommand hget =>
    apply Store.get?_delete
    rw [Store.mem_dependents_iff]
    intro hdepends
    have hchanged : command.changes? = some row.key := by
      rw [hcommand, Row.key, Store.id_of_get? hget]
      rfl
    exact hspares row.key hchanged (hline.of_depends hc hd hr hdepends)

/-- The command asks what the request has in the end. -/
inductive Command.Resolves {p : Protocol} (r : Row (.request p)) : Command → Prop where
  | authentication : Resolves r (.requestAuthentication p r.id)
  | entries : Resolves r (.requestEntries p r.id)

/-- What a request has in the end is the same in two catalogues whose stores hold the request and
    agree above it. -/
theorem Command.Resolves.alike {p : Protocol} {r : Row (.request p)} {command : Command}
    (h : command.Resolves r) {c d : Catalog} (hjournal : d.journal = c.journal)
    (hc : c.store.get? (.request p) r.id = some r) (hd : d.store.get? (.request p) r.id = some r)
    (hplace : c.store.HasPlace r.data.workspaceId r.data.folderId)
    (habove : c.store.AgreesAbove d.store r.node) : command.run.Alike c d := by
  cases h with
  | authentication =>
    apply Op.alike_fetch_bind hc hd hjournal
    exact Op.alike_askUpwards_map (habove.requestAuthentication_eq hplace) hjournal
  | entries =>
    apply Op.alike_fetch_bind hc hd hjournal
    exact Op.alike_askUpwards_map (habove.requestEntries_eq hplace) hjournal

end Api

namespace Catalog

/-- Wherever calls get, a call that neither writes nor deletes a stored request, its workspace or
    a folder above it, because it is about something else or comes to nothing, leaves the answers
    as they were that tell what authentication and what entries the request has in the end. -/
theorem Served.answers_kept_off_line {c : Catalog} (hc : c.Served) {p : Protocol}
    {r : Row (.request p)} (hr : r ∈ c.store.rows (.request p)) {at? : Option Int}
    {incoming : Api.Incoming} (hfresh : c.MakesFresh (TimedStep.take ⟨at?, .call incoming⟩ c).2)
    (hspares : ∀ command key, incoming.Gives command → command.changes? = some key →
      c.store.InLine r key → (TimedStep.take ⟨at?, .call incoming⟩ c).2.store = c.store)
    {question : Api.Incoming} {asked : Api.Command} (hasks : question.Gives asked)
    (hresolves : asked.Resolves r) (first? second? : Option Int) :
    (TimedStep.take ⟨second?, .call question⟩ (TimedStep.take ⟨at?, .call incoming⟩ c).2).1 =
      (TimedStep.take ⟨first?, .call question⟩ c).1 := by
  have hd := hc.reached.intact.distinct
  have hline : ∀ k id, c.store.InLine r ⟨k, id⟩ →
      (TimedStep.take ⟨at?, .call incoming⟩ c).2.store.get? k id = c.store.get? k id := by
    intro k id hin
    by_cases hsame : (TimedStep.take ⟨at?, .call incoming⟩ c).2.store = c.store
    · rw [hsame]
    · rcases hc.acts hfresh with hrests | ⟨command, hgives, hacts⟩
      · exact absurd hrests hsame
      · refine hacts.get?_eq hc.contained hd hr (fun key hchanges hin => hsame ?_) hin
        exact hspares command key hgives hchanges hin
  have hstored := hd.get?_of_mem hr
  apply TimedStep.answer_of_alike hasks
  exact hresolves.alike rfl hstored ((hline _ _ .request).trans hstored)
    (hc.contained.request p r hr) (Store.InLine.agreesAbove hline)

/-- The run of calls, and one more: a folder inside the outer one, beside the way up from the
    request. -/
def forked : Catalog :=
  (runFrom toured
    [.post "/api/folders" [("id", .text "aside"), ("workspace_id", .text "w"), ("name", .text "a"),
      ("folder_id", .text "outer")]]).2

theorem forked_served : forked.Served :=
  toured_served.runFrom (by decide +kernel)

/-- The folder that lies aside is deleted. The request goes on to have the authentication of the
    outer folder, and the answer that tells so is the same. -/
theorem forked_answers_kept_off_line :
    let deleting : TimedStep := ⟨none, .call (bare "DELETE" "/api/folders/aside")⟩
    let asking : TimedStep := ⟨none, .call (bare "GET" "/api/http-requests/r/resolved-auth")⟩
    forked.store.holds ⟨.folder, "aside"⟩ = true ∧
      (deleting.take forked).2.store.holds ⟨.folder, "aside"⟩ = false ∧
      (asking.take forked).1.status? = some 200 ∧
      (asking.take (deleting.take forked).2).1 = (asking.take forked).1 := by
  intro deleting asking
  refine ⟨by decide +kernel, by decide +kernel, by decide +kernel, ?_⟩
  obtain ⟨r, hr, hid⟩ : ∃ r ∈ forked.store.rows (.request .http), r.id = "r" :=
    Store.holds_iff.mp (by decide +kernel)
  have hdeletes : (bare "DELETE" "/api/folders/aside").Gives (.delete .folder "aside" .window) :=
    ⟨.record .folder "aside", by decide +kernel, rfl⟩
  have hasks : (bare "GET" "/api/http-requests/r/resolved-auth").Gives
      (.requestAuthentication .http r.id) := by
    rw [hid]
    exact ⟨.authentication (.request .http) "r", by decide +kernel, rfl⟩
  refine forked_served.answers_kept_off_line hr (by decide +kernel) ?_ hasks .authentication
    none none
  intro command key hgives hchanges hline
  obtain rfl := hdeletes.unique hgives
  obtain rfl := Option.some.inj hchanges
  -- the request does not go with the folder
  have hgoes := Store.mem_dependents_iff.mpr
      (hline.depends forked_served.reached.intact.distinct hr)
  rw [Row.key, hid] at hgoes
  exact absurd hgoes (by decide +kernel)

end Catalog

end RequestCatalog

import RequestCatalog.Proofs.Inheritance.Chain

/-! # Inherited entries

  The entries of a record go on from those of its folder, or else of its workspace:
  `Store.Continues`. The code puts the lists of a whole chain together at once, from
  the workspace inwards. Wherever calls get, this is the same, and so the entries of a
  folder stand at the front of the entries of everything below it.
-/

namespace RequestCatalog

open Relation

/-! ### Entries, one folder at a time -/

namespace Store

variable {s : Store}

/-- The entries are those of the record's folder, or of its workspace where it lies in no
    folder, and then the record's own. -/
def Continues (s : Store) (n : Node) (entries : List Json) : Prop :=
  ∃ inherited own, n.Lists own ∧ entries = inherited ++ own ∧
    match n.folderId with
    | some id => ∃ f, s.get? .folder id = some f ∧ s.folderEntries f.node = .ok inherited
    | none => ∃ id w, n.workspaceId = some id ∧ s.get? .workspace id = some w ∧
        w.node.Lists inherited

/-- What is asked of a chain once it is walked. -/
def entriesAlong (s : Store) (workspaceId : Option String) (chain : List Node) :
    Except Fault (List Json) := do
  let workspace ← s.fetch .workspace workspaceId
  let outermost ← workspace.node.entries
  let inner ← chain.reverse.mapM Node.entries
  return outermost ++ inner.flatten

theorem folderEntries_eq (n : Node) :
    s.folderEntries n = s.chain n >>= s.entriesAlong n.workspaceId := rfl

/-- Without folders the entries are those of the workspace. -/
theorem entriesAlong_nil {workspaceId : Option String} {w : Row .workspace}
    {outermost : List Json} (hfetch : s.fetch .workspace workspaceId = .ok w)
    (hentries : w.node.entries = .ok outermost) :
    s.entriesAlong workspaceId [] = .ok outermost := by
  simp [entriesAlong, hfetch, hentries, bind, Except.bind, pure, Except.pure]

/-- A folder at the inner end of a chain adds its own entries at the end. -/
theorem entriesAlong_cons {workspaceId : Option String} {n : Node} {chain : List Node}
    {inherited own : List Json} (hinherited : s.entriesAlong workspaceId chain = .ok inherited)
    (hown : n.entries = .ok own) :
    s.entriesAlong workspaceId (n :: chain) = .ok (inherited ++ own) := by
  unfold entriesAlong at hinherited ⊢
  obtain ⟨w, hw, hinherited⟩ := bind_eq_ok_iff.mp hinherited
  obtain ⟨outermost, houtermost, hinherited⟩ := bind_eq_ok_iff.mp hinherited
  obtain ⟨inner, hinner, hinherited⟩ := bind_eq_ok_iff.mp hinherited
  obtain rfl := pure_eq_ok_iff.mp hinherited
  simp [hw, houtermost, hinner, hown, List.mapM_append, bind, Except.bind, pure, Except.pure]

/-- The entries along a way up are those of the next folder and then the folder's own. -/
theorem entriesAlong_of_wayUp (hc : s.Contained) (hp : s.Proper) {parent : Option String}
    {above : List (Row .folder)} (hway : s.WayUp parent above) {f : Row .folder}
    (hf : s.get? .folder f.id = some f) (hlies : f.data.folderId = parent) :
    ∃ entries,
      s.entriesAlong (some f.data.workspaceId) ((f :: above).map Row.node) = .ok entries ∧
        s.Continues f.node entries := by
  obtain ⟨own, hown, hlists⟩ := Node.exists_lists (hp.folder_node (mem_of_get? hf))
  induction hway generalizing f own with
  | root =>
    obtain ⟨w, hfetch, hw, hproper⟩ := (hc.folder f (mem_of_get? hf)).exists_workspace hp
    obtain ⟨outermost, houtermost, hwlists⟩ := Node.exists_lists hproper
    refine ⟨outermost ++ own, entriesAlong_cons (entriesAlong_nil hfetch houtermost) hown,
      outermost, own, hlists, rfl, ?_⟩
    show match f.data.folderId with | some id => _ | none => _
    rw [hlies]
    exact ⟨_, w, rfl, hw, hwlists⟩
  | @step id g rest hget hrest ih =>
    obtain ⟨hg, hsame⟩ := hc.folder_above (mem_of_get? hf) hlies hget
    obtain ⟨gown, hgown, hglists⟩ := Node.exists_lists (hp.folder_node (mem_of_get? hg))
    obtain ⟨inherited, halong, -⟩ := ih hg rfl gown hgown hglists
    -- the entries along the rest of the way are those of the folder above
    have hinherited : s.folderEntries g.node = .ok inherited := by
      rw [folderEntries_eq, chain_of_wayUp hg hrest]
      exact halong
    rw [hsame] at halong
    refine ⟨inherited ++ own, entriesAlong_cons halong hown, inherited, own, hlists, rfl, ?_⟩
    show match f.data.folderId with | some id => _ | none => _
    rw [hlies]
    exact ⟨g, hget, hinherited⟩

/-- The entries of a stored folder are found and go on from those of its folder. -/
theorem folderEntries_spec (hc : s.Contained) (hp : s.Proper) {f : Row .folder}
    (hf : s.get? .folder f.id = some f) :
    ∃ entries, s.folderEntries f.node = .ok entries ∧ s.Continues f.node entries := by
  obtain ⟨above, hway⟩ := hc.grounded f (mem_of_get? hf)
  obtain ⟨entries, halong, hcontinues⟩ := entriesAlong_of_wayUp hc hp hway hf rfl
  refine ⟨entries, ?_, hcontinues⟩
  rw [folderEntries_eq, chain_of_wayUp hf hway]
  exact halong

/-- The entries of a stored request are found and go on from those of its folder. -/
theorem requestEntries_spec (hc : s.Contained) (hp : s.Proper) {p : Protocol}
    {r : Row (.request p)} (hr : r ∈ s.rows (.request p)) :
    ∃ entries, s.requestEntries r.node = .ok entries ∧ s.Continues r.node entries := by
  have hplace := hc.request p r hr
  obtain ⟨own, hown, hlists⟩ := Node.exists_lists (hp.request_node hr)
  cases hlies : r.data.folderId with
  | none =>
    obtain ⟨w, hfetch, hw, hproper⟩ := hplace.exists_workspace hp
    obtain ⟨outermost, houtermost, hwlists⟩ := Node.exists_lists hproper
    refine ⟨outermost ++ own, ?_, outermost, own, hlists, rfl, ?_⟩
    · have hnode : r.node.folderId = none := hlies
      have hworkspace : s.fetch .workspace r.node.workspaceId = .ok w := hfetch
      simp [requestEntries, hnode, hworkspace, houtermost, hown, bind, Except.bind, pure,
        Except.pure]
    · show match r.data.folderId with | some id => _ | none => _
      rw [hlies]
      exact ⟨_, w, rfl, hw, hwlists⟩
  | some id =>
    rw [hlies] at hplace
    obtain ⟨f, hfetch, hget, hf, -⟩ := hplace.exists_folder
    obtain ⟨inherited, hinherited, -⟩ := folderEntries_spec hc hp hf
    refine ⟨inherited ++ own, ?_, inherited, own, hlists, rfl, ?_⟩
    · have hnode : r.node.folderId = some id := hlies
      simp [requestEntries, hnode, hfetch, hinherited, hown, bind, Except.bind, pure, Except.pure]
    · show match r.data.folderId with | some id => _ | none => _
      rw [hlies]
      exact ⟨f, hget, hinherited⟩

/-! ### What lies below goes on from what lies above -/

/-- The entries of a record go on from those of the folder that it lies in. -/
theorem Continues.prefix_of_lies {n : Node} {entries inherited : List Json} {id : String}
    {f : Row .folder} (h : s.Continues n entries) (hlies : n.folderId = some id)
    (hget : s.get? .folder id = some f) (hf : s.folderEntries f.node = .ok inherited) :
    inherited <+: entries := by
  obtain ⟨found, own, -, rfl, habove⟩ := h
  rw [hlies] at habove
  obtain ⟨g, hg, hfound⟩ := habove
  obtain rfl := Option.some.inj (hg.symm.trans hget)
  obtain rfl : found = inherited := Except.ok.inj (hfound.symm.trans hf)
  exact List.prefix_append found own

/-- The entries of a folder go on from those of every folder above it. -/
theorem folderEntries_prefix (hc : s.Contained) (hp : s.Proper) {g : Row .folder}
    (hg : s.get? .folder g.id = some g) {inner : List Json}
    (hinner : s.folderEntries g.node = .ok inner) {id : String}
    (hbelow : ReflTransGen s.LiesIn g.id id) {f : Row .folder}
    (hget : s.get? .folder id = some f) {entries : List Json}
    (hf : s.folderEntries f.node = .ok entries) : entries <+: inner := by
  induction hbelow generalizing f entries with
  | refl =>
    obtain rfl := Option.some.inj (hget.symm.trans hg)
    have hsame : entries = inner := Except.ok.inj (hf.symm.trans hinner)
    subst hsame
    exact List.prefix_refl entries
  | tail _ hlies ih =>
    obtain ⟨between, hbetween, hparent⟩ := hlies
    have hstored : s.get? .folder between.id = some between := by
      rw [id_of_get? hbetween, hbetween]
    -- one folder further up the entries are a prefix of those that were found
    obtain ⟨middle, hmiddle, hcontinues⟩ := folderEntries_spec hc hp hstored
    exact (hcontinues.prefix_of_lies hparent hget hf).trans (ih hbetween hmiddle)

/-- The entries of a request go on from those of every folder above it. -/
theorem requestEntries_prefix (hc : s.Contained) (hp : s.Proper) {p : Protocol}
    {r : Row (.request p)} (hr : r ∈ s.rows (.request p)) {folderId id : String}
    (hlies : r.data.folderId = some folderId) (hbelow : ReflTransGen s.LiesIn folderId id)
    {f : Row .folder} (hget : s.get? .folder id = some f) {entries : List Json}
    (hf : s.folderEntries f.node = .ok entries) :
    ∃ inner, s.requestEntries r.node = .ok inner ∧ entries <+: inner := by
  obtain ⟨inner, hinner, hcontinues⟩ := requestEntries_spec hc hp hr
  have hplace := hc.request p r hr
  rw [hlies] at hplace
  obtain ⟨g, -, hg, hstored, -⟩ := hplace.exists_folder
  obtain ⟨middle, hmiddle, -⟩ := folderEntries_spec hc hp hstored
  rw [← id_of_get? hg] at hbelow
  have houter := folderEntries_prefix hc hp hstored hmiddle hbelow hget hf
  exact ⟨inner, hinner, houter.trans (hcontinues.prefix_of_lies hlies hg hmiddle)⟩

end Store

namespace Catalog

/-- Wherever calls get, the entries of every stored request and every stored folder are found,
    and they are those of its folder, or else of its workspace, and then its own. So the entries
    of a folder stand at the front of the entries of everything below it. -/
theorem entries_inherited {c : Catalog} (h : c.Served) :
    (∀ p, ∀ r ∈ c.store.rows (.request p),
      ∃ entries, c.store.requestEntries r.node = .ok entries ∧
        c.store.Continues r.node entries) ∧
    (∀ f ∈ c.store.rows .folder,
      ∃ entries, c.store.folderEntries f.node = .ok entries ∧
        c.store.Continues f.node entries ∧
        (∀ g ∈ c.store.rows .folder, ReflTransGen c.store.LiesIn g.id f.id →
          ∃ inner, c.store.folderEntries g.node = .ok inner ∧ entries <+: inner) ∧
        (∀ p, ∀ r ∈ c.store.rows (.request p), ∀ id, r.data.folderId = some id →
          ReflTransGen c.store.LiesIn id f.id →
            ∃ inner, c.store.requestEntries r.node = .ok inner ∧ entries <+: inner)) := by
  have hdistinct := h.reached.intact.distinct
  refine ⟨fun p r hr => Store.requestEntries_spec h.contained h.proper hr, fun f hf => ?_⟩
  have hget := hdistinct.get?_of_mem hf
  obtain ⟨entries, hfound, hcontinues⟩ := Store.folderEntries_spec h.contained h.proper hget
  refine ⟨entries, hfound, hcontinues, fun g hg hbelow => ?_, fun p r hr id hlies hbelow => ?_⟩
  · have hstored := hdistinct.get?_of_mem hg
    obtain ⟨inner, hinner, -⟩ := Store.folderEntries_spec h.contained h.proper hstored
    exact ⟨inner, hinner,
      Store.folderEntries_prefix h.contained h.proper hstored hinner hbelow hget hfound⟩
  · exact Store.requestEntries_prefix h.contained h.proper hr hlies hbelow hget hfound

/-- In the run of calls the requests at the bottom have an entry of the workspace, one of each
    folder that has one, and one of their own. -/
theorem toured_entries_inherited :
    (toured.store.rows (.request .http)).map (fun r =>
        (toured.store.requestEntries r.node).toOption.map List.length) = [some 4, some 4] ∧
    ∀ r ∈ toured.store.rows (.request .http),
      ∃ entries, toured.store.requestEntries r.node = .ok entries ∧
        toured.store.Continues r.node entries :=
  ⟨by decide +kernel, fun r hr => (entries_inherited toured_served).1 .http r hr⟩

end Catalog

end RequestCatalog

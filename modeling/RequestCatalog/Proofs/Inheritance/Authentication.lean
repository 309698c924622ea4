import RequestCatalog.Proofs.Inheritance.Chain

/-! # Inherited authentication

  The code walks a whole chain of folders first and looks at the workspace of the
  folder it began with. What is wanted is said one folder at a time, and ends at the
  workspace of the folder at the top: `Store.Authenticates` relates a record to its
  authentication.

  The two agree wherever calls get, because there the chain of folders ends and all
  its folders belong to one workspace. Where the chain does not end, the code fails
  on the chain, whatever the folders on it set.
-/

namespace RequestCatalog

namespace Store

variable {s : Store}

/-! ### Authentication, one folder at a time -/

/-- The authentication of a record: its own if it sets a type, else that of its folder, else,
    where there is no folder, that of its workspace. -/
inductive Authenticates (s : Store) : Node → Authentication → Prop where
  | own {n : Node} {a : Authentication} (hsets : n.Sets) (howns : n.Owns a) : Authenticates s n a
  | folder {n : Node} {id : String} {f : Row .folder} {a : Authentication} (hsets : ¬ n.Sets)
      (hlies : n.folderId = some id) (hget : s.get? .folder id = some f)
      (habove : Authenticates s f.node a) : Authenticates s n a
  | workspace {n : Node} {id : String} {w : Row .workspace} {a : Authentication}
      (hsets : ¬ n.Sets) (hlies : n.folderId = none) (hbelongs : n.workspaceId = some id)
      (hget : s.get? .workspace id = some w) (howns : w.node.Owns a) : Authenticates s n a

theorem Authenticates.unique {n : Node} {a b : Authentication} (ha : s.Authenticates n a)
    (hb : s.Authenticates n b) : a = b := by
  induction ha with
  | own hsets howns =>
    cases hb with
    | own _ howns' => exact howns.unique howns'
    | folder hunset => exact absurd hsets hunset
    | workspace hunset => exact absurd hsets hunset
  | folder hunset hlies hget _ ih =>
    cases hb with
    | own hsets => exact absurd hsets hunset
    | folder _ hlies' hget' hb =>
      obtain rfl := Option.some.inj (hlies.symm.trans hlies')
      obtain rfl := Option.some.inj (hget.symm.trans hget')
      exact ih hb
    | workspace _ hlies' => rw [hlies] at hlies'; cases hlies'
  | workspace hunset hlies hbelongs hget howns =>
    cases hb with
    | own hsets => exact absurd hsets hunset
    | folder _ hlies' => rw [hlies] at hlies'; cases hlies'
    | workspace _ _ hbelongs' hget' howns' =>
      obtain rfl := Option.some.inj (hbelongs.symm.trans hbelongs')
      obtain rfl := Option.some.inj (hget.symm.trans hget')
      exact howns.unique howns'

/-! ### Authentication where the tree is sound -/

/-- What is asked of a chain once it is walked. -/
def authenticationAlong (s : Store) (workspaceId : Option String) (chain : List Node) :
    Except Fault Authentication :=
  match chain.find? Node.setsType with
  | some nearest => nearest.authentication
  | none => do (← s.fetch .workspace workspaceId).node.authentication

theorem folderAuthentication_eq (n : Node) :
    s.folderAuthentication n = s.chain n >>= s.authenticationAlong n.workspaceId := rfl

theorem authenticationAlong_of_sets {n : Node} {rest : List Node} {workspaceId : Option String}
    (h : n.Sets) : s.authenticationAlong workspaceId (n :: rest) = n.authentication := by
  simp [authenticationAlong, Node.setsType_iff.mpr h]

theorem authenticationAlong_of_not_sets {n : Node} {rest : List Node}
    {workspaceId : Option String} (h : ¬ n.Sets) :
    s.authenticationAlong workspaceId (n :: rest) = s.authenticationAlong workspaceId rest := by
  have hunset : n.setsType = false := by
    rw [← Node.setsType_iff] at h
    simpa using h
  simp [authenticationAlong, hunset]

/-- The first folder of a chain that sets a type, or else the workspace, gives what is wanted. -/
theorem authenticationAlong_of_wayUp (hc : s.Contained) (hp : s.Proper) {parent : Option String}
    {above : List (Row .folder)} (hway : s.WayUp parent above) {f : Row .folder}
    (hf : s.get? .folder f.id = some f) (hlies : f.data.folderId = parent) :
    ∃ a, s.authenticationAlong (some f.data.workspaceId) ((f :: above).map Row.node) = .ok a ∧
      s.Authenticates f.node a := by
  -- by induction on the way up: either the folder sets a type, or the question moves on to the
  -- folder above it
  induction hway generalizing f with
  | root =>
    rw [List.map_cons]
    by_cases hsets : f.node.Sets
    · obtain ⟨a, hown, howns⟩ := Node.exists_owns (hp.folder_node (mem_of_get? hf))
      exact ⟨a, (authenticationAlong_of_sets hsets).trans hown, .own hsets howns⟩
    · rw [authenticationAlong_of_not_sets hsets]
      obtain ⟨w, hfetch, hw, hproper⟩ := (hc.folder f (mem_of_get? hf)).exists_workspace hp
      obtain ⟨a, hown, howns⟩ := Node.exists_owns hproper
      refine ⟨a, ?_, .workspace hsets hlies rfl hw howns⟩
      simp only [List.map_nil, authenticationAlong, List.find?_nil, hfetch]
      exact hown
  | @step id g rest hget _ ih =>
    rw [List.map_cons]
    by_cases hsets : f.node.Sets
    · obtain ⟨a, hown, howns⟩ := Node.exists_owns (hp.folder_node (mem_of_get? hf))
      exact ⟨a, (authenticationAlong_of_sets hsets).trans hown, .own hsets howns⟩
    · rw [authenticationAlong_of_not_sets hsets]
      -- the walk goes on with the workspace of this folder, which is that of the next one
      obtain ⟨hg, hsame⟩ := hc.folder_above (mem_of_get? hf) hlies hget
      obtain ⟨a, halong, habove⟩ := ih hg rfl
      rw [hsame] at halong
      exact ⟨a, halong, .folder hsets hlies hget habove⟩

/-- Every stored folder has the authentication that is wanted. -/
theorem folderAuthentication_spec (hc : s.Contained) (hp : s.Proper) {f : Row .folder}
    (hf : s.get? .folder f.id = some f) :
    ∃ a, s.folderAuthentication f.node = .ok a ∧ s.Authenticates f.node a := by
  obtain ⟨above, hway⟩ := hc.grounded f (mem_of_get? hf)
  obtain ⟨a, halong, hwanted⟩ := authenticationAlong_of_wayUp hc hp hway hf rfl
  refine ⟨a, ?_, hwanted⟩
  rw [folderAuthentication_eq, chain_of_wayUp hf hway]
  exact halong

/-- The authentication of a stored request, one case at a time. -/
theorem requestAuthentication_eq {p : Protocol} (r : Row (.request p)) :
    s.requestAuthentication r.node =
      if r.node.setsType then r.node.authentication
      else
        match r.data.folderId with
        | some id => s.fetch .folder (some id) >>= fun f => s.folderAuthentication f.node
        | none =>
          s.fetch .workspace (some r.data.workspaceId) >>= fun w => w.node.authentication := rfl

/-- Every stored request has the authentication that is wanted. -/
theorem requestAuthentication_spec (hc : s.Contained) (hp : s.Proper) {p : Protocol}
    {r : Row (.request p)} (hr : r ∈ s.rows (.request p)) :
    ∃ a, s.requestAuthentication r.node = .ok a ∧ s.Authenticates r.node a := by
  have hplace := hc.request p r hr
  rw [requestAuthentication_eq]
  by_cases hsets : r.node.Sets
  · obtain ⟨a, hown, howns⟩ := Node.exists_owns (hp.request_node hr)
    rw [if_pos (Node.setsType_iff.mpr hsets)]
    exact ⟨a, hown, .own hsets howns⟩
  · rw [if_neg (fun h => hsets (Node.setsType_iff.mp h))]
    cases hlies : r.data.folderId with
    | none =>
      obtain ⟨w, hfetch, hw, hproper⟩ := hplace.exists_workspace hp
      obtain ⟨a, hown, howns⟩ := Node.exists_owns hproper
      refine ⟨a, ?_, .workspace hsets hlies rfl hw howns⟩
      simp only [hfetch]
      exact hown
    | some id =>
      rw [hlies] at hplace
      obtain ⟨f, hfetch, hget, hf, -⟩ := hplace.exists_folder
      obtain ⟨a, hfound, habove⟩ := folderAuthentication_spec hc hp hf
      refine ⟨a, ?_, .folder hsets hlies hget habove⟩
      simp only [hfetch]
      exact hfound

/-! ### Authentication where folders loop -/

theorem authentication_ne_cycle (n : Node) (id : String) :
    n.authentication ≠ .error (.folderCycle id) := by
  unfold Node.authentication
  split <;> simp

theorem fetch_ne_cycle {k : Kind} (id? : Option String) (id : String) :
    s.fetch k id? ≠ .error (.folderCycle id) := by
  unfold fetch
  split <;> simp

/-- What comes after a record is fetched and meets no loop meets none with the record. -/
theorem fetch_bind_ne_cycle {α : Type} {k : Kind} {id? : Option String} {id : String}
    {question : Row k → Except Fault α} (h : ∀ row, question row ≠ .error (.folderCycle id)) :
    (s.fetch k id? >>= question) ≠ .error (.folderCycle id) := by
  cases hfetch : s.fetch k id? with
  | ok row => exact h row
  | error e =>
    intro herror
    obtain rfl : e = .folderCycle id := by simpa [bind, Except.bind] using herror
    exact fetch_ne_cycle id? id hfetch

theorem authenticationAlong_ne_cycle (workspaceId : Option String) (chain : List Node)
    (id : String) : s.authenticationAlong workspaceId chain ≠ .error (.folderCycle id) := by
  unfold authenticationAlong
  split
  · exact authentication_ne_cycle _ id
  · exact fetch_bind_ne_cycle fun w => authentication_ne_cycle w.node id

/-- The question for the authentication of a stored folder meets a loop exactly if there is one
    on the way up, whatever the folder sets. -/
theorem folderAuthentication_cycle_iff {f : Row .folder} (hf : s.get? .folder f.id = some f) :
    (∃ id, s.folderAuthentication f.node = .error (.folderCycle id)) ↔ s.Loops f.id :=
  bind_chain_cycle_iff hf fun chain id => authenticationAlong_ne_cycle _ chain id

/-- The question for the authentication of a stored request meets a loop exactly if the request
    sets no type and there is a loop on the way up from its folder. -/
theorem requestAuthentication_cycle_iff {p : Protocol} {r : Row (.request p)} :
    (∃ id, s.requestAuthentication r.node = .error (.folderCycle id)) ↔
      ¬ r.node.Sets ∧ ∃ id, r.data.folderId = some id ∧ s.Loops id := by
  rw [requestAuthentication_eq, ← Node.setsType_iff]
  cases hsets : r.node.setsType with
  | true => simpa using authentication_ne_cycle r.node
  | false =>
    cases hlies : r.data.folderId with
    | none =>
      simpa using fun id => fetch_bind_ne_cycle fun w => authentication_ne_cycle w.node id
    | some folderId =>
      cases hget : s.get? .folder folderId with
      | none =>
        -- a folder that does not exist lies in none, so nothing loops above it
        have hloops : ¬ s.Loops folderId := by
          intro hloops
          obtain ⟨_, ⟨f, hf, -⟩, -⟩ := hloops.exists_parent
          rw [hget] at hf
          cases hf
        simp [fetch_some, hget, hloops, bind, Except.bind]
      | some f =>
        obtain rfl : f.id = folderId := id_of_get? hget
        simpa [fetch_some, hget, bind, Except.bind] using folderAuthentication_cycle_iff hget

end Store

namespace Catalog

/-- Wherever calls get, every stored request and every stored folder has exactly the
    authentication that is wanted. Wherever sessions get, the question fails with a loop for a
    stored folder exactly if its way up loops, and for a stored request exactly if it sets no
    type and the way up from its folder loops. -/
theorem authentication_inherited (c : Catalog) :
    (c.Served →
      (∀ p, ∀ r ∈ c.store.rows (.request p),
        ∃ a, c.store.requestAuthentication r.node = .ok a ∧
          ∀ b, c.store.Authenticates r.node b ↔ b = a) ∧
      (∀ f ∈ c.store.rows .folder,
        ∃ a, c.store.folderAuthentication f.node = .ok a ∧
          ∀ b, c.store.Authenticates f.node b ↔ b = a)) ∧
    (c.Reached →
      (∀ f ∈ c.store.rows .folder,
        (∃ id, c.store.folderAuthentication f.node = .error (.folderCycle id)) ↔
          c.store.Loops f.id) ∧
      (∀ p, ∀ r ∈ c.store.rows (.request p),
        (∃ id, c.store.requestAuthentication r.node = .error (.folderCycle id)) ↔
          ¬ r.node.Sets ∧ ∃ id, r.data.folderId = some id ∧ c.store.Loops id)) := by
  have honly : ∀ {n a}, c.store.Authenticates n a →
      ∀ b, c.store.Authenticates n b ↔ b = a := by
    intro n a ha b
    constructor
    · intro hb
      exact hb.unique ha
    · rintro rfl
      exact ha
  constructor
  · intro hserved
    have hdistinct := hserved.reached.intact.distinct
    constructor
    · intro p r hr
      obtain ⟨a, hfound, ha⟩ := Store.requestAuthentication_spec hserved.contained hserved.proper hr
      exact ⟨a, hfound, honly ha⟩
    · intro f hf
      obtain ⟨a, hfound, ha⟩ := Store.folderAuthentication_spec hserved.contained hserved.proper
        (hdistinct.get?_of_mem hf)
      exact ⟨a, hfound, honly ha⟩
  · intro hreached
    constructor
    · intro f hf
      exact Store.folderAuthentication_cycle_iff (hreached.intact.distinct.get?_of_mem hf)
    · intro p r _
      exact Store.requestAuthentication_cycle_iff

/-- A session in which two folders come to lie inside each other, with a request below them. -/
def looped : Catalog :=
  (runFrom {}
    [⟨none, .upsert .workspace ⟨.value "w", {}⟩ "window"⟩,
     ⟨none, .upsert .folder ⟨.value "a", { workspaceId := .value "w" }⟩ "window"⟩,
     ⟨none, .upsert .folder
        ⟨.value "b", { workspaceId := .value "w", folderId := .value "a" }⟩ "window"⟩,
     ⟨none, .upsert .folder
        ⟨.value "a", { workspaceId := .value "w", folderId := .value "b",
                       settings := { authenticationType := .value "basic" } }⟩ "window"⟩,
     ⟨none, .upsert (.request .http)
        ⟨.value "r", { workspaceId := .value "w", folderId := .value "b", call := {} }⟩
        "window"⟩]).2

theorem looped_reached : looped.Reached :=
  .runFrom (.start rfl) _

/-- In the run of calls the outer folder supplies the authentication of both requests. In the
    session with the loop both folders fail, also the one that sets a type. -/
theorem authentication_inherited_in_runs :
    (toured.store.rows (.request .http)).map (fun r =>
        (toured.store.requestAuthentication r.node).toOption.map Authentication.ownerId) =
      [some (some "outer"), some (some "outer")] ∧
    (∀ r ∈ toured.store.rows (.request .http),
      ∃ a, toured.store.requestAuthentication r.node = .ok a ∧
        toured.store.Authenticates r.node a) ∧
    (looped.store.rows .folder).map (fun f => (f.id, f.node.setsType)) =
      [("a", true), ("b", false)] ∧
    ∀ f ∈ looped.store.rows .folder,
      ∃ id, looped.store.folderAuthentication f.node = .error (.folderCycle id) := by
  refine ⟨by decide +kernel, fun r hr => ?_, by decide +kernel, fun f hf => ?_⟩
  · obtain ⟨a, hfound, ha⟩ := ((authentication_inherited toured).1 toured_served).1 .http r hr
    exact ⟨a, hfound, (ha a).mpr rfl⟩
  · have hloops : ∀ f ∈ looped.store.rows .folder,
        looped.store.wouldLoop f.id f.data.folderId = true := by decide +kernel
    have hget := looped_reached.intact.distinct.get?_of_mem hf
    exact (((authentication_inherited looped).2 looped_reached).1 f hf).mpr
      ((Store.loops_iff_wouldLoop hget).mpr (hloops f hf))

end Catalog

end RequestCatalog

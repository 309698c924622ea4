import RequestCatalog.Proofs.Containment
import RequestCatalog.Proofs.ProperSettings

/-! # The chain of a folder

  What records inherit is asked of a folder's chain: the folder, then the folders
  above it. Here is what both questions need, the one for authentication and the one
  for entries:

  * what a record has of its own can be read, because its settings are proper;
  * the chain of a folder is its way up, and the walk fails exactly if it loops;
  * the workspace and the folder that a record names are found.
-/

namespace RequestCatalog

/-! ### What a record has of its own -/

namespace Node

/-- The record sets a type of authentication that is not empty. -/
def Sets (n : Node) : Prop :=
  ∃ type, n.settings.authenticationType = some type ∧ type ≠ ""

/-- The authentication that the record has of its own, whatever its type. -/
def Owns (n : Node) (a : Authentication) : Prop :=
  ∃ members, n.settings.authentication.value = .object members ∧
    a = ⟨n.settings.authenticationType, members.map fun (name, j) => (.text name, j), n.id⟩

/-- The entries that the record has of its own. -/
def Lists (n : Node) (entries : List Json) : Prop :=
  n.settings.entries.value = .list entries

variable {n : Node}

theorem setsType_iff : n.setsType = true ↔ n.Sets := by
  unfold setsType Sets
  cases n.settings.authenticationType with
  | none => simp
  | some type => simp

theorem Owns.unique {a b : Authentication} (ha : n.Owns a) (hb : n.Owns b) : a = b := by
  obtain ⟨members, hmembers, rfl⟩ := ha
  obtain ⟨members', hmembers', rfl⟩ := hb
  obtain rfl := Json.object.inj (hmembers.symm.trans hmembers')
  rfl

/-- Proper authentication is read as it is. -/
theorem exists_owns (h : n.settings.Proper) : ∃ a, n.authentication = .ok a ∧ n.Owns a := by
  obtain ⟨members, hmembers⟩ := h.authentication
  refine ⟨_, ?_, members, hmembers, rfl⟩
  unfold authentication
  rw [hmembers, Json.mappingOrVacant_object]

/-- Proper entries are read as they are. -/
theorem exists_lists (h : n.settings.Proper) : ∃ entries, n.entries = .ok entries ∧
    n.Lists entries := by
  obtain ⟨items, hitems⟩ := h.entries.objects
  refine ⟨_, ?_, hitems⟩
  unfold entries
  rw [hitems, Json.entries_list_object]

end Node

namespace Store

variable {s : Store}

/-! ### The chain of a folder -/

section chain

variable {f : Row .folder}

theorem chain_of_wayUp {above : List (Row .folder)} (hf : s.get? .folder f.id = some f)
    (hway : s.WayUp f.data.folderId above) : s.chain f.node = .ok ((f :: above).map Row.node) := by
  show (do return f.node :: (← s.climb [f.id] f.data.folderId).map Row.node) = _
  rw [climb_of_wayUp hf hway]
  rfl

/-- A chain meets a loop exactly if the climb above the folder does. -/
theorem chain_eq_cycle_iff {id : String} :
    s.chain f.node = .error (.folderCycle id) ↔
      s.climb [f.id] f.data.folderId = .error (.folderCycle id) := by
  have hchain : s.chain f.node =
      (fun above => f.node :: above.map Row.node) <$> s.climb [f.id] f.data.folderId := by
    show (do return f.node :: (← s.climb [f.id] f.data.folderId).map Row.node) = _
    cases s.climb [f.id] f.data.folderId <;> rfl
  rw [hchain, map_eq_error_iff]

/-- The chain of a stored folder meets a loop exactly if there is one. -/
theorem chain_cycle_iff (hf : s.get? .folder f.id = some f) :
    (∃ id, s.chain f.node = .error (.folderCycle id)) ↔ s.Loops f.id := by
  simp only [chain_eq_cycle_iff, climb_cycle_iff hf]

/-- A question about the chain of a stored folder meets a loop exactly if there is one, if
    nothing that comes after the chain does. -/
theorem bind_chain_cycle_iff {α : Type} (hf : s.get? .folder f.id = some f)
    {question : List Node → Except Fault α}
    (hquiet : ∀ chain id, question chain ≠ .error (.folderCycle id)) :
    (∃ id, (s.chain f.node >>= question) = .error (.folderCycle id)) ↔ s.Loops f.id := by
  rw [← chain_cycle_iff hf]
  cases hchain : s.chain f.node with
  | ok chain => simpa [bind, Except.bind] using hquiet chain
  | error e => simp [bind, Except.bind]

end chain

/-! ### Finding what a record lies in -/

theorem Proper.folder_node (hp : s.Proper) {f : Row .folder} (hf : f ∈ s.rows .folder) :
    f.node.settings.Proper :=
  hp .folder f hf

theorem Proper.request_node (hp : s.Proper) {p : Protocol} {r : Row (.request p)}
    (hr : r ∈ s.rows (.request p)) : r.node.settings.Proper :=
  hp (.request p) r hr

/-- The workspace of a place is found, with authentication and entries that can be read. -/
theorem HasPlace.exists_workspace (hp : s.Proper) {workspaceId : String}
    {folderId : Option String} (h : s.HasPlace workspaceId folderId) :
    ∃ w, s.fetch .workspace (some workspaceId) = .ok w ∧ s.get? .workspace workspaceId = some w ∧
      w.node.settings.Proper := by
  obtain ⟨w, hget⟩ := get?_of_holds h.1
  exact ⟨w, by rw [fetch_some, hget], hget, hp .workspace w (mem_of_get? hget)⟩

/-- The folder of a place is found, in the same workspace. -/
theorem HasPlace.exists_folder {workspaceId id : String} (h : s.HasPlace workspaceId (some id)) :
    ∃ f, s.fetch .folder (some id) = .ok f ∧ s.get? .folder id = some f ∧
      s.get? .folder f.id = some f ∧ f.data.workspaceId = workspaceId := by
  obtain ⟨f, hget, hsame⟩ := h.2 id rfl
  exact ⟨f, by rw [fetch_some, hget], hget, by rw [id_of_get? hget, hget], hsame⟩

/-- The folder that a stored folder lies in is found under its own identifier, and belongs to the
    same workspace. -/
theorem Contained.folder_above (hc : s.Contained) {f g : Row .folder} {id : String}
    (hf : f ∈ s.rows .folder) (hlies : f.data.folderId = some id)
    (hget : s.get? .folder id = some g) :
    s.get? .folder g.id = some g ∧ g.data.workspaceId = f.data.workspaceId := by
  have hplace := hc.folder f hf
  rw [hlies] at hplace
  obtain ⟨found, -, hfound, hg, hsame⟩ := hplace.exists_folder
  obtain rfl : g = found := Option.some.inj (hget.symm.trans hfound)
  exact ⟨hg, hsame⟩

end Store

end RequestCatalog

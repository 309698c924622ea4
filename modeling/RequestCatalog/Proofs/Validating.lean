import RequestCatalog.Proofs.Refusals
import RequestCatalog.Proofs.Schema
import RequestCatalog.Proofs.Served

/-! # Validating what callers send

  A call that sends a record may be wrong in two places: the origin it names, and its body. All
  that is wrong is answered at once, first the origin and then the fields of the body in their
  order. What is wrong with a field depends on the value of this field alone.

  * `Incoming.flaws` lists what is wrong with a call and the value in its body. A call is checked
    for this and for nothing else (`Incoming.complaints_form`).
  * `Catalog.validates`: a call is refused exactly if its origin is not known, its body is no
    object, or a field of the body is wrong. The reply words all that is wrong, and nothing is
    stored. What is not declared is not looked at.

  A body may be left out, and a `null` may count as one that was. Then it is missing, like a field.

  The reader of bodies has limits. A value that is nested too deep, or has a number of too many
  digits, is not looked at, so it is refused whatever its fields are.
-/

namespace RequestCatalog

namespace Api

/-! ### Calls that send a record -/

/-- The call sends a record of this kind. -/
structure Incoming.Posts (call : Incoming) (k : Kind) : Prop where
  /-- The method that sends. -/
  method : call.method = "POST"
  /-- The address of all records of the kind. -/
  path : Resource.ofPath? call.path = some (.collection k)

theorem Resource.kind?_ne_exchange {part : String} {k : Kind} (h : kind? part = some k)
    (p : Protocol) : k ≠ .exchange p := by
  unfold kind? at h
  split at h <;> cases h <;> simp

/-- The address of all records of a kind ends with the part that stands for the kind. -/
theorem Resource.kind?_of_ofPath? {path : String} {k : Kind}
    (h : ofPath? path = some (.collection k)) : ∃ part, kind? part = some k := by
  unfold ofPath? at h
  split at h
  case h_2 => cases h
  unfold ofParts? at h
  split at h
  case h_1 => split at h <;> cases h
  case h_2 kind =>
    obtain ⟨found, hfound, heq⟩ := Option.map_eq_some_iff.mp h
    cases heq
    exact ⟨_, hfound⟩
  case h_3 =>
    split at h
    · cases h
    · obtain ⟨_, -, heq⟩ := Option.map_eq_some_iff.mp h
      cases heq
  case h_4 =>
    split at h
    · cases h
    · obtain ⟨found, -, hpart⟩ := Option.bind_eq_some_iff.mp h
      unfold part? at hpart
      split at hpart <;> cases hpart
  case h_5 => cases h

/-- What came back from a request is not sent anywhere. -/
theorem Incoming.Posts.ne_exchange {call : Incoming} {k : Kind} (h : call.Posts k)
    (p : Protocol) : k ≠ .exchange p := by
  obtain ⟨part, hpart⟩ := Resource.kind?_of_ofPath? h.path
  exact Resource.kind?_ne_exchange hpart p

/-- The command that writes a record that was sent. -/
def Command.writing : (k : Kind) → Form k × Source → Command
  | .workspace, (form, source) => .writeWorkspace form source
  | .folder, (form, source) => .writeFolder form source
  | .request p, (form, source) => .writeRequest p form source
  | .exchange _, _ => .about

theorem Resource.command?_post (call : Incoming) {k : Kind} (hk : ∀ p, k ≠ .exchange p) :
    (collection k).command? call "POST" =
      some (Command.writing k <$> call.form (Form.check k)) := by
  cases k with
  | exchange p => exact absurd rfl (hk p)
  | _ => rfl

/-! ### What is wrong with a call -/

namespace Incoming

variable {k : Kind}

/-- The call names an origin that is not known. -/
def NamesStranger (call : Incoming) : Prop :=
  ∃ value, call.header? sourceHeader = some value ∧ Source.ofName? value = none

/-- What is wrong with the origin that a call names. -/
def sourceFlaws (call : Incoming) : List Complaint :=
  match (call.header? sourceHeader).map Source.ofName? with
  | some none => [⟨["header", sourceHeader], .notSource⟩]
  | _ => []

/-- What is wrong with a body that should hold an object with these fields. -/
def bodyFlaws (fields : List Field) : Option Json → List Complaint
  | none => [⟨[], .missing⟩]
  | some j => objectFlaws fields j

/-- What is wrong with a call that sends a record of a kind and has this body. -/
def flaws (call : Incoming) (k : Kind) (body : Option Json) : List Complaint :=
  call.sourceFlaws ++ (bodyFlaws k.fields body).map (.within "body")

theorem sourceFlaws_ne_nil_iff (call : Incoming) :
    call.sourceFlaws ≠ [] ↔ call.NamesStranger := by
  unfold sourceFlaws NamesStranger
  cases call.header? sourceHeader with
  | none => simp
  | some value => cases hvalue : Source.ofName? value <;> simp [hvalue]

/-- A call is wrong exactly if its origin, its body, or a field of its body is. -/
theorem flaws_ne_nil_iff (call : Incoming) (k : Kind) (body : Option Json) :
    call.flaws k body ≠ [] ↔
      call.NamesStranger ∨ (∀ members, body ≠ some (.object members)) ∨
        ∃ members, body = some (.object members) ∧ ∃ f ∈ k.fields, f.complaints members ≠ [] := by
  have happend : call.flaws k body ≠ [] ↔
      call.sourceFlaws ≠ [] ∨ bodyFlaws k.fields body ≠ [] := by
    unfold flaws
    rw [ne_eq, List.append_eq_nil_iff, List.map_eq_nil_iff, not_and_or]
  rw [happend, sourceFlaws_ne_nil_iff]
  refine or_congr_right ?_
  match body with
  | none => simp [bodyFlaws]
  | some (.object members) => simp [bodyFlaws, objectFlaws]
  | some .null | some (.bool _) | some (.int _) | some (.real _) | some (.text _)
  | some (.list _) => simp [bodyFlaws, objectFlaws]

theorem complaints_source (call : Incoming) : call.source.complaints = call.sourceFlaws := by
  unfold source sourceFlaws
  cases call.header? sourceHeader with
  | none => rfl
  | some value =>
    simp only [Option.map_some]
    cases Source.ofName? value <;> rfl

theorem explained_source (call : Incoming) : call.source.Explained := by
  unfold source
  split
  · exact Checked.explained_pure _
  · split
    · exact Checked.explained_pure _
    · exact ((Checked.explained_refuse (by decide)).within _).within _

theorem complaints_bodyOf (hk : ∀ p, k ≠ .exchange p) (body : Option Json) :
    (bodyOf (Form.check k) body).complaints = (bodyFlaws k.fields body).map (.within "body") := by
  match body with
  | none => rfl
  | some (.object members) =>
    rw [bodyOf, Checked.complaints_within, Form.complaints_check hk]
    rfl
  | some .null | some (.bool _) | some (.int _) | some (.real _) | some (.text _)
  | some (.list _) => rfl

theorem explained_bodyOf (body : Option Json) : (bodyOf (Form.check k) body).Explained := by
  match body with
  | some (.object members) => exact (Form.explained_check k members).within _
  | none | some .null | some (.bool _) | some (.int _) | some (.real _) | some (.text _)
  | some (.list _) => exact (Checked.explained_refuse (by decide)).within _

/-- All that is wrong with a call is complained about, the origin first. -/
theorem complaints_form {call : Incoming} {body : Option Json} (hk : ∀ p, k ≠ .exchange p)
    (hbody : call.body = .sound body) :
    (call.form (Form.check k)).complaints = call.flaws k body := by
  unfold form
  rw [hbody]
  simp only [Checked.complaints_seq, Checked.complaints_map, complaints_source,
    complaints_bodyOf hk]
  rfl

theorem explained_form {call : Incoming} {body : Option Json} (hbody : call.body = .sound body) :
    (call.form (Form.check k)).Explained := by
  unfold form
  rw [hbody]
  exact (call.explained_source.map _).seq (explained_bodyOf body)

end Incoming

/-! ### What is not looked at -/

/-- The bodies agree in every name that is declared. The shorter name of the metadata does not
    matter where the longer one is there. -/
def AgreeOn (k : Kind) (members others : List (Text × Json)) : Prop :=
  ∀ f ∈ k.fields, ∀ name ∈ f.names,
    others.lookup (.sound name) = members.lookup (.sound name) ∨
      name = "metadata" ∧ (members.lookup (.sound "metadata_")).isSome

theorem Field.found?_congr {f : Field} {members others : List (Text × Json)}
    (h : ∀ name ∈ f.names, others.lookup (.sound name) = members.lookup (.sound name)) :
    f.found? others = f.found? members := by
  unfold found?
  generalize f.names = names at h
  induction names with
  | nil => rfl
  | cons name rest ih =>
    rw [List.forall_mem_cons] at h
    rw [List.findSome?_cons, List.findSome?_cons, h.1, ih h.2]

/-- No field but the metadata of a gRPC request has the shorter name of the metadata. -/
theorem names_cases {k : Kind} :
    ∀ f ∈ k.fields, f.names = ["metadata_", "metadata"] ∨ "metadata" ∉ f.names := by
  rcases k with _ | _ | (_ | _) | p
  case exchange => exact fun f hf => absurd hf List.not_mem_nil
  all_goals decide

/-- In bodies that agree, every field is found with the same value. -/
theorem AgreeOn.found?_eq {k : Kind} {members others : List (Text × Json)}
    (h : AgreeOn k members others) {f : Field} (hf : f ∈ k.fields) :
    f.found? others = f.found? members := by
  have hagree := h f hf
  rcases names_cases f hf with hnames | hnames
  · rw [hnames] at hagree
    have hlong : others.lookup (.sound "metadata_") = members.lookup (.sound "metadata_") := by
      rcases hagree "metadata_" (by simp) with heq | ⟨hname, -⟩
      · exact heq
      · exact absurd hname (by decide)
    unfold Field.found?
    simp only [hnames, List.findSome?_cons, hlong]
    cases hfound : members.lookup (.sound "metadata_") with
    | some j => rfl
    | none =>
      rcases hagree "metadata" (by simp) with heq | ⟨-, hthere⟩
      · simp only [heq, List.findSome?_nil]
      · simp [hfound] at hthere
  · refine Field.found?_congr fun name hname => ?_
    rcases hagree name hname with heq | ⟨rfl, -⟩
    · exact heq
    · exact absurd hname hnames

/-! ### Calls that are refused, and calls that are not -/

/-- A call whose command is refused is answered so. -/
theorem serve_of_flawed {call : Incoming} {resource : Resource} {complaints : List Complaint}
    (hresource : Resource.ofPath? call.path = some resource)
    (hcommand : resource.command? call call.method = some (.flawed complaints)) (c : Catalog) :
    serve call c = .ok (.refused complaints) c := by
  have hmethod : (call.method == "HEAD") = false := by
    rw [beq_eq_false_iff_ne]
    intro hhead
    rw [hhead, resource.command?_head] at hcommand
    cases hcommand
  unfold serve answer
  simp only [hresource, hcommand, hmethod]
  rfl

theorem Reply.refused_of_readable {complaints : List Complaint}
    (h : ∀ c ∈ complaints, c.flaw ≠ .unreadable) :
    Reply.refused complaints =
      .explained 422 ("; ".intercalate (complaints.map Complaint.message)) "VALIDATION_ERROR" := by
  have hnone : complaints.any (·.flaw == .unreadable) = false := by simpa using h
  unfold Reply.refused
  rw [hnone]
  rfl

/-- No fault of a command is answered like a call that is refused. -/
theorem Reply.status_ofFault (fault : Fault) : (Reply.ofFault fault).status ≠ 422 := by
  unfold Reply.ofFault
  cases fault <;> simp [Fault.statusAndCode?, explained, json, notStored, failed]

/-- Nor is a command that is carried out. -/
theorem status_of_gives {call : Incoming} {command : Command} (h : call.Gives command)
    (c : Catalog) : ∃ reply c', serve call c = .ok reply c' ∧ reply.status ≠ 422 := by
  obtain ⟨reply, c', hreply, hcases⟩ := carryOut_cases call command c
  refine ⟨reply, c', by rw [serve_of_gives h, hreply], ?_⟩
  rcases hcases with hrun | ⟨fault, _, -, rfl, -⟩
  · rcases command.yields_run _ _ _ hrun with hlow | rfl
    · omega
    · exact (by decide : (500 : Nat) ≠ 422)
  · exact Reply.status_ofFault fault

/-- A call that sends a record is answered by its flaws, if it has any. -/
theorem serve_of_posts {call : Incoming} {k : Kind} {body : Option Json} (hposts : call.Posts k)
    (hbody : call.body = .sound body) (c : Catalog) :
    (call.flaws k body ≠ [] → serve call c = .ok (.explained 422
        ("; ".intercalate ((call.flaws k body).map Complaint.message)) "VALIDATION_ERROR") c) ∧
      (call.flaws k body = [] → ∃ reply c', serve call c = .ok reply c' ∧ reply.status ≠ 422) := by
  have hcommand := Resource.command?_post call hposts.ne_exchange
  have hcomplaints := Incoming.complaints_form hposts.ne_exchange hbody
  have hexplained := Incoming.explained_form (k := k) hbody
  rw [← hposts.method] at hcommand
  cases hform : call.form (Form.check k) with
  | flawed complaints =>
    rw [hform] at hcommand hcomplaints
    obtain rfl : complaints = call.flaws k body := hcomplaints
    obtain ⟨hne, hreadable⟩ := hexplained _ hform
    refine ⟨fun _ => ?_, fun hnil => absurd hnil hne⟩
    rw [serve_of_flawed hposts.path hcommand, Reply.refused_of_readable hreadable]
  | sound sent =>
    rw [hform] at hcommand hcomplaints
    have hnil : call.flaws k body = [] := hcomplaints.symm
    have hgives : call.Gives (Command.writing k sent) := ⟨_, hposts.path, hcommand⟩
    exact ⟨fun hne => absurd hnil hne, fun _ => status_of_gives hgives c⟩

/-- A call whose body cannot be read is answered so, whatever the body holds. -/
theorem serve_of_unreadable {call : Incoming} {k : Kind} (hposts : call.Posts k)
    (hbody : call.body = .flawed [⟨[], .unreadable⟩]) (c : Catalog) :
    serve call c = .ok (.plain 400 Flaw.unreadable.message) c := by
  have hcommand := Resource.command?_post call hposts.ne_exchange
  have hform : call.form (Form.check k) = .flawed [⟨[], .unreadable⟩] := by
    unfold Incoming.form
    rw [hbody]
  rw [hform, ← hposts.method] at hcommand
  exact serve_of_flawed hposts.path hcommand c

/-- Calls that differ in what is not looked at are answered alike. -/
theorem serve_congr {call : Incoming} {payload : Payload} {k : Kind}
    {members others : List (Text × Json)} (hposts : call.Posts k)
    (hbody : call.body = .sound (some (.object members)))
    (hother : Incoming.body { call with payload } = .sound (some (.object others)))
    (hagree : AgreeOn k members others) : serve { call with payload } = serve call := by
  have hk := hposts.ne_exchange
  obtain ⟨method, path, query, headers, given, countsNull⟩ := call
  obtain ⟨hmethod, hpath⟩ := hposts
  obtain rfl : method = "POST" := hmethod
  have hcheck : Form.check k others = Form.check k members :=
    Form.check_congr fun f hf => hagree.found?_eq hf
  have hform : Incoming.form ⟨"POST", path, query, headers, payload, countsNull⟩ (Form.check k) =
      Incoming.form ⟨"POST", path, query, headers, given, countsNull⟩ (Form.check k) := by
    unfold Incoming.form
    simp only [hbody, hother, bodyOf, hcheck]
    rfl
  have hcommand : (Resource.collection k).command?
      ⟨"POST", path, query, headers, payload, countsNull⟩ "POST" =
      (Resource.collection k).command? ⟨"POST", path, query, headers, given,
          countsNull⟩ "POST" := by
    rw [Resource.command?_post _ hk, Resource.command?_post _ hk, hform]
  unfold serve answer
  simp only [hpath, hcommand]
  rfl

/-- The call tells that it carries a value, or does not tell what it carries. -/
def Incoming.CarriesValue (call : Incoming) : Prop :=
  ∀ text, call.header? contentHeader = some text → (ContentType.ofText text).isValue = true

/-- A value is read as it is, unless it goes beyond the limits of the reader. -/
theorem Incoming.body_of_json {call : Incoming} {j : Json} (hcarries : call.CarriesValue)
    (hpayload : call.payload = .json j) :
    call.body = if j.obstacle? Payload.greatestNesting = none then .sound (call.counted (some j))
      else .flawed [⟨[], .unreadable⟩] := by
  have htold : ((call.header? contentHeader).all
      fun text => (ContentType.ofText text).isValue) = true := by
    cases hheader : call.header? contentHeader with
    | none => rfl
    | some text => exact hcarries text hheader
  unfold body
  rw [if_pos htold, hpayload]
  simp only [Payload.value, Option.isNone_iff_eq_none]
  split <;> rfl

end Api

/-! ### What is answered -/

/-- Calls that are served alike are answered alike, and leave the same. -/
theorem TimedStep.take_call_congr {at? : Option Int} {call other : Api.Incoming}
    (h : Api.serve other = Api.serve call) (c : Catalog) :
    take ⟨at?, .call other⟩ c = take ⟨at?, .call call⟩ c := by
  have hrun : Step.run (.call other) = Step.run (.call call) := by
    show (Api.serve other >>= _) = (Api.serve call >>= _)
    rw [h]
  unfold take
  simp only [hrun]

namespace Catalog

open Api

/-- A call that sends a record is refused exactly if it names an origin that is not known, if its
    body is no object, or if a field of its body is wrong. The reply then tells all that is wrong,
    the origin first and then the fields in their order, and nothing is stored. What is not
    declared, and the shorter name of the metadata where the longer one is there, changes neither
    the answer nor the catalogue. A value that is nested too deep, or has a number of too many
    digits, is not read, so it is not looked at and not stored either. -/
theorem validates (c : Catalog) (at? : Option Int) {k : Kind} {call : Incoming}
    (hposts : call.Posts k) :
    (∀ body, call.body = .sound body →
      ∃ reply left, TimedStep.take ⟨at?, .call call⟩ c =
          (⟨.ok (.reply reply), left.journal⟩, left) ∧
        (reply.status = 422 ↔
          call.NamesStranger ∨ (∀ members, body ≠ some (.object members)) ∨
            ∃ members, body = some (.object members) ∧
              ∃ f ∈ k.fields, f.complaints members ≠ []) ∧
        (reply.status = 422 →
          reply = .explained 422 ("; ".intercalate ((call.flaws k body).map Complaint.message))
              "VALIDATION_ERROR" ∧
            left.store = c.store ∧ left.journal = [])) ∧
      (∀ payload members others, call.body = .sound (some (.object members)) →
        Incoming.body { call with payload } = .sound (some (.object others)) →
        AgreeOn k members others →
        TimedStep.take ⟨at?, .call { call with payload }⟩ c =
          TimedStep.take ⟨at?, .call call⟩ c) ∧
      (∀ j, call.payload = .json j → call.CarriesValue →
        (j.obstacle? Payload.greatestNesting = none → call.body = .sound (call.counted (some j))) ∧
          (j.obstacle? Payload.greatestNesting ≠ none →
            call.body = .flawed [⟨[], .unreadable⟩])) ∧
      (call.body = .flawed [⟨[], .unreadable⟩] →
        ∃ left, TimedStep.take ⟨at?, .call call⟩ c =
            (⟨.ok (.reply (.plain 400 Flaw.unreadable.message)), []⟩, left) ∧
          left.store = c.store) := by
  refine ⟨fun body hbody => ?_, fun payload members others hbody hother hagree => ?_,
    fun j hpayload hcarries => ?_, fun hbody => ?_⟩
  · rw [← call.flaws_ne_nil_iff k body]
    obtain ⟨hflawed, hsound⟩ :=
      serve_of_posts hposts hbody (TimedStep.before ⟨at?, .call call⟩ c)
    by_cases hne : call.flaws k body = []
    · obtain ⟨reply, left, hserve, hstatus⟩ := hsound hne
      exact ⟨reply, left, TimedStep.take_call_of_serve hserve,
        ⟨fun h => absurd h hstatus, fun h => absurd hne h⟩, fun h => absurd h hstatus⟩
    · exact ⟨_, _, TimedStep.take_call_of_serve (hflawed hne), ⟨fun _ => hne, fun _ => rfl⟩,
        fun _ => ⟨rfl, rfl, rfl⟩⟩
  · exact TimedStep.take_call_congr (serve_congr hposts hbody hother hagree) c
  · rw [Incoming.body_of_json hcarries hpayload]
    exact ⟨fun h => if_pos h, fun h => if_neg h⟩
  · exact ⟨_, TimedStep.take_call_of_serve (serve_of_unreadable hposts hbody _), rfl⟩

/-- The members of a gRPC request that is wrong in several places. -/
def muddled : List (Text × Json) :=
  [("metadata_", .list [.object [("name", .int 1), ("enabled", .text "maybe")], .object []]),
    ("url", .null)]

/-- A call that sends such a value and names an origin that is not known. -/
def muddle (j : Json) : Incoming where
  method := "POST"
  path := "/api/grpc-requests"
  query := []
  headers := [("X-Update-Source", "nobody")]
  payload := .json j

/-- All that is wrong is told at once, and a `null` that does not count is a body that is missing.
    What is not looked at makes no difference. -/
theorem toured_validates :
    (muddle (.object muddled)).Posts (.request .grpc) ∧
      (∃ left, TimedStep.take ⟨none, .call (muddle (.object muddled))⟩ toured =
          (⟨.ok (.reply (.explained 422
            ("header -> x-update-source: Input should be 'window', 'plugin', 'background', " ++
              "'import' or 'sync'; body -> workspace_id: Field required; " ++
              "body -> url: Input should be a valid string; " ++
              "body -> metadata_ -> 0 -> name: Input should be a valid string; " ++
              "body -> metadata_ -> 0 -> enabled: Input should be a valid boolean, unable to " ++
              "interpret input; body -> metadata_ -> 1 -> name: Field required")
            "VALIDATION_ERROR")), []⟩, left) ∧
        left.store = toured.store) ∧
      (∃ left, TimedStep.take ⟨none, .call (muddle .null)⟩ toured =
          (⟨.ok (.reply (.explained 422
            ("header -> x-update-source: Input should be 'window', 'plugin', 'background', " ++
              "'import' or 'sync'; body: Field required")
            "VALIDATION_ERROR")), []⟩, left) ∧
        left.store = toured.store) ∧
      TimedStep.take ⟨none, .call (muddle (.object (("metadata", .int 1) :: muddled)))⟩ toured =
        TimedStep.take ⟨none, .call (muddle (.object muddled))⟩ toured := by
  have hpath : Resource.ofPath? (muddle .null).path = some (.collection (.request .grpc)) := by
    decide +kernel
  have hposts : ∀ j, (muddle j).Posts (.request .grpc) := fun _ => ⟨rfl, hpath⟩
  have hstranger : ∀ j, (muddle j).NamesStranger := fun j =>
    ⟨"nobody", (by decide +kernel : (muddle .null).header? Incoming.sourceHeader = _),
      by decide +kernel⟩
  have hcarries : ∀ j, (muddle j).CarriesValue := by
    intro j text htext
    have hnone : (muddle .null).header? Incoming.contentHeader = none := by decide +kernel
    cases hnone.symm.trans htext
  have hread : ∀ j, j.obstacle? Payload.greatestNesting = none →
      (muddle j).body = .sound ((muddle j).counted (some j)) := fun j =>
    ((validates toured none (hposts j)).2.2.1 j rfl (hcarries j)).1
  have hrefused : ∀ j body, (muddle j).body = .sound body →
      ∃ left, TimedStep.take ⟨none, .call (muddle j)⟩ toured =
          (⟨.ok (.reply (.explained 422
            ("; ".intercalate (((muddle j).flaws (.request .grpc) body).map Complaint.message))
            "VALIDATION_ERROR")), []⟩, left) ∧ left.store = toured.store := by
    intro j body hbody
    obtain ⟨reply, left, htake, hstatus, hreply⟩ := (validates toured none (hposts j)).1 body hbody
    obtain ⟨rfl, hstore, hjournal⟩ := hreply (hstatus.mpr (.inl (hstranger j)))
    exact ⟨left, by rw [htake, hjournal], hstore⟩
  have hbody := hread (.object muddled) (by decide +kernel)
  refine ⟨hposts _, ?_, ?_, ?_⟩
  · obtain ⟨left, htake, hstore⟩ := hrefused _ _ hbody
    refine ⟨left, htake.trans ?_, hstore⟩
    congr 5
    decide +kernel
  · obtain ⟨left, htake, hstore⟩ := hrefused _ _ (hread .null (by decide +kernel))
    refine ⟨left, htake.trans ?_, hstore⟩
    congr 5
    decide +kernel
  · have hother := hread (.object (("metadata", .int 1) :: muddled)) (by decide +kernel)
    refine (validates toured none (hposts _)).2.1 _ _ _ hbody hother ?_
    intro f hf name hname
    by_cases hmetadata : name = "metadata"
    · exact .inr ⟨hmetadata, by decide +kernel⟩
    · have hother : ((.sound name : Text) == "metadata") = false := by simpa using hmetadata
      exact .inl (by rw [List.lookup_cons, hother])

/-- Lists that lie inside each other, so many. -/
def burrow : Nat → Json
  | 0 => .null
  | depth + 1 => .list [burrow depth]

/-- A name that is not declared makes a difference if it hides too many lists, and such lists are
    refused for another reason than that they are no object. -/
theorem toured_unread_bodies :
    AgreeOn .workspace [("name", .text "n")] [("name", .text "n"), ("x", burrow 960)] ∧
      ((TimedStep.post "/api/workspaces" [("name", .text "n")]).take toured).1.status? = some 200 ∧
      ((TimedStep.post "/api/workspaces" [("name", .text "n"), ("x", burrow 960)]).take
        toured).1.status? = some 400 ∧
      (TimedStep.take ⟨none, .call ⟨"POST", "/api/workspaces", [], [], .json (burrow 961), false⟩⟩
        toured).1.status? = some 400 := by
  refine ⟨?_, by decide +kernel, by decide +kernel, by decide +kernel⟩
  have hdeclared : ∀ f ∈ Kind.workspace.fields, "x" ∉ f.names := by decide
  intro f hf name hname
  have hx : name ≠ "x" := fun heq => hdeclared f hf (heq ▸ hname)
  have hother : ((.sound name : Text) == "x") = false := by simpa using hx
  exact .inl (by simp [List.lookup_cons, hother])

end Catalog

end RequestCatalog

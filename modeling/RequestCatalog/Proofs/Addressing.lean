import RequestCatalog.Api.Sending
import RequestCatalog.Proofs.Spelling

/-! # What an address tells

  Scheme and host in front of an address tell where it leads, and change nothing else.

  * `Address.IsRooted` is said of a path that is taken from the root by itself. It leads where it
    leads without a host in front, and behind one (`Address.Front.Leads.read_eq`).
  * `Address.ArePlain` is said of the parts of a path in which nothing means anything else than
    itself. Such a path arrives as it is (`Address.ArePlain.read_eq`).
  * So a call to a path in plain parts reaches the resource that the parts name
    (`Api.Outgoing.sent_pathOf`), and it does so behind every scheme and host that calls can be sent
    to (`Api.Outgoing.sent_of_front`).
-/

namespace RequestCatalog

/-! ### Cutting and joining -/

/-- Parts that are joined by a separator are found again when the text is cut there. -/
theorem cutAt_intercalate {separator : Char} {parts : List (List Char)} (hne : parts ≠ [])
    (hfree : ∀ part ∈ parts, separator ∉ part) :
    cutAt separator ([separator].intercalate parts) = parts := by
  have hcut : ∀ {part rest : List Char}, separator ∉ part →
      cutAt separator (part ++ separator :: rest) = part :: cutAt separator rest := by
    intro part rest hpart
    induction part with
    | nil => simp [cutAt]
    | cons c part ih =>
      simp only [List.mem_cons, not_or] at hpart
      simp [cutAt, ih hpart.2, Ne.symm hpart.1]
  induction parts with
  | nil => exact absurd rfl hne
  | cons part rest ih =>
    have hpart := hfree part List.mem_cons_self
    cases rest with
    | nil => simpa [List.intercalate] using cutAt_of_not_mem hpart
    | cons next rest =>
      have hrest := ih (by simp) fun p hp => hfree p (List.mem_cons_of_mem _ hp)
      have hjoined : [separator].intercalate (part :: next :: rest) =
          part ++ separator :: [separator].intercalate (next :: rest) := by
        simp [List.intercalate]
      rw [hjoined, hcut hpart, hrest]

/-- A text that is put in front does not change where the rest is cut first. -/
theorem cutAtFirst_append {separator : Char} {front : List Char} (h : separator ∉ front)
    (rest : List Char) :
    cutAtFirst separator (front ++ rest) =
      (front ++ (cutAtFirst separator rest).1, (cutAtFirst separator rest).2) := by
  have hfront : ∀ c ∈ front, (c != separator) = true := by
    rintro c hc
    exact bne_iff_ne.mpr fun heq => h (heq ▸ hc)
  unfold cutAtFirst
  rw [List.dropWhile_append_of_pos hfront, List.takeWhile_append_of_pos hfront]
  cases rest.dropWhile (· != separator) <;> rfl

theorem cutAtFirst_of_not_mem {separator : Char} {cs : List Char} (h : separator ∉ cs) :
    cutAtFirst separator cs = (cs, none) := by
  have hnil := cutAtFirst_append h []
  rw [List.append_nil] at hnil
  exact hnil.trans (by simp [cutAtFirst])

namespace Address

/-! ### Paths from the root -/

/-- A path that is taken from the root by itself: there is nothing, or there is one slash in front,
    and not two. -/
def IsRooted (path : List Char) : Prop :=
  path = [] ∨ ∃ rest, path = '/' :: rest ∧ rest.head? ≠ some '/'

variable {path : List Char}

/-- From the root such a path leads where it leads as the path of a complete address. -/
theorem IsRooted.rooted_eq (h : IsRooted path) : rooted path = complete path := by
  rcases h with rfl | ⟨rest, rfl, hrest⟩
  · decide
  · have hdrop : ('/' :: rest).dropWhile (· = '/') = rest := by
      cases rest with
      | nil => simp
      | cons c rest =>
        have hc : c ≠ '/' := fun h => hrest (congrArg some h)
        simp [hc]
    unfold rooted complete
    rw [hdrop]

/-- Such a path is a whole address, which has no host. -/
theorem IsRooted.placeOf_eq (h : IsRooted path) : placeOf path = .ok (none, complete path) := by
  rw [← h.rooted_eq]
  have hnobody : Authority.ofChars [] = ⟨[], [], []⟩ := by decide
  have hhost : Authority.sentHost ⟨[], [], []⟩ = .ok [] := by decide
  rcases h with rfl | ⟨rest, rfl, hrest⟩
  · decide
  · -- a slash ends the scheme before it begins, and a second one is needed for a host
    have hscheme : schemeOf ('/' :: rest) = ([], '/' :: rest) := by simp [schemeOf]
    cases rest with
    | nil => decide
    | cons c rest =>
      have hc : c ≠ '/' := fun h => hrest (congrArg some h)
      unfold placeOf
      simp [hscheme, hc, hnobody, hhost, Authority.isEmpty, bind, Except.bind]
      rfl

/-! ### What stands in front of a path -/

/-- The scheme and the host of a complete address, with a user and a port if there are any. -/
structure Front where
  /-- The scheme. -/
  scheme : String
  /-- What stands behind the two slashes. -/
  authority : String

namespace Front

/-- The way it is written. -/
def text (f : Front) : String := f.scheme ++ "://" ++ f.authority

/-- Calls can be sent there: the scheme begins with a letter and goes on with what a scheme is
    written with, no mark behind the two slashes ends the host too early, the port is a number if
    there is one, and this host is told to the receiver. -/
structure Leads (f : Front) (host : String) : Prop where
  scheme_head : f.scheme.toList.head?.any Char.isAlpha = true
  scheme_all : ∀ c ∈ f.scheme.toList, (c.isAlphanum || c = '+' || c = '.' || c = '-') = true
  authority_all : ∀ c ∈ f.authority.toList, c ≠ '/' ∧ c ≠ '?' ∧ c ≠ '#'
  control : ∀ c ∈ f.text.toList, isControl c = false
  sentHost : (Authority.ofChars f.authority.toList).sentHost = .ok host.toList
  host_ne : host ≠ ""
  port : (Authority.ofChars f.authority.toList).port = [] ∨
    (Authority.ofChars f.authority.toList).hasPort = true

variable {f : Front} {host : String}

/-- Where a complete address leads that has this in front. -/
def destination (f : Front) (host : String) : Destination where
  scheme := String.ofList (f.scheme.toList.map Char.toLower)
  host := host

theorem Leads.scheme_ne_nil (h : f.Leads host) : f.scheme.toList ≠ [] := by
  intro hnil
  have hhead := h.scheme_head
  simp [hnil] at hhead

theorem Leads.schemeOf_eq (h : f.Leads host) (rest : List Char) :
    schemeOf (f.text.toList ++ rest) =
      (f.scheme.toList, '/' :: '/' :: (f.authority.toList ++ rest)) := by
  have htext : f.text.toList ++ rest =
      f.scheme.toList ++ ':' :: '/' :: '/' :: (f.authority.toList ++ rest) := by
    simp [text]
  have hhead : f.scheme.toList.head?.all Char.isAlpha = true := by
    have hany := h.scheme_head
    cases hcs : f.scheme.toList.head? with
    | none => rfl
    | some c => rwa [hcs] at hany
  unfold schemeOf
  rw [htext, List.takeWhile_append_of_pos h.scheme_all]
  simp [hhead]

/-- A path that is taken from the root by itself leads to the same place behind it. -/
theorem Leads.placeOf_eq (h : f.Leads host) {path : List Char} (hpath : IsRooted path) :
    placeOf (f.text.toList ++ path) = .ok (some (f.destination host), complete path) := by
  have hbehind : (f.authority.toList ++ path).takeWhile (· != '/') = f.authority.toList ∧
      (f.authority.toList ++ path).dropWhile (· != '/') = path := by
    have hall : ∀ c ∈ f.authority.toList, (c != '/') = true := fun c hc =>
      bne_iff_ne.mpr (h.authority_all c hc).1
    rw [List.takeWhile_append_of_pos hall, List.dropWhile_append_of_pos hall]
    rcases hpath with rfl | ⟨rest, rfl, -⟩ <;> simp
  have hscheme : f.scheme.toList.isEmpty = false := by
    simpa using h.scheme_ne_nil
  have hhost : host.toList.isEmpty = false := by
    simpa using h.host_ne
  have hport : (!(Authority.ofChars f.authority.toList).port.isEmpty &&
      !(Authority.ofChars f.authority.toList).hasPort) = false := by
    rcases h.port with hnone | hnumber
    · simp [hnone]
    · simp [hnumber]
  unfold placeOf
  rw [h.schemeOf_eq]
  simp only [hbehind, h.sentHost, bind, Except.bind, hscheme, hhost, hport, Bool.false_and,
    Bool.or_self, Bool.false_eq_true, if_false, String.ofList_toList]
  rfl

end Front

example : (⟨"http", "localhost:8000"⟩ : Front).Leads "localhost" := by
  constructor
  case scheme_head => decide +kernel
  case scheme_all => simp
  case authority_all => simp
  case control => simp [Front.text, isControl]
  case sentHost => decide +kernel
  case host_ne => decide
  case port => exact .inr (by decide +kernel)

/-! ### Reading addresses -/

/-- The address is no longer than any that is sent, and has no control character. -/
structure Sendable (text : String) : Prop where
  length : text.toList.length ≤ longest
  control : ∀ c ∈ text.toList, isControl c = false

variable {text : String}

/-- The part of an address that says where it leads. -/
def place (text : String) : List Char := (cutAtFirst '?' (cutAtFirst '#' text.toList).1).1

/-- The part of an address that has the named values. -/
def values (text : String) : List Char :=
  ((cutAtFirst '?' (cutAtFirst '#' text.toList).1).2).getD []

theorem Sendable.read_eq (h : Sendable text) {destination : Option Destination} {path : List Char}
    (hplace : placeOf (place text) = .ok (destination, path)) :
    read text = .ok
      { destination
        path := Percent.decode (Percent.decode (String.ofList path))
        query := fields (values text) } := by
  have hcontrol : firstControl? text.toList = none := by
    unfold firstControl?
    rw [List.find?_eq_none]
    intro found hfound
    obtain ⟨c, i⟩ := found
    simp [h.control c (List.fst_mem_of_mem_zipIdx hfound)]
  unfold place at hplace
  unfold read values
  rw [if_neg (by have := h.length; omega), hcontrol]
  simp only [hplace, bind, Except.bind]
  rfl

namespace Front

variable {f : Front} {host rest : String}

theorem Leads.not_mem (h : f.Leads host) : '#' ∉ f.text.toList ∧ '?' ∉ f.text.toList := by
  have hscheme : ∀ c ∈ f.scheme.toList, c ≠ '#' ∧ c ≠ '?' := by
    intro c hc
    constructor <;> rintro rfl <;> exact absurd (h.scheme_all _ hc) (by decide)
  have hauthority := h.authority_all
  simp only [text, String.toList_append, List.mem_append, not_or]
  refine ⟨⟨⟨fun hc => (hscheme _ hc).1 rfl, by decide⟩, fun hc => (hauthority _ hc).2.2 rfl⟩,
    ⟨⟨fun hc => (hscheme _ hc).2 rfl, by decide⟩, fun hc => (hauthority _ hc).2.1 rfl⟩⟩

theorem Leads.place_eq (h : f.Leads host) (rest : String) :
    place (f.text ++ rest) = f.text.toList ++ place rest ∧
      values (f.text ++ rest) = values rest := by
  unfold place values
  rw [String.toList_append, cutAtFirst_append h.not_mem.1, cutAtFirst_append h.not_mem.2]
  exact ⟨rfl, rfl⟩

/-- Scheme and host in front of an address tell where it leads, and change nothing else of what is
    read. -/
theorem Leads.read_eq (h : f.Leads host) (hrest : Sendable rest)
    (hlength : (f.text ++ rest).toList.length ≤ longest) (hrooted : IsRooted (place rest)) :
    ∃ address, read rest = .ok address ∧ address.destination = none ∧
      read (f.text ++ rest) = .ok { address with destination := some (f.destination host) } := by
  obtain ⟨hplace, hvalues⟩ := h.place_eq rest
  have hsendable : Sendable (f.text ++ rest) := by
    refine ⟨hlength, fun c hc => ?_⟩
    rw [String.toList_append, List.mem_append] at hc
    rcases hc with hc | hc
    · exact h.control c hc
    · exact hrest.control c hc
  have hwhole : placeOf (place (f.text ++ rest)) =
      .ok (some (f.destination host), complete (place rest)) := by
    rw [hplace]
    exact h.placeOf_eq hrooted
  have hread := hsendable.read_eq hwhole
  rw [hvalues] at hread
  exact ⟨_, hrest.read_eq hrooted.placeOf_eq, rfl, hread⟩

end Front

/-! ### Paths in plain parts -/

/-- The part of a path arrives as it is: it does not stand for the place itself or for the place
    above, and nothing in it means anything else than itself. -/
structure IsPlainPart (part : String) : Prop where
  stays : part ≠ "." ∧ part ≠ ".."
  chars : ∀ c ∈ part.toList, isControl c = false ∧ c ≠ '/' ∧ c ≠ '?' ∧ c ≠ '#' ∧ c ≠ '%'

/-- The path from the root that has these parts. -/
def pathOf (parts : List String) : String := "/" ++ "/".intercalate parts

/-- The parts are those of a path that arrives as it is. -/
structure ArePlain (parts : List String) : Prop where
  ne_nil : parts ≠ []
  plain : ∀ part ∈ parts, IsPlainPart part
  head : parts.head? = some "" → parts = [""]
  length : (pathOf parts).toList.length ≤ longest

variable {parts : List String}

theorem toList_pathOf (parts : List String) :
    (pathOf parts).toList = '/' :: ['/'].intercalate (parts.map String.toList) := by
  simp [pathOf]

namespace ArePlain

theorem not_mem (h : ArePlain parts) {c : Char} (hc : c = '/' ∨ c = '?' ∨ c = '#' ∨ c = '%') :
    ∀ part ∈ parts.map String.toList, c ∉ part := by
  rw [List.forall_mem_map]
  intro part hpart hmem
  obtain ⟨-, hplain⟩ := (h.plain part hpart).chars c hmem
  rcases hc with rfl | rfl | rfl | rfl <;> simp at hplain

/-- A character of the path is a slash, or stands in one of its parts. -/
theorem mem_pathOf {c : Char} (hc : c ∈ (pathOf parts).toList) :
    c = '/' ∨ ∃ part ∈ parts, c ∈ part.toList := by
  rw [toList_pathOf, List.mem_cons] at hc
  rcases hc with rfl | hc
  · exact .inl rfl
  · induction parts with
    | nil => simp [List.intercalate] at hc
    | cons part rest ih =>
      cases rest with
      | nil => exact .inr ⟨part, by simpa [List.intercalate] using hc⟩
      | cons next rest =>
        have hsplit : c ∈ part.toList ∨ c = '/' ∨
            c ∈ ['/'].intercalate ((next :: rest).map String.toList) := by
          simpa [List.intercalate] using hc
        rcases hsplit with hpart | rfl | hrest
        · exact .inr ⟨part, List.mem_cons_self, hpart⟩
        · exact .inl rfl
        · rcases ih hrest with rfl | ⟨found, hfound, hmem⟩
          · exact .inl rfl
          · exact .inr ⟨found, List.mem_cons_of_mem _ hfound, hmem⟩

theorem sendable (h : ArePlain parts) : Sendable (pathOf parts) where
  length := h.length
  control c hc := by
    rcases mem_pathOf hc with rfl | ⟨part, hpart, hmem⟩
    · decide
    · exact ((h.plain part hpart).chars c hmem).1

/-- No mark of an address stands in the path. -/
theorem not_mem_pathOf (h : ArePlain parts) {c : Char} (hc : c = '?' ∨ c = '#' ∨ c = '%') :
    c ∉ (pathOf parts).toList := by
  intro hmem
  rcases mem_pathOf hmem with rfl | ⟨part, hpart, hin⟩
  · simp at hc
  · exact h.not_mem (.inr hc) _ (List.mem_map_of_mem hpart) hin

theorem cutAt_eq (h : ArePlain parts) :
    cutAt '/' (['/'].intercalate (parts.map String.toList)) = parts.map String.toList :=
  cutAt_intercalate (by simpa using h.ne_nil) (h.not_mem (.inl rfl))

/-- Parts that do not stand for the place itself or for the place above are not walked away. -/
theorem walked_eq {parts : List (List Char)}
    (h : ∀ part ∈ parts, part ≠ ['.'] ∧ part ≠ ['.', '.']) :
    ∀ above, walked above parts = above.reverse ++ parts := by
  induction parts with
  | nil => simp [walked]
  | cons part rest ih =>
    intro above
    obtain ⟨hpart, hrest⟩ := List.forall_mem_cons.mp h
    unfold walked
    rw [if_neg hpart.1, if_neg hpart.2, ih hrest]
    simp

/-- The path leads to itself. -/
theorem complete_eq (h : ArePlain parts) :
    complete (pathOf parts).toList = (pathOf parts).toList := by
  have hstay : ∀ part ∈ [] :: parts.map String.toList, part ≠ ['.'] ∧ part ≠ ['.', '.'] := by
    rw [List.forall_mem_cons, List.forall_mem_map]
    refine ⟨by decide, fun part hpart => ⟨fun heq => ?_, fun heq => ?_⟩⟩
    · exact (h.plain part hpart).stays.1 (String.toList_injective heq)
    · exact (h.plain part hpart).stays.2 (String.toList_injective heq)
  have hcut : cutAt '/' (pathOf parts).toList = [] :: parts.map String.toList := by
    rw [toList_pathOf]
    simp [cutAt, h.cutAt_eq]
  have hne : parts.map String.toList ≠ [] := by simpa using h.ne_nil
  have hresolved : resolved (pathOf parts).toList = (pathOf parts).toList := by
    unfold resolved
    rw [hcut, walked_eq hstay, toList_pathOf]
    obtain ⟨first, rest, hparts⟩ := List.exists_cons_of_ne_nil hne
    simp [hparts, List.intercalate]
  unfold complete
  rw [hresolved, toList_pathOf]

theorem place_eq (h : ArePlain parts) :
    place (pathOf parts) = (pathOf parts).toList ∧ values (pathOf parts) = [] := by
  unfold place values
  rw [cutAtFirst_of_not_mem (h.not_mem_pathOf (by simp)),
    cutAtFirst_of_not_mem (h.not_mem_pathOf (by simp))]
  exact ⟨rfl, rfl⟩

theorem isRooted (h : ArePlain parts) : IsRooted (place (pathOf parts)) := by
  rw [h.place_eq.1]
  refine .inr ⟨_, toList_pathOf parts, fun hhead => ?_⟩
  obtain ⟨first, rest, rfl⟩ := List.exists_cons_of_ne_nil h.ne_nil
  -- an empty part in front of others would put two slashes side by side
  by_cases hfirst : first = ""
  · obtain ⟨rfl⟩ : rest = [] := by simpa [hfirst] using h.head
    simp [hfirst] at hhead
  · obtain ⟨c, cs, hcs⟩ := List.exists_cons_of_ne_nil (l := first.toList) (by simpa using hfirst)
    have hc : c ≠ '/' := ((h.plain first List.mem_cons_self).chars c (by simp [hcs])).2.1
    cases rest <;> simp [hcs, List.intercalate, hc] at hhead

/-- The path arrives as it is, from the root and behind any front. -/
theorem read_eq (h : ArePlain parts) :
    read (pathOf parts) = .ok ⟨none, pathOf parts, []⟩ := by
  have hread := h.sendable.read_eq h.isRooted.placeOf_eq
  rw [h.place_eq.1, h.place_eq.2, h.complete_eq, String.ofList_toList,
    Percent.decode_of_not_mem (h.not_mem_pathOf (by simp)),
    Percent.decode_of_not_mem (h.not_mem_pathOf (by simp))] at hread
  exact hread

end ArePlain

end Address

namespace Api

/-- The resource that a path in plain parts reaches is the one that the parts name. -/
theorem Resource.ofPath?_pathOf {parts : List String} (h : Address.ArePlain parts) :
    ofPath? (Address.pathOf parts) = ofParts? parts := by
  unfold ofPath?
  rw [Address.toList_pathOf]
  simp only [h.cutAt_eq, List.map_map]
  congr 1
  simp

namespace Outgoing

variable {call : Outgoing}

/-- Where the address was read and leads to a plain host by a known scheme, if it names any, only
    the header lines are left to keep the call from being sent. -/
theorem sent_of_read {address : Address} (hread : Address.read call.address = .ok address)
    (hleads : ∀ destination, address.destination = some destination →
      plainText destination.host = .ok () ∧ schemes.contains destination.scheme = true) :
    call.sent = call.plainHeaders.map fun _ => call.arriving address := by
  unfold sent plainHeaders
  simp only [hread, Except.mapError, bind, Except.bind]
  generalize (call.headers.forM _ : Except Unsendable PUnit) = lines
  cases lines with
  | error => rfl
  | ok =>
    cases hdestination : address.destination with
    | none => rfl
    | some destination =>
      obtain ⟨hhost, hscheme⟩ := hleads destination hdestination
      simp only [hhost, hscheme, Bool.not_true, Bool.false_eq_true, if_false]
      rfl

/-- A call to a path in plain parts arrives there with what it carries, unless its header lines keep
    it from being sent. The resource that it reaches is the one that the parts name. -/
theorem sent_pathOf {parts : List String} (hparts : Address.ArePlain parts)
    (haddress : call.address = Address.pathOf parts) :
    (call.sent = call.plainHeaders.map fun _ =>
      call.arriving ⟨none, Address.pathOf parts, []⟩) ∧
    Resource.ofPath? (Address.pathOf parts) = Resource.ofParts? parts := by
  refine ⟨sent_of_read ?_ (by simp), Resource.ofPath?_pathOf hparts⟩
  rw [haddress]
  exact hparts.read_eq

/-- Scheme and host in front of an address change nothing: the call arrives in the same way, or is
    not sent for the same reason. -/
theorem sent_of_front {f : Address.Front} {host rest : String} (hf : f.Leads host)
    (hhost : plainText host = .ok ())
    (hscheme : schemes.contains (f.destination host).scheme = true)
    (hrest : Address.Sendable rest) (hlength : (f.text ++ rest).toList.length ≤ Address.longest)
    (hrooted : Address.IsRooted (Address.place rest)) :
    { call with address := f.text ++ rest }.sent = { call with address := rest }.sent := by
  obtain ⟨address, hread, hnowhere, hfront⟩ := hf.read_eq hrest hlength hrooted
  have hleads : ∀ destination, some (f.destination host) = some destination →
      plainText destination.host = .ok () ∧ schemes.contains destination.scheme = true := by
    rintro _ ⟨⟩
    exact ⟨hhost, hscheme⟩
  have hbehind : { call with address := f.text ++ rest }.sent = call.plainHeaders.map fun _ =>
      call.arriving { address with destination := some (f.destination host) } :=
    sent_of_read hfront hleads
  have halone : { call with address := rest }.sent =
      call.plainHeaders.map fun _ => call.arriving address :=
    sent_of_read hread (by simp [hnowhere])
  exact hbehind.trans halone.symm

end Outgoing

end Api

end RequestCatalog

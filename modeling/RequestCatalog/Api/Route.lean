import RequestCatalog.Kind
import RequestCatalog.Text.Parts

/-! # Paths

  A path is cut at its slashes after its percent signs were resolved, so a slash that was
  written with a percent sign cuts as well. The parts and the method together name an
  endpoint. A path may be known while the method is not.

  A line break at the very end does not count, unless it belongs to an identifier.
-/

namespace RequestCatalog

namespace Api

/-- What a known path stands for. -/
inductive Resource where
  /-- The front page. -/
  | about
  /-- The page that tells whether the catalogue works. -/
  | health
  /-- All records of a kind. -/
  | collection (k : Kind)
  /-- One record. -/
  | record (k : Kind) (id : String)
  /-- The copies of a request. -/
  | copies (p : Protocol) (id : String)
  /-- The authentication that a folder or request has in the end. -/
  | authentication (k : Kind) (id : String)
  /-- The entries that a folder or request has in the end. -/
  | entries (k : Kind) (id : String)
  /-- The requests in a folder and below it. -/
  | contents (p : Protocol) (folderId : String)
  deriving DecidableEq, Repr

namespace Resource

/-- The part of a path that stands for a kind of record. -/
def kind? : String → Option Kind
  | "workspaces" => some .workspace
  | "folders" => some .folder
  | "http-requests" => some (.request .http)
  | "grpc-requests" => some (.request .grpc)
  | _ => none

/-- What lies below a record. -/
def part? (k : Kind) (id part : String) : Option Resource :=
  match k, part with
  | .request p, "duplicate" => some (.copies p id)
  | .request p, "resolved-auth" => some (.authentication (.request p) id)
  | .request p, "resolved-headers" => some (.entries (.request p) id)
  | .folder, "resolved-auth" => some (.authentication .folder id)
  | .folder, "resolved-headers" => some (.entries .folder id)
  | .folder, "http-requests" => some (.contents .http id)
  | .folder, "grpc-requests" => some (.contents .grpc id)
  | _, _ => none

/-- A part without a line break at its end. -/
def unbroken (part : String) : String :=
  match part.toList.reverse with
  | '\n' :: rest => String.ofList rest.reverse
  | _ => part

/-- The resource that the parts of a path name. An identifier is never empty.

    Left out are the pages that describe the catalogue to its callers (`/docs` and what lies below
    it, `/redoc` and `/openapi.json`), which are no part of it, and the questions that a browser
    asks before it calls another site. Here such a page is an unknown address, and such a question
    a method that is not known. -/
def ofParts? : List String → Option Resource
  | [page] =>
    match unbroken page with
    | "" => some .about
    | "health" => some .health
    | _ => none
  | ["api", kind] => (kind? (unbroken kind)).map .collection
  | ["api", kind, id] => if id.isEmpty then none else (kind? kind).map (.record · id)
  | ["api", kind, id, part] =>
    if id.isEmpty then none else (kind? kind).bind fun k => part? k id (unbroken part)
  | _ => none

end Resource

/-! ### Cutting paths -/

/-- The resource that a path names. -/
def Resource.ofPath? (path : String) : Option Resource :=
  match path.toList with
  | '/' :: rest => ofParts? ((cutAt '/' rest).map String.ofList)
  | _ => none

/-- A path without the slashes at its end, if it has any. -/
def withoutTrailingSlashes? (path : String) : Option String :=
  match path.toList.reverse with
  | '/' :: rest => some (String.ofList (rest.dropWhile (· = '/')).reverse)
  | _ => none

/-- The path leads to a known resource once the slashes at its end are gone. -/
def isSlashedResource (path : String) : Bool :=
  ((withoutTrailingSlashes? path).bind Resource.ofPath?).isSome

example : Resource.ofPath? "/api/folders/a/resolved-auth" = some (.authentication .folder "a") := by
  decide +kernel
example : Resource.ofPath? "/api/folders//resolved-auth" = none := by decide +kernel
example : Resource.ofPath? "/api/folders\n" = some (.collection .folder) := by decide +kernel
example : Resource.ofPath? "/api/folders/a\n" = some (.record .folder "a\n") := by decide +kernel
example : isSlashedResource "/api/folders/" = true := by decide +kernel
example : isSlashedResource "/" = false := by decide +kernel

end Api

end RequestCatalog

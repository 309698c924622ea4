import RequestCatalog.Fault

/-! # Notices

  What the catalogue reports while it works: every write, every copy, and every
  oddity that it meets but does not fail on. A notice is data; its level, its
  template and the arguments of the template are read off it.
-/

namespace RequestCatalog

/-- One thing that was reported. -/
inductive Notice where
  /-- A record was written. -/
  | written (k : Kind) (id : String) (source : Source)
  /-- A record was deleted. -/
  | deleted (k : Kind) (id : String) (source : Source)
  /-- A request was copied. -/
  | copied (p : Protocol) (id : Option String) (copyId : String) (priority : Float)
  /-- The folders above a folder lead back to this one. -/
  | circularChain (id : String)
  /-- No priority is free between a record and the sibling that follows it. -/
  | noFreePriority (priority next : Float) (id : Option String)
  /-- A record is not among its own siblings; the copy goes this far behind it. -/
  | strayAnchor (id : Option String) (offset : Float)
  /-- A call failed because the tables refused a change. -/
  | storageFailure (method path : String) (v : Violation)

/-- How serious a notice is. -/
inductive Level where
  /-- Of interest when looking for a defect. -/
  | debug
  /-- Ordinary work. -/
  | info
  /-- Something odd. -/
  | warning
  /-- Something that failed. -/
  | error
  deriving DecidableEq, Repr

/-- An argument of a template. -/
inductive Argument where
  /-- A plain value. -/
  | value (j : Json)
  /-- A refused change, told by its reason. -/
  | refusal (v : Violation)

namespace Notice

/-- How serious the notice is. -/
def level : Notice → Level
  | .written .. | .deleted .. => .debug
  | .copied .. => .info
  | .circularChain .. | .noFreePriority .. | .strayAnchor .. => .warning
  | .storageFailure .. => .error

/-- The text of the notice, with places for its arguments. -/
def template : Notice → String
  | .written .. => "Upserted %s %s (source=%s)"
  | .deleted .. => "Deleted %s %s (source=%s)"
  | .copied .. => "Duplicated %s %s as %s (sort_priority=%r)"
  | .circularChain .. => "Circular folder chain detected at %s"
  | .noFreePriority .. => "No free sort priority between %r and %r after %s"
  | .strayAnchor .. => "Record %s missing from its sibling list, placing after it by %s"
  | .storageFailure .. => "Database error on %s %s: %s"

/-- The arguments of the template, in order. -/
def arguments : Notice → List Argument
  | .written k id source => [.value (.text k.title), .value (.text id), .value (.text source.name)]
  | .deleted k id source => [.value (.text k.title), .value (.text id), .value (.text source.name)]
  | .copied p id copyId priority =>
    [.value (.text (Kind.request p).title), .value (.ofText? id), .value (.text copyId),
     .value (.real priority)]
  | .circularChain id => [.value (.text id)]
  | .noFreePriority priority next id =>
    [.value (.real priority), .value (.real next), .value (.ofText? id)]
  | .strayAnchor id offset => [.value (.ofText? id), .value (.real offset)]
  | .storageFailure method path v => [.value (.text method), .value (.text path), .refusal v]

end Notice

/-- The name of a level. -/
def Level.name : Level → String
  | .debug => "DEBUG"
  | .info => "INFO"
  | .warning => "WARNING"
  | .error => "ERROR"

end RequestCatalog

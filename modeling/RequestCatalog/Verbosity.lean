import RequestCatalog.Text.Case

/-! # Verbosity

  How much of what is reported reaches the root of the reporting tree. Setting the
  verbosity gives the root its one handler, if it has none, and then the level of
  the given name. A name is looked up in capitals; an unknown one means the level
  for ordinary work. Two names stand for something that is no level: a format text,
  and the table of the ways in which format texts are written. Setting one of them
  fails after the handler was added.
-/

namespace RequestCatalog

/-- The root of the reporting tree. -/
structure Verbosity where
  /-- Reports below this level are dropped. -/
  level : Nat
  /-- How many handlers are attached. -/
  handlers : Nat
  deriving DecidableEq, Repr

namespace Verbosity

/-- The root before anything was set. -/
def initial : Verbosity := ⟨20, 0⟩

/-- What is no level. -/
inductive Misuse where
  /-- A format text. -/
  | format
  /-- The table of the ways in which format texts are written. -/
  | styles
  deriving DecidableEq, Repr

/-- What a name in capitals stands for. -/
inductive Meaning where
  /-- A level. -/
  | level (n : Nat)
  /-- Something else. -/
  | misuse (m : Misuse)
  deriving DecidableEq, Repr

/-- What a name stands for, once it is in capitals. -/
def Meaning.ofName : String → Meaning
  | "NOTSET" => .level 0
  | "DEBUG" => .level 10
  | "WARN" | "WARNING" => .level 30
  | "ERROR" => .level 40
  | "CRITICAL" | "FATAL" => .level 50
  | "BASIC_FORMAT" => .misuse .format
  | "_STYLES" => .misuse .styles
  | _ => .level 20

/-- Set the verbosity by name. -/
def set (v : Verbosity) (name : String) : Except Misuse Unit × Verbosity :=
  let v := { v with handlers := max v.handlers 1 }
  match Meaning.ofName (inCapitals name) with
  | .level n => (.ok (), { v with level := n })
  | .misuse m => (.error m, v)

/-- The format text that is no level. -/
def formatText : String := "%(levelname)s:%(name)s:%(message)s"

/-- The table of styles. Each has a mark, a class, and the plain format text in that style. -/
def stylesText : String :=
  "\x7b'%': (<class 'logging.PercentStyle'>, '" ++ formatText ++ "'), " ++
    "'\x7b': (<class 'logging.StrFormatStyle'>, " ++
    "'\x7blevelname\x7d:\x7bname\x7d:\x7bmessage\x7d'), " ++
    "'$': (<class 'logging.StringTemplateStyle'>, " ++
    "'$\x7blevelname\x7d:$\x7bname\x7d:$\x7bmessage\x7d')\x7d"

/-- The wording of a misuse. -/
def Misuse.message : Misuse → String
  | .format => "Unknown level: '" ++ formatText ++ "'"
  | .styles => "Level not an integer or a valid string: " ++ stylesText

end Verbosity

end RequestCatalog

import RequestCatalog.Json
import RequestCatalog.Text.Encoding
import RequestCatalog.Text.Hex

/-! # Reading values from text

  A text is cut into tokens, and the tokens are put together by a machine that keeps
  the values still open around the place where it reads. What went wrong is told by
  a place alone: how many letters stand before it.

  A text is read letter by letter, and a half of a character that stands alone is kept inside
  quotes. Anywhere else it breaks the text.

  The text may say `NaN`, `Infinity` and `-Infinity`, a number with a point or an
  exponent is a floating-point number, and of two members of one name the last one
  counts. A byte-order mark in front is dropped.

  A reader may have limits. What lies beyond them is not read at all, and it has no place:
  a text that breaks before it comes to a limit is broken, and one that comes to a limit
  first is excessive.
-/

namespace RequestCatalog

namespace Json

/-! ### Quoted texts -/

/-- The character that a letter after a backslash stands for. -/
def escaped? : Char → Option Char
  | '"' => some '"'
  | '\\' => some '\\'
  | '/' => some '/'
  | 'b' => some '\x08'
  | 'f' => some '\x0c'
  | 'n' => some '\n'
  | 'r' => some '\r'
  | 't' => some '\t'
  | _ => none

/-- The unit that four digits write. -/
def unit? (digits : List Letter) : Option Nat :=
  (digits.mapM Letter.char?).bind hexNumber?

/-- The rest of a quoted text, and the place after its closing quote. `opening` is the
    place of the opening quote and `place` that of the first letter. An escape by
    number needs four digits and one more letter behind them. -/
def quoted (opening place : Nat) : List Letter → Except Nat (List Letter × Nat)
  | [] => .error opening
  | .char '"' :: _ => .ok ([], place + 1)
  | [.char '\\'] => .error opening
  | .char '\\' :: .char 'u' :: a :: b :: c :: d :: e :: rest =>
    match unit? [a, b, c, d] with
    | none => .error (place + 1)
    | some unit =>
      match Encoding.isLeadingHalf unit, e, rest with
      | true, .char '\\', .char 'u' :: a' :: b' :: c' :: d' :: e' :: rest' =>
        match unit? [a', b', c', d'] with
        | none => .error (place + 7)
        | some second =>
          if Encoding.isTrailingHalf second then
            (fun (ls, after) => (.char (Encoding.charOfHalves unit second) :: ls, after)) <$>
              quoted opening (place + 12) (e' :: rest')
          else
            (fun (ls, after) => (Encoding.letterOfUnit unit :: ls, after)) <$>
              quoted opening (place + 6)
                (.char '\\' :: .char 'u' :: a' :: b' :: c' :: d' :: e' :: rest')
      | _, e, rest =>
        (fun (ls, after) => (Encoding.letterOfUnit unit :: ls, after)) <$>
          quoted opening (place + 6) (e :: rest)
  | .char '\\' :: .char 'u' :: _ => .error (place + 1)
  | .char '\\' :: l :: rest =>
    match l.char?.bind escaped? with
    | none => .error place
    | some x => (fun (ls, after) => (.char x :: ls, after)) <$> quoted opening (place + 2) rest
  | l :: rest =>
    if l.char?.any (· < ' ') then .error place
    else (fun (ls, after) => (l :: ls, after)) <$> quoted opening (place + 1) rest
termination_by letters => letters.length

/-! ### Numbers -/

/-- The digits of a whole number. Zero is a digit alone; nothing follows it. -/
def whole : List Char → List Char
  | '0' :: _ => ['0']
  | cs => cs.takeWhile Char.isDigit

/-- A number without its sign, with the number of characters it takes. -/
def unsigned? (negative : Bool) (cs : List Char) : Option (Json × Nat) :=
  let digits := whole cs
  if digits.isEmpty then none
  else
    let afterWhole := cs.drop digits.length
    let decimals := Decimal.fractionOf afterWhole
    let pointed := if decimals.isEmpty then 0 else 1 + decimals.length
    let (power, marked) := Decimal.exponentOf (afterWhole.drop pointed)
    if pointed + marked = 0 then
      let n : Int := Decimal.ofDigits digits
      some (.int (if negative then -n else n), digits.length)
    else
      some (.real (Decimal.ofParts negative digits decimals power).toFloat,
        digits.length + pointed + marked)

/-- Positive infinity. -/
def infinity : Float := 1.0 / 0.0

/-- What is not a number. -/
def nan : Float := 0.0 / 0.0

/-! ### Tokens -/

/-- What a token is. -/
inductive Symbol where
  /-- An opening bracket of a list. -/
  | openList
  /-- A closing bracket of a list. -/
  | closeList
  /-- An opening brace of an object. -/
  | openObject
  /-- A closing brace of an object. -/
  | closeObject
  /-- A comma. -/
  | comma
  /-- A colon. -/
  | colon
  /-- A quoted text. -/
  | quote (t : Text)
  /-- Any other value without parts. -/
  | scalar (j : Json)
  /-- Nothing that could stand here; where a value may stand, this place is at fault. -/
  | broken (place : Nat)
  /-- The end of the text. -/
  | finish

/-- A token and the place of its first letter. -/
structure Token where
  /-- The place of the first letter. -/
  place : Nat
  /-- What the token is. -/
  symbol : Symbol

/-- The values that are written as words. -/
def words : List (List Char × Json) :=
  [("null".toList, .null), ("true".toList, .bool true), ("false".toList, .bool false),
   ("NaN".toList, .real nan), ("Infinity".toList, .real infinity),
   ("-Infinity".toList, .real (-infinity))]

/-- A word or a number, with the number of characters it takes. -/
def wordOrNumber (place : Nat) (cs : List Char) : Symbol × Nat :=
  match words.find? (·.1.isPrefixOf cs) with
  | some (word, j) => (.scalar j, word.length)
  | none =>
    let number :=
      match cs with
      | '-' :: rest => (unsigned? true rest).map fun (j, n) => (j, n + 1)
      | rest => unsigned? false rest
    match number with
    | some (j, n) => (.scalar j, n)
    | none => (.broken place, 1)

/-- A character that a word or a number may be written with. -/
def isPlain (c : Char) : Bool :=
  c.isAlphanum || c = '+' || c = '-' || c = '.'

/-- The plain characters in front. -/
def plainFront : List Letter → List Char
  | .char c :: rest => if isPlain c then c :: plainFront rest else []
  | _ => []

/-- The token at a letter that is no blank, with the number of letters it takes. -/
def symbolAt (place : Nat) (l : Letter) (rest : List Letter) : Symbol × Nat :=
  match l with
  | .char '[' => (.openList, 1)
  | .char ']' => (.closeList, 1)
  | .char '\x7b' => (.openObject, 1)
  | .char '\x7d' => (.closeObject, 1)
  | .char ',' => (.comma, 1)
  | .char ':' => (.colon, 1)
  | .char '"' =>
    match quoted place (place + 1) rest with
    | .ok (letters, after) => (.quote (.ofLetters letters), after - place)
    | .error fault => (.broken fault, 1)
  | l => wordOrNumber place (plainFront (l :: rest))

/-- The letters that may stand between tokens. -/
def isBlank (l : Letter) : Bool :=
  l = .char ' ' || l = .char '\t' || l = .char '\n' || l = .char '\r'

/-- The tokens of a text. Nothing is read behind a broken one. -/
def tokens (place : Nat) : List Letter → List Token
  | [] => [⟨place, .finish⟩]
  | l :: rest =>
    if isBlank l then tokens (place + 1) rest
    else
      match symbolAt place l rest with
      | (.broken fault, _) => [⟨place, .broken fault⟩]
      -- a token takes its first letter and so many of the rest
      | (symbol, n) => ⟨place, symbol⟩ :: tokens (place + 1 + (n - 1)) (rest.drop (n - 1))
termination_by letters => letters.length
decreasing_by
  · exact Nat.lt_succ_self _
  · simp only [List.length_drop, List.length_cons]
    omega

/-! ### Values -/

/-- A value that is still open around the place where the machine reads. -/
inductive Frame where
  /-- A list, with the items before this one, the last one first. -/
  | item (before : List Json)
  /-- An object, with the members before this one, and the name of this one. -/
  | member (before : List (Text × Json)) (name : Text)

/-- What the machine expects next. -/
inductive Expecting where
  /-- A value. -/
  | value
  /-- The first item of a list, or its end. -/
  | firstItem
  /-- The first name of an object, or its end. -/
  | firstName
  /-- The next name of an object. -/
  | name (before : List (Text × Json))
  /-- The colon after a name. -/
  | colon (before : List (Text × Json)) (name : Text)
  /-- What may follow a value that is complete. -/
  | after (j : Json)
  /-- Nothing: the text has ended. -/
  | nothing (j : Json)

/-- The machine: what is open, the innermost first, and what is expected. -/
structure Machine where
  /-- The open values. -/
  frames : List Frame
  /-- What is expected. -/
  expecting : Expecting

/-! ### Limits -/

/-- Why a text is no value. -/
inductive ReadFault where
  /-- The text stops being one value at this place. -/
  | broken (place : Nat)
  /-- A whole number has too many digits, or too many values stand inside each other. -/
  | excessive
  deriving DecidableEq, Repr

/-- How far a reader goes. -/
structure Limits where
  /-- The most digits that a whole number may have. -/
  digits : Option Nat := none
  /-- The most lists and objects that may be open at once. -/
  nesting : Option Nat := none

namespace Limits

/-- The number of digits is within the limits. -/
def admitsNumber (limits : Limits) : Json → Bool
  | .int n => limits.digits.all fun digits => n.natAbs < Nat.pow 10 digits
  | _ => true

/-- A list or an object may be opened inside so many open ones. -/
def admitsOpening (limits : Limits) (frames : List Frame) : Bool :=
  limits.nesting.all fun most => frames.length < most

end Limits

namespace Machine

/-- A token where a value is expected. -/
def value (limits : Limits) (frames : List Frame) (t : Token) : Except ReadFault Machine :=
  match t.symbol with
  | .scalar j => if limits.admitsNumber j then .ok ⟨frames, .after j⟩ else .error .excessive
  | .quote s => .ok ⟨frames, .after (.text s)⟩
  | .openList =>
    if limits.admitsOpening frames then .ok ⟨frames, .firstItem⟩ else .error .excessive
  | .openObject =>
    if limits.admitsOpening frames then .ok ⟨frames, .firstName⟩ else .error .excessive
  | .broken fault => .error (.broken fault)
  | _ => .error (.broken t.place)

/-- A token where a name is expected. -/
def name (frames : List Frame) (before : List (Text × Json)) (t : Token) :
    Except ReadFault Machine :=
  match t.symbol with
  | .quote s => .ok ⟨frames, .colon before s⟩
  | .broken fault => .error (.broken fault)
  | _ => .error (.broken t.place)

/-- A token after a complete value. -/
def after (frames : List Frame) (j : Json) (t : Token) : Except ReadFault Machine :=
  match frames, t.symbol with
  | [], .finish => .ok ⟨[], .nothing j⟩
  | .item before :: outer, .comma => .ok ⟨.item (j :: before) :: outer, .value⟩
  | .item before :: outer, .closeList => .ok ⟨outer, .after (.list (j :: before).reverse)⟩
  | .member before name :: outer, .comma => .ok ⟨outer, .name (put name j before)⟩
  | .member before name :: outer, .closeObject =>
    .ok ⟨outer, .after (.object (put name j before))⟩
  | _, _ => .error (.broken t.place)

/-- One step. -/
def step (limits : Limits) (m : Machine) (t : Token) : Except ReadFault Machine :=
  match m.expecting, t.symbol with
  | .value, _ => value limits m.frames t
  | .firstItem, .closeList => .ok ⟨m.frames, .after (.list [])⟩
  | .firstItem, _ => value limits (.item [] :: m.frames) t
  | .firstName, .closeObject => .ok ⟨m.frames, .after (.object [])⟩
  | .firstName, _ => name m.frames [] t
  | .name before, _ => name m.frames before t
  | .colon before name, .colon => .ok ⟨.member before name :: m.frames, .value⟩
  | .colon .., _ => .error (.broken t.place)
  | .after j, _ => after m.frames j t
  | .nothing _, _ => .error (.broken t.place)

end Machine

/-- Read a text within limits, or tell why it is no value. -/
def read (limits : Limits) (letters : List Letter) : Except ReadFault Json := do
  let letters := match letters with
    | .char '\uFEFF' :: rest => rest
    | letters => letters
  let m ← (tokens 0 letters).foldlM (Machine.step limits) ⟨[], .value⟩
  match m.expecting with
  | .nothing j => return j
  | _ => throw (.broken letters.length)

end Json

end RequestCatalog

/-
Reading documents as models. A reader reports every problem of its value, each with the place where
it stands.

* `Step`, `Cause`, `Problem`: a place in a document and what is wrong there.
* `Checked`: a result, or the problems that prevent it; `Checked.both` joins the problems of two.
* `lookup`: a field may have several names, of which the first present one counts.
* `required`, `optional`: the fields of a mapping.
* `text`, `nullableText`, `flag`: readers of scalars.
* `members`, `listOf`, `listOrNull`: readers of lists.
-/
import WidgetContracts.Document.Basic
import WidgetContracts.Decimal.Reader
import WidgetContracts.Text.Utf8

namespace WidgetContracts

namespace Reading

/-- One step on the way to a place in a document. -/
inductive Step where
  | key (name : String)
  | index (i : Nat)
  deriving DecidableEq, Repr

/-- What is wrong at a place. -/
inductive Cause where
  | missing
  | notText
  | undecodable
  | notFlag
  | unknownFlag
  | notList
  | notModel (name : String)
  | notOneOf (words : List String)
  | cyclic
  | tooDeep
  deriving DecidableEq, Repr

/-- A problem of a document. -/
structure Problem where
  place : List Step
  cause : Cause
  deriving DecidableEq, Repr

/-- The written form of a step. -/
def Step.text : Step → String
  | key name => name
  | index i => toString i

/-- The wording of a cause. -/
def Cause.text : Cause → String
  | missing => "Field required"
  | notText => "Input should be a valid string"
  | undecodable =>
    "Input should be a valid string, unable to parse raw data as a unicode string"
  | notFlag => "Input should be a valid boolean"
  | unknownFlag => "Input should be a valid boolean, unable to interpret input"
  | notList => "Input should be a valid list"
  | notModel name => s!"Input should be a valid dictionary or instance of {name}"
  | notOneOf words => "Input should be " ++ " or ".intercalate (words.map fun w => s!"'{w}'")
  | cyclic => "Recursion error - cyclic reference detected"
  | tooDeep => "Recursion error - maximum validation depth exceeded"

/-- The wording of a problem: its place and its cause. -/
def Problem.text (p : Problem) : String :=
  ".".intercalate (p.place.map Step.text) ++ ": " ++ p.cause.text

/-- The wording of several problems. -/
def problemsText (ps : List Problem) : String := "; ".intercalate (ps.map Problem.text)

/-- A problem seen from one step further out. -/
def Problem.under (s : Step) (p : Problem) : Problem := { p with place := s :: p.place }

end Reading

/-- A result, or the problems that prevent it. -/
abbrev Checked (α : Type) := Except (List Reading.Problem) α

namespace Checked

variable {α β γ : Type}

/-- One problem at the place of the value itself. -/
def fail (cause : Reading.Cause) : Checked α := .error [⟨[], cause⟩]

/-- Two results; if either is missing, the problems of both. -/
def both : Checked α → Checked β → Checked (α × β)
  | .ok a, .ok b => .ok (a, b)
  | .ok _, .error q => .error q
  | .error p, .ok _ => .error p
  | .error p, .error q => .error (p ++ q)

/-- Problems seen from one step further out. -/
def under (s : Reading.Step) : Checked α → Checked α
  | .ok a => .ok a
  | .error ps => .error (ps.map (·.under s))

end Checked

namespace Reading

variable {α : Type}

/-- The value under the first of several names that is present, with that name. -/
def lookup (names : List String) (entries : List (Scalar × Value)) : Option (String × Value) :=
  names.findSome? fun name => (find? name entries).map (name, ·)

/-- A field that must be present; it is reported missing under the first of its names. -/
def required (names : List String) (reader : Value → Checked α)
    (entries : List (Scalar × Value)) : Checked α :=
  match lookup names entries with
  | some (name, v) => (reader v).under (.key name)
  | none => .error [⟨[.key (names.headD "")], .missing⟩]

/-- A field that may be absent. -/
def optional (names : List String) (absent : α) (reader : Value → Checked α)
    (entries : List (Scalar × Value)) : Checked α :=
  match lookup names entries with
  | some (name, v) => (reader v).under (.key name)
  | none => .ok absent

/-- A reader that takes the empty value for no value. -/
def nullable (reader : Value → Checked α) (v : Value) : Checked (Option α) :=
  if v.isNull then .ok none else (reader v).map some

/-- Text; bytes are taken for the text that they encode. -/
def text : Value → Checked String
  | .scalar (.text s) => .ok s
  | .scalar (.loose _) => .fail .undecodable
  | .scalar (.bytes b) =>
    match Text.Utf8.decode? b with
    | some cs => .ok (String.ofList cs)
    | none => .fail .undecodable
  | _ => .fail .notText

/-- Text or the empty value. -/
def nullableText : Value → Checked (Option String) := nullable text

/-- The words that are read as false, in small letters. -/
def falseWords : List String := ["0", "off", "f", "false", "n", "no"]

/-- The words that are read as true, in small letters. -/
def trueWords : List String := ["1", "on", "t", "true", "y", "yes"]

/-- A truth value written as a word, in any case of letters. -/
def flagOfWord (cs : List Char) : Checked Bool :=
  let word := String.ofList (Decimal.lowerAscii cs)
  if falseWords.contains word then .ok false
  else if trueWords.contains word then .ok true
  else .fail .unknownFlag

/-- A truth value written as a whole number of 64 bits. -/
def flagOfInt (n : Int) : Checked Bool :=
  if n = 0 then .ok false
  else if n = 1 then .ok true
  else if -Int.pow 2 63 ≤ n ∧ n < Int.pow 2 63 then .fail .unknownFlag
  else .fail .notFlag

/-- The whole number strictly within 64 bits that a double is, if it is one. -/
def wholeOfFloat? (x : Float) : Option Int :=
  match Decimal.parts x with
  | .finite negative m q =>
    let whole? : Option Nat :=
      if 0 ≤ q then some (m * Nat.pow 2 q.toNat)
      else if m % Nat.pow 2 (-q).toNat = 0 then some (m / Nat.pow 2 (-q).toNat) else none
    whole?.bind fun n =>
      if n < Nat.pow 2 63 then some (if negative then -(n : Int) else n) else none
  | _ => none

/-- A truth value, also as a word or as the number zero or one. -/
def flag : Value → Checked Bool
  | .scalar (.bool b) => .ok b
  | .scalar (.text s) => flagOfWord s.toList
  | .scalar (.loose _) => .fail .undecodable
  | .scalar (.bytes b) =>
    match Text.Utf8.decode? b with
    | some cs => flagOfWord cs
    | none => .fail .unknownFlag
  | .scalar (.int n) => flagOfInt n
  | .scalar (.float x) =>
    match wholeOfFloat? x with
    | some n => flagOfInt n
    | none => .fail .notFlag
  | _ => .fail .notFlag

/-- Reads the members of a list, the first of which stands at index `i`. -/
def members (reader : Value → Checked α) (i : Nat) : List Value → Checked (List α)
  | [] => .ok []
  | v :: r =>
    (((reader v).under (.index i)).both (members reader (i + 1) r)).map fun (a, as) => a :: as

/-- The members of a list or a set. -/
def members? : Value → Option (List Value)
  | .list items => some items
  | .set items => some (items.map .scalar)
  | _ => none

/-- A list or a set. -/
def listOf (t : Shared) (reader : Value → Checked α) (v : Value) : Checked (List α) :=
  match members? (v.actual t) with
  | some items => members reader 0 items
  | none => .fail .notList

/-- A list or a set; the empty value is the empty list. -/
def listOrNull (t : Shared) (reader : Value → Checked α) (v : Value) : Checked (List α) :=
  if v.isNull then .ok [] else listOf t reader v

end Reading

end WidgetContracts

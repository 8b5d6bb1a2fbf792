/-
Documents: the values that a configuration file or a reply of the store is made of.

* `Scalar`: a value without parts. Text that holds an unpaired surrogate is kept apart as `loose`,
  by its code points, since it is no text in any encoding.
* `Value`: scalars, lists, mappings in the order of their first keys, sets, pairs, and references to
  collections that stand in a table, so that a collection may occur twice, and even inside itself.
* `Shared`, `Value.actual`: such a table, and what a value stands for.
* `Document`: a value with the table of its references.
* `Scalar.same`: equality of keys, by which a number is the same in all its forms.
* `put`, `Value.get?`: writing and reading a mapping.
* `Value.isTruthy`: whether a value counts as given.
-/
import WidgetContracts.Document.Calendar

namespace WidgetContracts

/-- A value without parts. -/
inductive Scalar where
  | null
  | bool (b : Bool)
  | int (n : Int)
  | float (x : Float)
  | text (s : String)
  | loose (units : List Nat)
  | bytes (b : List UInt8)
  | day (d : Day)
  | moment (t : Moment)
  deriving Inhabited

/-- A value of a document; `shared` refers to a collection by its number. -/
inductive Value where
  | scalar (s : Scalar)
  | list (items : List Value)
  | map (entries : List (Scalar × Value))
  | set (items : List Scalar)
  | pair (first second : Value)
  | shared (n : Nat)
  deriving Inhabited

/-- The collections of a document, by their numbers. -/
abbrev Shared := Array Value

/-- A value with the collections to which it refers. -/
structure Document where
  root : Value
  shared : Shared

namespace Scalar

/-- A scalar as an exact number: numerator and binary exponent. Truth values count as one and
zero. -/
def number? : Scalar → Option (Int × Int)
  | bool b => some (if b then 1 else 0, 0)
  | int n => some (n, 0)
  | float x =>
    match Decimal.parts x with
    | .finite negative m q => some (if negative then -(m : Int) else m, q)
    | _ => none
  | _ => none

/-- Whether `m · 2 ^ p` and `n · 2 ^ q` are one number. -/
def sameNumber (a b : Int × Int) : Bool :=
  let least := min a.2 b.2
  a.1 * Int.pow 2 (a.2 - least).toNat == b.1 * Int.pow 2 (b.2 - least).toNat

/-- Whether two scalars are one key. -/
def same (s t : Scalar) : Bool :=
  match s, t with
  | null, null => true
  | text a, text b => a == b
  | loose a, loose b => a == b
  | bytes a, bytes b => a == b
  | day a, day b => a == b
  | moment a, moment b => a.same b
  | float x, float y =>
    match s.number?, t.number? with
    | some a, some b => sameNumber a b
    | _, _ => x == y || (x.isNaN && y.isNaN)
  | s, t =>
    match s.number?, t.number? with
    | some a, some b => sameNumber a b
    | _, _ => false

/-- Whether a scalar is the given text. -/
def isText (key : String) : Scalar → Bool
  | text s => s == key
  | _ => false

/-- Code points as text, or as loose code points where one of them is a surrogate. -/
def ofUnits (units : List Nat) : Scalar :=
  if units.all Nat.isValidChar then text (String.ofList (units.map Char.ofNat)) else loose units

/-- Whether a scalar counts as given: not null, false, zero or empty. -/
def isTruthy : Scalar → Bool
  | null => false
  | bool b => b
  | int n => n != 0
  | float x => x != 0
  | text s => s != ""
  | loose u => !u.isEmpty
  | bytes b => !b.isEmpty
  | day _ | moment _ => true

/-- The word for the kind of a scalar. -/
def kind : Scalar → String
  | null => "NoneType"
  | bool _ => "bool"
  | int _ => "int"
  | float _ => "float"
  | text _ | loose _ => "str"
  | bytes _ => "bytes"
  | day _ => "datetime.date"
  | moment _ => "datetime.datetime"

end Scalar

/-- Writes a key: the last value stays, at the place and under the form of the first key. -/
def put (key : Scalar) (value : Value) : List (Scalar × Value) → List (Scalar × Value)
  | [] => [(key, value)]
  | (k, v) :: r => if k.same key then (k, value) :: r else (k, v) :: put key value r

/-- Adds a member to a set unless it is there. -/
def putMember (member : Scalar) (members : List Scalar) : List Scalar :=
  if members.any (·.same member) then members else members ++ [member]

/-- What stands under a text key. -/
def find? (key : String) : List (Scalar × Value) → Option Value
  | [] => none
  | (k, v) :: r => if k.isText key then some v else find? key r

namespace Value

/-- A text. -/
abbrev text (s : String) : Value := scalar (.text s)

/-- The empty value. -/
abbrev null : Value := scalar .null

/-- A truth value. -/
abbrev bool (b : Bool) : Value := scalar (.bool b)

/-- A whole number. -/
abbrev int (n : Int) : Value := scalar (.int n)

/-- What a value stands for: itself, or the collection to which it refers. -/
def actual (t : Shared) : Value → Value
  | shared n => t[n]?.getD null
  | v => v

/-- The number of the collection to which a value refers, if it does. -/
def numbers : Value → List Nat
  | shared n => [n]
  | _ => []

/-- A mapping with text keys. -/
def object (entries : List (String × Value)) : Value :=
  map (entries.map fun (k, v) => (.text k, v))

/-- What stands under a text key of a mapping. -/
def get? (v : Value) (key : String) : Option Value :=
  match v with
  | map entries => find? key entries
  | _ => none

/-- Whether a value counts as given: not null, false, zero or empty. -/
def isTruthy : Value → Bool
  | scalar s => s.isTruthy
  | list items => !items.isEmpty
  | map entries => !entries.isEmpty
  | set items => !items.isEmpty
  | pair _ _ | shared _ => true

/-- The word for the kind of a value. -/
def kind : Value → String
  | scalar s => s.kind
  | list _ => "list"
  | map _ | shared _ => "dict"
  | set _ => "set"
  | pair _ _ => "tuple"

/-- Whether a value is the empty one. -/
def isNull : Value → Bool
  | scalar .null => true
  | _ => false

end Value

end WidgetContracts

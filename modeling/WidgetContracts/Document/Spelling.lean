/-
How values are spelled in messages.

* `Scalar.spelled`, `Value.spelled`: the form inside a list or mapping, where text is quoted. A
  collection that occurs inside itself is only hinted at there.
* `Value.label`: the form of a whole label, where text stands as it is.
* `SpellingFault`, `Value.spellingFault?`: why a value has no spelling: a whole number in it has
  very many digits, or collections stand very deep inside each other.
-/
import WidgetContracts.Decimal.Reader
import WidgetContracts.Document.SetOrder
import WidgetContracts.Text.Quoted

namespace WidgetContracts

/-- The distance from universal time, inside a list or mapping. -/
def spelledAhead (a : Int) : String :=
  if a = 0 then "datetime.timezone.utc"
  else
    let seconds := a * 60
    let days := seconds.fdiv 86400
    let rest := seconds.fmod 86400
    let parts := (if days = 0 then [] else [s!"days={days}"]) ++
      (if rest = 0 then [] else [s!"seconds={rest}"])
    "datetime.timezone(datetime.timedelta(" ++ ", ".intercalate parts ++ "))"

/-- A moment inside a list or mapping; a whole minute leaves the seconds out. -/
def Moment.spelled (t : Moment) : String :=
  let seconds :=
    if t.micro ≠ 0 then [t.second, t.micro] else if t.second ≠ 0 then [t.second] else []
  let fields := [t.day.year, t.day.month, t.day.day, t.hour, t.minute] ++ seconds
  let zone := match t.ahead with
    | none => ""
    | some a => s!", tzinfo={spelledAhead a}"
  "datetime.datetime(" ++ ", ".intercalate (fields.map toString) ++ zone ++ ")"

/-- A scalar inside a list or mapping. -/
def Scalar.spelled : Scalar → String
  | null => "None"
  | bool true => "True"
  | bool false => "False"
  | int n => toString n
  | float x => Decimal.plain.render x
  | text s => String.ofList (Text.quoted s.toList)
  | loose units => String.ofList (Text.quotedUnits units)
  | bytes b => String.ofList (Text.quotedBytes b)
  | day d => s!"datetime.date({d.year}, {d.month}, {d.day})"
  | moment t => t.spelled

/-- Text in the brackets of a mapping or a set. -/
def braced (body : String) : String := "\x7b" ++ body ++ "\x7d"

namespace Value

mutual

/-- A value inside a list or mapping, where `look` spells the collections that have numbers. -/
def spelledBy (look : Nat → String) : Value → String
  | scalar s => s.spelled
  | list items => "[" ++ ", ".intercalate (spelledItems look items) ++ "]"
  | map entries => braced (", ".intercalate (spelledEntries look entries))
  | set [] => "set()"
  | set items => braced (", ".intercalate ((tableOrder items).map Scalar.spelled))
  | pair a b => "(" ++ a.spelledBy look ++ ", " ++ b.spelledBy look ++ ")"
  | shared n => look n

/-- The members of a list. -/
def spelledItems (look : Nat → String) : List Value → List String
  | [] => []
  | v :: r => v.spelledBy look :: spelledItems look r

/-- The entries of a mapping. -/
def spelledEntries (look : Nat → String) : List (Scalar × Value) → List String
  | [] => []
  | (k, v) :: r => (k.spelled ++ ": " ++ v.spelledBy look) :: spelledEntries look r

end

/-- How a collection is spelled inside itself. -/
def spelledAgain : Value → String
  | map _ => braced "..."
  | _ => "[...]"

/-- The collection with a number, inside those with the numbers `around`; `room` bounds how many
more may stand inside it. -/
def spelledShared (t : Shared) : (room : Nat) → (around : List Nat) → Nat → String
  | 0, _, _ => ""
  | room + 1, around, n =>
    let v := actual t (shared n)
    if around.contains n then v.spelledAgain
    else v.spelledBy (spelledShared t room (n :: around))

/-- A value inside a list or mapping. -/
def spelled (t : Shared) (v : Value) : String := v.spelledBy (spelledShared t (t.size + 1) [])

/-- Loose code points as text: surrogates that stand as a pair are one character, and a surrogate
that stands alone is shown by the replacement character. -/
def paired : List Nat → List Char
  | a :: b :: r =>
    if 0xd800 ≤ a ∧ a < 0xdc00 ∧ 0xdc00 ≤ b ∧ b < 0xe000 then
      Char.ofNat (0x10000 + (a - 0xd800) * 0x400 + (b - 0xdc00)) :: paired r
    else (if a.isValidChar then Char.ofNat a else '\ufffd') :: paired (b :: r)
  | [a] => [if a.isValidChar then Char.ofNat a else '\ufffd']
  | [] => []

/-- A value as a whole label. -/
def label (t : Shared) (v : Value) : String :=
  match v with
  | scalar (.text s) => s
  | scalar (.loose units) => String.ofList (paired units)
  | scalar (.day d) => d.text
  | scalar (.moment m) => m.text
  | v => v.spelled t

end Value

/-! ### Values without a spelling -/

/-- Why a value has no spelling. -/
inductive SpellingFault where
  | longNumber
  | tooDeep
  deriving DecidableEq, Repr

/-- Why a scalar has no spelling, if it has none. -/
def Scalar.spellingFault? : Scalar → Option SpellingFault
  | int n => if n.natAbs < Nat.pow 10 Decimal.maxDigits then none else some .longNumber
  | _ => none

namespace Value

mutual

/-- Why a value has no spelling, if it has none; `look` tells it of the collections that have
numbers. -/
def faultBy (look : Nat → Option SpellingFault) : Value → Option SpellingFault
  | scalar s => s.spellingFault?
  | list items => faultOfItems look items
  | map entries => faultOfEntries look entries
  | set items => items.findSome? Scalar.spellingFault?
  | pair a b => (a.faultBy look).or (b.faultBy look)
  | shared n => look n

/-- Why the first member of a list that has no spelling has none. -/
def faultOfItems (look : Nat → Option SpellingFault) : List Value → Option SpellingFault
  | [] => none
  | v :: r => (v.faultBy look).or (faultOfItems look r)

/-- Why the first key or value of a mapping that has no spelling has none. -/
def faultOfEntries (look : Nat → Option SpellingFault) :
    List (Scalar × Value) → Option SpellingFault
  | [] => none
  | (k, v) :: r => (k.spellingFault?.or (v.faultBy look)).or (faultOfEntries look r)

end

/-- Collections are spelled inside at most this many others. -/
def maxSpelledDepth : Nat := 980

/-- Why the collection with a number has no spelling inside those with the numbers `around`, if it
has none; `room` bounds how many more may stand inside it. -/
def faultOfShared (t : Shared) : (room : Nat) → (around : List Nat) → Nat → Option SpellingFault
  | 0, _, _ => some .tooDeep
  | room + 1, around, n =>
    if around.contains n then none
    else (actual t (shared n)).faultBy (faultOfShared t room (n :: around))

/-- Why a value has no spelling, if it has none. -/
def spellingFault? (t : Shared) (v : Value) : Option SpellingFault :=
  v.faultBy (faultOfShared t maxSpelledDepth [])

end Value

end WidgetContracts

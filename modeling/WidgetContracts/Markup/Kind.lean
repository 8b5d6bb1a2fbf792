/-
The kinds of nodes, and the kind that a plain scalar has by its looks.

* `Kind`: the kinds of YAML 1.1.
* `Kind.ofAddress`: the kind that a tag names.
* `Kind.ofPlain`: truth values, numbers, days and so on are told by their spelling; all else is
  text.
-/
import WidgetContracts.Decimal.Reader
import WidgetContracts.Text.Basic

namespace WidgetContracts.Markup

/-- The kinds of nodes. -/
inductive Kind where
  | null
  | bool
  | int
  | float
  | binary
  | timestamp
  | omap
  | pairs
  | set
  | str
  | seq
  | map
  | merge
  | value
  | unknown
  deriving DecidableEq, Repr

namespace Kind

/-- The common front of the addresses of kinds. -/
def addressFront : String := "tag:yaml.org,2002:"

/-- The kinds that a tag can name, with their words. -/
def words : List (String × Kind) :=
  [("null", null), ("bool", bool), ("int", int), ("float", float), ("binary", binary),
    ("timestamp", timestamp), ("omap", omap), ("pairs", pairs), ("set", set), ("str", str),
    ("seq", seq), ("map", map), ("merge", merge), ("value", value)]

/-- The kind that a tag names. -/
def ofAddress (address : String) : Kind :=
  match words.find? fun w => addressFront ++ w.1 == address with
  | some (_, k) => k
  | none => unknown

end Kind

/-! ### Spellings -/

/-- A text without its sign. -/
def unsigned (cs : List Char) : List Char := (Decimal.takeSign cs).2

/-- Whether a character is a digit or an underscore. -/
def isDigitOrBar (c : Char) : Bool := Decimal.isDigit c || c == '_'

/-- Whether a text is not empty and made of certain characters. -/
def isMadeOf (p : Char → Bool) (cs : List Char) : Bool := !cs.isEmpty && cs.all p

/-- Whether a text begins with a digit. -/
def beginsWithDigit (cs : List Char) : Bool := cs.head?.any Decimal.isDigit

/-- Whether a text is empty or an exponent with a sign. -/
def isExponentOrEmpty (cs : List Char) : Bool :=
  match cs with
  | [] => true
  | e :: s :: ds => (e == 'e' || e == 'E') && (s == '-' || s == '+') && isMadeOf Decimal.isDigit ds
  | _ => false

/-- Whether a text is a part of a number of base sixty, but the first: one digit, or two of which
the first is below six. -/
def isSixty (cs : List Char) : Bool :=
  match cs with
  | [a] => Decimal.isDigit a
  | [a, b] => '0' ≤ a && a ≤ '5' && Decimal.isDigit b
  | _ => false

/-- Whether a text is spelled as a truth value. -/
def looksBool (cs : List Char) : Bool :=
  ["yes", "Yes", "YES", "no", "No", "NO", "true", "True", "TRUE", "false", "False", "FALSE",
    "on", "On", "ON", "off", "Off", "OFF"].contains (String.ofList cs)

/-- Whether a text is a number with a point: digits before it, or, without a sign, only after it. -/
def looksPointed (cs : List Char) : Bool :=
  match cs with
  | '.' :: r =>
    beginsWithDigit r && isExponentOrEmpty (r.dropWhile isDigitOrBar)
  | _ =>
    let r := unsigned cs
    beginsWithDigit r &&
      match r.dropWhile isDigitOrBar with
      | '.' :: r => isExponentOrEmpty (r.dropWhile isDigitOrBar)
      | _ => false

/-- Whether a text is a number with a point in base sixty. -/
def looksPointedSixty (cs : List Char) : Bool :=
  let r := unsigned cs
  let whole := r.takeWhile (· != '.')
  match r.dropWhile (· != '.'), whole.splitOn ':' with
  | '.' :: fraction, first :: second :: more =>
    fraction.all isDigitOrBar && beginsWithDigit first && first.all isDigitOrBar &&
      (second :: more).all isSixty
  | _, _ => false

/-- Whether a text is a name of infinity, or without a sign of the value that is no number. -/
def looksNamed (cs : List Char) : Bool :=
  [".inf", ".Inf", ".INF"].contains (String.ofList (unsigned cs)) ||
    [".nan", ".NaN", ".NAN"].contains (String.ofList cs)

/-- Whether a text is spelled as a number with a point. -/
def looksFloat (cs : List Char) : Bool :=
  looksPointed cs || looksPointedSixty cs || looksNamed cs

/-- Whether a text is spelled as a whole number: binary, octal, decimal, hexadecimal or in base
sixty. -/
def looksInt (cs : List Char) : Bool :=
  match unsigned cs with
  | '0' :: 'b' :: r => isMadeOf (fun c => c == '0' || c == '1' || c == '_') r
  | '0' :: 'x' :: r => isMadeOf (fun c => (Text.hexValue? c).isSome || c == '_') r
  | ['0'] => true
  | '0' :: r => r.all fun c => ('0' ≤ c && c ≤ '7') || c == '_'
  | r =>
    beginsWithDigit r &&
      match r.splitOn ':' with
      | [] => false
      | first :: more => first.all isDigitOrBar && more.all isSixty

/-- A number of digits, between `least` and `most`, at the front of a text, and what follows them.
-/
def takeDigits? (least most : Nat) (cs : List Char) : Option (List Char × List Char) :=
  let n := min most (cs.takeWhile Decimal.isDigit).length
  if least ≤ n then some (cs.take n, cs.drop n) else none

/-- The rest of a text after a character. -/
def after? (c : Char) : List Char → Option (List Char)
  | d :: r => if d = c then some r else none
  | [] => none

/-- The written parts of a moment. -/
structure StampParts where
  year : List Char
  month : List Char
  day : List Char
  clock : Option (List Char × List Char × List Char)
  fraction : List Char
  zone : Option (Bool × List Char × List Char)

/-- The distance from universal time at the end of a text: nothing, the letter for none, or a sign
with hours and perhaps minutes. -/
def zone? (cs : List Char) : Option (Option (Bool × List Char × List Char)) :=
  let blank (c : Char) := c == ' ' || c == '\t'
  match cs.dropWhile blank with
  | [] => if cs.isEmpty then some none else none
  | ['Z'] => some (some (false, [], []))
  | s :: r =>
    if s = '-' ∨ s = '+' then do
      let (hours, r) ← takeDigits? 1 2 r
      match r with
      | [] => return some (s == '-', hours, [])
      | ':' :: r =>
        let (minutes, r) ← takeDigits? 2 2 r
        if r.isEmpty then return some (s == '-', hours, minutes) else none
      | _ => none
    else none

/-- The parts of a moment or of a day. -/
def stampParts? (cs : List Char) : Option StampParts := do
  let (year, r) ← takeDigits? 4 4 cs
  let (month, r) ← takeDigits? 1 2 (← after? '-' r)
  let (day, r) ← takeDigits? 1 2 (← after? '-' r)
  if r.isEmpty then return ⟨year, month, day, none, [], none⟩
  let blank (c : Char) := c == ' ' || c == '\t'
  let r ← match r with
    | 'T' :: r | 't' :: r => some r
    | c :: r => if blank c then some (r.dropWhile blank) else none
    | [] => none
  let (hour, r) ← takeDigits? 1 2 r
  let (minute, r) ← takeDigits? 2 2 (← after? ':' r)
  let (second, r) ← takeDigits? 2 2 (← after? ':' r)
  let (fraction, r) := match r with
    | '.' :: r => (r.takeWhile Decimal.isDigit, r.dropWhile Decimal.isDigit)
    | r => ([], r)
  return ⟨year, month, day, some (hour, minute, second), fraction, ← zone? r⟩

/-- Whether a text is spelled as a moment, or as a day with all its digits. -/
def looksTimestamp (cs : List Char) : Bool :=
  match stampParts? cs with
  | some p => p.clock.isSome || (p.month.length == 2 && p.day.length == 2)
  | none => false

/-- A text without one line feed at its end. -/
def withoutLineFeed (cs : List Char) : List Char :=
  if cs.getLast? = some '\n' then cs.dropLast else cs

/-- The kind of a scalar by its spelling, which is not empty. -/
def Kind.ofSpelling (cs : List Char) : Kind :=
  if looksBool cs then .bool
  else if looksFloat cs then .float
  else if looksInt cs then .int
  else if cs = ['<', '<'] then .merge
  else if ["~", "null", "Null", "NULL"].contains (String.ofList cs) then .null
  else if looksTimestamp cs then .timestamp
  else if cs = ['='] then .value
  else if ["!", "&", "*"].contains (String.ofList cs) then .unknown
  else .str

/-- The kind of a plain scalar. A line feed at its end does not count. -/
def Kind.ofPlain (cs : List Char) : Kind :=
  if cs.isEmpty then .null else Kind.ofSpelling (withoutLineFeed cs)

end WidgetContracts.Markup

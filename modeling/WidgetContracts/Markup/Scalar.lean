/-
The values of scalars, by the kind of the scalar and its content.

* `wholeIn?`: whole numbers in bases with a mark of their own.
* `integer`, `float`: numbers of all spellings. Underscores between digits do not count; parts
  between colons are digits of base sixty.
* `flag`, `stamp`, `bytes`: truth values, days and moments, and bytes.
* `Kind.scalarOf`: the value of a scalar; some kinds have none.
-/
import WidgetContracts.Document.Basic
import WidgetContracts.Markup.Kind
import WidgetContracts.Markup.Token.Basic
import WidgetContracts.Text.Base64
import WidgetContracts.Text.Basic
import WidgetContracts.Text.Casing

namespace WidgetContracts.Markup

/-! ### Numbers -/

/-- The number that a non-empty run of digits writes in a base up to sixteen. -/
def naturalIn? (base : Nat) (cs : List Char) : Option Nat :=
  if cs.isEmpty then none
  else cs.foldl (fun n? c => do
    let n ← n?
    let d ← Text.hexValue? c
    if d < base then return base * n + d else none) (some 0)

/-- A whole number in another base that fills a text; its digits may follow a zero and the mark of
the base. -/
def wholeIn? (base : Nat) (mark : Char) (cs : List Char) : Option Int :=
  let (negative, ds) := Decimal.takeSign (Decimal.plainDigits cs)
  let ds := match ds with
    | '0' :: m :: r => if m.toLower = mark then r else '0' :: m :: r
    | ds => ds
  (naturalIn? base ds).map (Decimal.signed negative)

/-- The whole number with given digits in base sixty, the most significant first. -/
def ofSixty (digits : List Int) : Int := digits.foldl (fun n d => 60 * n + d) 0

/-- A value that must be there. -/
def orBad {α : Type} : Option α → Except Fault α
  | some a => .ok a
  | none => .error .badValue

/-- A whole number without its sign, in any of its spellings. -/
def magnitude (cs : List Char) : Except Fault Int :=
  match cs with
  | [] => .error .noCharacters
  | '0' :: 'b' :: r => orBad (wholeIn? 2 'b' r)
  | '0' :: 'x' :: r => orBad (wholeIn? 16 'x' r)
  | '0' :: r => orBad (wholeIn? 8 'o' ('0' :: r))
  | cs =>
    if cs.contains ':' then orBad (((cs.splitOn ':').mapM Decimal.whole?).map ofSixty)
    else orBad (Decimal.whole? cs)

/-- A text without underscores. -/
def withoutBars (cs : List Char) : List Char := cs.filter (· != '_')

/-- The whole number that a text spells. -/
def integer (cs : List Char) : Except Fault Int :=
  let (negative, r) := Decimal.takeSign (withoutBars cs)
  (magnitude r).map fun n => if negative then -n else n

/-- The double with given digits in base sixty, the least significant first, of which the first
counts `60 ^ place`. A place that no double counts is too great, whatever its digit. -/
def sumSixty (place : Nat) (acc : Float) : List Float → Except Fault Float
  | [] => .ok acc
  | d :: r =>
    let weight := Decimal.nearest false (Nat.pow 60 place) 0
    if weight.isFinite then sumSixty (place + 1) (acc + d * weight) r else .error .tooGreat

/-- The double that digits of any script write, or that has a name. -/
def double? (cs : List Char) : Option Float := Decimal.float? (Decimal.plainDigits cs)

/-- The number with a point that a text spells. -/
def float (cs : List Char) : Except Fault Float :=
  match Text.lower (withoutBars cs) with
  | [] => .error .noCharacters
  | cs =>
    let (negative, r) := Decimal.takeSign cs
    let size : Except Fault Float :=
      if r = ".inf".toList then orBad (Decimal.float? "inf".toList)
      else if r = ".nan".toList then orBad (Decimal.float? "nan".toList)
      else if r.contains ':' then
        orBad ((r.splitOn ':').mapM double?) >>= fun ds => sumSixty 0 0 ds.reverse
      else orBad (double? r)
    size.map fun x => if negative then -x else x

/-! ### Other kinds -/

/-- The truth value that a text spells, in any case of letters. -/
def flag (cs : List Char) : Except Fault Bool :=
  let word := String.ofList (Text.lower cs)
  if ["yes", "true", "on"].contains word then .ok true
  else if ["no", "false", "off"].contains word then .ok false
  else .error .notFlag

/-- The millionths of a second that digits after a point write; further digits do not count. -/
def micro (fraction : List Char) : Nat :=
  Decimal.naturalFrom 0 ((fraction ++ List.replicate 6 '0').take 6)

/-- The minutes that a clock is ahead, by the written parts. -/
def aheadOf : Bool × List Char × List Char → Int
  | (negative, hours, minutes) =>
    Decimal.signed negative (Decimal.naturalFrom 0 hours * 60 + Decimal.naturalFrom 0 minutes)

/-- The day or moment that a text spells. -/
def stamp (cs : List Char) : Except Fault Scalar :=
  match stampParts? (withoutLineFeed cs) with
  | none => .error .notDay
  | some p =>
    let number := Decimal.naturalFrom 0
    let day : Day := ⟨number p.year, number p.month, number p.day⟩
    match p.clock with
    | none => if day.isValid then .ok (.day day) else .error .badValue
    | some (hour, minute, second) =>
      let t : Moment :=
        ⟨day, number hour, number minute, number second, micro p.fraction, p.zone.map aheadOf⟩
      if t.isValid then .ok (.moment t) else .error .badValue

/-- The bytes that an ASCII text writes. -/
def bytes (cs : List Char) : Except Fault (List UInt8) :=
  if cs.all fun c => c.toNat < 0x80 then
    match Text.Base64.decode? cs with
    | some b => .ok b
    | none => .error .malformed
  else .error .malformed

/-- The value of a scalar with the content of a text. -/
def Kind.scalarOfText (k : Kind) (cs : List Char) : Except Fault Scalar :=
  match k with
  | .null => .ok .null
  | .bool => (flag cs).map .bool
  | .int => (integer cs).map .int
  | .float => (Markup.float cs).map .float
  | .binary => (bytes cs).map .bytes
  | .timestamp => stamp cs
  | .str => .ok (.text (String.ofList cs))
  | _ => .error .malformed

/-- The value of a scalar whose content is no text: it spells nothing but itself. -/
def Kind.scalarOfLoose (k : Kind) (units : List Nat) : Except Fault Scalar :=
  match k with
  | .null => .ok .null
  | .bool => .error .notFlag
  | .int | .float => .error .badValue
  | .timestamp => .error .notDay
  | .str => .ok (.loose units)
  | _ => .error .malformed

/-- The value of a scalar. -/
def Kind.scalarOf (k : Kind) : Content → Except Fault Scalar
  | .text cs => k.scalarOfText cs
  | .loose units => k.scalarOfLoose units

end WidgetContracts.Markup

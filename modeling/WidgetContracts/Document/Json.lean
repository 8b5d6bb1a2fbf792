/-
Documents in the JSON notation.

* `Fault`: why a text is no document: a cause with its place, an integer that is too long, or
  collections that lie too deep inside others.
* `parse`: reads the code points of a text, some of which may be unpaired surrogates. Later entries
  of a mapping replace earlier ones; numbers without point and exponent are integers of any size up
  to `Decimal.maxDigits` digits; `NaN` and `Infinity` are numbers.
-/
import WidgetContracts.Document.Basic
import WidgetContracts.Decimal.Reader
import WidgetContracts.Text.Quoted

namespace WidgetContracts.Json

/-- What is wrong with a text at a place. -/
inductive Cause where
  | value
  | name
  | colon
  | comma
  | unterminated
  | control
  | escape
  | codeEscape
  | extra
  deriving DecidableEq, Repr

/-- The wording of a cause. -/
def Cause.text : Cause → String
  | value => "Expecting value"
  | name => "Expecting property name enclosed in double quotes"
  | colon => "Expecting ':' delimiter"
  | comma => "Expecting ',' delimiter"
  | unterminated => "Unterminated string starting at"
  | control => "Invalid control character at"
  | escape => "Invalid \\escape"
  | codeEscape => "Invalid \\uXXXX escape"
  | extra => "Extra data"

/-- The kinds of collections. -/
inductive Collected where
  | array
  | object
  deriving DecidableEq, Repr

/-- The word for a kind. -/
def Collected.word : Collected → String
  | array => "array"
  | object => "object"

/-- Why a text is no document; a cause stands where `left` characters of the text are left. -/
inductive Fault where
  | malformed (cause : Cause) (left : Nat)
  | longInteger (digits : Nat)
  | tooDeep (kind : Collected)
  deriving DecidableEq, Repr

/-- The wording of a fault of a text. -/
def Fault.message (text : List Nat) : Fault → String
  | malformed cause left =>
    let read := text.take (text.length - left)
    let line := read.count '\n'.toNat + 1
    let column := (read.reverse.takeWhile (· ≠ '\n'.toNat)).length + 1
    s!"{cause.text}: line {line} column {column} (char {read.length})"
  | longInteger digits =>
    s!"Exceeds the limit ({Decimal.maxDigits} digits) for integer string conversion: " ++
      s!"value has {digits} digits; use sys.set_int_max_str_digits() to increase the limit"
  | tooDeep kind =>
    s!"maximum recursion depth exceeded while decoding a JSON {kind.word} from a unicode string"

/-- Collections may lie in this many others. -/
def maxDepth : Nat := 975

/-! ### The marks of the notation -/

/-- The mark around texts. -/
@[match_pattern] abbrev quoteMark : Nat := 0x22

/-- The mark in front of escapes. -/
@[match_pattern] abbrev backslash : Nat := 0x5c

/-- The letter of an escape of four digits. -/
@[match_pattern] abbrev letterU : Nat := 0x75

/-- The mark between members. -/
@[match_pattern] abbrev comma : Nat := 0x2c

/-- The mark between a key and its value. -/
@[match_pattern] abbrev colon : Nat := 0x3a

/-- The mark in front of a list. -/
@[match_pattern] abbrev openBracket : Nat := 0x5b

/-- The mark after a list. -/
@[match_pattern] abbrev closeBracket : Nat := 0x5d

/-- The mark in front of a mapping. -/
@[match_pattern] abbrev openBrace : Nat := 0x7b

/-- The mark after a mapping. -/
@[match_pattern] abbrev closeBrace : Nat := 0x7d

/-- A fault in front of the code points that are left. -/
def faultAt {α : Type} (cause : Cause) (rest : List Nat) : Except Fault α :=
  .error (.malformed cause rest.length)

/-- Whether a code point may stand between the parts of a document. -/
def isSpace (u : Nat) : Bool := u == 0x20 || u == 0x09 || u == 0x0a || u == 0x0d

/-- Passes over spaces. -/
def skip (us : List Nat) : List Nat := us.dropWhile isSpace

/-! ### Texts -/

/-- Puts a code point in front of those that a step of reading gave. -/
def consUnit (u : Nat) (r : Except Fault (List Nat × List Nat)) :
    Except Fault (List Nat × List Nat) :=
  r.map fun (us, rest) => (u :: us, rest)

/-- The code point written by four hexadecimal digits, and what follows them. -/
def fourDigits? (us : List Nat) : Option (Nat × List Nat) :=
  if (us.drop 4).isEmpty then none
  else (Text.hexNumber? ((us.take 4).map Char.ofNat)).map (·, us.drop 4)

/-- What stands for itself, or for a control character, after a backslash. -/
def simpleEscape? (u : Nat) : Option Nat :=
  match Char.ofNat u with
  | '"' | '\\' | '/' => some u
  | 'b' => some 0x08
  | 'f' => some 0x0c
  | 'n' => some 0x0a
  | 'r' => some 0x0d
  | 't' => some 0x09
  | _ => none

/-- The code points of a text up to its closing quote; `start` is what was left at its opening
quote. Two escapes that form a surrogate pair are one code point. `fuel` bounds the steps. -/
def readUnits (start : List Nat) : (fuel : Nat) → List Nat → Except Fault (List Nat × List Nat)
  | 0, _ => faultAt .unterminated start
  | _, [] => faultAt .unterminated start
  | _ + 1, quoteMark :: r => .ok ([], r)
  | _ + 1, [backslash] => faultAt .unterminated start
  | fuel + 1, backslash :: letterU :: digits =>
    match fourDigits? digits with
    | none => faultAt .codeEscape (letterU :: digits)
    | some (a, after) =>
      match (if 0xd800 ≤ a ∧ a < 0xdc00 ∧ after.drop 6 ≠ [] then after else []) with
      | backslash :: letterU :: low =>
        match fourDigits? low with
        | none => faultAt .codeEscape (letterU :: low)
        | some (b, after') =>
          if 0xdc00 ≤ b ∧ b < 0xe000 then
            consUnit (0x10000 + (a - 0xd800) * 0x400 + (b - 0xdc00)) (readUnits start fuel after')
          else consUnit a (readUnits start fuel after)
      | _ => consUnit a (readUnits start fuel after)
  | fuel + 1, backslash :: e :: after =>
    match simpleEscape? e with
    | none => faultAt .escape (backslash :: e :: after)
    | some u => consUnit u (readUnits start fuel after)
  | fuel + 1, u :: r =>
    if u < 0x20 then faultAt .control (u :: r) else consUnit u (readUnits start fuel r)

/-- A text, of which the quote in front of `us` has been passed over. -/
def readText (fuel : Nat) (us : List Nat) : Except Fault (Scalar × List Nat) := do
  let (text, rest) ← readUnits (quoteMark :: us) fuel us
  return (.ofUnits text, rest)

/-! ### Numbers and words -/

/-- The characters of an exponent part, if the text goes on with one. -/
def exponentLength (cs : List Char) : Nat :=
  match cs with
  | c :: r =>
    if c = 'e' ∨ c = 'E' then
      let signs := match r with
        | '-' :: _ | '+' :: _ => 1
        | _ => 0
      let n := ((r.drop signs).takeWhile Decimal.isDigit).length
      if n = 0 then 0 else 1 + signs + n
    else 0
  | [] => 0

/-- The characters of a fraction part, if the text goes on with one. -/
def fractionLength (cs : List Char) : Nat :=
  match cs with
  | '.' :: r => let n := (r.takeWhile Decimal.isDigit).length; if n = 0 then 0 else 1 + n
  | _ => 0

/-- The digits of a whole number without leading zeros. -/
def wholeDigits (cs : List Char) : List Char :=
  match cs with
  | '0' :: _ => ['0']
  | _ => cs.takeWhile Decimal.isDigit

/-- A number at the front of characters, with their number; nothing if there is none. -/
def readNumber? (cs : List Char) : Except Fault (Option (Scalar × Nat)) :=
  let signs := if cs.head? = some '-' then 1 else 0
  let digits := wholeDigits (cs.drop signs)
  let whole := signs + digits.length
  let fraction := fractionLength (cs.drop whole)
  let exponent := exponentLength (cs.drop (whole + fraction))
  let used := whole + fraction + exponent
  if digits.isEmpty then .ok none
  else if fraction + exponent = 0 then
    if Decimal.maxDigits < digits.length then .error (.longInteger digits.length)
    else .ok (some (.int (Decimal.signed (signs == 1) (Decimal.naturalFrom 0 digits)), used))
  else .ok ((Decimal.literal? (cs.take used)).map fun l => (.float l.toFloat, used))

/-- The words that are documents. -/
def words : List (String × Scalar) :=
  [("null", .null), ("true", .bool true), ("false", .bool false),
    ("NaN", .float (Float.ofBits 0x7ff8000000000000)),
    ("Infinity", .float (Float.ofBits 0x7ff0000000000000)),
    ("-Infinity", .float (Float.ofBits 0xfff0000000000000))]

/-- Whether a code point may stand in a word or a number. -/
def isPlain (u : Nat) : Bool :=
  let c := Char.ofNat u
  c.isAlphanum || c == '-' || c == '+' || c == '.'

/-- A word or a number. -/
def readPlain (us : List Nat) : Except Fault (Scalar × List Nat) := do
  let cs := (us.takeWhile isPlain).map Char.ofNat
  match words.find? fun w => w.1.toList.isPrefixOf cs with
  | some (w, s) => return (s, us.drop w.length)
  | none =>
    match ← readNumber? cs with
    | some (s, used) => return (s, us.drop used)
    | none => faultAt .value us

/-! ### Documents -/

mutual

/-- A document at the front of a text. `fuel` bounds the steps, `depth` the collections around its
parts. -/
def readValue (fuel depth : Nat) (us : List Nat) : Except Fault (Value × List Nat) :=
  match fuel, us with
  | 0, us => faultAt .value us
  | fuel + 1, quoteMark :: r => do
    let (s, rest) ← readText fuel r
    return (.scalar s, rest)
  | fuel + 1, openBracket :: r =>
    match depth, skip r with
    | 0, _ => .error (.tooDeep .array)
    | _ + 1, closeBracket :: rest => .ok (.list [], rest)
    | depth + 1, r => do
      let (items, rest) ← readItems fuel depth r
      return (.list items, rest)
  | fuel + 1, openBrace :: r =>
    match depth, skip r with
    | 0, _ => .error (.tooDeep .object)
    | _ + 1, closeBrace :: rest => .ok (.map [], rest)
    | depth + 1, r => do
      let (entries, rest) ← readEntries fuel depth [] r
      return (.map entries, rest)
  | _ + 1, us => do
    let (s, rest) ← readPlain us
    return (.scalar s, rest)

/-- The members of a list up to its closing bracket. -/
def readItems (fuel depth : Nat) (us : List Nat) : Except Fault (List Value × List Nat) :=
  match fuel with
  | 0 => faultAt .value us
  | fuel + 1 => do
    let (v, r) ← readValue fuel depth us
    match skip r with
    | closeBracket :: rest => return ([v], rest)
    | comma :: r => do
      let (items, rest) ← readItems fuel depth (skip r)
      return (v :: items, rest)
    | r => faultAt .comma r

/-- The entries of a mapping up to its closing brace, after the entries `done`. -/
def readEntries (fuel depth : Nat) (done : List (Scalar × Value)) (us : List Nat) :
    Except Fault (List (Scalar × Value) × List Nat) :=
  match fuel, us with
  | 0, us => faultAt .name us
  | fuel + 1, quoteMark :: r => do
    let (key, r) ← readText fuel r
    match skip r with
    | colon :: r => do
      let (v, r) ← readValue fuel depth (skip r)
      match skip r with
      | closeBrace :: rest => return (put key v done, rest)
      | comma :: r => readEntries fuel depth (put key v done) (skip r)
      | r => faultAt .comma r
    | r => faultAt .colon r
  | _ + 1, us => faultAt .name us

end

/-- Reads the code points of a text as one document. -/
def parse (us : List Nat) : Except Fault Value := do
  let (v, rest) ← readValue (2 * us.length + 2) maxDepth (skip us)
  match skip rest with
  | [] => return v
  | r => faultAt .extra r

end WidgetContracts.Json

/-
Text of all scripts written in the letters, digits and the hyphen of ASCII.

The characters of ASCII come first. Then, in the order of the code points, each further character is
a number: how many steps it is from the one before it, when the steps run through all places of the
text for each code point in turn. Digits are in base thirty-six, the least significant first, and a
digit below a threshold is the last one of its number; the thresholds adapt to the numbers before.

* `threshold`, `adapt`: the thresholds of digits.
* `encode`, `decode?`: between a text and its written form, which has lower case letters only.
-/
namespace WidgetContracts.Text.Punycode

/-- The character of a digit. -/
def digit (n : Nat) : Char :=
  if n < 26 then Char.ofNat ('a'.toNat + n) else Char.ofNat ('0'.toNat + (n - 26))

/-- The value of a character as a digit, in either case of letters. -/
def digitValue? (c : Char) : Option Nat :=
  if 'a' ≤ c ∧ c ≤ 'z' then some (c.toNat - 'a'.toNat)
  else if 'A' ≤ c ∧ c ≤ 'Z' then some (c.toNat - 'A'.toNat)
  else if '0' ≤ c ∧ c ≤ '9' then some (c.toNat - '0'.toNat + 26)
  else none

/-- The threshold of a digit, where `k` is thirty-six times its place, counted from one. -/
def threshold (bias k : Nat) : Nat := min 26 (max 1 (k - bias))

/-- The bias that a number makes for, scaled down to at most 455. -/
def scaled : (fuel : Nat) → (delta k : Nat) → Nat
  | 0, delta, k => k + 36 * delta / (delta + 38)
  | fuel + 1, delta, k =>
    if 455 < delta then scaled fuel (delta / 35) (k + 36) else k + 36 * delta / (delta + 38)

/-- The bias after a number, when `count` characters are there. -/
def adapt (delta count : Nat) (first : Bool) : Nat :=
  let delta := if first then delta / 700 else delta / 2
  scaled delta (delta + delta / count) 0

/-- The digits of a number; `fuel` bounds their count. -/
def digitsFrom (bias : Nat) : (fuel : Nat) → (k n : Nat) → List Char
  | 0, _, _ => []
  | fuel + 1, k, n =>
    let t := threshold bias k
    if n < t then [digit n]
    else digit (t + (n - t) % (36 - t)) :: digitsFrom bias fuel (k + 36) ((n - t) / (36 - t))

/-- What has been written: the characters, the steps since the last number, the bias, and the number
of characters that are there. -/
structure Written where
  text : List Char
  delta : Nat
  bias : Nat
  count : Nat

/-- Goes past one character of the text while those with the code point `n` are written, where
`basic` characters were there at first. -/
def pass (basic n : Nat) (w : Written) (c : Char) : Written :=
  if c.toNat < n then { w with delta := w.delta + 1 }
  else if c.toNat = n then
    { text := w.text ++ digitsFrom w.bias (w.delta + 1) 36 w.delta
      delta := 0
      bias := adapt w.delta (w.count + 1) (w.count == basic)
      count := w.count + 1 }
  else w

/-- Writes the characters of the code points given, of which `n` is the least that may still come.
-/
def writeFrom (cs : List Char) (basic : Nat) : (n : Nat) → List Nat → Written → Written
  | _, [], w => w
  | n, m :: r, w =>
    let w := { w with delta := w.delta + (m - n) * (w.count + 1) }
    let w := cs.foldl (pass basic m) w
    writeFrom cs basic (m + 1) r { w with delta := w.delta + 1 }

/-- The written form of a text. -/
def encode (cs : List Char) : List Char :=
  let basic := cs.filter fun c => c.toNat < 0x80
  let others := ((cs.map Char.toNat).filter (0x80 ≤ ·)).mergeSort.eraseDups
  let front := if basic.isEmpty then [] else basic ++ ['-']
  front ++ (writeFrom cs basic.length 0x80 others ⟨[], 0, 72, basic.length⟩).text

/-- The number at the front of digits, after the value so far, and the digits after it. -/
def takeNumber? (bias : Nat) : (k weight value : Nat) → List Char → Option (Nat × List Char)
  | _, _, _, [] => none
  | k, weight, value, c :: r => do
    let d ← digitValue? c
    let t := threshold bias k
    if d < t then return (value + d * weight, r)
    else takeNumber? bias (k + 36) (weight * (36 - t)) (value + d * weight) r

/-- Puts further characters among those that are there; `place` is that of the last one, counted on
from the code point `n`. At most `fuel` characters come. -/
def insertFrom : (fuel : Nat) → (n place bias : Nat) → (first : Bool) → List Nat → List Char →
    Option (List Nat)
  | _, _, _, _, _, us, [] => some us
  | 0, _, _, _, _, _, _ => none
  | fuel + 1, n, place, bias, first, us, digits => do
    let (delta, r) ← takeNumber? bias 36 1 0 digits
    let count := us.length + 1
    let n := n + (place + delta) / count
    let place := (place + delta) % count
    if 0x110000 ≤ n then none
    else
      let us := us.take place ++ n :: us.drop place
      insertFrom fuel n (place + 1) (adapt delta count first) false us r

/-- The code points that a written form stands for. -/
def decode? (cs : List Char) : Option (List Nat) :=
  let digits := (cs.reverse.takeWhile (· != '-')).reverse
  let basic := (cs.take (cs.length - digits.length)).dropLast
  insertFrom digits.length 0x80 0 72 true (basic.map Char.toNat) digits

end WidgetContracts.Text.Punycode

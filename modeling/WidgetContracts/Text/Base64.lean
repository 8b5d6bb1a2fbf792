/-
Bytes written as text in base 64.

* `sextet?`, `letter`: the value of a character of the alphabet, and the character of a value.
* `encode`: bytes in groups of four characters.
* `decode?`: characters outside the alphabet are passed over. A text ends with the pads that fill
  its last group of four, whatever follows them; without them the last group must be full.
-/
namespace WidgetContracts.Text.Base64

/-- The value of a character of the alphabet. -/
def sextet? (c : Char) : Option Nat :=
  if 'A' ≤ c ∧ c ≤ 'Z' then some (c.toNat - 'A'.toNat)
  else if 'a' ≤ c ∧ c ≤ 'z' then some (c.toNat - 'a'.toNat + 26)
  else if '0' ≤ c ∧ c ≤ '9' then some (c.toNat - '0'.toNat + 52)
  else if c = '+' then some 62
  else if c = '/' then some 63
  else none

/-- The character of the alphabet that stands for a number below 64. -/
def letter (n : Nat) : Char :=
  if n < 26 then Char.ofNat ('A'.toNat + n)
  else if n < 52 then Char.ofNat ('a'.toNat + (n - 26))
  else if n < 62 then Char.ofNat ('0'.toNat + (n - 52))
  else if n = 62 then '+' else '/'

/-- Writes bytes; pads fill the last group. -/
def encode : List UInt8 → List Char
  | [] => []
  | [a] => [letter (a.toNat / 4), letter (a.toNat % 4 * 16), '=', '=']
  | [a, b] =>
    [letter (a.toNat / 4), letter (a.toNat % 4 * 16 + b.toNat / 16),
      letter (b.toNat % 16 * 4), '=']
  | a :: b :: c :: r =>
    letter (a.toNat / 4) :: letter (a.toNat % 4 * 16 + b.toNat / 16) ::
      letter (b.toNat % 16 * 4 + c.toNat / 64) :: letter (c.toNat % 64) :: encode r

/-- The bytes that a group of up to four sextets fills. -/
def bytesOf : List Nat → List UInt8
  | [a, b] => [UInt8.ofNat (a * 4 + b / 16)]
  | [a, b, c] => [UInt8.ofNat (a * 4 + b / 16), UInt8.ofNat (b % 16 * 16 + c / 4)]
  | [a, b, c, d] =>
    [UInt8.ofNat (a * 4 + b / 16), UInt8.ofNat (b % 16 * 16 + c / 4),
      UInt8.ofNat (c % 4 * 64 + d)]
  | _ => []

/-- Reads a text in the middle of a group: `group` holds its sextets so far, and `pads` counts the
pads since the last of them. -/
def decodeFrom? (group : List Nat) (pads : Nat) : List Char → Option (List UInt8)
  | [] => if group.isEmpty then some [] else none
  | c :: r =>
    if c = '=' then
      if group.length < 2 then decodeFrom? group pads r
      else if 4 ≤ group.length + pads + 1 then some (bytesOf group)
      else decodeFrom? group (pads + 1) r
    else
      match sextet? c with
      | none => decodeFrom? group pads r
      | some n =>
        let group := group ++ [n]
        if group.length < 4 then decodeFrom? group 0 r
        else (decodeFrom? [] 0 r).map (bytesOf group ++ ·)

/-- The bytes that a text writes. -/
def decode? (cs : List Char) : Option (List UInt8) := decodeFrom? [] 0 cs

end WidgetContracts.Text.Base64

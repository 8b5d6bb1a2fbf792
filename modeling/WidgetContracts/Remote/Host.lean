/-
Hosts of addresses.

* `isOctets`: an address of four octets, as in `127.0.0.1`; `hasOctetForm`: a text that must be one.
* `isGroups`: an address of eight groups of hexadecimal digits, where `::` stands for a run of
  zeros, the last two groups may be written as four octets, and the name of a zone may follow.
* `Host`, `Host.read?`: a host as it is asked for: names in lower case and in ASCII, addresses of
  groups in brackets.
-/
import WidgetContracts.Decimal.Reader
import WidgetContracts.Remote.Domain
import WidgetContracts.Remote.Escape

namespace WidgetContracts

namespace Host

/-! ### Addresses of four octets -/

/-- Whether a text is a number below 256 without leading zeros. -/
def isOctet (cs : List Char) : Bool :=
  !cs.isEmpty && cs.all Decimal.isDigit && cs.length ≤ 3 &&
    (cs.length == 1 || cs.head? != some '0') && Decimal.naturalFrom 0 cs < 256

/-- Whether a text is an address of four octets. -/
def isOctets (cs : List Char) : Bool :=
  let parts := cs.splitOn '.'
  parts.length == 4 && parts.all isOctet

/-- Whether a text has four runs of digits with one character of any kind, even a digit, between
each two. A run of `n` digits has room for as many runs as half of `n + 1`. -/
def hasOctetForm (cs : List Char) : Bool :=
  let runs := cs.splitOnP fun c => !Decimal.isDigit c
  runs.length ≤ 4 && runs.all (!·.isEmpty) &&
    4 ≤ runs.foldl (fun n r => n + (r.length + 1) / 2) 0

/-! ### Addresses of eight groups -/

/-- Whether a text is a group of up to four hexadecimal digits. -/
def isGroup (cs : List Char) : Bool :=
  !cs.isEmpty && cs.length ≤ 4 && cs.all fun c => (Text.hexValue? c).isSome

/-- The groups with four octets at the end as two of them. -/
def withoutOctets (groups : List (List Char)) : List (List Char) :=
  match groups.getLast? with
  | some last => if isOctets last then groups.dropLast ++ [['0'], ['0']] else groups
  | none => groups

/-- The groups on one side of a gap; at the edge of an address there are none. -/
def beside (groups : List (List Char)) : List (List Char) :=
  if groups = [[]] then [] else groups

/-- Whether groups, parted where the colons stand, are an address. -/
def areGroups (groups : List (List Char)) : Bool :=
  let inner := groups.tail.dropLast
  if inner.contains [] then
    let n := (inner.takeWhile (!·.isEmpty)).length + 1
    let shown := beside (groups.take n) ++ beside (groups.drop (n + 1))
    shown.length < 8 && shown.all isGroup
  else groups.length == 8 && groups.all isGroup

/-- Whether a text is an address of eight groups, with the name of a zone or without. -/
def isGroups (cs : List Char) : Bool :=
  match cs.splitOn '%' with
  | [address] => areGroups (withoutOctets (address.splitOn ':'))
  | [address, zone] => !zone.isEmpty && areGroups (withoutOctets (address.splitOn ':'))
  | _ => false

/-- Whether a text is in brackets. -/
def isBracketed (cs : List Char) : Bool :=
  2 ≤ cs.length && cs.head? == some '[' && cs.getLast? == some ']'

end Host

/-- The host of an address: a name or an address of four octets, or an address of eight groups. -/
inductive Host where
  | named (text : List Char)
  | grouped (text : List Char)
  deriving DecidableEq, Repr

namespace Host

/-- Whether there is no host. -/
def isNone : Host → Bool
  | named text => text.isEmpty
  | grouped _ => false

/-- A host as it stands in an address. -/
def text : Host → List Char
  | named text => text
  | grouped text => '[' :: text ++ [']']

/-- A name of ASCII characters, or else its form in them. -/
def readName? (cs : List Char) : Option (List Char) :=
  if cs.all fun c => c.toNat < 0x80 then
    some (Url.escape Url.escapedInHost (Decimal.lowerAscii cs))
  else Domain.encode? (Text.lower cs)

/-- The host that a text names. -/
def read? (cs : List Char) : Option Host :=
  if hasOctetForm cs then if isOctets cs then some (named cs) else none
  else if isBracketed cs then
    let inner := cs.tail.dropLast
    if isGroups inner then some (grouped inner) else none
  else (readName? cs).map named

end Host

end WidgetContracts

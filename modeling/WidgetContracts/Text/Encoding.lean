/-
Encodings of text in units of one, two or four bytes.

* `Encoding`, `Encoding.guess?`: the encoding of a text that begins with two ASCII characters, as
  seen from where its first zero bytes are.
* `Encoding.marks`, `Encoding.opening`: a mark of the byte order tells the encoding, too. Without
  one, and without zero bytes, text is in UTF-8.
* `Encoding.decode`: the code points that bytes are. In units of two bytes, surrogates that form a
  pair are one code point; all others stay, in UTF-8, too.
* `DecodingFault`: bytes that begin no code point or are too few for one, with their place.
-/
import WidgetContracts.Text.Quoted
import WidgetContracts.Text.Utf8

namespace WidgetContracts.Text

/-- Which byte of a unit comes first: the most or the least significant one. -/
inductive ByteOrder where
  | big
  | little
  deriving DecidableEq, Repr

/-- How text is written in bytes. -/
inductive Encoding where
  | utf8
  | utf16 (order : ByteOrder)
  | utf32 (order : ByteOrder)
  deriving DecidableEq, Repr

/-- What is wrong with bytes. -/
inductive DecodingCause where
  | truncated
  | tooGreat
  | noStart
  | noContinuation
  | cut
  deriving DecidableEq, Repr

/-- Bytes that are no text of an encoding, with their place. -/
structure DecodingFault where
  encoding : Encoding
  cause : DecodingCause
  start : Nat
  bytes : List UInt8
  deriving DecidableEq, Repr

/-- The wording of a cause. -/
def DecodingCause.text : DecodingCause → String
  | truncated => "truncated data"
  | tooGreat => "code point not in range(0x110000)"
  | noStart => "invalid start byte"
  | noContinuation => "invalid continuation byte"
  | cut => "unexpected end of data"

/-- The order of bytes as it stands in the name of an encoding. -/
def ByteOrder.name : ByteOrder → String
  | big => "be"
  | little => "le"

/-- The name of an encoding. -/
def Encoding.name : Encoding → String
  | utf8 => "utf-8"
  | utf16 order => "utf-16-" ++ order.name
  | utf32 order => "utf-32-" ++ order.name

/-- The wording of a fault. -/
def DecodingFault.message (f : DecodingFault) : String :=
  let place := match f.bytes with
    | [b] => s!"byte 0x{String.ofList (hexDigits 2 b.toNat)} in position {f.start}"
    | bs => s!"bytes in position {f.start}-{f.start + bs.length - 1}"
  s!"'{f.encoding.name}' codec can't decode {place}: {f.cause.text}"

namespace Encoding

/-- The encoding of a text that begins with ASCII characters, if it begins with zero bytes or has
them behind its first byte. -/
def guess? : List UInt8 → Option Encoding
  | [0, _] => some (utf16 .big)
  | [_, 0] => some (utf16 .little)
  | 0 :: b :: _ :: _ :: _ => some (if b = 0 then utf32 .big else utf16 .big)
  | _ :: 0 :: c :: d :: _ => some (if c = 0 ∧ d = 0 then utf32 .little else utf16 .little)
  | _ => none

/-- The marks of the byte order, each with its encoding and the place of the byte after it. Places
in UTF-8 are counted from behind the mark. -/
def marks : List (List UInt8 × Encoding × Nat) :=
  [([0, 0, 0xfe, 0xff], utf32 .big, 4), ([0xff, 0xfe, 0, 0], utf32 .little, 4),
    ([0xfe, 0xff], utf16 .big, 2), ([0xff, 0xfe], utf16 .little, 2), ([0xef, 0xbb, 0xbf], utf8, 0)]

/-- The encoding of bytes, the place of the first byte that is text, and the bytes from there. -/
def opening (bs : List UInt8) : Encoding × Nat × List UInt8 :=
  match marks.find? fun (mark, _) => mark.isPrefixOf bs with
  | some (mark, encoding, start) => (encoding, start, bs.drop mark.length)
  | none => ((guess? bs).getD utf8, 0, bs)

/-- The number whose digits to the base 256 are given, the least significant first. -/
def numberOf : List UInt8 → Nat
  | [] => 0
  | b :: r => b.toNat + 256 * numberOf r

/-- The number of a unit. -/
def unit (order : ByteOrder) (bs : List UInt8) : Nat :=
  match order with
  | .big => numberOf bs.reverse
  | .little => numberOf bs

/-- The units of two bytes, the first of which has the place `start`. -/
def units16 (order : ByteOrder) (start : Nat) : List UInt8 → Except DecodingFault (List Nat)
  | a :: b :: r => do return unit order [a, b] :: (← units16 order (start + 2) r)
  | [] => .ok []
  | bs => .error ⟨utf16 order, .truncated, start, bs⟩

/-- The units of four bytes, the first of which has the place `start`. -/
def units32 (order : ByteOrder) (start : Nat) : List UInt8 → Except DecodingFault (List Nat)
  | a :: b :: c :: d :: r => do
    let n := unit order [a, b, c, d]
    if 0x110000 ≤ n then throw ⟨utf32 order, .tooGreat, start, [a, b, c, d]⟩
    return n :: (← units32 order (start + 4) r)
  | [] => .ok []
  | bs => .error ⟨utf32 order, .truncated, start, bs⟩

/-- The code points of units; a high surrogate before a low one forms a code point with it. -/
def pairUnits : List Nat → List Nat
  | a :: b :: r =>
    if 0xd800 ≤ a ∧ a < 0xdc00 ∧ 0xdc00 ≤ b ∧ b < 0xe000 then
      (0x10000 + (a - 0xd800) * 0x400 + (b - 0xdc00)) :: pairUnits r
    else a :: pairUnits (b :: r)
  | us => us

/-- The surrogate at the front of bytes in UTF-8, and the bytes after it. -/
def surrogate? : List UInt8 → Option (Nat × List UInt8)
  | a :: b :: c :: r => do
    if a ≠ 0xed ∨ b < 0xa0 then none
    return (0xd000 + (← Utf8.continuation? b) * 0x40 + (← Utf8.continuation? c), r)
  | _ => none

/-- The code point at the front of bytes in UTF-8, and the bytes after it. -/
def point? (bs : List UInt8) : Option (Nat × List UInt8) :=
  ((Utf8.next? bs).map fun (c, r) => (c.toNat, r)).or (surrogate? bs)

/-- The code points at the front of bytes in UTF-8, at most `fuel` of them, and the bytes after
them. -/
def pointsFrom : (fuel : Nat) → List UInt8 → List Nat × List UInt8
  | 0, bs => ([], bs)
  | fuel + 1, bs =>
    match point? bs with
    | some (n, r) =>
      let (ns, rest) := pointsFrom fuel r
      (n :: ns, rest)
    | none => ([], bs)

/-- What is wrong with bytes at a place where no code point begins in UTF-8. -/
def faultAt (start : Nat) (bs : List UInt8) : DecodingFault :=
  if Utf8.isCut bs then ⟨utf8, .cut, start, bs⟩
  else if bs.head?.any fun a => 0xc2 ≤ a && a < 0xf5 then
    ⟨utf8, .noContinuation, start, bs.take (Utf8.brokenLength bs)⟩
  else ⟨utf8, .noStart, start, bs.take 1⟩

/-- The code points that bytes in UTF-8 are, the first of which has the place `start`. -/
def units8 (start : Nat) (bs : List UInt8) : Except DecodingFault (List Nat) :=
  match pointsFrom bs.length bs with
  | (ns, []) => .ok ns
  | (_, rest) => .error (faultAt (start + (bs.length - rest.length)) rest)

/-- The code points that bytes of an encoding are, the first of which has the place `start`. -/
def decodeFrom (start : Nat) (bs : List UInt8) : Encoding → Except DecodingFault (List Nat)
  | utf8 => units8 start bs
  | utf16 order => return pairUnits (← units16 order start bs)
  | utf32 order => units32 order start bs

/-- The code points that bytes are, in the encoding that their beginning tells. -/
def decode (bs : List UInt8) : Except DecodingFault (List Nat) :=
  let (encoding, start, text) := opening bs
  encoding.decodeFrom start text

end Encoding

end WidgetContracts.Text

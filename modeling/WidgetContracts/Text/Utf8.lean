/-
The UTF-8 form of text.

* `encode`: characters to bytes.
* `next?`: the character at the front of bytes. There is none where a continuation is wrong or
  missing, in an over-long form, for a surrogate, and above the last plane.
* `front`, `decode?`: the text at the front of bytes, and the text that bytes are as a whole.
* `decodeAll`: the text of any bytes, with a mark for each beginning of a character that does not go
  on.
-/
namespace WidgetContracts.Text.Utf8

/-- The bytes of a text. -/
def encode (cs : List Char) : List UInt8 := cs.flatMap String.utf8EncodeChar

/-- The low six bits of a continuation byte. -/
def continuation? (b : UInt8) : Option Nat :=
  if 0x80 ≤ b ∧ b < 0xc0 then some (b.toNat - 0x80) else none

/-- The character of a code point, which must not lie below `least` (its form would be over-long)
nor among the surrogates. -/
def scalar? (least n : Nat) : Option Char :=
  if least ≤ n then
    if h : n.isValidChar then some (Char.ofNatAux n h) else none
  else none

/-- The character at the front of bytes, and the bytes after it. -/
def next? : List UInt8 → Option (Char × List UInt8)
  | [] => none
  | a :: r =>
    if a < 0x80 then some (Char.ofNat a.toNat, r)
    else if a < 0xc0 then none
    else if a < 0xe0 then
      match r with
      | b :: r => do
        let c ← scalar? 0x80 ((a.toNat - 0xc0) * 0x40 + (← continuation? b))
        return (c, r)
      | _ => none
    else if a < 0xf0 then
      match r with
      | b :: b' :: r => do
        let c ← scalar? 0x800
          (((a.toNat - 0xe0) * 0x40 + (← continuation? b)) * 0x40 + (← continuation? b'))
        return (c, r)
      | _ => none
    else if a < 0xf8 then
      match r with
      | b :: b' :: b'' :: r => do
        let c ← scalar? 0x10000
          ((((a.toNat - 0xf0) * 0x40 + (← continuation? b)) * 0x40 + (← continuation? b')) * 0x40
            + (← continuation? b''))
        return (c, r)
      | _ => none
    else none

/-- The text at the front of bytes, at most `fuel` characters of it, and the bytes after it. -/
def frontFrom : (fuel : Nat) → List UInt8 → List Char × List UInt8
  | 0, bs => ([], bs)
  | fuel + 1, bs =>
    match next? bs with
    | some (c, r) =>
      let (cs, rest) := frontFrom fuel r
      (c :: cs, rest)
    | none => ([], bs)

/-- The text at the front of bytes, and the bytes from the first that belongs to no character. -/
def front (bs : List UInt8) : List Char × List UInt8 := frontFrom bs.length bs

/-- Reads bytes as text. -/
def decode? (bs : List UInt8) : Option (List Char) :=
  match front bs with
  | (cs, []) => some cs
  | _ => none

/-- Whether a second byte may follow a first one. Some would make an over-long form, a surrogate or
a character above the last plane. -/
def goesOn (a b : UInt8) : Bool :=
  (continuation? b).isSome &&
    (if a = 0xe0 then 0xa0 ≤ b else if a = 0xed then b < 0xa0
      else if a = 0xf0 then 0x90 ≤ b else if a = 0xf4 then b < 0x90 else true)

/-- Whether bytes end in the middle of their first character. -/
def isCut : List UInt8 → Bool
  | [] => false
  | a :: r =>
    let width := if a < 0xe0 then 1 else if a < 0xf0 then 2 else 3
    0xc2 ≤ a && a < 0xf5 && r.length < width && r.head?.all (goesOn a) &&
      r.all fun b => (continuation? b).isSome

/-- The bytes at the front that belong together although they are no character. -/
def brokenLength (bs : List UInt8) : Nat :=
  if isCut (bs.take 3) then min 3 bs.length else if isCut (bs.take 2) then min 2 bs.length else 1

/-- The text of bytes, at most `fuel` characters of it. -/
def decodeAllFrom : (fuel : Nat) → List UInt8 → List Char
  | 0, _ => []
  | fuel + 1, bs =>
    match next? bs with
    | some (c, r) => c :: decodeAllFrom fuel r
    | none =>
      if bs.isEmpty then [] else '\ufffd' :: decodeAllFrom fuel (bs.drop (brokenLength bs))

/-- The text of bytes, with a mark for what is no character. -/
def decodeAll (bs : List UInt8) : List Char := decodeAllFrom bs.length bs

end WidgetContracts.Text.Utf8

/-
Percent escapes in addresses.

* `escape`: percent-encoding of what may not stand in a part; an existing escape stays as it is,
  since the percent sign may stand everywhere.
* `escapedInPath`, `escapedInQuery`, `escapedInFragment`, `escapedInUser`, `escapedInHost`: what is
  escaped in the parts of an address.
* `unescape`: the bytes that a part stands for.
-/
import WidgetContracts.Text.Basic
import WidgetContracts.Text.Quoted
import WidgetContracts.Text.Utf8

namespace WidgetContracts.Url

/-- Characters that may stand in no part that has a fixed set of them. -/
def unsafeEverywhere : List Char := [' ', '"', '<', '>']

/-- Characters that are escaped in a path. -/
def escapedInPath : List Char := unsafeEverywhere ++ ['#', '?', '\x60', '\x7b', '\x7d']

/-- Characters that are escaped in a query. -/
def escapedInQuery : List Char := unsafeEverywhere ++ ['#']

/-- Characters that are escaped in a fragment. -/
def escapedInFragment : List Char := unsafeEverywhere ++ ['\x60']

/-- Characters that are escaped in the name and password of a user. -/
def escapedInUser : List Char := escapedInPath ++ ['/', ';', '=', '@', '[', '\\', ']', '^', '|']

/-- Characters that are escaped in the name of a host. -/
def escapedInHost : List Char := [' ', '<', '>', '[', ']', '^']

/-- The capital hexadecimal digits of a byte, after a percent sign. -/
def percent (b : UInt8) : List Char :=
  '%' :: (Text.hexDigits 2 b.toNat).map Char.toUpper

/-- Escapes the listed characters and all those beyond ASCII. -/
def escape (listed : List Char) (cs : List Char) : List Char :=
  cs.flatMap fun c =>
    if c.toNat < 0x80 && !listed.contains c then [c]
    else (String.utf8EncodeChar c).flatMap percent

/-- The bytes that a text with escapes stands for; a percent sign that begins no escape stands for
itself. -/
def unescape : List Char → List UInt8
  | '%' :: a :: b :: r =>
    match Text.hexNumber? [a, b] with
    | some n => UInt8.ofNat n :: unescape r
    | none => 0x25 :: unescape (a :: b :: r)
  | c :: r => String.utf8EncodeChar c ++ unescape r
  | [] => []

end WidgetContracts.Url

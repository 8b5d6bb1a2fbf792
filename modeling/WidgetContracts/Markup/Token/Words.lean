/-
The parts of tokens that are words: names of anchors, tags and directives.

* `readAnchor`: the name of an anchor or alias.
* `readTag`: a tag, in its long form, as a handle with a suffix, or alone.
* `readDirective`: a directive up to the end of its line.
-/
import WidgetContracts.Decimal.Reader
import WidgetContracts.Markup.Cursor
import WidgetContracts.Markup.Token.Basic
import WidgetContracts.Text.Basic
import WidgetContracts.Text.Utf8

namespace WidgetContracts.Markup

/-- Whether a character may stand in a name. -/
def isNameCharacter (c : Char) : Bool :=
  ('0' ≤ c && c ≤ '9') || ('A' ≤ c && c ≤ 'Z') || ('a' ≤ c && c ≤ 'z') || c == '-' || c == '_'

/-- Whether a character may stand in an address, the percent sign of an escape among them. -/
def isAddressCharacter (c : Char) : Bool :=
  isNameCharacter c || "-;/?:@&=+$,_.!~*'()[]%".toList.contains c

/-- The name of an anchor or alias, after its mark. -/
def readAnchor (c : Cursor) : Except Fault (String × Cursor) :=
  let (name, c) := c.span isNameCharacter
  let ends := isGap c.peek || c.peek.any "?:,]\x7d%@\x60".toList.contains
  if name.isEmpty || !ends then c.fail .malformed else .ok (String.ofList name, c)

/-- The bytes that escapes at the front of a text write, at most `fuel` of them. -/
def readEscapes : (fuel : Nat) → Cursor → Except Fault (List UInt8 × Cursor)
  | 0, c => .ok ([], c)
  | fuel + 1, c =>
    match c.rest with
    | '%' :: a :: b :: _ =>
      match Text.hexNumber? [a, b] with
      | some n => do
        let (bytes, c) ← readEscapes fuel (c.advanceBy 3)
        return (UInt8.ofNat n :: bytes, c)
      | none => c.advance.fail .malformed
    | '%' :: _ => c.advance.fail .malformed
    | _ => .ok ([], c)

/-- The characters of an address; escapes write UTF-8. `fuel` bounds the steps. -/
def readAddressFrom : (fuel : Nat) → Cursor → Except Fault (List Char × Cursor)
  | 0, c => .ok ([], c)
  | fuel + 1, c =>
    let (plain, c) := c.span fun ch => isAddressCharacter ch && ch != '%'
    if c.peek = some '%' then do
      let (bytes, c) ← readEscapes c.left c
      match Text.Utf8.decode? bytes with
      | some cs =>
        let (more, c) ← readAddressFrom fuel c
        return (plain ++ cs ++ more, c)
      | none => c.fail .malformed
    else .ok (plain, c)

/-- An address, which is not empty. -/
def readAddress (c : Cursor) : Except Fault (String × Cursor) := do
  let (cs, c') ← readAddressFrom (c.left + 1) c
  if c'.index = c.index then c'.fail .malformed
  return (String.ofList cs, c')

/-- A handle of tags: an exclamation mark alone, or a name between two. -/
def readHandle (c : Cursor) : Except Fault (String × Cursor) :=
  if c.peek ≠ some '!' then c.fail .malformed
  else
    let (name, c') := c.advance.span isNameCharacter
    if c'.peek = some '!' then .ok (String.ofList ('!' :: name ++ ['!']), c'.advance)
    else if name.isEmpty && c'.peek = some ' ' then .ok ("!", c')
    else c'.fail .malformed

/-- A tag, of which the next character is the exclamation mark. -/
def readTag (c : Cursor) : Except Fault (Token × Cursor) := do
  let c := c.look 2
  let (token, c) ← match c.peekAt 1 with
    | some '<' => do
      let (suffix, c) ← readAddress (c.advanceBy 2)
      if c.peek ≠ some '>' then c.fail .malformed
      pure (Token.tag none suffix, c.advance)
    | next =>
      if isGap next then pure (Token.tag none "!", c.advance)
      else do
        let word := c.rest.drop 1 |>.takeWhile fun ch => !isSpaceOrEnd (some ch)
        let c := c.look ((word.takeWhile (· != '!')).length + 2)
        let (handle, c) ← if word.contains '!' then readHandle c else pure ("!", c.advance)
        let (suffix, c) ← readAddress c
        pure (Token.tag (some handle) suffix, c)
  if isSpaceOrEnd c.peek then return (token, c) else c.fail .malformed

/-- Passes over spaces, a comment, and the end of the line. -/
def endOfLine (c : Cursor) : Except Fault Cursor :=
  let c := c.skipComment
  if isBreakOrEnd c.peek then .ok c.takeBreak.2 else c.fail .malformed

/-- A number of a version. -/
def readVersionNumber (c : Cursor) : Except Fault (Nat × Cursor) :=
  let (ds, c) := c.span Decimal.isDigit
  match Decimal.natural? ds with
  | some n => if ds.length ≤ Decimal.maxDigits then .ok (n, c) else c.fail .badValue
  | none => c.fail .malformed

/-- What follows the name of a directive. -/
def readDirectiveValue (name : String) (c : Cursor) : Except Fault (Directive × Cursor) := do
  if name = "YAML" then
    let (major, c) ← readVersionNumber (c.skip (· == ' '))
    if c.peek ≠ some '.' then c.fail .malformed
    let (_, c) ← readVersionNumber c.advance
    if isSpaceOrEnd c.peek then return (.version major, c) else c.fail .malformed
  else if name = "TAG" then
    let (handle, c) ← readHandle (c.skip (· == ' '))
    if c.peek ≠ some ' ' then c.fail .malformed
    let (address, c) ← readAddress (c.skip (· == ' '))
    if isSpaceOrEnd c.peek then return (.handle handle address, c)
    else c.fail .malformed
  else return (.other, c.skip (!isBreak ·))

/-- A directive, of which the next character is the percent sign. -/
def readDirective (c : Cursor) : Except Fault (Directive × Cursor) := do
  let (name, c) := c.advance.span isNameCharacter
  if name.isEmpty || !isSpaceOrEnd c.peek then c.fail .malformed
  let (d, c) ← readDirectiveValue (String.ofList name) c
  return (d, ← endOfLine c)

end WidgetContracts.Markup

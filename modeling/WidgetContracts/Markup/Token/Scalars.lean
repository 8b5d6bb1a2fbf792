/-
The scalars of a text in the YAML notation, in their four forms.

* `readPlain`: a scalar without quotes. Lines are joined by spaces; it ends before a comment, a
  colon with a gap, and, inside brackets, before the marks of the bracketed notation.
* `readQuoted`: a scalar in single or double quotes; escapes stand in the latter only.
* `readBlock`: a scalar whose lines stand below its header, kept or folded.
-/
import WidgetContracts.Markup.Cursor
import WidgetContracts.Markup.Token.Basic
import WidgetContracts.Text.Basic

namespace WidgetContracts.Markup

/-! ### Line ends inside scalars -/

/-- What stands between two lines that are joined: a space for one plain line end, else the line
ends after it; a line end of another kind stays. -/
def joinLines (first : Option Char) (more : List Char) : List Char :=
  match first with
  | some '\n' => if more.isEmpty then [' '] else more
  | some c => c :: more
  | none => more

/-! ### Plain scalars -/

/-- The characters that end a plain scalar inside brackets. -/
def flowMarks : List Char := [',', '?', '[', ']', '\x7b', '\x7d']

/-- The characters that end a plain scalar inside brackets after a colon. -/
def flowMarksAfterColon : List Char := [',', '[', ']', '\x7b', '\x7d']

/-- The length of the run of a plain scalar at the front of a text. -/
def plainRun (flow : Bool) : List Char → Nat
  | [] => 0
  | c :: r =>
    let colonEnds := isGap r.head? || (flow && r.head?.any flowMarksAfterColon.contains)
    if isGap (some c) || (c == ':' && colonEnds) || (flow && flowMarks.contains c) then 0
    else plainRun flow r + 1

/-- Line ends and the spaces between them, after the first line end of a plain scalar; nothing where
the mark of a document stands. -/
def plainBreaks : (fuel : Nat) → Cursor → Option (List Char) × Cursor
  | 0, c => (some [], c)
  | fuel + 1, c =>
    let c := c.skip (· == ' ')
    match c.takeBreak with
    | (none, _) => (some [], c)
    | (some b, c) =>
      let c := c.lookForMark
      if c.isDocumentMark then (none, c)
      else
        let (bs, c) := plainBreaks fuel c
        (bs.map (b :: ·), c)

/-- What stands between two runs of a plain scalar, and whether a line ended. -/
def plainSpaces (c : Cursor) : List Char × Bool × Cursor :=
  let (spaces, c) := c.span (· == ' ')
  match c.takeBreak with
  | (none, _) => (spaces, false, c)
  | (some b, c) =>
    let c := c.lookForMark
    if c.isDocumentMark then ([], true, c)
    else
      match plainBreaks c.left c with
      | (none, c) => ([], true, c)
      | (some bs, c) => (joinLines (some b) bs, true, c)

/-- The runs of a plain scalar after `spaces`, at most `fuel` of them, and whether a line ended
after the last one. -/
def plainRuns (flow : Bool) (indent : Int) :
    (fuel : Nat) → (spaces : List Char) → (lineEnded : Bool) → Cursor → List Char × Bool × Cursor
  | 0, _, lineEnded, c => ([], lineEnded, c)
  | fuel + 1, spaces, lineEnded, c =>
    let n := if c.peek = some '#' then 0 else plainRun flow c.rest
    if n = 0 then ([], lineEnded, c)
    else
      let run := c.rest.take n
      let c := c.advanceBy n
      let c := if c.peek = some ':' then c.look 2 else c
      let (spaces', lineEnded', c) := plainSpaces c
      if spaces'.isEmpty || (!flow && (c.column : Int) < indent) then
        (spaces ++ run, lineEnded', c)
      else
        let (more, lineEnded', c) := plainRuns flow indent fuel spaces' lineEnded' c
        (spaces ++ run ++ more, lineEnded', c)

/-- A plain scalar, and whether a line ended after it; `indent` is the least column of its further
lines. -/
def readPlain (flow : Bool) (indent : Int) (c : Cursor) : Token × Bool × Cursor :=
  let (cs, lineEnded, c) := plainRuns flow indent (c.left + 1) [] false c
  (.scalar (.text cs) true, lineEnded, c)

/-! ### Quoted scalars -/

/-- The code point that an escape of one character stands for. -/
def escapeUnit? (c : Char) : Option Nat :=
  match c with
  | '0' => some 0x00
  | 'a' => some 0x07
  | 'b' => some 0x08
  | 't' | '\t' => some 0x09
  | 'n' => some 0x0a
  | 'v' => some 0x0b
  | 'f' => some 0x0c
  | 'r' => some 0x0d
  | 'e' => some 0x1b
  | ' ' => some 0x20
  | '"' => some 0x22
  | '\\' => some 0x5c
  | '/' => some 0x2f
  | 'N' => some 0x85
  | '_' => some 0xa0
  | 'L' => some 0x2028
  | 'P' => some 0x2029
  | _ => none

/-- The number of hexadecimal digits after the letter of an escape. -/
def escapeWidth? (c : Char) : Option Nat :=
  match c with
  | 'x' => some 2
  | 'u' => some 4
  | 'U' => some 8
  | _ => none

/-- Line ends inside quotes and the blanks between them. No mark of a document may stand there. -/
def quotedBreaks : (fuel : Nat) → Cursor → Except Fault (List Char × Cursor)
  | 0, c => .ok ([], c)
  | fuel + 1, c =>
    let c := c.lookForMark
    if c.isDocumentMark then c.fail .malformed
    else
      let c := c.skip fun ch => ch == ' ' || ch == '\t'
      match c.takeBreak with
      | (none, _) => .ok ([], c)
      | (some b, c) => do
        let (bs, c) ← quotedBreaks fuel c
        return (b :: bs, c)

/-- Blanks inside quotes, with the line ends among them. -/
def quotedSpaces (c : Cursor) : Except Fault (List Char × Cursor) :=
  let (spaces, c) := c.span fun ch => ch == ' ' || ch == '\t'
  match c.takeBreak with
  | (none, _) => if c.rest.isEmpty then c.fail .malformed else .ok (spaces, c)
  | (some b, c) => do
    let (bs, c) ← quotedBreaks (c.left + 1) c
    return (joinLines (some b) bs, c)

/-- An escape of hexadecimal digits, of which the next character is the first one. -/
def readCode (width : Nat) (c : Cursor) : Except Fault (List Nat × Cursor) :=
  let digits := (c.rest.take width).takeWhile fun ch => (Text.hexValue? ch).isSome
  let seen := c.look (digits.length + 1)
  match Text.hexNumber? digits with
  | some n =>
    if digits.length < width then seen.fail .malformed
    else if n < 0x110000 then .ok ([n], c.advanceBy width)
    else c.fail .badValue
  | none => seen.fail .malformed

/-- An escape, of which the next character is the one after the backslash. -/
def readEscape (c : Cursor) : Except Fault (List Nat × Cursor) :=
  match c.peek with
  | none => c.fail .malformed
  | some e =>
    match escapeUnit? e, escapeWidth? e with
    | some u, _ => .ok ([u], c.advance)
    | none, some width => readCode width c.advance
    | none, none =>
      match c.takeBreak with
      | (none, _) => c.fail .malformed
      | (some _, c) => do
        let (bs, c) ← quotedBreaks (c.left + 1) c
        return (bs.map Char.toNat, c)

/-- The code points up to the closing quote; `fuel` bounds the steps. -/
def readQuotedUnits (quote : Char) : (fuel : Nat) → Cursor → Except Fault (List Nat × Cursor)
  | 0, c => c.fail .malformed
  | fuel + 1, c =>
    match c.rest with
    | [] => c.fail .malformed
    | ch :: r =>
      if ch = quote then
        let c := if quote = '\'' then c.look 2 else c
        if quote = '\'' ∧ r.head? = some '\'' then do
          let (us, c) ← readQuotedUnits quote fuel (c.advanceBy 2)
          return (quote.toNat :: us, c)
        else .ok ([], c.advance)
      else if ch = '\\' ∧ quote = '"' then do
        let (us, c) ← readEscape c.advance
        let (more, c) ← readQuotedUnits quote fuel c
        return (us ++ more, c)
      else if isGap (some ch) then do
        let (cs, c) ← quotedSpaces c
        let (more, c) ← readQuotedUnits quote fuel c
        return (cs.map Char.toNat ++ more, c)
      else do
        let (us, c) ← readQuotedUnits quote fuel c.advance
        return (ch.toNat :: us, c)

/-- A quoted scalar, of which the next character is the opening quote. -/
def readQuoted (quote : Char) (c : Cursor) : Except Fault (Token × Cursor) := do
  let (us, c) ← readQuotedUnits quote (c.left + 1) c.advance
  return (.scalar (.ofUnits us) false, c)

/-! ### Block scalars -/

/-- What becomes of the line ends after a block scalar. -/
inductive Chomping where
  | strip
  | clip
  | keep
  deriving DecidableEq

/-- The sign of a chomping. -/
def Chomping.ofSign? : Option Char → Option Chomping
  | some '+' => some .keep
  | some '-' => some .strip
  | _ => none

/-- The sign in a header, if it stands here. -/
def readChomping (c : Cursor) : Option Chomping × Cursor :=
  match Chomping.ofSign? c.peek with
  | some chomping => (some chomping, c.advance)
  | none => (none, c)

/-- The digit in a header, if it stands here. It is not zero. -/
def readIncrement (c : Cursor) : Except Fault (Option Nat × Cursor) :=
  match c.peek.bind Text.asciiDigitValue? with
  | some 0 => c.fail .malformed
  | some n => .ok (some n, c.advance)
  | none => .ok (none, c)

/-- The header of a block scalar: a sign and a digit, in either order, both of which may be left
out. -/
def readHeader (c : Cursor) : Except Fault (Chomping × Option Nat × Cursor) := do
  let (before, c) := readChomping c
  let (increment, c) ← readIncrement c
  let (after, c) := if before.isNone && increment.isSome then readChomping c else (none, c)
  if !isSpaceOrEnd c.peek then c.fail .malformed
  return (before.or after |>.getD .clip, increment, c)

/-- Line ends in front of the first line of a block scalar, the widest indentation among them, and
the place after them. -/
def leadingBreaks : (fuel : Nat) → Cursor → List Char × Nat × Cursor
  | 0, c => ([], 0, c)
  | fuel + 1, c =>
    let c := c.skip (· == ' ')
    match c.takeBreak with
    | (none, _) => ([], c.column, c)
    | (some b, c') =>
      let (bs, width, c'') := leadingBreaks fuel c'
      (b :: bs, max c.column width, c'')

/-- Passes over spaces up to a column. -/
def skipIndent (indent : Nat) (c : Cursor) : Cursor :=
  c.advanceBy (min (indent - c.column) (c.span (· == ' ')).1.length)

/-- Line ends between the lines of a block scalar. -/
def blockBreaks (indent : Nat) : (fuel : Nat) → Cursor → List Char × Cursor
  | 0, c => ([], c)
  | fuel + 1, c =>
    let c := skipIndent indent c
    match c.takeBreak with
    | (none, _) => ([], c)
    | (some b, c) =>
      let (bs, c) := blockBreaks indent fuel c
      (b :: bs, c)

/-- Whether a line begins with a blank. -/
def beginsBlank (c : Cursor) : Bool := c.peek.any fun ch => ch == ' ' || ch == '\t'

/-- The lines of a block scalar after `breaks`, at most `fuel` of them; then its last line end and
the line ends after that. -/
def blockLines (folded : Bool) (indent : Nat) :
    (fuel : Nat) → (breaks : List Char) → Cursor → List Char × List Char × List Char × Cursor
  | 0, breaks, c => ([], [], breaks, c)
  | fuel + 1, breaks, c =>
    let blank := beginsBlank c
    let (line, c) := c.span (!isBreak ·)
    let (lineEnd, c) := c.takeBreak
    let (breaks', c) := blockBreaks indent (c.left + 1) c
    if c.column = indent ∧ !c.rest.isEmpty then
      let between :=
        if folded ∧ lineEnd = some '\n' ∧ !blank ∧ !beginsBlank c then
          if breaks'.isEmpty then [' '] else []
        else lineEnd.toList
      let (more, last, tail, c) := blockLines folded indent fuel breaks' c
      (breaks ++ line ++ between ++ more, last, tail, c)
    else (breaks ++ line, lineEnd.toList, breaks', c)

/-- The line ends in front of the first line of a block scalar, the width of its indentation, which
is given by the header or by these lines, and the place of the first line. -/
def blockFront (least : Nat) (increment : Option Nat) (c : Cursor) : List Char × Nat × Cursor :=
  match increment with
  | none =>
    let (bs, widest, c) := leadingBreaks (c.left + 1) c
    (bs, max least widest, c)
  | some n =>
    let width := least + n - 1
    let (bs, c) := blockBreaks width (c.left + 1) c
    (bs, width, c)

/-- The text of a block scalar whose header has been read, and the place after it. -/
def blockText (folded : Bool) (least : Nat) (chomping : Chomping) (increment : Option Nat)
    (c : Cursor) : List Char × Cursor :=
  let (breaks, width, c) := blockFront least increment c
  let (body, last, tail, c) :=
    if c.column = width ∧ !c.rest.isEmpty then
      blockLines folded width (c.left + 1) breaks c
    else ([], [], breaks, c)
  let ending := match chomping with
    | .strip => []
    | .clip => last
    | .keep => last ++ tail
  (body ++ ending, c)

/-- A block scalar, of which the next character is its mark; `indent` is the indentation around it.
-/
def readBlock (folded : Bool) (indent : Int) (c : Cursor) : Except Fault (Token × Cursor) := do
  let (chomping, increment, c) ← readHeader c.advance
  let c := c.skipComment
  if !isBreakOrEnd c.peek then c.fail .malformed
  let least := (max (indent + 1) 1).toNat
  let (cs, c) := blockText folded least chomping increment c.takeBreak.2
  return (.scalar (.text cs) false, c)

end WidgetContracts.Markup

/-
Files of variables: lines `NAME=value`, with comments, quotes and references to other variables.

* `Binding`: a name, with its value unless the line has no equals sign.
* `bindings`: the bindings of a file; a line that is none is passed over.
* `expand`: a value with its references `${NAME}` and `${NAME:-default}` replaced.
* `values`: the variables of a file. A later binding replaces an earlier one at its place.
-/
import WidgetContracts.Text.Basic

namespace WidgetContracts.EnvFile

/-- A name with its value; a line without an equals sign gives none. -/
abbrev Binding := List Char × Option (List Char)

/-- Whether a character is blank and ends no line. -/
def isInlineBlank (c : Char) : Bool := Text.isBlank c && c != '\n' && c != '\r'

/-- Whether a character ends a line. -/
def isLineEnd (c : Char) : Bool := c == '\n' || c == '\r'

/-- Passes over the word `export` and the blanks after it. -/
def skipExport (cs : List Char) : List Char :=
  match cs with
  | 'e' :: 'x' :: 'p' :: 'o' :: 'r' :: 't' :: c :: r =>
    if isInlineBlank c then r.dropWhile isInlineBlank else cs
  | _ => cs

/-- A name, or none in front of a comment; on failure, the characters that are left. -/
def readName (cs : List Char) : Except (List Char) (Option (List Char) × List Char) :=
  match cs with
  | '#' :: _ => .ok (none, cs)
  | '\'' :: r =>
    let name := r.takeWhile (· != '\'')
    match r.dropWhile (· != '\'') with
    | _ :: rest => if name.isEmpty then .error cs else .ok (some name, rest)
    | [] => .error cs
  | _ =>
    let isName (c : Char) := c != '=' && c != '#' && !Text.isBlank c
    if (cs.takeWhile isName).isEmpty then .error cs
    else .ok (some (cs.takeWhile isName), cs.dropWhile isName)

/-- The characters up to a closing quote, and those after it. A character after a backslash closes
nothing. -/
def readQuoted (quote : Char) : List Char → Option (List Char × List Char)
  | [] => none
  | '\\' :: c :: r => (readQuoted quote r).map fun (cs, rest) => ('\\' :: c :: cs, rest)
  | c :: r =>
    if c = quote then some ([], r)
    else (readQuoted quote r).map fun (cs, rest) => (c :: cs, rest)

/-- The character that an escape inside single quotes stands for. -/
def singleEscape? (c : Char) : Option Char :=
  if c = '\\' ∨ c = '\'' then some c else none

/-- The character that an escape inside double quotes stands for. -/
def doubleEscape? (c : Char) : Option Char :=
  match c with
  | '\\' | '\'' | '"' => some c
  | 'a' => some '\x07'
  | 'b' => some '\x08'
  | 'f' => some '\x0c'
  | 'n' => some '\n'
  | 'r' => some '\r'
  | 't' => some '\t'
  | 'v' => some '\x0b'
  | _ => none

/-- Replaces escapes; a backslash in front of any other character stays. -/
def unescape (escape? : Char → Option Char) : List Char → List Char
  | [] => []
  | '\\' :: c :: r =>
    match escape? c with
    | some d => d :: unescape escape? r
    | none => '\\' :: unescape escape? (c :: r)
  | c :: r => c :: unescape escape? r

/-- Cuts a line in front of the blanks before a number sign. -/
def cutComment : List Char → List Char
  | [] => []
  | c :: r =>
    if Text.isBlank c && ((c :: r).dropWhile Text.isBlank).head? == some '#' then []
    else c :: cutComment r

/-- A value; on failure, the characters that are left. -/
def readValue (cs : List Char) : Except (List Char) (List Char × List Char) :=
  match cs with
  | [] => .ok ([], cs)
  | '\'' :: r =>
    match readQuoted '\'' r with
    | some (v, rest) => .ok (unescape singleEscape? v, rest)
    | none => .error cs
  | '"' :: r =>
    match readQuoted '"' r with
    | some (v, rest) => .ok (unescape doubleEscape? v, rest)
    | none => .error cs
  | _ =>
    let line := cs.takeWhile (!isLineEnd ·)
    .ok (Text.dropEndWhile Text.isBlank (cutComment line), cs.dropWhile (!isLineEnd ·))

/-- The value after an equals sign, where a comment may stand after blanks; on failure, the
characters that are left. -/
def readAssigned (cs : List Char) : Except (List Char) (List Char × List Char) :=
  match cs.takeWhile isInlineBlank, cs.dropWhile isInlineBlank with
  | _ :: _, '#' :: r => .ok ([], '#' :: r)
  | _, r => readValue r

/-- Passes over a comment and the end of the line; on failure, the characters that are left. -/
def endLine (cs : List Char) : Except (List Char) (List Char) :=
  let cs := match cs.dropWhile isInlineBlank with
    | '#' :: r => r.dropWhile (!isLineEnd ·)
    | _ => cs
  match cs.dropWhile isInlineBlank with
  | [] => .ok []
  | c :: r => if isLineEnd c then .ok r else .error cs

/-- The binding at the front of a text, if its line is one; on failure, the characters that are
left. -/
def readBinding (cs : List Char) : Except (List Char) (Option Binding × List Char) := do
  let cs := cs.dropWhile Text.isBlank
  if cs.isEmpty then return (none, [])
  let (name, cs) ← readName (skipExport cs)
  let cs := cs.dropWhile isInlineBlank
  match cs with
  | '=' :: r =>
    let (v, rest) ← readAssigned r
    let rest ← endLine rest
    return (name.map (·, some v), rest)
  | _ =>
    let rest ← endLine cs
    return (name.map (·, none), rest)

/-- The bindings of a text, at most `fuel` of them. -/
def bindingsFrom : (fuel : Nat) → List Char → List Binding
  | 0, _ => []
  | _, [] => []
  | fuel + 1, cs =>
    match readBinding cs with
    | .ok (some b, rest) => b :: bindingsFrom fuel rest
    | .ok (none, rest) => bindingsFrom fuel rest
    | .error left => bindingsFrom fuel ((left.dropWhile (!isLineEnd ·)).drop 1)

/-- The bindings of a file, in front of which a mark of the byte order may stand. -/
def bindings (text : List Char) : List Binding :=
  let text := match Text.unifyLineEnds text with
    | '\ufeff' :: r => r
    | cs => cs
  bindingsFrom (text.length + 1) text

/-- A reference at the front of a text, after its opening brace: its name, its default if it has
one, and the characters after it. -/
def readReference (cs : List Char) : Option (List Char × List Char × List Char) :=
  let isName (c : Char) := c != '\x7d' && c != ':'
  let name := cs.takeWhile isName
  match cs.dropWhile isName with
  | '\x7d' :: rest => some (name, [], rest)
  | ':' :: '-' :: r =>
    match r.dropWhile (· != '\x7d') with
    | _ :: rest => some (name, r.takeWhile (· != '\x7d'), rest)
    | [] => none
  | _ => none

/-- Replaces the references in a value by what they refer to; `fuel` bounds the steps. -/
def expandFrom (find? : List Char → Option (Option (List Char))) :
    (fuel : Nat) → List Char → List Char
  | 0, _ => []
  | _, [] => []
  | fuel + 1, c :: r =>
    match (if c = '$' then r else []) with
    | '\x7b' :: reference =>
      match readReference reference with
      | some (name, default, rest) =>
        (((find? name).getD (some default)).getD []) ++ expandFrom find? fuel rest
      | none => c :: expandFrom find? fuel r
    | _ => c :: expandFrom find? fuel r

/-- Replaces the references in a value by what they refer to. -/
def expand (find? : List Char → Option (Option (List Char))) (cs : List Char) : List Char :=
  expandFrom find? (cs.length + 1) cs

/-- Writes a binding: the last one stays, at the place of the first. -/
def bind (b : Binding) : List Binding → List Binding
  | [] => [b]
  | a :: r => if a.1 = b.1 then b :: r else a :: bind b r

/-- Adds bindings to variables; a reference refers to the variables so far, then to those outside
the file. -/
def addBindings (outside : List Binding) (done : List Binding) : List Binding → List Binding
  | [] => done
  | (name, value) :: r =>
    let find? (n : List Char) := (done.lookup n).or (outside.lookup n)
    addBindings outside (bind (name, value.map (expand find?)) done) r

/-- The variables of a file, where others are known outside it. -/
def values (outside : List Binding) (text : List Char) : List Binding :=
  addBindings outside [] (bindings text)

end WidgetContracts.EnvFile

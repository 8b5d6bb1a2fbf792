/-
Names in the three customary spellings: words run together with capitals, and words joined by
underscores.

* `snakeCase`: `multiReference`, `MultiReference` and `multi_reference` all become
  `multi_reference`.
* `pascalCase`: words are parted by hyphens, underscores and blanks; each begins with an upper-case
  letter and keeps the rest.
* `Widget`, `contractName`: the four kinds of widget, whose word ends the name of a contract.
-/
import WidgetContracts.Text.Basic
import WidgetContracts.Text.Casing

namespace WidgetContracts

namespace Naming

/-- Whether a character is an ASCII capital. -/
def isCapital (c : Char) : Bool := 'A' ≤ c && c ≤ 'Z'

/-- Whether a character is a small ASCII letter. -/
def isSmall (c : Char) : Bool := 'a' ≤ c && c ≤ 'z'

/-- Whether a character is an ASCII digit. -/
def isFigure (c : Char) : Bool := '0' ≤ c && c ≤ '9'

/-- Whether a text begins with a small letter. -/
def beginsSmall : List Char → Bool
  | [] => false
  | c :: _ => isSmall c

/-- Puts an underscore in front of each capitalised word (a capital and then small letters) that a
character other than a line end precedes; `inWord` says that the small letters of such a word
continue. -/
def partWords : (inWord : Bool) → List Char → List Char
  | _, [] => []
  | _, [c] => [c]
  | inWord, c :: d :: r =>
    if inWord && isSmall c then c :: partWords true (d :: r)
    else if c != '\n' && isCapital d && beginsSmall r then c :: '_' :: d :: partWords true r
    else c :: partWords false (d :: r)

/-- Puts an underscore between a small letter or digit and a capital. -/
def partCapitals : List Char → List Char
  | [] => []
  | [c] => [c]
  | c :: d :: r =>
    if (isSmall c || isFigure c) && isCapital d then c :: '_' :: partCapitals (d :: r)
    else c :: partCapitals (d :: r)

/-- A name as words in lower case, joined by underscores. -/
def snakeCase (cs : List Char) : List Char :=
  Text.lower (partCapitals (partWords false cs))

/-- Whether a character parts words. -/
def isSeparator (c : Char) : Bool := c == '-' || c == '_' || Text.isBlank c

/-- The words of a text run together; `first` says that the next character begins a word. -/
def joinWords : (first : Bool) → List Char → List Char
  | _, [] => []
  | first, c :: r =>
    if isSeparator c then joinWords true r
    else if first then Text.upperOf c ++ joinWords false r
    else c :: joinWords false r

/-- The words of a name run together, each beginning in upper case. -/
def pascalCase (cs : List Char) : List Char := joinWords true cs

end Naming

/-- The kinds of widget that a contract can describe. -/
inductive Widget where
  | item
  | list
  | table
  | card
  deriving DecidableEq, Repr

namespace Widget

/-- All kinds, in the order in which contracts are generated. -/
def all : List Widget := [item, list, table, card]

/-- The word for a kind of widget. -/
def word : Widget → String
  | item => "Item"
  | list => "List"
  | table => "Table"
  | card => "Card"

/-- The kind of widget with a given word. -/
def ofWord? (s : String) : Option Widget := all.find? (·.word == s)

end Widget

/-- The name of the contract of a widget for a collection. -/
def contractName (collectionId : String) (w : Widget) : String :=
  String.ofList (Naming.pascalCase collectionId.toList) ++ w.word

end WidgetContracts

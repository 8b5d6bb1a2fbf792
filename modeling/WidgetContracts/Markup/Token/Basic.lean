/-
The tokens of a text in the YAML notation.

* `Content`: the content of a scalar; text, or code points some of which are unpaired surrogates.
* `Directive`: a line that sets the version, or the meaning of a handle of tags.
* `Token`: a token; a text that breaks off in the middle of one ends with the token `broken`.
-/
import WidgetContracts.Markup.Source

namespace WidgetContracts.Markup

/-- The content of a scalar. -/
inductive Content where
  | text (cs : List Char)
  | loose (units : List Nat)
  deriving DecidableEq, Repr

namespace Content

/-- Code points as content. -/
def ofUnits (units : List Nat) : Content :=
  if units.all Nat.isValidChar then text (units.map Char.ofNat) else loose units

end Content

/-- A line that says how the document after it is to be read. -/
inductive Directive where
  | version (major : Nat)
  | handle (name address : String)
  | other
  deriving DecidableEq, Repr

/-- A token. -/
inductive Token where
  | directive (d : Directive)
  | documentStart
  | documentEnd
  | sequenceStart
  | mappingStart
  | blockEnd
  | flowSequenceStart
  | flowSequenceEnd
  | flowMappingStart
  | flowMappingEnd
  | entry
  | flowEntry
  | key
  | value
  | alias (name : String)
  | anchor (name : String)
  | tag (handle : Option String) (suffix : String)
  | scalar (content : Content) (plain : Bool)
  | broken (fault : Fault)
  deriving DecidableEq, Repr

end WidgetContracts.Markup

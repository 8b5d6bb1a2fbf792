/-
Tags: what a contract lists. A tag is a leaf of one of three kinds, or a group with tags of its own.

* `Tag`: trees of tags.
* `Tag.render`: the text of a tag at an indentation. A leaf is one line; a group is a block of lines
  that ends with the tags inside it, indented by four more spaces. However deep groups stand inside
  each other, there is a text.
* `groupText`: the block of a group around the texts of its tags.
-/
import WidgetContracts.Shape

namespace WidgetContracts

/-- A tag of a contract. -/
inductive Tag where
  | data (key valueType : String) (description : Option String)
  | interactive (key elementType : String) (description : Option String)
  | variant (key valueType phase : String) (description : Option String)
  | group (key description : String) (repeated : Bool) (trackBy : Option String) (tags : List Tag)
  deriving Repr

/-- As many spaces as the indentation says; none for a negative one. -/
def pad (indent : Int) : String := String.ofList (List.replicate indent.toNat ' ')

/-- The indentation of the tags inside a group. -/
def inner (indent : Int) : Int := indent + 4

namespace Tag

/-- The description at the end of a leaf. -/
def descriptionText (description : Option String) : String :=
  match given description with
  | some d => ", description: " ++ d
  | none => ""

/-- The line of a leaf with the given fields. -/
def leafText (indent : Int) (fields : String) (description : Option String) : String :=
  pad indent ++ "- \x7b" ++ fields ++ descriptionText description ++ "\x7d"

/-- The lines of a group in front of the tags inside it. -/
def groupHeader (indent : Int) (key description : String) (repeated : Bool)
    (trackBy : Option String) : List String :=
  [pad indent ++ "- tag: " ++ key, pad indent ++ "  type: sub-contract"] ++
    (if repeated then [pad indent ++ "  repeated: true"] else []) ++
    (match given trackBy with
      | some k => [pad indent ++ "  trackBy: " ++ k]
      | none => []) ++
    [pad indent ++ "  description: " ++ description, pad indent ++ "  tags:"]

/-- The block of a group around the texts of the tags inside it. -/
def groupText (indent : Int) (key description : String) (repeated : Bool)
    (trackBy : Option String) (tags : List String) : String :=
  "\n".intercalate (groupHeader indent key description repeated trackBy ++ tags)

mutual

/-- The text of a tag at an indentation. -/
def render (indent : Int) : Tag → String
  | data key valueType description =>
    leafText indent ("tag: " ++ key ++ ", type: data, dataType: " ++ valueType) description
  | interactive key elementType description =>
    leafText indent ("tag: " ++ key ++ ", type: interactive, elementType: " ++ elementType)
      description
  | variant key valueType phase description =>
    leafText indent
      ("tag: " ++ key ++ ", type: variant, dataType: " ++ valueType ++ ", phase: " ++ phase)
      description
  | group key description repeated trackBy tags =>
    groupText indent key description repeated trackBy (renderAll (inner indent) tags)

/-- The texts of tags at an indentation. -/
def renderAll (indent : Int) : List Tag → List String
  | [] => []
  | t :: r => t.render indent :: renderAll indent r

end

theorem renderAll_eq_map (indent : Int) (ts : List Tag) :
    renderAll indent ts = ts.map (render indent) := by
  induction ts with
  | nil => rfl
  | cons t r ih => simp [renderAll, ih]

/-- The key of a tag. -/
def key : Tag → String
  | data k _ _ | interactive k _ _ | variant k _ _ _ | group k _ _ _ _ => k

/-- The tags inside a tag. -/
def children : Tag → List Tag
  | group _ _ _ _ ts => ts
  | _ => []

end Tag

end WidgetContracts

/-
The types that the store gives to fields, and what a contract makes of them.

* `FieldType`, `FieldType.ofText?`: a type is named by its words in any customary spelling.
* `FieldCategory`, `FieldType.category`: what kind of tag a field becomes.
* `ValueType`, `FieldType.valueType`: the type of the data in a simple tag.
* `categoryOf`, `valueTypeOf`: of a field; a key that begins with an underscore belongs to the
  system, and an unknown type is simple text.
-/
import WidgetContracts.Naming

namespace WidgetContracts

/-- The types of fields. -/
inductive FieldType where
  | text
  | number
  | boolean
  | date
  | dateTime
  | time
  | richText
  | richContent
  | url
  | image
  | video
  | audio
  | document
  | reference
  | multiReference
  | array
  | object
  | tags
  | address
  deriving DecidableEq, Repr

/-- What kind of tag a field becomes. -/
inductive FieldCategory where
  | simple
  | image
  | media
  | address
  | reference
  | multiReference
  | richContent
  | system
  deriving DecidableEq, Repr

/-- The type of the data in a tag. -/
inductive ValueType where
  | string
  | number
  | boolean
  deriving DecidableEq, Repr

namespace FieldCategory

/-- All categories. -/
def all : List FieldCategory :=
  [simple, image, media, address, reference, multiReference, richContent, system]

/-- The word for a category. -/
def word : FieldCategory → String
  | simple => "simple"
  | image => "image"
  | media => "media"
  | address => "address"
  | reference => "reference"
  | multiReference => "multiReference"
  | richContent => "richContent"
  | system => "system"

/-- The category with a given word. -/
def ofWord? (s : String) : Option FieldCategory := all.find? (·.word == s)

/-- Whether fields of the category point to another collection. -/
def isReference : FieldCategory → Bool
  | reference | multiReference => true
  | _ => false

end FieldCategory

namespace ValueType

/-- The word for a type of data. -/
def word : ValueType → String
  | string => "string"
  | number => "number"
  | boolean => "boolean"

/-- The type of data with a given word. -/
def ofWord? (s : String) : Option ValueType := [string, number, boolean].find? (·.word == s)

end ValueType

namespace FieldType

/-- All types. -/
def all : List FieldType :=
  [text, number, boolean, date, dateTime, time, richText, richContent, url, image, video, audio,
    document, reference, multiReference, array, object, tags, address]

/-- The name of a type: its words in capitals, joined by underscores. -/
def name : FieldType → String
  | text => "TEXT"
  | number => "NUMBER"
  | boolean => "BOOLEAN"
  | date => "DATE"
  | dateTime => "DATETIME"
  | time => "TIME"
  | richText => "RICH_TEXT"
  | richContent => "RICH_CONTENT"
  | url => "URL"
  | image => "IMAGE"
  | video => "VIDEO"
  | audio => "AUDIO"
  | document => "DOCUMENT"
  | reference => "REFERENCE"
  | multiReference => "MULTI_REFERENCE"
  | array => "ARRAY"
  | object => "OBJECT"
  | tags => "TAGS"
  | address => "ADDRESS"

/-- The words of a type's name in capitals, however they are joined and whatever blanks surround
them. -/
def canonical (cs : List Char) : List Char :=
  Text.upper (Naming.snakeCase (Text.strip cs))

/-- The type that a text names. -/
def ofText? (s : String) : Option FieldType :=
  let name := String.ofList (canonical s.toList)
  all.find? (·.name == name)

/-- What kind of tag a field of the type becomes. -/
def category : FieldType → FieldCategory
  | image => .image
  | video | audio => .media
  | address => .address
  | reference => .reference
  | multiReference => .multiReference
  | richText | richContent => .richContent
  | _ => .simple

/-- The type of the data of a field. -/
def valueType : FieldType → ValueType
  | number => .number
  | boolean => .boolean
  | _ => .string

end FieldType

/-- The mark at the front of the keys of the system. -/
def systemMark : Char := '_'

/-- Whether a key belongs to the system. -/
def isSystemKey (key : String) : Bool := key.toList.head? == some systemMark

/-- The key of the field that identifies an item. -/
def identityKey : String := "_id"

/-- The category of a field by its key and the name of its type. -/
def categoryOf (key : String) (type : Option String) : FieldCategory :=
  if isSystemKey key then .system
  else ((type.bind FieldType.ofText?).map FieldType.category).getD .simple

/-- The type of the data of a field by the name of its type. -/
def valueTypeOf (type : Option String) : ValueType :=
  ((type.bind FieldType.ofText?).map FieldType.valueType).getD .string

end WidgetContracts

-- SUMMARY: Documentation records.
import Docsmith.Value.Basic

/-!
# Documentation records

What a documentation text says, taken apart. Most parts are texts; those that a
decorator may give as any literal are values.
-/

namespace Docsmith

/-- The kinds of documentation. -/
inductive Kind where
  | function
  | api
  | objectClass
  | page
  | config
  | event
  | custom
deriving Repr, DecidableEq

namespace Kind

/-- All kinds. -/
def all : List Kind := [.function, .api, .objectClass, .page, .config, .event, .custom]

/-- The name of a kind. -/
def name : Kind → String
  | .function => "function"
  | .api => "api"
  | .objectClass => "class"
  | .page => "page"
  | .config => "config"
  | .event => "event"
  | .custom => "custom"

/-- The kind with a name. -/
def ofName? (s : String) : Option Kind := all.find? fun k => k.name == s

/-- The kind that a value names. -/
def ofValue? : Value → Option Kind
  | .str s => ofName? s
  | _ => none

end Kind

/-- A parameter or a field of some structure. -/
structure Arg where
  name : String
  type : Value
  description : Value
  default : Value := .none
  required : Value := .none

/-- What is returned. -/
structure Return where
  type : Value
  description : Value

/-- An exception that may be raised. -/
structure Raise where
  type : String
  description : String
deriving Repr, DecidableEq

/-- A response of an endpoint. -/
structure Response where
  status : Int
  description : Value
  fields : List Arg := []

/-- A header of a request. -/
structure Header where
  name : String
  description : Value
  required : Bool := false
  sample : Value := .str ""

/-- A field of an event. -/
structure PayloadField where
  name : String
  type : Value
  description : Value

/-- A setting. -/
structure ConfigField where
  name : String
  type : Value
  description : Value
  default : Value := .none
  required : Bool := false
  envVar : Value := .str ""

/-- A documentation text taken apart. -/
structure Docstring where
  summary : String := ""
  description : String := ""
  kind : Kind := .function
  args : List Arg := []
  returns : Option Return := none
  raises : List Raise := []
  examples : List String := []
  attributes : List Arg := []
  notes : List String := []
  method : String := ""
  path : String := ""
  pathParams : List Arg := []
  queryParams : List Arg := []
  requestBody : List Arg := []
  responses : List Response := []
  headers : List Header := []
  trigger : String := ""
  payload : List PayloadField := []
  configFields : List ConfigField := []
  /-- Sections of other names with their contents, in the order in which their names came. -/
  customSections : List (String × String) := []

/-- A section of a kind of documentation that a project defines. Settings may hold any value
    where a text belongs. -/
structure CustomSection where
  name : Value
  format : Value := .str "text"

/-- A kind of documentation that a project defines. -/
structure CustomKind where
  name : String
  label : Value := .str ""
  icon : Value := .str "file"
  sections : List CustomSection := []

end Docsmith

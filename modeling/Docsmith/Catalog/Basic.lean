-- SUMMARY: Records of documented functions, classes, modules and pages.
import Docsmith.Docstring.Basic
import Docsmith.Todo

/-!
# The catalog

What is known about every function, class, module and page of a project.
-/

namespace Docsmith

/-- What functions and methods have in common. -/
structure Routine where
  name : String
  module : String
  signature : String
  docstring : Docstring
  isAsync : Bool
  source : String
  lineNumber : Nat
  decorators : List String
  calls : List String
  kind : Kind
  signatureHash : String
  bodyHash : String
  statementHashes : List String
  callHash : String
  complexity : Nat
  cognitiveWeight : Nat
  isDeprecated : Bool
  deprecationMessage : String
  deprecationSince : String
  category : String
  version : String
  hidden : Bool

/-- A function at the top level of a module. -/
structure FunctionDoc extends Routine where
  fullPath : String

/-- A method of a class. -/
structure MethodDoc extends Routine where
  isClassMethod : Bool
  isStaticMethod : Bool
  isProperty : Bool

/-- A class. -/
structure ClassDoc where
  name : String
  module : String
  fullPath : String
  docstring : Docstring
  bases : List String
  methods : List MethodDoc
  source : String
  lineNumber : Nat
  decorators : List String
  signatureHash : String
  bodyHash : String

/-- A module. -/
structure ModuleDoc where
  name : String
  fullPath : String
  filePath : String
  docstring : String
  classes : List ClassDoc := []
  functions : List FunctionDoc := []
  todos : List Todo := []

/-- A page of running text. -/
structure PageDoc where
  title : String
  slug : String
  content : String
  filePath : String
  order : Int

end Docsmith

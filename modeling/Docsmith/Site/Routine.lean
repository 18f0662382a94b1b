-- SUMMARY: Drawing functions, methods and classes.
import Docsmith.Site.Docstring

/-!
# Drawing functions, methods and classes

A function is drawn as a block: its head line, badges, documentation, calls and
source. A class shows its constructor, its public and its private methods.
-/

namespace Docsmith.Site

/-- The value, unless it counts as false. -/
def orElse (v other : Value) : Value := if v.isTrue then v else other

/-- The head line of a function. -/
def headLine (edition : Edition) (f name sig kind ds : Value) : Drawing := do
  let plain (start : String) : Event := code (.str (start ++ "def " ++ name.text ++ sig.text)) "python"
  if kind.same (.str "api") then
    let method ← ds.getD "http_method" (.str "")
    let path ← ds.getD "path" (.str "")
    if method.isTrue || path.isTrue then
      let shown := orElse path name
      let shown := if edition == .embedded then shown else .str shown.text
      return row 2 ((← methodBadge method) ++ [large shown])
    else return [plain ""]
  else
    return [plain (if (← f.getD "is_async" .none).isTrue then "async " else "")]

/-- A badge if the value under a text counts as true. -/
def markIf (f : Value) (key label color : String) : Drawing := do
  return if (← f.getD key .none).isTrue then [badge (.str label) (.str color)] else []

/-- The badge of a deprecated function. -/
def deprecationBadge (f : Value) : Drawing := do
  given (← f.getD "is_deprecated" .none).isTrue do
    let since ← f.getD "deprecation_since" (.str "")
    let label := if since.isTrue then "DEPRECATED since " ++ since.text else "DEPRECATED"
    return [badge (.str label) (.str "danger")]

/-- The badge of a function of high complexity. -/
def complexityBadge (f : Value) : Drawing := do
  let complexity ← f.getD "complexity" (.int 1)
  let label := Value.str ("complexity: " ++ complexity.text)
  if ← atLeast 15 complexity then return [badge label (.str "danger")]
  else if ← atLeast 8 complexity then return [badge label (.str "warning")]
  else return []

/-- The badges of the version and the category of a function. -/
def originBadges (f : Value) : Drawing := do
  let version ← f.getD "version" (.str "")
  let category ← f.getD "category" (.str "")
  return (if version.isTrue then [badge (.str ("v" ++ version.text)) (.str "info")] else [])
    ++ (if category.isTrue then [badge category (.str "default")] else [])

/-- The badges of a function. -/
def badges (edition : Edition) (f kind decorators : Value) : Drawing := do
  let kindBadge := if kind.same (.str "function") then [] else [badge kind (.str "info")]
  let ownSite := edition != .embedded
  let decorations ← given ownSite do
    each (← decorators.items) fun d => return [badge (.str ("@" ++ (← d.needText))) (.str "default")]
  let async ← markIf f "is_async" "async" "warning"
  let marks ← given ownSite do
    let ofClass ← markIf f "is_classmethod" "classmethod" "info"
    let ofNone ← markIf f "is_staticmethod" "staticmethod" "info"
    return ofClass ++ ofNone ++ (← markIf f "is_property" "property" "success")
  let deprecation ← given (edition != .basic) (deprecationBadge f)
  let origin ← given (edition == .full) (originBadges f)
  let complexity ← given (edition == .full) (complexityBadge f)
  return kindBadge ++ decorations ++ async ++ marks ++ deprecation ++ origin ++ complexity

/-- The sentence about the deprecation of a function. -/
def deprecationLine (f : Value) : Drawing := do
  given (← f.getD "is_deprecated" .none).isTrue do
    let message ← f.getD "deprecation_message" (.str "")
    let since ← f.getD "deprecation_since" (.str "")
    let since := if since.isTrue then ["since " ++ since.text] else []
    let message ← if message.isTrue then do pure [← message.needText] else pure []
    let parts := since ++ message
    let line := if parts.isEmpty then "This function is deprecated."
      else "Deprecated (" ++ ", ".intercalate parts ++ ")"
    return [spacer 1, textOf (.str line) [("color", .str "danger")]]

/-- A titled row of badges, if there are any. -/
def badgeRow (label color : String) (items : Value) : Drawing :=
  given items.isTrue do
    return [spacer 2, heading 4 (.str label), spacer 1]
      ++ row 2 ((← items.items).map fun i => badge i (.str color))

/-- Those who call a function, by its path or else by its name. -/
def callersOf (data name f : Value) : Answer Value := do
  let map ← data.getD "called_by" (.dict [])
  let path ← f.getD "full_path" name
  let look (key : Value) : Answer Value := do
    return (Entries.get? (← map.entries) (← key.asKey)).getD (.list [])
  let byPath ← look path
  if byPath.isTrue then return byPath else look name

/-- The source of an item, after some space. -/
def sourceTab (edition : Edition) (space : Nat) (item name : Value) : Drawing := do
  let text ← item.getD "source" .none
  given text.isTrue do
    let key ← if edition == .embedded then pure name.text else name.needText
    return spacer space :: tab ("src_" ++ key) "Source Code" [listing (edition != .basic) text]

/-- The block of a function. -/
def functionBlock (edition : Edition) (data f : Value) : Drawing := do
  let name ← f.field "name"
  let sig ← f.getD "signature" (.str "()")
  let decorators ← f.getD "decorators" (.list [])
  let kind ← f.getD "doc_type" (.str "function")
  let path ← f.getD "full_path" name
  let place := if edition == .basic then [] else [anchor path]
  let ds ← f.getD "docstring" (.dict [])
  let head ← headLine edition f name sig kind ds
  let marks ← badges edition f kind decorators
  let marks := if marks.isEmpty then [] else spacer 1 :: row 2 marks
  let warning ← given (edition == .full) (deprecationLine f)
  let documentation ← docstring edition ds
  let calls ← given (edition != .embedded) do badgeRow "Calls" "default" (← f.getD "calls" (.list []))
  let callers ← given (edition == .full) do badgeRow "Used By" "info" (← callersOf data name f)
  let source ← sourceTab edition 2 f name
  let close := if edition == .embedded then [] else [spacer 3]
  return [single "divider" [] [], spacer 2] ++ place ++ head ++ marks ++ warning ++ [spacer 2]
    ++ documentation ++ calls ++ callers ++ source ++ close

/-! ## Classes -/

/-- The name of an item is private. -/
def isPrivate (item : Value) : Answer Bool := do
  return (← (← item.field "name").asText).startsWith "_"

/-- The first constructor among methods. -/
def constructor? : List Value → Answer (Option Value)
  | [] => .ok none
  | m :: ms => do
    if (← m.field "name").same (.str "__init__") then return some m else constructor? ms

/-- The bases of a class between parentheses. -/
def basesText (cls : Value) : Answer String := do
  let bases ← cls.getD "bases" .none
  if bases.isTrue then
    return "(" ++ ", ".intercalate (← (← bases.items).mapM Value.needText) ++ ")"
  else return ""

/-- The block of the constructor, if there is one among the methods. -/
def constructorBlock (edition : Edition) (data : Value) (methods : List Value) : Drawing := do
  match ← constructor? methods with
  | some m => return [spacer 3, heading 3 (.str "Constructor")] ++ (← functionBlock edition data m)
  | none => return []

/-- The documentation of a class with all its methods. -/
def classBlock (edition : Edition) (data cls : Value) : Drawing := do
  let bases ← basesText cls
  let head := code (.str ("class " ++ (← cls.field "name").text ++ bases)) "python"
  let decorators ← cls.getD "decorators" .none
  let decorations ← given decorators.isTrue do
    return spacer 1 :: row 2 ((← decorators.items).map fun d =>
      badge (.str ("@" ++ d.text)) (.str "info"))
  let documentation ← docstring edition (← cls.field "docstring")
  let methods ← cls.itemsOf "methods"
  let constructor ← constructorBlock edition data methods
  let shown ← keep (fun m => do return !(← isPrivate m)) methods
  let shown ← given (!shown.isEmpty) do
    return [spacer 2, heading 3 (.str "Methods")] ++ (← each shown (functionBlock edition data))
  let others ← keep (fun m => do
    if ← isPrivate m then return !((← m.field "name").same (.str "__init__")) else return false) methods
  let others ← given (!others.isEmpty) do
    let blocks ← each others (functionBlock edition data)
    return spacer 2 :: tab "private" ("Private Methods (" ++ toString others.length ++ ")") blocks
  return head :: (decorations ++ [spacer 2] ++ documentation ++ constructor ++ shown ++ others)

end Docsmith.Site

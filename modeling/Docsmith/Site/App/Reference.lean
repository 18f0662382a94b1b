-- SUMMARY: The panels that describe modules, types, endpoints and pages.
import Docsmith.Site.App.Navigation
import Docsmith.Site.Routine
import Docsmith.Site.Plan

/-!
# Reference panels

The home panel, one panel for every module and page, and one for all types and
all endpoints.
-/

namespace Docsmith.Site

/-! ## Home -/

/-- The first line of a text, without blanks around it. -/
def firstLine (s : String) : String :=
  String.ofList (Text.strip (s.toList.takeWhile (· != '\n')))

/-- A badge that counts the items under a text, if there are any. -/
def countBadge (m : Value) (key color : String) : Drawing := do
  let v ← m.getD key .none
  given v.isTrue do return [badge (.str (toString (← v.size) ++ " " ++ key)) (.str color)]

/-- The card of a module. -/
def moduleCard (m : Value) : Drawing := do
  let label ← moduleLabel m
  let documentation ← m.getD "docstring" .none
  let opening ← given documentation.isTrue do return [muted (.str (firstLine (← documentation.asText)))]
  let classes ← countBadge m "classes" "info"
  let functions ← countBadge m "functions" "default"
  return card label (opening ++ inside (call "row" [] [("gap", .int 2)]) (classes ++ functions))

/-- The row of an endpoint. -/
def endpointRow (e : Value) : Answer Value := do
  let ds ← e.getD "docstring" (.dict [])
  let method ← ds.getD "http_method" (.str "")
  let path ← ds.getD "path" (.str "")
  return .object [("Method", method), ("Path", path), ("Summary", ← ds.getD "summary" (.str ""))]

/-- The figures on the home panel. -/
def homeFigures (s : Selection) : Drawing := do
  let pages ← given s.pages.isTrue do
    return [metric (.str "Pages") (.int (← s.pages.size))]
  let endpoints := if s.endpoints.isEmpty then [] else
    [metric (.str "API Endpoints") (.int s.endpoints.length)]
  return row 4 ([metric (.str "Modules") (.int s.modules.length),
    metric (.str "Classes") (.int s.classes.length),
    metric (.str "Functions") (.int s.functions.length)] ++ endpoints ++ pages)

/-- The home panel; the version is shown by its label. -/
def homePanel (p : Plan) (version : String) (s : Selection) : Drawing := do
  let figures ← homeFigures s
  let modules ← given (!s.modules.isEmpty) do
    return [spacer 4, heading 3 (.str "Modules"), spacer 2] ++ (← each s.modules moduleCard)
  let endpoints ← given (!s.endpoints.isEmpty) do
    return [spacer 4, heading 3 (.str "API Endpoints"), spacer 2,
      wholeTable (← s.endpoints.mapM endpointRow)]
  let description := if p.description.isTrue then
    [textOf p.description [("size", .str "lg"), ("color", .str "muted")]] else []
  let version := if p.version.isTrue then [spacer 3, badge (.str version) (.str "info")] else []
  return panel (.str "home") ([single "title" [p.title] []] ++ description ++ [spacer 4] ++ figures
    ++ version ++ modules ++ endpoints)

/-! ## Modules and pages -/

/-- The card of a class on the panel of its module. -/
def classCard (edition : Edition) (c : Value) : Drawing := do
  let name ← c.field "name"
  let documentation ← docstring edition (← c.field "docstring")
  let methods ← keep (fun m => do return !(← isPrivate m)) (← c.itemsOf "methods")
  let size := if methods.isEmpty then [] else
    [spacer 2, badge (.str (toString methods.length ++ " methods")) (.str "info")]
  return card (.str ("class " ++ name.text)) (documentation ++ size)

/-- The panel of a module. -/
def modulePanel (edition : Edition) (data m : Value) : Drawing := do
  let key ← keyOf "mod_" m "full_path"
  let label ← moduleLabel m
  let file ← m.getD "file_path" .none
  let documentation ← m.getD "docstring" .none
  let classes ← m.itemsOf "classes"
  let classes ← given (!classes.isEmpty) do
    return [spacer 4, heading 3 (.str "Classes"), spacer 2] ++ (← each classes (classCard edition))
  let functions ← m.itemsOf "functions"
  let functions ← given (!functions.isEmpty) do
    return [spacer 4, heading 3 (.str "Functions")] ++ (← each functions (functionBlock edition data))
  return panel key ([heading 2 label] ++ (if file.isTrue then [fine file] else [])
    ++ (if documentation.isTrue then [spacer 2, textOf documentation []] else [])
    ++ classes ++ functions)

/-- The panel of a page. -/
def pagePanel (start : String) (p : Value) : Drawing := do
  let key ← keyOf start p "slug"
  let title ← p.field "title"
  return panel key [heading 2 title, spacer 2, single "html" [← p.getD "content" (.str "")] []]

/-! ## Types -/

/-- Add an item to the group with a key; a new group comes last. -/
def addToGroup (key item : Value) : List (Value × List Value) → List (Value × List Value)
  | [] => [(key, [item])]
  | (k, items) :: rest =>
    if k.same key then (k, items ++ [item]) :: rest else (k, items) :: addToGroup key item rest

/-- Group items by a key, in the order in which the keys come. -/
def groupBy (key : Value → Answer Value) (items : List Value) : Answer (List (Value × List Value)) :=
  items.foldlM (fun groups item => do return addToGroup (← (← key item).asKey) item groups) []

/-- A layout with a part at the side. -/
def sideLayout (side main : List Event) : List Event :=
  inside (call "layout" [.str "sidebar"] [("sidebar_width", .str "260px")])
    (inside (call "layout.side" [] []) side ++ inside (call "layout.main" [] []) main)

/-- A list of links that can be searched. -/
def subnav (content : List Event) : List Event :=
  inside (call "subnav" [] [("searchable", .bool true)]) content

/-- The link to a class. -/
def classLink (c : Value) : Drawing := do
  let size ← sizeOf c "methods"
  let name ← c.field "name"
  return [single "subnav_item" [name]
    [("badge", count size), ("target", ← keyOf "type_" c "full_path")]]

/-- The links to the classes of a module. -/
def classLinks (group : Value × List Value) : Drawing := do
  let title := if group.1.isTrue then [single "subnav_group" [group.1] []] else []
  return title ++ (← each group.2 classLink)

/-- The place of an item on a panel. -/
def placeOf (edition : Edition) (key : Value) : Event :=
  if edition == .basic then
    single "raw_html" [.str ("<div id=\"" ++ key.text ++ "\"></div>")] []
  else anchor key

/-- The card of a class on the panel of the types. -/
def typeCard (edition : Edition) (data c : Value) : Drawing := do
  let key ← keyOf "type_" c "full_path"
  return placeOf edition key :: (plainCard (← classBlock edition data c) ++ [spacer 3])

/-- The panel of the types, if there are any. -/
def typesPanel (edition : Edition) (data : Value) (s : Selection) : Drawing :=
  given (!s.classes.isEmpty) do
    let groups ← groupBy (fun c => c.getD "module" (.str "")) s.classes
    let links ← each groups classLinks
    let cards ← each s.classes (typeCard edition data)
    return panel (.str "types_ref") (sideLayout
      ([heading 3 (.str "Types"), spacer 2] ++ subnav links)
      ([heading 2 (.str "Types Reference"),
        muted (.str (toString s.classes.length ++ " classes across the codebase.")), spacer 4]
        ++ cards))

/-! ## Endpoints -/

/-- The first segment of the path of an endpoint. -/
def firstSegment (e : Value) : Answer Value := do
  let ds ← e.getD "docstring" (.dict [])
  let path ← (← ds.getD "path" (.str "")).asText
  let inner := Text.stripWhile (· == '/') path.toList
  return .str (String.ofList ('/' :: inner.takeWhile (· != '/')))

/-- The colour of the tag of a link to an endpoint. -/
def tagColor (method : Value) : Answer Value := do
  let color ← methodColor method
  return if color.same (.str "default") then .none else color

/-- The link to an endpoint. -/
def endpointLink (e : Value) : Drawing := do
  let ds ← e.getD "docstring" (.dict [])
  let method ← ds.getD "http_method" (.str "GET")
  let name ← e.field "name"
  let path ← ds.getD "path" name
  let color ← tagColor method
  return [single "subnav_item" [path]
    [("tag", method), ("tag_color", color), ("target", ← keyOf "ep_" e "full_path")]]

/-- The links to the endpoints of a group. -/
def endpointLinks (group : Value × List Value) : Drawing := do
  return single "subnav_group" [group.1] [] :: (← each group.2 endpointLink)

/-- Count equal values, in the order in which they come first. -/
def tally (values : List Value) : List (Value × Nat) :=
  (values.foldl (fun groups v => addToGroup v v groups) []).map fun (k, vs) => (k, vs.length)

/-- Figures that count equal values, in increasing order. -/
def tallied (label : Value → Answer Value) (values : List Value) : Drawing := do
  let counts ← Value.sortedBy (·.1) (tally (← values.mapM Value.asKey))
  each counts fun (v, n) => return [metric (← label v) (.int n)]

/-- The method of an endpoint. -/
def requestMethod (e : Value) : Answer Value := do
  (← (← e.getD "docstring" (.dict [])).getD "http_method" (.str "GET")).asKey

/-- The card of an endpoint on the panel of the endpoints. -/
def endpointCard (edition : Edition) (e : Value) : Drawing := do
  let ds ← e.getD "docstring" (.dict [])
  let method ← ds.getD "http_method" (.str "")
  let path ← ds.getD "path" (.str "")
  let key ← keyOf "ep_" e "full_path"
  let mark ← methodBadge method
  let shown ← if path.isTrue then pure path else e.field "name"
  let module ← e.getD "module" .none
  let origin ← given (edition != .embedded && module.isTrue) do
    return [fine (.str (module.text ++ "." ++ (← e.field "name").text))]
  let documentation ← docstring edition ds
  let text ← e.getD "source" .none
  let source ← given text.isTrue do sourceTab edition 3 e (← e.field "name")
  return placeOf edition key :: (plainCard (row 3 (mark ++ [heading 3 shown]) ++ origin
    ++ [spacer 2] ++ documentation ++ source) ++ [spacer 3])

/-- The panel of the endpoints, if there are any. -/
def endpointsPanel (edition : Edition) (s : Selection) : Drawing :=
  given (!s.endpoints.isEmpty) do
    let groups ← groupBy firstSegment s.endpoints
    let links ← each groups endpointLinks
    let methods ← tallied pure (← s.endpoints.mapM requestMethod)
    let cards ← each s.endpoints (endpointCard edition)
    return panel (.str "api_ref") (sideLayout
      ([heading 3 (.str "Endpoints"), spacer 2] ++ subnav links)
      ([heading 2 (.str "API Reference"),
        muted (.str (toString s.endpoints.length ++ " endpoints.")), spacer 3]
        ++ row 3 methods ++ [spacer 4] ++ cards))

end Docsmith.Site

-- SUMMARY: Drawing what a documentation text says.
import Docsmith.Site.Selection
import Docsmith.Site.Widget
import Docsmith.Value.Order

/-!
# Drawing a documentation text

The summary and the description come first, then what belongs to the kind of the
text, then tables and lists of what it describes. Inside another site fewer
parts are drawn.
-/

namespace Docsmith.Site

/-- The number is at least so large. -/
def atLeast (n : Nat) (v : Value) : Answer Bool :=
  match v with
  | .float x => .ok (n.toFloat ≤ x)
  | v => match v.integer? with
    | some k => .ok (decide ((n : Int) ≤ k))
    | none => .error .wrongKind

/-- The value under a text if it counts as true, as a cell of a row. -/
def cellIf (item : Value) (key column : String) : Answer (List (String × Value)) := do
  let v ← item.getD key .none
  return if v.isTrue then [(column, v)] else []

/-- A cell that says yes if the value under a text counts as true. -/
def yesIf (item : Value) (key column : String) : Answer (List (String × Value)) := do
  return if (← item.getD key .none).isTrue then [(column, .str "Yes")] else []

/-- The row of a parameter or a field. -/
def argRow (edition : Edition) (arg : Value) : Answer Value := do
  let name ← arg.field "name"
  let type ← cellIf arg "type" "Type"
  let description ← arg.getD "description" (.str "")
  let default ← cellIf arg "default" "Default"
  let required ← yesIf arg "required" "Required"
  let env ← if edition == .embedded then pure [] else cellIf arg "env_var" "Env Var"
  return .object ([("Name", name)] ++ type ++ [("Description", description)] ++ default
    ++ required ++ env)

/-- A table of parameters or fields, if there are any. -/
def argsTable (edition : Edition) (label : String) (args : Value) : Drawing :=
  given args.isTrue do
    let rows ← (← args.items).mapM (argRow edition)
    return sectionTitle label ++ [fixedTable rows]

/-- A table of the parameters under a text. -/
def argsTableOf (edition : Edition) (docstring : Value) (key label : String) : Drawing := do
  argsTable edition label (← docstring.getD key (.list []))

/-- The colour of a method of requests. -/
def methodColor (method : Value) : Answer Value := do
  match ← method.asKey with
  | .str "GET" => return .str "success"
  | .str "POST" => return .str "info"
  | .str "PUT" => return .str "warning"
  | .str "PATCH" => return .str "warning"
  | .str "DELETE" => return .str "danger"
  | _ => return .str "default"

/-- The badge of a method of requests, if there is one. -/
def methodBadge (method : Value) : Drawing :=
  given method.isTrue do return [badge method (← methodColor method)]

/-! ## Endpoints, events and settings -/

/-- The row of a header. -/
def headerRow (h : Value) : Answer Value := do
  let name ← h.field "name"
  let description ← h.getD "description" (.str "")
  let required ← yesIf h "required" "Required"
  let sample ← cellIf h "example" "Example"
  return .object ([("Name", name), ("Description", description)] ++ required ++ sample)

/-- The colour of a status. -/
def statusColor (status : Value) : Answer String := do
  let under (lo hi : Nat) : Answer Bool := do
    if ← atLeast lo status then return !(← atLeast hi status) else return false
  if ← under 200 300 then return "success"
  else if ← under 300 400 then return "warning"
  else return "danger"

/-- The card of a response. -/
def responseCard (edition : Edition) (r : Value) : Drawing := do
  let status ← r.getD "status_code" (.str "")
  let description ← r.getD "description" (.str "")
  let color ← statusColor status
  let fields ← argsTableOf edition r "fields" "Fields"
  return card (.str (status.text ++ " " ++ description.text))
    ([badge (.str status.text) (.str color)]
      ++ (if description.isTrue then [muted description] else []) ++ fields)

/-- The method and the path of an endpoint. -/
def route (docstring : Value) : Drawing := do
  let method ← docstring.getD "http_method" (.str "")
  let path ← docstring.getD "path" (.str "")
  given (method.isTrue || path.isTrue) do
    let path := if path.isTrue then [code path "text"] else []
    return spacer 2 :: row 2 ((← methodBadge method) ++ path)

/-- The parameters of an endpoint. -/
def requestParts (edition : Edition) (docstring : Value) : Drawing := do
  let route ← route docstring
  let path ← argsTableOf edition docstring "path_params" "Path Parameters"
  let query ← argsTableOf edition docstring "query_params" "Query Parameters"
  let body ← argsTableOf edition docstring "request_body" "Request Body"
  return route ++ path ++ query ++ body

/-- The headers and the responses of an endpoint. -/
def responseParts (edition : Edition) (docstring : Value) : Drawing := do
  let headers ← docstring.getD "headers" (.list [])
  let headers ← given headers.isTrue do
    return sectionTitle "Headers" ++ [fixedTable (← (← headers.items).mapM headerRow)]
  let responses ← docstring.getD "responses" (.list [])
  let responses ← given responses.isTrue do
    return sectionTitle "Responses" ++ (← each (← responses.items) (responseCard edition))
  return headers ++ responses

/-- What is drawn for an event. -/
def eventParts (edition : Edition) (docstring : Value) : Drawing := do
  let trigger ← docstring.getD "trigger" (.str "")
  let trigger := if trigger.isTrue then
    [spacer 2, heading 4 (.str "Trigger"), textOf trigger []] else []
  return trigger ++ (← argsTableOf edition docstring "payload" "Payload")

/-- What is drawn for the kind of a documentation text. -/
def kindParts (edition : Edition) (docstring : Value) : Drawing := do
  let kind ← docstring.getD "doc_type" (.str "function")
  let ownSite := edition != .embedded
  if kind.same (.str "api") then
    let request ← requestParts edition docstring
    return request ++ (← given ownSite (responseParts edition docstring))
  else if kind.same (.str "event") then given ownSite (eventParts edition docstring)
  else if kind.same (.str "config") then
    given ownSite (argsTableOf edition docstring "config_fields" "Configuration Fields")
  else return []

/-! ## All kinds -/

/-- What is returned. -/
def returnParts (docstring : Value) : Drawing := do
  let r ← docstring.getD "returns" .none
  given r.isTrue do
    let type ← r.getD "type" .none
    let description ← r.getD "description" .none
    let parts ← ([type, description].filter Value.isTrue).mapM Value.needText
    return sectionTitle "Returns" ++ [textOf (.str (" — ".intercalate parts)) []]

/-- The line about an exception. -/
def raiseLine (r : Value) : Drawing := do
  let type ← r.field "type"
  let description ← r.getD "description" (.str "")
  return [textOf (.str (type.text ++ ": " ++ description.text)) []]

/-- A titled list of what stands under a text. -/
def listParts (docstring : Value) (key label : String) (draw : Value → Drawing) : Drawing := do
  let items ← docstring.getD key (.list [])
  given items.isTrue do return sectionTitle label ++ (← each (← items.items) draw)

/-- The notes. -/
def noteParts (docstring : Value) : Drawing := do
  let notes ← docstring.getD "notes" (.list [])
  given notes.isTrue do
    return spacer 3 :: (← notes.items).map fun n => single "alert" [n] [("type", .str "info")]

/-- The sections that the project defines. -/
def customParts (docstring : Value) : Drawing := do
  let custom ← docstring.getD "custom_sections" (.dict [])
  each (← custom.entries) fun (name, content) =>
    return [spacer 3, heading 4 name, spacer 1, textOf content []]

/-- The summary and the description. -/
def openingParts (docstring : Value) : Drawing := do
  let summary ← docstring.getD "summary" .none
  let description ← docstring.getD "description" .none
  return (if summary.isTrue then [large summary] else [])
    ++ (if description.isTrue then [spacer 2, muted description] else [])

/-- A documentation text. -/
def docstring (edition : Edition) (d : Value) : Drawing := do
  let opening ← openingParts d
  let kind ← kindParts edition d
  let args ← argsTableOf edition d "args" "Parameters"
  let returns ← returnParts d
  let raises ← listParts d "raises" "Raises" raiseLine
  let attributes ← argsTableOf edition d "attributes" "Attributes"
  let examples ← listParts d "examples" "Examples" fun e => return [code e "python"]
  let notes ← given (edition != .embedded) (noteParts d)
  let custom ← given (edition != .embedded) (customParts d)
  return opening ++ kind ++ args ++ returns ++ raises ++ attributes ++ examples ++ notes ++ custom

end Docsmith.Site

-- SUMMARY: Running a documentation site.
import Docsmith.Site.App.Insights
import Docsmith.Site.Program
import Docsmith.Source.Denotation
import Docsmith.Source.Parse

/-!
# Running a site

A site is registered, drawn and, once it is ready, announced. A generated site
can only run if its text is a program. Two expressions in that text depend on
the plan in ways that quotation marks can change: the title of the chat dialog
and the label of the version.
-/

namespace Docsmith.Site

open Source

/-! ## Expressions of the program -/

/-- The text that a part of a formatted text stands for. -/
def partText : Expr → Answer String
  | .constant c => .ok c.value.text
  | .formatted e none none => do return (← e.value).text
  | _ => .error .wrongKind

/-- The text that an expression stands for. -/
def exprText : Expr → Answer String
  | .joined parts => do return String.join (← parts.mapM partText)
  | e => do return (← e.value).text

/-- The argument that an expression stands for. -/
def argumentOf : Expr → Answer Argument
  | .name "_show_chat" => .ok (.result "signal")
  | .joined parts => do return .value (.str (← exprText (.joined parts)))
  | e => do return .value (← e.value)

/-- The named arguments of a call; a name must not be given twice. -/
def namedArguments : List Keyword → List (String × Argument) → Answer (List (String × Argument))
  | [], found => .ok found
  | .mk none _ :: _, _ => .error .wrongKind
  | .mk (some name) e :: rest, found =>
    if found.any (·.1 == name) then .error (.notAProgram .malformed)
    else do namedArguments rest (found ++ [(name, ← argumentOf e)])

/-- The call of a widget that an expression stands for. -/
def widgetCall : Expr → Answer Call
  | .call (.attribute (.name "c") name) args keywords => do
    return ⟨name, ← args.mapM Expr.value, ← namedArguments keywords []⟩
  | _ => .error .wrongKind

/-- The expressions of a list between commas. -/
def listedExprs : Expr → List Expr
  | .tuple es => es
  | e => [e]

/-- The calls that open the dialog of the chat, the outermost first. There is one, unless
    quotation marks in the title make more of the text. -/
def Plan.dialogCalls (p : Plan) : Answer (List Call) := do
  (listedExprs (← (parseExpr p.dialog).mapError .notAProgram)).mapM widgetCall

/-- The label of the version. -/
def Plan.versionText (p : Plan) : Answer String := do
  exprText (← (parseExpr p.versionLabel).mapError .notAProgram)

/-! ## Parts of a run -/

/-- The events of the chat. -/
def Plan.chatEvents (p : Plan) : Drawing :=
  match p.chat with
  | some chat => do
    let talk := single "chat" [] [
      ("provider", .str chat.provider), ("model", .str chat.model),
      ("system_prompt", .str chat.prompt), ("height", .str "450px"),
      ("show_clear", .bool true),
      ("placeholder", .str "Ask about functions, classes, usage...")]
    let dialog := (← p.dialogCalls).foldr inside [talk]
    return dialog ++ [single "html" [.str Program.chatButton] []]
  | none => return []

/-- Register the site under its name. -/
def register (description : String) : Event :=
  single "register_plugin" [.str siteName]
    [("version", .str release), ("description", .str description)]

/-- Wait for the site to be ready. -/
def awaitReady : Event := single "plugin.on" [.str "on_ready"] []

/-- The announcement of a site that is ready. -/
def announce (s : Selection) : Drawing := do
  let pages ← s.pages.size
  let text := toString s.functions.length ++ " functions, " ++ toString s.classes.length
    ++ " classes, " ++ toString s.endpoints.length ++ " endpoints"
  return [
    single "notify" [.str "Documentation loaded", .str text] [("variant", .str "success")],
    single "emit" [.str "docs:loaded", .object [
      ("functions", .int s.functions.length), ("classes", .int s.classes.length),
      ("endpoints", .int s.endpoints.length), ("pages", .int pages)]] []]

/-- The panels of a site. -/
def panels (edition : Edition) (p : Plan) (data : Value) (s : Selection) : Drawing := do
  let version ← if p.version.isTrue then p.versionText else pure ""
  let home ← homePanel p version s
  let modules ← each s.modules (modulePanel edition data)
  let types ← typesPanel edition data s
  let endpoints ← endpointsPanel edition s
  let calls ← callMapPanel s
  let insights ← given (edition == .full) do
    let dashboard ← dashboardPanel data s
    let work ← openWorkPanel data
    let changes ← changesPanel data
    return dashboard ++ work ++ changes ++ (← deadCodePanel data)
  let pages ← each (← s.pages.items) (pagePanel "page_")
  return home ++ modules ++ types ++ endpoints ++ calls ++ insights ++ pages

/-- The shell of a site with all its content. -/
def shell (edition : Edition) (p : Plan) (data : Value) (s : Selection) : Drawing := do
  let side ← sidebar edition s data
  let content ← panels edition p data s
  let chat ← p.chatEvents
  return inside (call "app_shell" [] [
      ("brand", p.title), ("default", .str "home"), ("theme_dark", .str p.darkName),
      ("theme_light", .str p.lightName)])
    (side ++ inside (call "shell_content" [] []) (content ++ chat))

/-- Set the title and the theme of a site. -/
def Plan.configure (p : Plan) : Event := single "config" [] [("title", p.title), ("theme", p.theme)]

/-! ## Runs -/

/-- Run a site with a plan. -/
def Plan.run (p : Plan) (data : Value) : Drawing := do
  let s ← Selection.ofData .full data
  let themes := p.themes.map fun (name, colors) =>
    single "register_theme" [.str name, colors] []
  let signal := if p.chat.isSome then
    [single "signal" [.bool false] [("name", .str "show_chat")]] else []
  let shell ← shell .full p data s
  let ready ← announce s
  return p.configure :: (themes ++ [register "Auto-generated documentation", awaitReady] ++ signal
    ++ shell ++ ready)

/-- Run the site that is generated for documentation data. -/
def runSite (planned data : Value) : Drawing := do
  let p ← Plan.ofData planned
  let _ ← (parse p.program).mapError .notAProgram
  p.run data

/-- The plan of the basic site. -/
def basicPlan : Plan where
  title := .str "CacaoDocs"
  description := .str "Generate beautiful documentation from Python docstrings"
  version := .str "2.0.0"
  theme := .str "light"

/-- Run the basic site. -/
def runBasicSite (data : Value) : Drawing := do
  let s ← Selection.ofData .basic data
  return basicPlan.configure :: (← shell .basic basicPlan data s)

end Docsmith.Site

-- SUMMARY: The commands of the command line.
import Docsmith.Build.Output
import Docsmith.Command.Options
import Docsmith.Settings.Sample
import Docsmith.Value.Whole

/-!
# Commands

`build` builds documentation, `serve` and `export` hand a built site to an
outside tool, and `init` writes a settings file. A command works on a disk and
leaves texts, an exit status and a changed disk.
-/

namespace Docsmith.Command

/-- How the outside tool ends. -/
inductive ToolResult where
  | missing
  | failed
  | interrupted
  /-- It succeeds and makes a folder. -/
  | done (makes : Option String)

/-- What a command works with. -/
structure World where
  disk : FileTree
  /-- The folder that relative paths start from. -/
  here : Path
  /-- The content of the settings file. -/
  settingsFile : Value := .none
  render : String → String := Page.preformatted
  model : Report.ModelAnswer := .missing
  tool : ToolResult := .missing
  time : String := ""

/-- What a command leaves. -/
structure Outcome where
  status : Nat := 0
  out : String := ""
  err : String := ""
  /-- The calls of the outside tool. -/
  ran : List (List String) := []
  disk : FileTree

/-- The command line is not understood. -/
def World.misuse (w : World) : Outcome := { status := 2, disk := w.disk }

/-- The absolute path that a text stands for: two points go back one name. -/
def World.resolve (w : World) (s : String) : Path :=
  let p := Path.ofString s
  let base := if p.root.isEmpty then w.here else ⟨p.root, []⟩
  { base with parts := p.parts.foldl Path.follow base.parts }

/-- Something is at a path. -/
def World.has (w : World) (p : Path) : Bool := (w.disk.lookup p.parts).isSome

/-- Lines of text. -/
def linesOf (ls : List String) : String := String.join (ls.map (· ++ "\n"))

/-! ## Building -/

/-- The words about a fault. -/
def faultText (f : Fault) : String :=
  match f with
  | .badPosition => "list index out of range"
  | f => f.message.getD ""

/-- The lines about embeddings. -/
def embeddingLines (data : Value) : Answer (List String) := do
  let stats ← data.getD "_embedding_stats" .none
  if stats.isTrue then
    let chunks ← stats.field "chunks"
    let model ← stats.field "model"
    return ["", "  AI/RAG:", "    Chunks:     " ++ chunks.text, "    Model:      " ++ model.text,
      "    Dimensions: " ++ (← stats.field "dimensions").text]
  else return []

/-- The lines about a finished build. -/
def buildLines (output : Path) (data : Value) : Answer (List String) := do
  let size (key : String) : Answer Nat := do (← data.getD key (.list [])).size
  let endpoints ← size "api_endpoints"
  return ["", "Documentation built!", "",
    "  Modules:       " ++ toString (← size "modules"),
    "  Classes:       " ++ toString (← size "classes"),
    "  Functions:     " ++ toString (← size "functions")]
    ++ (if endpoints == 0 then [] else ["  API Endpoints: " ++ toString endpoints])
    ++ ["  Pages:         " ++ toString (← size "pages")]
    ++ (← embeddingLines data)
    ++ ["", "  Output: " ++ (output.join ["app.py"]).text, "",
      "Run with: cacaodocs serve " ++ output.text]

/-- The options of `build`. -/
def buildSwitches : List Switch := [
  ⟨"output", some 'o', true⟩, ⟨"config", some 'c', true⟩, ⟨"verbose", some 'v', false⟩]

/-- Build documentation. -/
def World.build (w : World) (words : Words) (source : String) : Outcome :=
  let root := w.resolve source
  let output := w.resolve ((words.value? "output").getD "./docs")
  let start := linesOf ["Scanning: " ++ root.text]
  match Settings.load w.settingsFile with
  | .error _ => { status := 1, out := start, disk := w.disk }
  | .ok settings =>
    let settings := if words.has "verbose" then settings.put "verbose" (.bool true) else settings
    let (answer, disk) := Build.run {
      source := root, output := output.parts, settings := settings, render := w.render,
      model := w.model, time := w.time } w.disk
    match answer >>= fun data => buildLines output (.dict data) with
    | .ok ls => { out := start ++ linesOf ls, disk := disk }
    | .error f =>
      { status := 1, out := start, err := linesOf ["Error: " ++ faultText f], disk := disk }

/-! ## Handing over to the outside tool -/

/-- There is no site in a folder. -/
def World.noSite (w : World) (folder : Path) : Outcome :=
  { status := 1, disk := w.disk,
    err := linesOf ["Error: No app.py found in " ++ folder.text ++ ". Run 'cacaodocs build' first."] }

/-- The outside tool is missing. -/
def toolMissing : String := linesOf ["Error: Cacao not found. Install it: pip install cacao"]

/-- The options of `serve`. -/
def serveSwitches : List Switch := [⟨"port", some 'p', true⟩, ⟨"host", none, true⟩]

/-- Serve a built site. -/
def World.serve (w : World) (words : Words) (folder : String) (port : Int) : Outcome :=
  let folder := w.resolve folder
  let program := folder.join ["app.py"]
  if !w.has program then w.noSite folder
  else
    let host := (words.value? "host").getD "127.0.0.1"
    let start := linesOf ["Serving docs at http://" ++ host ++ ":" ++ toString port,
      "Press Ctrl+C to stop."]
    let ran := [["cacao", "run", program.text, "--port", toString port]]
    let o : Outcome := { out := start, ran := ran, disk := w.disk }
    match w.tool with
    | .missing => { o with status := 1, err := toolMissing }
    | .failed => { o with status := 1 }
    | .interrupted => { o with out := start ++ linesOf ["", "Stopped."] }
    | .done none => o
    | .done (some made) => { o with disk := w.disk.put (w.resolve made).parts FileTree.empty }

/-- The options of `export`. -/
def exportSwitches : List Switch := [⟨"output", some 'o', true⟩, ⟨"base-path", none, true⟩]

/-- The lines about a finished export. -/
def exportLines (output : Path) (withEmbeddings : Bool) : List String :=
  ["", "Static site exported!", "  Output: " ++ output.text]
    ++ (if withEmbeddings then ["  AI chat with RAG enabled"] else [])
    ++ ["", "You can serve it with any static file server, e.g.:",
      "  python -m http.server -d " ++ output.text]

/-- Finish an export: copy the embeddings into the output folder, which must be there. -/
def finishExport (o : Outcome) (folder output : Path) : Outcome :=
  match o.disk.lookup (folder.parts ++ ["embeddings.json"]) with
  | none => { o with out := o.out ++ linesOf (exportLines output false) }
  | some file =>
    if (o.disk.lookup output.parts).isNone then { o with status := 1, err := toolMissing }
    else { o with
      out := o.out ++ linesOf (exportLines output true)
      disk := o.disk.put (output.parts ++ ["embeddings.json"]) file }

/-- Make a folder, unless there is something. -/
def makeFolder (disk : FileTree) (p : Path) : FileTree :=
  if (disk.lookup p.parts).isSome then disk else disk.put p.parts FileTree.empty

/-- Export a built site. -/
def World.exportSite (w : World) (words : Words) (folder : String) : Outcome :=
  let folder := w.resolve folder
  let program := folder.join ["app.py"]
  if !w.has program then w.noSite folder
  else
    let output := w.resolve ((words.value? "output").getD "./dist")
    let base := (words.value? "base-path").getD ""
    let ran := ["cacao", "build", program.text, "-o", output.text]
      ++ if base.isEmpty then [] else ["--base-path", base]
    let o : Outcome := {
      out := linesOf ["Exporting static site to " ++ output.text], ran := [ran], disk := w.disk }
    match w.tool with
    | .missing => { o with status := 1, err := toolMissing }
    | .failed => { o with status := 1, err := linesOf ["Error: Static build failed."] }
    | .interrupted => { o with status := 1, err := linesOf ["", "Aborted!"] }
    | .done none => finishExport o folder output
    | .done (some made) =>
      finishExport { o with disk := makeFolder w.disk (w.resolve made) } folder output

/-! ## Starting a project -/

/-- The options of `init`. -/
def initSwitches : List Switch := [⟨"output", some 'o', true⟩, ⟨"force", some 'f', false⟩]

/-- Write a settings file. -/
def World.init (w : World) (words : Words) : Outcome :=
  let name := (words.value? "output").getD "cacao.yaml"
  let shown := (Path.ofString name).text
  let place := w.resolve name
  if w.has place && !words.has "force" then
    { status := 1, disk := w.disk,
      err := linesOf ["Error: " ++ shown ++ " already exists. Use --force to overwrite."] }
  else match w.disk.lookup place.parts.dropLast, w.disk.lookup place.parts with
    | some (.folder _), some (.folder _) => { status := 1, disk := w.disk }
    | some (.folder _), _ =>
      { out := linesOf ["Created " ++ shown],
        disk := w.disk.put place.parts (FileTree.ofText Settings.sample) }
    | _, _ => { status := 1, disk := w.disk }

/-! ## The command line -/

/-- The only argument, or a default if there is none; it must name something on the disk. -/
def World.argument? (w : World) (words : Words) (default : Option String) : Option String :=
  match words.arguments, default with
  | [a], _ => if w.has (w.resolve a) then some a else none
  | [], some d => if w.has (w.resolve d) then some d else none
  | _, _ => none

/-- The number of a port. -/
def port? (words : Words) : Option Int :=
  match words.value? "port" with
  | none => some 1502
  | some s => Value.numeral? s.toList

/-- Run a command. -/
def World.run (w : World) : List String → Outcome
  | "build" :: rest => match words? buildSwitches rest with
    | some words => match w.argument? words none with
      | some source => w.build words source
      | none => w.misuse
    | none => w.misuse
  | "serve" :: rest => match words? serveSwitches rest with
    | some words => match w.argument? words (some "./docs"), port? words with
      | some folder, some port => w.serve words folder port
      | _, _ => w.misuse
    | none => w.misuse
  | "export" :: rest => match words? exportSwitches rest with
    | some words => match w.argument? words (some "./docs") with
      | some folder => w.exportSite words folder
      | none => w.misuse
    | none => w.misuse
  | "init" :: rest => match words? initSwitches rest with
    | some words => if words.arguments.isEmpty then w.init words else w.misuse
    | none => w.misuse
  | _ => w.misuse

end Docsmith.Command

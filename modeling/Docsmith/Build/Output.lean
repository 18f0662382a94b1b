-- SUMMARY: Building the documentation of a project into a folder.
import Docsmith.Build.Data
import Docsmith.Json.Read
import Docsmith.Json.Write
import Docsmith.Report.Breaking
import Docsmith.Report.Changes
import Docsmith.Report.Embedding
import Docsmith.Site.Program

/-!
# Building documentation

A build scans a project and writes into its output folder: the data of the
documentation, the program of its site, a log of the changes from build to
build, and the embeddings for the chat. What a build has written before it fails
stays written.
-/

namespace Docsmith.Build

/-- What is built, and where. -/
structure Request where
  source : Path
  /-- The names that lead to the output folder. -/
  output : List String
  settings : Settings
  render : String → String := Page.preformatted
  model : Report.ModelAnswer := .missing
  /-- The time of the build, as it is logged. -/
  time : String := ""

/-- A step of a build: it reads and writes files, and may fail. -/
abbrev Step := ExceptT Fault (StateM FileTree)

/-- An answer as a step. -/
def Step.ofAnswer : Answer α → Step α
  | .ok a => pure a
  | .error f => throw f

namespace Request

/-- The output folder. -/
def folder (r : Request) : List String := r.output.foldl Path.follow []

/-- The place of a file in the output folder. -/
def place (r : Request) (name : String) : List String := r.folder ++ [name]

/-- Write a text file into the output folder. -/
def write (r : Request) (name text : String) : Step Unit :=
  modify (·.put (r.place name) (FileTree.ofText text))

/-- Make the output folder, unless it is there. -/
def makeOutput (r : Request) : Step Unit :=
  modify fun disk => match disk.lookup r.folder with
    | some _ => disk
    | none => disk.put r.folder FileTree.empty

end Request

/-- The JSON value in a file. -/
def readJson (bytes : List UInt8) : Answer Value :=
  match String.fromUTF8? ⟨bytes.toArray⟩ with
  | none => .error .notUtf8
  | some s => match Json.parse? s with
    | some v => .ok v
    | none => .error .notJson

/-! ## Changes since the last build -/

/-- A report on two builds, under its name unless it is empty. -/
def addReport (data : Entries) (name : String) (items : List Value) : Entries :=
  if items.isEmpty then data else data.putText name (.list items)

/-- The fault is a missing key or a text that is not JSON: such old data is passed over. -/
def isForgiven : Fault → Bool
  | .missingKey _ => true
  | .notJson => true
  | _ => false

/-- The data with what changed since old data. If the old data cannot be compared, what was
    found before that stays. -/
def compare (old : Value) (data : Entries) : Answer Entries := do
  match Report.changes old (.dict data) with
  | .error f => if isForgiven f then return data else throw f
  | .ok changes =>
    let data := addReport data "changes" (changes.map Report.Change.data)
    match Report.signatureChanges old (.dict data) with
    | .error f => if isForgiven f then return data else throw f
    | .ok breaking => return addReport data "breaking_changes" (breaking.map Report.SignatureChange.data)

/-- The data with what changed since the last build, if there was one. -/
def compareWithLast (r : Request) (data : Entries) : Step Entries := do
  match (← get).bytes? (r.place "data.json") with
  | none => return data
  | some bytes => match readJson bytes with
    | .ok old => Step.ofAnswer (compare old data)
    | .error f => if isForgiven f then return data else throw f

/-- The log of earlier builds; one that cannot be read counts as empty. -/
def readLog (r : Request) : Step (List Value) := do
  match (← get).bytes? (r.place "changelog.json") with
  | none => return []
  | some bytes => match readJson bytes with
    | .ok (.list entries) => return entries
    | .ok _ => throw .noMember
    | .error _ => return []

/-- The entry of a build in the log. -/
def logEntry (time : String) (changes breaking : Value) : Value := .object (
  [("timestamp", .str time), ("changes", changes)]
    ++ if breaking.isTrue then [("breaking_changes", breaking)] else [])

/-- Log the changes of a build, if there are any. -/
def logChanges (r : Request) (data : Entries) : Step Unit := do
  let changes := (data.getText? "changes").getD (.list [])
  let breaking := (data.getText? "breaking_changes").getD (.list [])
  if changes.isTrue || breaking.isTrue then
    let log := .list ((← readLog r) ++ [logEntry r.time changes breaking])
    match Json.wide.text? log with
    | some text => r.write "changelog.json" text
    | none => throw .wrongKind

/-! ## Embeddings -/

/-- The model whose embeddings are used by default. -/
def standardModel : String := "openai/text-embedding-3-small"

/-- The name of a model is looked at when it has given no embeddings: a slash in it is only
    sought in a text or a collection. -/
def checkModelName (model : Value) : Answer Unit := do
  if ← model.holds "/" then
    let _ ← model.asText
  return ()

/-- Write the embeddings of the documentation, if the chat is on and there are any. -/
def embed (r : Request) (data : Entries) : Step Entries := do
  if !(r.settings.getD "chat" (.bool false)).isTrue then return data
  let chatSettings := r.settings.getD "chat_config" (.dict [])
  let model ← Step.ofAnswer (chatSettings.getD "embedding_model" (.str standardModel))
  let chunks ← Step.ofAnswer (Report.chunks (.dict data))
  if chunks.isEmpty then return data
  let embeddings := Report.embeddings model (chunks.map Report.Chunk.data) r.model
  if !embeddings.isTrue then
    Step.ofAnswer (checkModelName model)
    return data
  match Json.flat.text? embeddings with
  | none => throw .wrongKind
  | some text =>
    r.write "embeddings.json" text
    let dimensions ← Step.ofAnswer (embeddings.getD "dimensions" (.int 0))
    return data.putText "_embedding_stats" (.object [
      ("chunks", .int chunks.length), ("model", model), ("dimensions", dimensions)])

/-! ## The build -/

/-- The data as it is written: without the kinds that the project defines. -/
def writtenData (data : Entries) : Value :=
  match data.getText? "config" with
  | some (.dict es) => .dict (data.putText "config" (.dict (Entries.dropText es "custom_doc_types")))
  | _ => .dict data

/-- Write the data. Data that cannot be written leaves an unfinished file. -/
def writeData (r : Request) (data : Entries) : Step Unit := do
  match Json.wide.text? (writtenData data) with
  | some text => r.write "data.json" text
  | none =>
    r.write "data.json" "\x7b"
    throw .wrongKind

/-- Build the documentation of a project. -/
def build (r : Request) : Step Entries := do
  let data ← Step.ofAnswer (document r.settings r.render (← get) r.source)
  r.makeOutput
  let data ← compareWithLast r data
  logChanges r data
  let data ← embed r data
  let plan ← Step.ofAnswer (Site.Plan.ofData (.dict data))
  r.write "app.py" plan.program
  writeData r data
  return data

/-- Build the documentation of a project: its data or a fault, and the files afterwards. -/
def run (r : Request) (disk : FileTree) : Answer Entries × FileTree := ((build r).run).run disk

end Docsmith.Build

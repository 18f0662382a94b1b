-- SUMMARY: The settings of a project.
import Docsmith.Settings.Kinds
import Docsmith.Text.Order
import Docsmith.Value.Order

/-!
# Settings

Settings are entries in order, and the kinds of documentation that the project
defines. They start from defaults, into which a settings file is merged. A merge
that fails keeps what it had set before the fault.
-/

namespace Docsmith

/-- The settings of a project. -/
structure Settings where
  entries : Entries
  /-- The kinds that the project defines, once they have been set. -/
  kinds : Option (List CustomKind) := none

namespace Settings

/-- Patterns of what is left out by default. -/
def standardExcludes : List String := [
  "__pycache__", ".venv", "venv", ".git", "node_modules", ".tox", ".pytest_cache",
  "__pypackages__", "build", "dist", "*.egg-info"]

/-- The default settings. -/
def standard : Settings where
  entries := [
    (.str "title", .str "Documentation"), (.str "description", .str "API Documentation"),
    (.str "version", .str "1.0.0"), (.str "theme", .str "dark"), (.str "logo_url", .str ""),
    (.str "github_url", .str ""), (.str "footer_text", .str ""),
    (.str "exclude_patterns", .texts standardExcludes)]

/-- Settings with an entry put under a name. -/
def put (s : Settings) (name : String) (v : Value) : Settings :=
  { s with entries := s.entries.putText name v }

/-- The setting under a name. -/
def get? (s : Settings) (name : String) : Option Value := s.entries.getText? name

/-- The setting under a name, or a default. -/
def getD (s : Settings) (name : String) (default : Value) : Value := (s.get? name).getD default

/-! ## Merging a settings file -/

/-- A change of settings that may fail half way. -/
abbrev Merge := ExceptT Fault (StateM Settings)

/-- An answer as a step of a merge. -/
def Merge.ofAnswer : Answer α → Merge α
  | .ok a => pure a
  | .error f => throw f

/-- Settings that are taken over as they are. -/
def plainNames : List String := [
  "title", "description", "version", "github_url", "logo_url", "footer_text",
  "google_analytics_id", "clarity_id", "chat", "page_order"]

/-- Take over a setting as it is, if the file has it. -/
def mergePlain (file : Value) (name : String) : Merge Unit := do
  if ← Merge.ofAnswer (file.holds name) then
    let v ← Merge.ofAnswer (file.field name)
    modify (·.put name v)

/-- Take over the settings of the chat, if they are a dictionary. -/
def mergeChat (file : Value) : Merge Unit := do
  if ← Merge.ofAnswer (file.holds "chat_config") then
    let v ← Merge.ofAnswer (file.field "chat_config")
    if v.isDict then modify (·.put "chat_config" v)

/-- Patterns without repetitions, in increasing order. -/
def distinct (patterns : List Value) : Answer (List Value) := do
  let keys ← patterns.mapM Value.asKey
  let kept := keys.foldl (fun found v => if found.any (·.same v) then found else found ++ [v]) []
  return kept.mergeSort fun a b => !decide (b.text < a.text)

/-- Add the patterns of the file to those that there are. -/
def mergeExcludes (file : Value) : Merge Unit := do
  if ← Merge.ofAnswer (file.holds "exclude_patterns") then
    let known ← Merge.ofAnswer ((Value.dict (← get).entries).field "exclude_patterns")
    let added ← Merge.ofAnswer (file.field "exclude_patterns")
    let patterns ← Merge.ofAnswer (do distinct (← (← known.append added).items))
    modify (·.put "exclude_patterns" (.list patterns))

/-- Take over the kinds of documentation that the file defines. -/
def mergeKinds (file : Value) : Merge Unit := do
  if ← Merge.ofAnswer (file.holds "doc_types") then
    let definitions ← Merge.ofAnswer (file.field "doc_types")
    let kinds ← Merge.ofAnswer (kindsOf definitions)
    modify fun s => { s with kinds := some kinds }
    modify (·.put "doc_types_raw" definitions)

/-- Merge a settings file. An empty file changes nothing. -/
def merge (file : Value) : Merge Unit := do
  if file.isTrue then
    plainNames.forM (mergePlain file)
    mergeChat file
    mergePlain file "theme"
    mergeExcludes file
    mergeKinds file

/-- Merge a settings file into settings. -/
def merged (s : Settings) (file : Value) : Answer Unit × Settings := ((merge file).run).run s

/-- The settings that a settings file gives. -/
def load (file : Value) : Answer Settings :=
  match standard.merged file with
  | (.ok _, s) => .ok { s with kinds := some (s.kinds.getD []) }
  | (.error f, _) => .error f

/-! ## Use -/

/-- The kinds to scan with. Their sections must have names that are texts, and an entry that
    stands where the kinds belong holds no kinds. -/
def scanKinds (s : Settings) : Answer (List CustomKind) :=
  match s.kinds with
  | some kinds =>
    if (kinds.flatMap (·.sections)).all (·.name.isStr) then .ok kinds else .error .wrongKind
  | none => do
    let v := s.getD "custom_doc_types" (.list [])
    if v.isTrue then
      let _ ← v.items
      throw .noMember
    else return []

/-- The patterns of what is left out. -/
def excludes (s : Settings) : Answer (List String) := do
  let v := s.getD "exclude_patterns" (.list [])
  if v.isTrue then (← v.items).mapM Value.needText else return []

/-- The settings as data. -/
def data (s : Settings) : Value :=
  match s.kinds with
  | some kinds => .dict (s.entries.putText "custom_doc_types" (.list (kinds.map kindData)))
  | none => .dict s.entries

/-- The settings as data that can be written. -/
def plainData (s : Settings) : Value := .dict (s.entries.dropText "custom_doc_types")

end Settings

end Docsmith

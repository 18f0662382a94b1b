-- SUMMARY: What a site takes from the settings.
import Docsmith.Report.Chunk
import Docsmith.Site.Color

/-!
# The plan of a site

The title, the theme, the chat and the rest of what a site takes from the
settings. A theme is a name, or a dictionary of colours for a dark and a light
variant; an older form of it gives only a background colour.
-/

namespace Docsmith.Site

/-- The chat of a site. -/
structure Chat where
  provider : String
  model : String
  prompt : String

/-- What a site takes from the settings. -/
structure Plan where
  title : Value
  description : Value
  version : Value
  /-- The theme that the site starts with. -/
  theme : Value
  darkName : String := "dark"
  lightName : String := "light"
  /-- The themes that the site adds, by name. -/
  themes : List (String × Value) := []
  chat : Option Chat := none

/-- The theme settings: colours of the dark and of the light variant, and the one to start
    with. -/
structure Theme where
  dark : Option Value := none
  light : Option Value := none
  start : Value

/-- A dictionary with entries under a text. -/
def variantOf (es : Entries) (key : String) : Option Value :=
  match es.getText? key with
  | some v => if v.isDict && v.isTrue then some v else none
  | none => none

/-- Read the theme settings. -/
def Theme.ofValue : Value → Answer Theme
  | .dict es => do
    let dark := variantOf es "dark"
    let light := variantOf es "light"
    if dark.isNone && light.isNone then
      let background ← ((Entries.getText? es "bg_color").getD (.str "#000")).asText
      return { start := .str (if isLight background then "light" else "dark") }
    else return ⟨dark, light, (Entries.getText? es "default").getD (.str "dark")⟩
  | v => return { start := v }

/-- The name of a theme that belongs to a title. -/
def themeName (title variant : String) : String :=
  String.ofList (Text.replace [' '] ['-'] (Text.lower title.toList)) ++ "-" ++ variant

/-! ## The chat -/

/-- The provider and the model that a text names, with a slash between them. -/
def providerAndModel (s : String) : String × String :=
  let cs := s.toList
  let before := cs.takeWhile (· != '/')
  match cs.dropWhile (· != '/') with
  | _ :: after => (String.ofList before, String.ofList after)
  | [] => ("openai", s)

/-- The prompt of a chat whose settings have none. -/
def standardPrompt (title : Value) : String :=
  "You are a helpful assistant that answers questions about the " ++ title.text
    ++ " library. Be concise and reference specific functions, classes, or modules when relevant."

/-- The number of chunks that a prompt refers to. -/
def promptChunks : Nat := 50

/-- The documentation that is added to a prompt. -/
def promptReference (data : Value) : Answer String := do
  let chunks ← Report.chunks data
  if chunks.isEmpty then return ""
  return "\n\nDocumentation reference:\n"
    ++ "\n---\n".intercalate ((chunks.take promptChunks).map (·.text))

/-- The chat with a model and a prompt. -/
def Chat.ofData (data model prompt : Value) : Answer Chat := do
  let (provider, model) := providerAndModel (← model.asText)
  let reference ← promptReference data
  return ⟨provider, model, (← prompt.needText) ++ reference⟩

/-! ## The plan -/

/-- Add the themes of a plan that have colours. -/
def Plan.withTheme (p : Plan) (theme : Theme) : Answer Plan := do
  let p ← match theme.dark with
    | some colors => do
      let name := themeName (← p.title.asText) "dark"
      pure { p with darkName := name, themes := p.themes ++ [(name, colors)] }
    | none => pure p
  let p ← match theme.light with
    | some colors => do
      let name := themeName (← p.title.asText) "light"
      pure { p with lightName := name, themes := p.themes ++ [(name, colors)] }
    | none => pure p
  let effective :=
    if theme.start.same (.str "light") && theme.light.isSome then .str p.lightName
    else if theme.dark.isSome then .str p.darkName
    else theme.start
  return { p with theme := effective }

/-- The plan that the settings in documentation data give. -/
def Plan.ofData (data : Value) : Answer Plan := do
  let settings ← data.getD "config" (.dict [])
  let title ← settings.getD "title" (.str "Documentation")
  let description ← settings.getD "description" (.str "")
  let theme ← Theme.ofValue (← settings.getD "theme" (.str "dark"))
  let version ← settings.getD "version" (.str "")
  let chatOn ← settings.getD "chat" (.bool false)
  let chatSettings ← settings.getD "chat_config" (.dict [])
  let model ← chatSettings.getD "default_model" (.str "openai/gpt-4o-mini")
  let prompt ← chatSettings.getD "system_prompt" (.str (standardPrompt title))
  let chat ← if chatOn.isTrue then do pure (some (← Chat.ofData data model prompt)) else pure none
  Plan.withTheme
    { title := title, description := description, version := version, theme := theme.start,
      chat := chat } theme

end Docsmith.Site

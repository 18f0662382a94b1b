-- SUMMARY: The program text of a site.
import Docsmith.Release
import Docsmith.Site.Plan
import Docsmith.Site.Program.Blocks
import Docsmith.Site.Program.Chat
import Docsmith.Site.Program.Insights
import Docsmith.Site.Program.Opening
import Docsmith.Site.Program.Reference

/-!
# The program of a site

A site is written as a program that reads the documentation data and draws the
site. The plan of the site is put into a fixed text; most values are put in the
way the documented language writes them.
-/

namespace Docsmith.Site

/-- The lines that add the themes of a plan. -/
def Plan.themeLines (p : Plan) : String :=
  String.join (p.themes.map fun (name, colors) =>
    "\nc.register_theme(" ++ Value.quote name ++ ", " ++ colors.display ++ ")")

/-- The expression that opens the dialog of the chat. The title is put between quotation marks
    as it is. -/
def Plan.dialog (p : Plan) : String :=
  "c.modal(title=\"Ask about " ++ p.title.text ++ "\", signal=_show_chat, size=\"lg\")"

/-- The text of the chat. -/
def Plan.chatText (p : Plan) : String :=
  match p.chat with
  | some chat => String.join [
      Program.chatOpening, "with ", p.dialog, ":\n            c.chat(\n                provider=",
      Value.quote chat.provider, ",\n                model=", Value.quote chat.model,
      ",\n                system_prompt=", Value.quote chat.prompt, Program.chatSettings,
      Program.chatButton, "''')"]
  | none => ""

/-- The expression that labels the version. -/
def Plan.versionLabel (p : Plan) : String := "f\"v\x7b" ++ p.version.display ++ "\x7d\""

/-- The program text of a site. -/
def Plan.program (p : Plan) : String := String.join [
  Program.opening, p.title.display, ",\n    theme=", p.theme.display, ",\n)\n", p.themeLines,
  Program.registration, Value.quote release, Program.readiness,
  if p.chat.isSome then Program.chatSignal else "", "\n\n",
  Program.tableBlock, Program.docstringBlock, Program.functionBlock, Program.classBlock,
  p.title.display, ", default=_default_key, theme_dark=", Value.quote p.darkName,
  ", theme_light=", Value.quote p.lightName, Program.sidebar, Program.content, p.title.display,
  ")\n            if ", p.description.display, ":\n                c.text(",
  p.description.display, Program.figures, p.version.display,
  ":\n                c.spacer(3)\n                c.badge(", p.versionLabel, Program.overview,
  Program.modulePanels, Program.typesPanel, Program.endpointsPanel, Program.callMapPanel,
  Program.dashboardPanel, Program.openWorkPanel, Program.changesPanel, Program.deadCodePanel,
  Program.pagePanels, p.chatText, "\n"]

end Docsmith.Site

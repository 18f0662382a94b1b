-- SUMMARY: The part of the program that draws the chat.

/-!
# The chat of the program

A dialog with the chat, and the button that opens it.
-/

namespace Docsmith.Site.Program

/-- The signal that opens the chat. -/
def chatSignal : String := "\n".intercalate [
  "# --- Chat ---",
  "_show_chat = c.signal(False, name=\"show_chat\")"]

/-- The start of the dialog, up to its title. -/
def chatOpening : String := "\n".intercalate [
  "",
  "        # --- Chat (Floating Bubble + Modal) ---",
  "        "]

/-- The fixed settings of the chat. -/
def chatSettings : String := "\n".intercalate [
  ",",
  "                height=\"450px\",",
  "                show_clear=True,",
  "                placeholder=\"Ask about functions, classes, usage...\",",
  "            )",
  "        c.html('''"]

/-- The button that opens the chat. -/
def chatButton : String := "\n".intercalate [
  "<style>",
  ".cacaodocs-fab \x7b",
  "    position: fixed;",
  "    bottom: 24px;",
  "    right: 24px;",
  "    width: 56px;",
  "    height: 56px;",
  "    border-radius: 50%;",
  "    background: var(--c-primary, #6366f1);",
  "    color: white;",
  "    border: none;",
  "    cursor: pointer;",
  "    box-shadow: 0 4px 14px rgba(0,0,0,0.3);",
  "    display: flex;",
  "    align-items: center;",
  "    justify-content: center;",
  "    z-index: 999;",
  "    transition: transform 0.2s, box-shadow 0.2s;",
  "\x7d",
  ".cacaodocs-fab:hover \x7b",
  "    transform: scale(1.08);",
  "    box-shadow: 0 6px 20px rgba(0,0,0,0.4);",
  "\x7d",
  ".cacaodocs-fab svg \x7b",
  "    width: 24px;",
  "    height: 24px;",
  "    fill: none;",
  "    stroke: currentColor;",
  "    stroke-width: 2;",
  "    stroke-linecap: round;",
  "    stroke-linejoin: round;",
  "\x7d",
  "</style>",
  "<button class=\"cacaodocs-fab\" onclick=\"window.dispatchEvent(new CustomEvent('cacao:signal', \x7bdetail: \x7bname: 'show_chat', value: true\x7d\x7d));\" aria-label=\"Open chat\">",
  "    <svg viewBox=\"0 0 24 24\"><path d=\"M21 15a2 2 0 0 1-2 2H7l-4 4V5a2 2 0 0 1 2-2h14a2 2 0 0 1 2 2z\"/></svg>",
  "</button>"]

end Docsmith.Site.Program

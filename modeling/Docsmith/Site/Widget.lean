-- SUMMARY: The widgets that documentation is drawn with.
import Docsmith.Site.Event

/-!
# Widgets

Names for the calls that a site is drawn with.
-/

namespace Docsmith.Site

/-- Empty space of some height. -/
def spacer (n : Nat) : Event := single "spacer" [.int n] []

/-- A heading of a level. -/
def heading (level : Nat) (t : Value) : Event := single "title" [t] [("level", .int level)]

/-- A text with the given style. -/
def textOf (t : Value) (style : List (String × Value)) : Event := single "text" [t] style

/-- A text in the style for secondary matter. -/
def muted (t : Value) : Event := textOf t [("color", .str "muted")]

/-- A text in large letters. -/
def large (t : Value) : Event := textOf t [("size", .str "lg")]

/-- A small text in the style for secondary matter. -/
def fine (t : Value) : Event := textOf t [("size", .str "sm"), ("color", .str "muted")]

/-- A badge of a colour. -/
def badge (label color : Value) : Event := single "badge" [label] [("color", color)]

/-- A piece of code in a language. -/
def code (t : Value) (language : String) : Event :=
  single "code" [t] [("language", .str language)]

/-- A piece of code in the documented language, with numbered lines if asked for. -/
def listing (numbered : Bool) (t : Value) : Event :=
  single "code" [t] (("language", .str "python") ::
    if numbered then [("line_numbers", .bool true)] else [])

/-- A figure with a label. -/
def metric (label v : Value) : Event := single "metric" [label, v] []

/-- A place that links can point to. -/
def anchor (t : Value) : Event := single "anchor" [t] []

/-- A row that wraps. -/
def row (gap : Nat) (content : List Event) : List Event :=
  inside (call "row" [] [("gap", .int gap), ("wrap", .bool true)]) content

/-- A card with a heading. -/
def card (t : Value) (content : List Event) : List Event := inside (call "card" [t] []) content

/-- A card without a heading. -/
def plainCard (content : List Event) : List Event := inside (call "card" [] []) content

/-- A single tab. -/
def tab (key label : String) (content : List Event) : List Event :=
  inside (call "tabs" [] []) (inside (call "tab" [.str key, .str label] []) content)

/-- A navigation panel with its key. -/
def panel (key : Value) (content : List Event) : List Event :=
  inside (call "nav_panel" [key] []) content

/-- An item of the navigation. -/
def navItem (label key : Value) (icon : String) (more : List (String × Value)) : Event :=
  single "nav_item" [label] ([("key", key), ("icon", .str icon)] ++ more)

/-- A group of the navigation. -/
def navGroup (label icon : String) (content : List Event) : List Event :=
  inside (call "nav_group" [.str label] [("icon", .str icon)]) content

/-- A table that is shown as a whole. -/
def wholeTable (rows : List Value) : Event :=
  single "table" [.list rows] [("paginate", .bool false)]

/-- A table that is shown as a whole and in its own order. -/
def fixedTable (rows : List Value) : Event :=
  single "table" [.list rows] [("paginate", .bool false), ("sortable", .bool false)]

/-- A table that can be searched, with some rows to a page. -/
def searchTable (size : Nat) (rows : List Value) : Event :=
  single "table" [.list rows] [("searchable", .bool true), ("page_size", .int size)]

/-- A title of the level of sections, with space around it. -/
def sectionTitle (label : String) : List Event :=
  [spacer 3, heading 4 (.str label), spacer 1]

/-- A number as text. -/
def count (n : Nat) : Value := .str (toString n)

end Docsmith.Site

-- SUMMARY: What a documentation site does, as a list of events.
import Docsmith.Value.Access

/-!
# Events

A site is drawn by calls of widgets. Some calls open a scope, in which the calls
of its content stand. A drawing is the list of these events in order; it has no
events when drawing fails.
-/

namespace Docsmith.Site

/-- An argument of a call: a value, or what an earlier call gave. -/
inductive Argument where
  | value (v : Value)
  | result (call : String)

/-- A call of a widget with its arguments in order and by name. -/
structure Call where
  name : String
  args : List Value := []
  named : List (String × Argument) := []

/-- An event: a call, or the start or the end of the scope that a call opens. -/
inductive Event where
  | call (c : Call)
  | enter (name : String)
  | leave (name : String)

/-- The events of a drawing, or why it failed. -/
abbrev Drawing := Answer (List Event)

/-- A call with arguments in order and by name. -/
def call (name : String) (args : List Value) (named : List (String × Value)) : Call :=
  ⟨name, args, named.map fun (k, v) => (k, .value v)⟩

/-- A call that opens no scope. -/
def single (name : String) (args : List Value) (named : List (String × Value)) : Event :=
  .call (call name args named)

/-- A call with the content of the scope that it opens. -/
def inside (c : Call) (content : List Event) : List Event :=
  .call c :: .enter c.name :: (content ++ [.leave c.name])

/-- Draw for every item in turn. -/
def each (items : List α) (draw : α → Drawing) : Drawing := do
  return (← items.mapM draw).flatten

/-- Draw only if a condition holds. -/
def given (condition : Bool) (draw : Drawing) : Drawing :=
  if condition then draw else .ok []

/-! ## Views -/

/-- The value of a named argument of a call. -/
def Call.named? (c : Call) (name : String) : Option Value :=
  c.named.findSome? fun (k, a) => match a with
    | .value v => if k == name then some v else none
    | .result _ => none

/-- The key of the navigation item that an event adds. -/
def Event.itemKey? : Event → Option Value
  | .call c => if c.name == "nav_item" then c.named? "key" else none
  | _ => none

/-- The key of the panel that an event opens. -/
def Event.panelKey? : Event → Option Value
  | .call c => if c.name == "nav_panel" then c.args.head? else none
  | _ => none

/-- The keys of the navigation items, in order. -/
def itemKeys (es : List Event) : List Value := es.filterMap Event.itemKey?

/-- The keys of the panels, in order. -/
def panelKeys (es : List Event) : List Value := es.filterMap Event.panelKey?

end Docsmith.Site

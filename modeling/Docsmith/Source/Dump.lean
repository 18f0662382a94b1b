-- SUMMARY: The tree of a statement, spelled out.
import Docsmith.Source.Denotation

/-!
# Spelled-out trees

Every node is written with its name and its fields, so that two statements have
the same text exactly when they have the same tree. A name says whether it is
read, assigned or deleted; that follows from where it stands.
-/

namespace Docsmith.Source

/-- What happens to the thing that an expression names. -/
inductive Use where
  | load
  | store
  | delete

/-- The node of a use. -/
def Use.dump : Use → String
  | .load => "Load()"
  | .store => "Store()"
  | .delete => "Del()"

/-- A node with its fields. -/
def node (name : String) (fields : List String) : String :=
  name ++ "(" ++ ", ".intercalate fields ++ ")"

/-- A list of nodes. -/
def nodes (items : List String) : String := "[" ++ ", ".intercalate items ++ "]"

/-- A field that is left out when it is missing. -/
def optional (name : String) : Option String → List String
  | none => []
  | some t => [name ++ "=" ++ t]

/-- A list of quoted names. -/
def nameList (names : List String) : String := nodes (names.map Value.quote)

/-- A constant with the mark of a text. -/
def Constant.dump (c : Constant) : String :=
  let kind := match c with
    | .str _ true => ["kind='u'"]
    | _ => []
  node "Constant" (("value=" ++ c.value.display) :: kind)

/-- The node of an operator with one operand. -/
def UnaryOp.dump : UnaryOp → String
  | .invert => "Invert()"
  | .not => "Not()"
  | .plus => "UAdd()"
  | .minus => "USub()"

/-- The node of an operator with two operands. -/
def BinaryOp.dump : BinaryOp → String
  | .add => "Add()"
  | .sub => "Sub()"
  | .mult => "Mult()"
  | .matMult => "MatMult()"
  | .div => "Div()"
  | .mod => "Mod()"
  | .pow => "Pow()"
  | .shiftLeft => "LShift()"
  | .shiftRight => "RShift()"
  | .bitOr => "BitOr()"
  | .bitXor => "BitXor()"
  | .bitAnd => "BitAnd()"
  | .floorDiv => "FloorDiv()"

/-- The node of a connective. -/
def BoolOp.dump : BoolOp → String
  | .and => "And()"
  | .or => "Or()"

/-- The node of a comparison. -/
def CompareOp.dump : CompareOp → String
  | .eq => "Eq()"
  | .notEq => "NotEq()"
  | .lt => "Lt()"
  | .ltE => "LtE()"
  | .gt => "Gt()"
  | .gtE => "GtE()"
  | .is => "Is()"
  | .isNot => "IsNot()"
  | .isIn => "In()"
  | .notIn => "NotIn()"

/-- The operators of a chain of comparisons. -/
def Comparand.op : Comparand → CompareOp
  | .mk op _ => op

/-- The code of a conversion; no conversion has the code minus one. -/
def conversionCode : Option Char → String
  | none => "-1"
  | some c => toString c.toNat

mutual

/-- The tree of an expression. -/
def Expr.dump (use : Use) : Expr → String
  | .boolOp op values => node "BoolOp" ["op=" ++ op.dump, "values=" ++ nodes (dumpAll .load values)]
  | .named target value =>
    node "NamedExpr" ["target=" ++ target.dump .store, "value=" ++ value.dump .load]
  | .binary left op right =>
    node "BinOp" ["left=" ++ left.dump .load, "op=" ++ op.dump, "right=" ++ right.dump .load]
  | .unary op operand => node "UnaryOp" ["op=" ++ op.dump, "operand=" ++ operand.dump .load]
  | .lambda params body => node "Lambda" ["args=" ++ params.dump, "body=" ++ body.dump .load]
  | .ifElse test body orelse =>
    node "IfExp" ["test=" ++ test.dump .load, "body=" ++ body.dump .load,
      "orelse=" ++ orelse.dump .load]
  | .dict items =>
    node "Dict" ["keys=" ++ nodes (dumpKeys items), "values=" ++ nodes (dumpValues items)]
  | .set elts => node "Set" ["elts=" ++ nodes (dumpAll .load elts)]
  | .listComp elt clauses =>
    node "ListComp" ["elt=" ++ elt.dump .load, "generators=" ++ nodes (dumpClauses clauses)]
  | .setComp elt clauses =>
    node "SetComp" ["elt=" ++ elt.dump .load, "generators=" ++ nodes (dumpClauses clauses)]
  | .dictComp key value clauses =>
    node "DictComp" ["key=" ++ key.dump .load, "value=" ++ value.dump .load,
      "generators=" ++ nodes (dumpClauses clauses)]
  | .generator elt clauses =>
    node "GeneratorExp" ["elt=" ++ elt.dump .load, "generators=" ++ nodes (dumpClauses clauses)]
  | .await value => node "Await" ["value=" ++ value.dump .load]
  | .yield value => node "Yield" (optional "value" (dump? value))
  | .yieldFrom value => node "YieldFrom" ["value=" ++ value.dump .load]
  | .compare left rest =>
    node "Compare" ["left=" ++ left.dump .load,
      "ops=" ++ nodes (rest.map fun c => c.op.dump),
      "comparators=" ++ nodes (dumpComparands rest)]
  | .call func args keywords =>
    node "Call" ["func=" ++ func.dump .load, "args=" ++ nodes (dumpAll .load args),
      "keywords=" ++ nodes (dumpKeywords keywords)]
  | .formatted value conversion spec =>
    node "FormattedValue" (["value=" ++ value.dump .load,
      "conversion=" ++ conversionCode conversion] ++ optional "format_spec" (dump? spec))
  | .joined values => node "JoinedStr" ["values=" ++ nodes (dumpAll .load values)]
  | .constant c => c.dump
  | .attribute value attr =>
    node "Attribute" ["value=" ++ value.dump .load, "attr=" ++ Value.quote attr,
      "ctx=" ++ use.dump]
  | .subscript value index =>
    node "Subscript" ["value=" ++ value.dump .load, "slice=" ++ index.dump .load,
      "ctx=" ++ use.dump]
  | .starred value => node "Starred" ["value=" ++ value.dump use, "ctx=" ++ use.dump]
  | .name id => node "Name" ["id=" ++ Value.quote id, "ctx=" ++ use.dump]
  | .list elts => node "List" ["elts=" ++ nodes (dumpAll use elts), "ctx=" ++ use.dump]
  | .tuple elts => node "Tuple" ["elts=" ++ nodes (dumpAll use elts), "ctx=" ++ use.dump]
  | .slice lower upper step =>
    node "Slice" (optional "lower" (dump? lower) ++ optional "upper" (dump? upper)
      ++ optional "step" (dump? step))

/-- The tree of an expression that may be missing. -/
def dump? : Option Expr → Option String
  | none => none
  | some e => some (e.dump .load)

/-- The trees of several expressions. -/
def dumpAll (use : Use) : List Expr → List String
  | [] => []
  | e :: es => e.dump use :: dumpAll use es

/-- The keys of a dictionary display; a mapping to copy has none. -/
def dumpKeys : List DictItem → List String
  | [] => []
  | .pair key _ :: items => key.dump .load :: dumpKeys items
  | .spread _ :: items => "None" :: dumpKeys items

/-- The values of a dictionary display. -/
def dumpValues : List DictItem → List String
  | [] => []
  | .pair _ value :: items => value.dump .load :: dumpValues items
  | .spread value :: items => value.dump .load :: dumpValues items

/-- The right operands of a chain of comparisons. -/
def dumpComparands : List Comparand → List String
  | [] => []
  | .mk _ right :: rest => right.dump .load :: dumpComparands rest

/-- The clauses of a comprehension. -/
def dumpClauses : List Clause → List String
  | [] => []
  | .mk isAsync target iter conditions :: rest =>
    node "comprehension" ["target=" ++ target.dump .store, "iter=" ++ iter.dump .load,
      "ifs=" ++ nodes (dumpAll .load conditions),
      "is_async=" ++ (if isAsync then "1" else "0")] :: dumpClauses rest

/-- Named arguments. -/
def dumpKeywords : List Keyword → List String
  | [] => []
  | .mk name value :: rest =>
    node "keyword" (optional "arg" (name.map Value.quote) ++ ["value=" ++ value.dump .load])
      :: dumpKeywords rest

/-- A parameter without its default. -/
def Param.dump : Param → String
  | .mk name type _ => node "arg" (("arg=" ++ Value.quote name) :: optional "annotation" (dump? type))

/-- Parameters without their defaults. -/
def dumpParams : List Param → List String
  | [] => []
  | p :: ps => p.dump :: dumpParams ps

/-- The defaults of those parameters that have one. -/
def dumpDefaults : List Param → List String
  | [] => []
  | .mk _ _ none :: ps => dumpDefaults ps
  | .mk _ _ (some d) :: ps => d.dump .load :: dumpDefaults ps

/-- The defaults of named parameters; a missing one keeps its place. -/
def dumpNamedDefaults : List Param → List String
  | [] => []
  | .mk _ _ none :: ps => "None" :: dumpNamedDefaults ps
  | .mk _ _ (some d) :: ps => d.dump .load :: dumpNamedDefaults ps

/-- A parameter that may be missing. -/
def dumpParam? : Option Param → Option String
  | none => none
  | some p => some p.dump

/-- A parameter list. -/
def Params.dump : Params → String
  | .mk positional regular rest named namedRest =>
    node "arguments" (["posonlyargs=" ++ nodes (dumpParams positional),
      "args=" ++ nodes (dumpParams regular)] ++ optional "vararg" (dumpParam? rest)
      ++ ["kwonlyargs=" ++ nodes (dumpParams named),
        "kw_defaults=" ++ nodes (dumpNamedDefaults named)]
      ++ optional "kwarg" (dumpParam? namedRest)
      ++ ["defaults=" ++ nodes (dumpDefaults positional ++ dumpDefaults regular)])

end

mutual

/-- The tree of a pattern. -/
def Pattern.dump : Pattern → String
  | .value e => node "MatchValue" ["value=" ++ e.dump .load]
  | .singleton c => node "MatchSingleton" ["value=" ++ c.value.display]
  | .sequence items => node "MatchSequence" ["patterns=" ++ nodes (dumpPatterns items)]
  | .mapping keys items rest =>
    node "MatchMapping" (["keys=" ++ nodes (dumpAll .load keys),
      "patterns=" ++ nodes (dumpPatterns items)] ++ optional "rest" (rest.map Value.quote))
  | .record cls items names named =>
    node "MatchClass" ["cls=" ++ cls.dump .load, "patterns=" ++ nodes (dumpPatterns items),
      "kwd_attrs=" ++ nameList names, "kwd_patterns=" ++ nodes (dumpPatterns named)]
  | .star name => node "MatchStar" (optional "name" (name.map Value.quote))
  | .capture inner name =>
    node "MatchAs" (optional "pattern" (dumpPattern? inner) ++ optional "name" (name.map Value.quote))
  | .choice items => node "MatchOr" ["patterns=" ++ nodes (dumpPatterns items)]

/-- The tree of a pattern that may be missing. -/
def dumpPattern? : Option Pattern → Option String
  | none => none
  | some p => some p.dump

/-- The trees of several patterns. -/
def dumpPatterns : List Pattern → List String
  | [] => []
  | p :: ps => p.dump :: dumpPatterns ps

end

/-- An imported name. -/
def Alias.dump (a : Alias) : String :=
  node "alias" (("name=" ++ Value.quote a.name) :: optional "asname" (a.bound.map Value.quote))

/-- An item of a `with` statement. -/
def WithItem.dump (i : WithItem) : String :=
  node "withitem" (("context_expr=" ++ i.context.dump .load)
    :: optional "optional_vars" (i.target.map (Expr.dump .store)))

mutual

/-- The tree of a statement. -/
def Stmt.dump : Stmt → String
  | .function isAsync _ name params body decorators returns =>
    node (if isAsync then "AsyncFunctionDef" else "FunctionDef") (["name=" ++ Value.quote name,
      "args=" ++ params.dump, "body=" ++ nodes (dumpBody body),
      "decorator_list=" ++ nodes (dumpAll .load decorators)] ++ optional "returns" (dump? returns))
  | .classDef _ name bases keywords body decorators =>
    node "ClassDef" ["name=" ++ Value.quote name, "bases=" ++ nodes (dumpAll .load bases),
      "keywords=" ++ nodes (dumpKeywords keywords), "body=" ++ nodes (dumpBody body),
      "decorator_list=" ++ nodes (dumpAll .load decorators)]
  | .ret value => node "Return" (optional "value" (dump? value))
  | .delete targets => node "Delete" ["targets=" ++ nodes (dumpAll .delete targets)]
  | .assign targets value =>
    node "Assign" ["targets=" ++ nodes (dumpAll .store targets), "value=" ++ value.dump .load]
  | .augAssign target op value =>
    node "AugAssign" ["target=" ++ target.dump .store, "op=" ++ op.dump,
      "value=" ++ value.dump .load]
  | .annAssign target type value bare =>
    node "AnnAssign" (["target=" ++ target.dump .store, "annotation=" ++ type.dump .load]
      ++ optional "value" (dump? value) ++ ["simple=" ++ (if bare then "1" else "0")])
  | .forLoop isAsync target iter body orelse =>
    node (if isAsync then "AsyncFor" else "For") ["target=" ++ target.dump .store,
      "iter=" ++ iter.dump .load, "body=" ++ nodes (dumpBody body),
      "orelse=" ++ nodes (dumpBody orelse)]
  | .whileLoop test body orelse =>
    node "While" ["test=" ++ test.dump .load, "body=" ++ nodes (dumpBody body),
      "orelse=" ++ nodes (dumpBody orelse)]
  | .ifElse test body orelse =>
    node "If" ["test=" ++ test.dump .load, "body=" ++ nodes (dumpBody body),
      "orelse=" ++ nodes (dumpBody orelse)]
  | .withBlock isAsync items body =>
    node (if isAsync then "AsyncWith" else "With") ["items=" ++ nodes (items.map WithItem.dump),
      "body=" ++ nodes (dumpBody body)]
  | .matchOn subject cases =>
    node "Match" ["subject=" ++ subject.dump .load, "cases=" ++ nodes (dumpCases cases)]
  | .raise exc cause => node "Raise" (optional "exc" (dump? exc) ++ optional "cause" (dump? cause))
  | .tryBlock isGroup body handlers orelse final =>
    node (if isGroup then "TryStar" else "Try") ["body=" ++ nodes (dumpBody body),
      "handlers=" ++ nodes (dumpHandlers handlers), "orelse=" ++ nodes (dumpBody orelse),
      "finalbody=" ++ nodes (dumpBody final)]
  | .assert test message =>
    node "Assert" (("test=" ++ test.dump .load) :: optional "msg" (dump? message))
  | .importNames names => node "Import" ["names=" ++ nodes (names.map Alias.dump)]
  | .importFrom module names level =>
    node "ImportFrom" (optional "module" (module.map Value.quote)
      ++ ["names=" ++ nodes (names.map Alias.dump), "level=" ++ toString level])
  | .global names => node "Global" ["names=" ++ nameList names]
  | .nonlocal names => node "Nonlocal" ["names=" ++ nameList names]
  | .expr value => node "Expr" ["value=" ++ value.dump .load]
  | .pass => "Pass()"
  | .breakLoop => "Break()"
  | .continueLoop => "Continue()"

/-- The trees of the statements of a body. -/
def dumpBody : List Stmt → List String
  | [] => []
  | s :: ss => s.dump :: dumpBody ss

/-- The trees of the handlers of a `try` statement. -/
def dumpHandlers : List Handler → List String
  | [] => []
  | .mk type name body :: hs =>
    node "ExceptHandler" (optional "type" (dump? type) ++ optional "name" (name.map Value.quote)
      ++ ["body=" ++ nodes (dumpBody body)]) :: dumpHandlers hs

/-- The trees of the cases of a `match` statement. -/
def dumpCases : List MatchCase → List String
  | [] => []
  | .mk pattern guard body :: cs =>
    node "match_case" (("pattern=" ++ pattern.dump) :: (optional "guard" (dump? guard)
      ++ ["body=" ++ nodes (dumpBody body)])) :: dumpCases cs

end

end Docsmith.Source

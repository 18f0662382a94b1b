-- SUMMARY: Documentation records as data.
import Docsmith.Docstring.Basic

/-!
# Records as data

The data of a documentation text always holds its general sections. Those of
endpoints, events and settings are left out when the text is of another kind and
has nothing to say about them.
-/

namespace Docsmith

/-- An argument as data. -/
def Arg.data (a : Arg) : Value := .object [
  ("name", .str a.name), ("type", a.type), ("description", a.description),
  ("default", a.default), ("required", a.required)]

/-- An argument as data, without default and requirement. -/
def Arg.briefData (a : Arg) : Value := .object [
  ("name", .str a.name), ("type", a.type), ("description", a.description)]

/-- A returned value as data. -/
def Return.data (r : Return) : Value := .object [
  ("type", r.type), ("description", r.description)]

/-- An exception as data. -/
def Raise.data (r : Raise) : Value := .object [
  ("type", .str r.type), ("description", .str r.description)]

/-- A response as data. -/
def Response.data (r : Response) : Value := .object [
  ("status_code", .int r.status), ("description", r.description),
  ("fields", .list (r.fields.map Arg.briefData))]

/-- A header as data. -/
def Header.data (h : Header) : Value := .object [
  ("name", .str h.name), ("description", h.description), ("required", .bool h.required),
  ("example", h.sample)]

/-- An event field as data. -/
def PayloadField.data (f : PayloadField) : Value := .object [
  ("name", .str f.name), ("type", f.type), ("description", f.description)]

/-- A setting as data. -/
def ConfigField.data (f : ConfigField) : Value := .object [
  ("name", .str f.name), ("type", f.type), ("description", f.description),
  ("default", f.default), ("required", .bool f.required), ("env_var", f.envVar)]

namespace Docstring

/-- Arguments as data. -/
def argsData (as : List Arg) : Value := .list (as.map Arg.data)

/-- The general sections. -/
def generalData (d : Docstring) : List (String × Value) := [
  ("summary", .str d.summary), ("description", .str d.description),
  ("doc_type", .str d.kind.name), ("args", argsData d.args),
  ("returns", (d.returns.map Return.data).getD .none),
  ("raises", .list (d.raises.map Raise.data)), ("examples", .texts d.examples),
  ("attributes", argsData d.attributes), ("notes", .texts d.notes)]

/-- The sections of an endpoint. -/
def endpointData (d : Docstring) : List (String × Value) :=
  if d.kind == .api || !d.method.isEmpty || !d.path.isEmpty then [
    ("http_method", .str d.method), ("path", .str d.path),
    ("path_params", argsData d.pathParams), ("query_params", argsData d.queryParams),
    ("request_body", argsData d.requestBody),
    ("responses", .list (d.responses.map Response.data)),
    ("headers", .list (d.headers.map Header.data))]
  else []

/-- The sections of an event. -/
def eventData (d : Docstring) : List (String × Value) :=
  if d.kind == .event || !d.trigger.isEmpty || !d.payload.isEmpty then [
    ("trigger", .str d.trigger), ("payload", .list (d.payload.map PayloadField.data))]
  else []

/-- The settings. -/
def configData (d : Docstring) : List (String × Value) :=
  if d.kind == .config || !d.configFields.isEmpty then [
    ("config_fields", .list (d.configFields.map ConfigField.data))]
  else []

/-- The sections of other names. -/
def customData (d : Docstring) : List (String × Value) :=
  if d.customSections.isEmpty then []
  else [("custom_sections", .object (d.customSections.map fun (n, c) => (n, .str c)))]

/-- A documentation text as data. -/
def data (d : Docstring) : Value :=
  .object (d.generalData ++ d.endpointData ++ d.eventData ++ d.configData ++ d.customData)

end Docstring

end Docsmith

-- SUMMARY: The start of the program of a site.

/-!
# The start of the program

The data is read, what is documented is selected, and the site is registered.
-/

namespace Docsmith.Site.Program

/-- Read and select the data, up to the title. -/
def opening : String := "\n".intercalate [
  "\"\"\"Auto-generated documentation app powered by CacaoDocs + Cacao.\"\"\"",
  "import json",
  "import os as _os",
  "import cacao as c",
  "",
  "# --- Documentation Data ---",
  "_DATA_PATH = _os.path.join(_os.path.dirname(_os.path.abspath(__file__)), \"data.json\")",
  "with open(_DATA_PATH, \"r\", encoding=\"utf-8\") as _f:",
  "    _DATA = json.load(_f)",
  "",
  "_PAGES = _DATA[\"pages\"]",
  "_CONFIG = _DATA[\"config\"]",
  "",
  "",
  "def _has_docstring(item):",
  "    \"\"\"Check if an item has a meaningful docstring.\"\"\"",
  "    ds = item.get(\"docstring\")",
  "    if not ds:",
  "        return False",
  "    if isinstance(ds, dict):",
  "        return bool(ds.get(\"summary\") or ds.get(\"description\"))",
  "    if isinstance(ds, str):",
  "        return bool(ds.strip())",
  "    return False",
  "",
  "",
  "# Filter: only items with actual docstrings",
  "_ALL_MODULES = _DATA[\"modules\"]",
  "_CONTENT_MODULES = [m for m in _ALL_MODULES",
  "                    if m.get(\"docstring\")",
  "                    or any(_has_docstring(c) for c in m.get(\"classes\", []))",
  "                    or any(_has_docstring(f) for f in m.get(\"functions\", []))]",
  "",
  "_CLASSES = [c for c in _DATA[\"classes\"] if _has_docstring(c)]",
  "_FUNCTIONS = [f for f in _DATA[\"functions\"] if _has_docstring(f) and not f.get(\"hidden\")]",
  "_API_ENDPOINTS = [e for e in _DATA.get(\"api_endpoints\", []) if _has_docstring(e) and not e.get(\"hidden\")]",
  "",
  "# Filter methods within classes",
  "for cls in _CLASSES:",
  "    cls[\"methods\"] = [m for m in cls.get(\"methods\", [])",
  "                      if (_has_docstring(m) or m[\"name\"] == \"__init__\") and not m.get(\"hidden\")]",
  "",
  "for mod in _CONTENT_MODULES:",
  "    mod[\"classes\"] = [c for c in mod.get(\"classes\", []) if _has_docstring(c)]",
  "    mod[\"functions\"] = [f for f in mod.get(\"functions\", []) if _has_docstring(f)]",
  "    for cls in mod[\"classes\"]:",
  "        cls[\"methods\"] = [m for m in cls.get(\"methods\", [])",
  "                          if _has_docstring(m) or m[\"name\"] == \"__init__\"]",
  "",
  "# --- App Config ---",
  "c.config(",
  "    title="]

/-- Register the site, up to the release. -/
def registration : String := "\n".intercalate [
  "",
  "",
  "# --- Plugin Registration ---",
  "_plugin = c.register_plugin(",
  "    \"cacaodocs\",",
  "    version="]

/-- What happens once the site is ready. -/
def readiness : String := "\n".intercalate [
  ",",
  "    description=\"Auto-generated documentation\",",
  ")",
  "_plugin.on(\"on_ready\", lambda: (",
  "    c.notify(",
  "        \"Documentation loaded\",",
  "        f\"\x7blen(_FUNCTIONS)\x7d functions, \x7blen(_CLASSES)\x7d classes, \x7blen(_API_ENDPOINTS)\x7d endpoints\",",
  "        variant=\"success\",",
  "    ),",
  "    c.emit(\"docs:loaded\", \x7b",
  "        \"functions\": len(_FUNCTIONS),",
  "        \"classes\": len(_CLASSES),",
  "        \"endpoints\": len(_API_ENDPOINTS),",
  "        \"pages\": len(_PAGES),",
  "    \x7d),",
  "))",
  "",
  ""]

end Docsmith.Site.Program

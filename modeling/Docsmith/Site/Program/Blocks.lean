-- SUMMARY: The part of the program that draws functions and classes.

/-!
# Blocks of the program

The functions of the program that draw documentation texts, functions and classes.
-/

namespace Docsmith.Site.Program

/-- Tables of parameters. -/
def tableBlock : String := "\n".intercalate [
  "",
  "",
  "# --- Helpers ---",
  "",
  "_METHOD_COLORS = \x7b",
  "    \"GET\": \"success\",",
  "    \"POST\": \"info\",",
  "    \"PUT\": \"warning\",",
  "    \"PATCH\": \"warning\",",
  "    \"DELETE\": \"danger\",",
  "    \"OPTIONS\": \"default\",",
  "    \"HEAD\": \"default\",",
  "\x7d",
  "",
  "",
  "def _render_args_table(args, label=\"Parameters\"):",
  "    \"\"\"Render a list of args as a table.\"\"\"",
  "    if not args:",
  "        return",
  "    c.spacer(3)",
  "    c.title(label, level=4)",
  "    c.spacer(1)",
  "    table_data = []",
  "    for arg in args:",
  "        row = \x7b\"Name\": arg[\"name\"]\x7d",
  "        if arg.get(\"type\"):",
  "            row[\"Type\"] = arg[\"type\"]",
  "        row[\"Description\"] = arg.get(\"description\", \"\")",
  "        if arg.get(\"default\"):",
  "            row[\"Default\"] = arg[\"default\"]",
  "        if arg.get(\"required\"):",
  "            row[\"Required\"] = \"Yes\"",
  "        if arg.get(\"env_var\"):",
  "            row[\"Env Var\"] = arg[\"env_var\"]",
  "        table_data.append(row)",
  "    c.table(table_data, paginate=False, sortable=False)",
  ""]

/-- Documentation texts. -/
def docstringBlock : String := "\n".intercalate [
  "",
  "",
  "def _render_docstring(docstring):",
  "    \"\"\"Render a parsed docstring.\"\"\"",
  "    if docstring.get(\"summary\"):",
  "        c.text(docstring[\"summary\"], size=\"lg\")",
  "",
  "    if docstring.get(\"description\"):",
  "        c.spacer(2)",
  "        c.text(docstring[\"description\"], color=\"muted\")",
  "",
  "    doc_type = docstring.get(\"doc_type\", \"function\")",
  "",
  "    # --- API-specific rendering ---",
  "    if doc_type == \"api\":",
  "        # Method + Path badge",
  "        method = docstring.get(\"http_method\", \"\")",
  "        path = docstring.get(\"path\", \"\")",
  "        if method or path:",
  "            c.spacer(2)",
  "            with c.row(gap=2, wrap=True):",
  "                if method:",
  "                    c.badge(method, color=_METHOD_COLORS.get(method, \"default\"))",
  "                if path:",
  "                    c.code(path, language=\"text\")",
  "",
  "        _render_args_table(docstring.get(\"path_params\", []), \"Path Parameters\")",
  "        _render_args_table(docstring.get(\"query_params\", []), \"Query Parameters\")",
  "        _render_args_table(docstring.get(\"request_body\", []), \"Request Body\")",
  "",
  "        # Headers",
  "        headers = docstring.get(\"headers\", [])",
  "        if headers:",
  "            c.spacer(3)",
  "            c.title(\"Headers\", level=4)",
  "            c.spacer(1)",
  "            table_data = []",
  "            for h in headers:",
  "                row = \x7b\"Name\": h[\"name\"], \"Description\": h.get(\"description\", \"\")\x7d",
  "                if h.get(\"required\"):",
  "                    row[\"Required\"] = \"Yes\"",
  "                if h.get(\"example\"):",
  "                    row[\"Example\"] = h[\"example\"]",
  "                table_data.append(row)",
  "            c.table(table_data, paginate=False, sortable=False)",
  "",
  "        # Responses",
  "        responses = docstring.get(\"responses\", [])",
  "        if responses:",
  "            c.spacer(3)",
  "            c.title(\"Responses\", level=4)",
  "            c.spacer(1)",
  "            for resp in responses:",
  "                status = resp.get(\"status_code\", \"\")",
  "                desc = resp.get(\"description\", \"\")",
  "                color = \"success\" if 200 <= status < 300 else \"warning\" if 300 <= status < 400 else \"danger\"",
  "                with c.card(f\"\x7bstatus\x7d \x7bdesc\x7d\"):",
  "                    c.badge(str(status), color=color)",
  "                    if desc:",
  "                        c.text(desc, color=\"muted\")",
  "                    fields = resp.get(\"fields\", [])",
  "                    if fields:",
  "                        _render_args_table(fields, \"Fields\")",
  "",
  "    # --- Event-specific rendering ---",
  "    elif doc_type == \"event\":",
  "        trigger = docstring.get(\"trigger\", \"\")",
  "        if trigger:",
  "            c.spacer(2)",
  "            c.title(\"Trigger\", level=4)",
  "            c.text(trigger)",
  "",
  "        payload = docstring.get(\"payload\", [])",
  "        if payload:",
  "            _render_args_table(payload, \"Payload\")",
  "",
  "    # --- Config-specific rendering ---",
  "    elif doc_type == \"config\":",
  "        config_fields = docstring.get(\"config_fields\", [])",
  "        if config_fields:",
  "            _render_args_table(config_fields, \"Configuration Fields\")",
  "",
  "    # --- Standard function/class rendering ---",
  "    _render_args_table(docstring.get(\"args\", []), \"Parameters\")",
  "",
  "    # Returns",
  "    ret = docstring.get(\"returns\")",
  "    if ret:",
  "        c.spacer(3)",
  "        c.title(\"Returns\", level=4)",
  "        c.spacer(1)",
  "        parts = []",
  "        if ret.get(\"type\"):",
  "            parts.append(ret[\"type\"])",
  "        if ret.get(\"description\"):",
  "            parts.append(ret[\"description\"])",
  "        c.text(\" — \".join(parts) if parts else \"\")",
  "",
  "    # Raises",
  "    raises = docstring.get(\"raises\", [])",
  "    if raises:",
  "        c.spacer(3)",
  "        c.title(\"Raises\", level=4)",
  "        c.spacer(1)",
  "        for r in raises:",
  "            c.text(f'\x7br[\"type\"]\x7d: \x7br.get(\"description\", \"\")\x7d')",
  "",
  "    # Attributes",
  "    _render_args_table(docstring.get(\"attributes\", []), \"Attributes\")",
  "",
  "    # Examples",
  "    examples = docstring.get(\"examples\", [])",
  "    if examples:",
  "        c.spacer(3)",
  "        c.title(\"Examples\", level=4)",
  "        c.spacer(1)",
  "        for ex in examples:",
  "            c.code(ex, language=\"python\")",
  "",
  "    # Notes",
  "    notes = docstring.get(\"notes\", [])",
  "    if notes:",
  "        c.spacer(3)",
  "        for note in notes:",
  "            c.alert(note, type=\"info\")",
  "",
  "    # Custom sections",
  "    custom = docstring.get(\"custom_sections\", \x7b\x7d)",
  "    for section_name, section_content in custom.items():",
  "        c.spacer(3)",
  "        c.title(section_name, level=4)",
  "        c.spacer(1)",
  "        c.text(section_content)",
  ""]

/-- Functions and methods. -/
def functionBlock : String := "\n".intercalate [
  "",
  "",
  "def _render_function_block(func):",
  "    \"\"\"Render a function as a section.\"\"\"",
  "    name = func[\"name\"]",
  "    sig = func.get(\"signature\", \"()\")",
  "    decorators = func.get(\"decorators\", [])",
  "    doc_type = func.get(\"doc_type\", \"function\")",
  "",
  "    c.divider()",
  "    c.spacer(2)",
  "    c.anchor(func.get(\"full_path\", name))",
  "",
  "    # For API endpoints, show method + path as header",
  "    ds = func.get(\"docstring\", \x7b\x7d)",
  "    if doc_type == \"api\":",
  "        method = ds.get(\"http_method\", \"\")",
  "        path = ds.get(\"path\", \"\")",
  "        if method or path:",
  "            with c.row(gap=2, wrap=True):",
  "                if method:",
  "                    c.badge(method, color=_METHOD_COLORS.get(method, \"default\"))",
  "                c.text(f\"\x7bpath or name\x7d\", size=\"lg\")",
  "        else:",
  "            c.code(f\"def \x7bname\x7d\x7bsig\x7d\", language=\"python\")",
  "    else:",
  "        prefix = \"async \" if func.get(\"is_async\") else \"\"",
  "        c.code(f\"\x7bprefix\x7ddef \x7bname\x7d\x7bsig\x7d\", language=\"python\")",
  "",
  "    # Badges row",
  "    badges = []",
  "    if doc_type != \"function\":",
  "        badges.append((doc_type, \"info\"))",
  "    for dec in decorators:",
  "        badges.append((\"@\" + dec, \"default\"))",
  "    if func.get(\"is_async\"):",
  "        badges.append((\"async\", \"warning\"))",
  "    if func.get(\"is_classmethod\"):",
  "        badges.append((\"classmethod\", \"info\"))",
  "    if func.get(\"is_staticmethod\"):",
  "        badges.append((\"staticmethod\", \"info\"))",
  "    if func.get(\"is_property\"):",
  "        badges.append((\"property\", \"success\"))",
  "",
  "    # Deprecation",
  "    if func.get(\"is_deprecated\"):",
  "        _dep_since = func.get(\"deprecation_since\", \"\")",
  "        badges.append((f\"DEPRECATED since \x7b_dep_since\x7d\" if _dep_since else \"DEPRECATED\", \"danger\"))",
  "",
  "    # Version",
  "    _version = func.get(\"version\", \"\")",
  "    if _version:",
  "        badges.append((f\"v\x7b_version\x7d\", \"info\"))",
  "",
  "    # Category",
  "    _category = func.get(\"category\", \"\")",
  "    if _category:",
  "        badges.append((_category, \"default\"))",
  "",
  "    # Complexity",
  "    complexity = func.get(\"complexity\", 1)",
  "    if complexity >= 15:",
  "        badges.append((f\"complexity: \x7bcomplexity\x7d\", \"danger\"))",
  "    elif complexity >= 8:",
  "        badges.append((f\"complexity: \x7bcomplexity\x7d\", \"warning\"))",
  "",
  "    if badges:",
  "        c.spacer(1)",
  "        with c.row(gap=2, wrap=True):",
  "            for label, color in badges:",
  "                c.badge(label, color=color)",
  "",
  "    # Deprecation warning",
  "    if func.get(\"is_deprecated\"):",
  "        dep_msg = func.get(\"deprecation_message\", \"\")",
  "        dep_since = func.get(\"deprecation_since\", \"\")",
  "        c.spacer(1)",
  "        _dep_parts = []",
  "        if dep_since:",
  "            _dep_parts.append(f\"since \x7bdep_since\x7d\")",
  "        if dep_msg:",
  "            _dep_parts.append(dep_msg)",
  "        _dep_text = f\"Deprecated (\x7b', '.join(_dep_parts)\x7d)\" if _dep_parts else \"This function is deprecated.\"",
  "        c.text(_dep_text, color=\"danger\")",
  "",
  "    c.spacer(2)",
  "    _render_docstring(ds)",
  "",
  "    # Calls",
  "    calls = func.get(\"calls\", [])",
  "    if calls:",
  "        c.spacer(2)",
  "        c.title(\"Calls\", level=4)",
  "        c.spacer(1)",
  "        with c.row(gap=2, wrap=True):",
  "            for call_name in calls:",
  "                c.badge(call_name, color=\"default\")",
  "",
  "    # Used by (reverse call map)",
  "    _called_by = _DATA.get(\"called_by\", \x7b\x7d)",
  "    full_path = func.get(\"full_path\", name)",
  "    callers = _called_by.get(full_path, []) or _called_by.get(name, [])",
  "    if callers:",
  "        c.spacer(2)",
  "        c.title(\"Used By\", level=4)",
  "        c.spacer(1)",
  "        with c.row(gap=2, wrap=True):",
  "            for caller in callers:",
  "                c.badge(caller, color=\"info\")",
  "",
  "    # Source",
  "    if func.get(\"source\"):",
  "        c.spacer(2)",
  "        with c.tabs():",
  "            with c.tab(\"src_\" + name, \"Source Code\"):",
  "                c.code(func[\"source\"], language=\"python\", line_numbers=True)",
  "",
  "    c.spacer(3)",
  ""]

/-- Classes, and the start of the site up to its title. -/
def classBlock : String := "\n".intercalate [
  "",
  "",
  "def _render_class_detail(cls):",
  "    \"\"\"Render full class documentation.\"\"\"",
  "    bases_str = \"\"",
  "    if cls.get(\"bases\"):",
  "        bases_str = f'(\x7b\", \".join(cls[\"bases\"])\x7d)'",
  "",
  "    c.code(f'class \x7bcls[\"name\"]\x7d\x7bbases_str\x7d', language=\"python\")",
  "",
  "    if cls.get(\"decorators\"):",
  "        c.spacer(1)",
  "        with c.row(gap=2, wrap=True):",
  "            for dec in cls[\"decorators\"]:",
  "                c.badge(f\"@\x7bdec\x7d\", color=\"info\")",
  "",
  "    c.spacer(2)",
  "    _render_docstring(cls[\"docstring\"])",
  "",
  "    init_method = next((m for m in cls.get(\"methods\", []) if m[\"name\"] == \"__init__\"), None)",
  "    if init_method:",
  "        c.spacer(3)",
  "        c.title(\"Constructor\", level=3)",
  "        _render_function_block(init_method)",
  "",
  "    methods = [m for m in cls.get(\"methods\", []) if not m[\"name\"].startswith(\"_\")]",
  "    if methods:",
  "        c.spacer(2)",
  "        c.title(\"Methods\", level=3)",
  "        for method in methods:",
  "            _render_function_block(method)",
  "",
  "    private_methods = [m for m in cls.get(\"methods\", [])",
  "                       if m[\"name\"].startswith(\"_\") and m[\"name\"] != \"__init__\"]",
  "    if private_methods:",
  "        c.spacer(2)",
  "        with c.tabs():",
  "            with c.tab(\"private\", f\"Private Methods (\x7blen(private_methods)\x7d)\"):",
  "                for method in private_methods:",
  "                    _render_function_block(method)",
  "",
  "",
  "# =============================================================================",
  "# Build the App",
  "# =============================================================================",
  "",
  "_default_key = \"home\"",
  "",
  "with c.app_shell(brand="]

end Docsmith.Site.Program

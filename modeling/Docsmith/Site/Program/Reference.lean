-- SUMMARY: The part of the program that draws the reference panels.

/-!
# Reference panels of the program

The side bar, the home panel, and the panels of modules, types and endpoints.
-/

namespace Docsmith.Site.Program

/-- The side bar. -/
def sidebar : String := "\n".intercalate [
  "):",
  "    with c.nav_sidebar():",
  "        c.nav_item(\"Home\", key=\"home\", icon=\"home\")",
  "",
  "        if _CONTENT_MODULES:",
  "            with c.nav_group(\"Modules\", icon=\"folder\"):",
  "                for mod in _CONTENT_MODULES:",
  "                    label = mod[\"full_path\"] if mod[\"name\"] == \"__init__\" else mod[\"name\"]",
  "                    badge_count = str(len(mod.get(\"classes\", [])) + len(mod.get(\"functions\", [])))",
  "                    c.nav_item(label, key=f\"mod_\x7bmod['full_path']\x7d\", icon=\"file\", badge=badge_count)",
  "",
  "        if _CLASSES:",
  "            c.nav_item(\"Types\", key=\"types_ref\", icon=\"box\",",
  "                        badge=str(len(_CLASSES)))",
  "",
  "        # API Endpoints section",
  "        if _API_ENDPOINTS:",
  "            c.nav_item(\"API Reference\", key=\"api_ref\", icon=\"code\",",
  "                        badge=str(len(_API_ENDPOINTS)))",
  "",
  "        c.nav_item(\"Call Map\", key=\"callmap\", icon=\"code\")",
  "",
  "        with c.nav_group(\"Insights\", icon=\"bar-chart\"):",
  "            c.nav_item(\"Dashboard\", key=\"dashboard\", icon=\"bar-chart\")",
  "            _todo_list = _DATA.get(\"todos\", [])",
  "            if _todo_list:",
  "                c.nav_item(\"TODOs\", key=\"todos_panel\", icon=\"alert-circle\",",
  "                            badge=str(len(_todo_list)))",
  "            _changes_list = _DATA.get(\"changes\", [])",
  "            if _changes_list:",
  "                c.nav_item(\"Changelog\", key=\"changelog_panel\", icon=\"clock\",",
  "                            badge=str(len(_changes_list)))",
  "            _dead_list = _DATA.get(\"dead_code\", [])",
  "            if _dead_list:",
  "                c.nav_item(\"Dead Code\", key=\"dead_code_panel\", icon=\"trash\",",
  "                            badge=str(len(_dead_list)))",
  "",
  "        if _PAGES:",
  "            with c.nav_group(\"Pages\", icon=\"book\"):",
  "                for page in _PAGES:",
  "                    c.nav_item(page[\"title\"], key=f\"page_\x7bpage['slug']\x7d\", icon=\"book\")",
  "",
  ""]

/-- The start of the home panel, up to its title. -/
def content : String := "\n".intercalate [
  "",
  "",
  "    with c.shell_content():",
  "        # --- Home ---",
  "        with c.nav_panel(\"home\"):",
  "            c.title("]

/-- The figures of the home panel, up to the version. -/
def figures : String := "\n".intercalate [
  ", size=\"lg\", color=\"muted\")",
  "            c.spacer(4)",
  "",
  "            with c.row(wrap=True, gap=4):",
  "                c.metric(\"Modules\", len(_CONTENT_MODULES))",
  "                c.metric(\"Classes\", len(_CLASSES))",
  "                c.metric(\"Functions\", len(_FUNCTIONS))",
  "                if _API_ENDPOINTS:",
  "                    c.metric(\"API Endpoints\", len(_API_ENDPOINTS))",
  "                if _PAGES:",
  "                    c.metric(\"Pages\", len(_PAGES))",
  "",
  "            if "]

/-- The rest of the home panel. -/
def overview : String := "\n".intercalate [
  ", color=\"info\")",
  "",
  "            # Quick overview",
  "            if _CONTENT_MODULES:",
  "                c.spacer(4)",
  "                c.title(\"Modules\", level=3)",
  "                c.spacer(2)",
  "                for mod in _CONTENT_MODULES:",
  "                    label = mod[\"full_path\"] if mod[\"name\"] == \"__init__\" else mod[\"name\"]",
  "                    with c.card(label):",
  "                        if mod.get(\"docstring\"):",
  "                            first_line = mod[\"docstring\"].split(\"\\n\")[0].strip()",
  "                            c.text(first_line, color=\"muted\")",
  "                        with c.row(gap=2):",
  "                            if mod.get(\"classes\"):",
  "                                c.badge(f'\x7blen(mod[\"classes\"])\x7d classes', color=\"info\")",
  "                            if mod.get(\"functions\"):",
  "                                c.badge(f'\x7blen(mod[\"functions\"])\x7d functions', color=\"default\")",
  "",
  "            # API overview on home",
  "            if _API_ENDPOINTS:",
  "                c.spacer(4)",
  "                c.title(\"API Endpoints\", level=3)",
  "                c.spacer(2)",
  "                table_data = []",
  "                for ep in _API_ENDPOINTS:",
  "                    ds = ep.get(\"docstring\", \x7b\x7d)",
  "                    method = ds.get(\"http_method\", \"\")",
  "                    path = ds.get(\"path\", \"\")",
  "                    table_data.append(\x7b",
  "                        \"Method\": method,",
  "                        \"Path\": path,",
  "                        \"Summary\": ds.get(\"summary\", \"\"),",
  "                    \x7d)",
  "                c.table(table_data, paginate=False)",
  "",
  ""]

/-- The panels of the modules. -/
def modulePanels : String := "\n".intercalate [
  "        # --- Module Panels ---",
  "        for mod in _CONTENT_MODULES:",
  "            with c.nav_panel(f\"mod_\x7bmod['full_path']\x7d\"):",
  "                mod_label = mod[\"full_path\"] if mod[\"name\"] == \"__init__\" else mod[\"name\"]",
  "                c.title(mod_label, level=2)",
  "",
  "                if mod.get(\"file_path\"):",
  "                    c.text(mod[\"file_path\"], size=\"sm\", color=\"muted\")",
  "",
  "                if mod.get(\"docstring\"):",
  "                    c.spacer(2)",
  "                    c.text(mod[\"docstring\"])",
  "",
  "                if mod.get(\"classes\"):",
  "                    c.spacer(4)",
  "                    c.title(\"Classes\", level=3)",
  "                    c.spacer(2)",
  "                    for cls in mod[\"classes\"]:",
  "                        with c.card(f'class \x7bcls[\"name\"]\x7d'):",
  "                            _render_docstring(cls[\"docstring\"])",
  "                            pub_methods = [m for m in cls.get(\"methods\", []) if not m[\"name\"].startswith(\"_\")]",
  "                            if pub_methods:",
  "                                c.spacer(2)",
  "                                c.badge(f\"\x7blen(pub_methods)\x7d methods\", color=\"info\")",
  "",
  "                if mod.get(\"functions\"):",
  "                    c.spacer(4)",
  "                    c.title(\"Functions\", level=3)",
  "                    for func in mod[\"functions\"]:",
  "                        _render_function_block(func)",
  "",
  ""]

/-- The panel of the types. -/
def typesPanel : String := "\n".intercalate [
  "        # --- Types Reference Panel ---",
  "        if _CLASSES:",
  "            with c.nav_panel(\"types_ref\"):",
  "                with c.layout(\"sidebar\", sidebar_width=\"260px\") as _tl:",
  "                    with _tl.side():",
  "                        c.title(\"Types\", level=3)",
  "                        c.spacer(2)",
  "                        # Group classes by module",
  "                        _cls_by_mod = \x7b\x7d",
  "                        for cls in _CLASSES:",
  "                            mod = cls.get(\"module\", \"\")",
  "                            _cls_by_mod.setdefault(mod, []).append(cls)",
  "",
  "                        with c.subnav(searchable=True):",
  "                            for mod, classes in _cls_by_mod.items():",
  "                                if mod:",
  "                                    c.subnav_group(mod)",
  "                                for cls in classes:",
  "                                    method_count = len(cls.get(\"methods\", []))",
  "                                    c.subnav_item(",
  "                                        cls[\"name\"],",
  "                                        badge=str(method_count),",
  "                                        target=f'type_\x7bcls[\"full_path\"]\x7d',",
  "                                    )",
  "",
  "                    with _tl.main():",
  "                        c.title(\"Types Reference\", level=2)",
  "                        c.text(f\"\x7blen(_CLASSES)\x7d classes across the codebase.\", color=\"muted\")",
  "                        c.spacer(4)",
  "",
  "                        for cls in _CLASSES:",
  "                            c.anchor(f'type_\x7bcls[\"full_path\"]\x7d')",
  "                            with c.card():",
  "                                _render_class_detail(cls)",
  "                            c.spacer(3)",
  "",
  ""]

/-- The panel of the endpoints. -/
def endpointsPanel : String := "\n".intercalate [
  "        # --- API Reference Panel ---",
  "        if _API_ENDPOINTS:",
  "            with c.nav_panel(\"api_ref\"):",
  "                with c.layout(\"sidebar\", sidebar_width=\"260px\") as _al:",
  "                    with _al.side():",
  "                        c.title(\"Endpoints\", level=3)",
  "                        c.spacer(2)",
  "                        # Group by path prefix (first path segment)",
  "                        _ep_groups = \x7b\x7d",
  "                        for ep in _API_ENDPOINTS:",
  "                            ds = ep.get(\"docstring\", \x7b\x7d)",
  "                            path = ds.get(\"path\", \"\")",
  "                            prefix = \"/\" + path.strip(\"/\").split(\"/\")[0] if path.strip(\"/\") else \"/\"",
  "                            _ep_groups.setdefault(prefix, []).append(ep)",
  "",
  "                        _TAG_COLORS = \x7b\"GET\": \"success\", \"POST\": \"info\", \"PUT\": \"warning\", \"PATCH\": \"warning\", \"DELETE\": \"danger\"\x7d",
  "                        with c.subnav(searchable=True):",
  "                            for prefix, eps in _ep_groups.items():",
  "                                c.subnav_group(prefix)",
  "                                for ep in eps:",
  "                                    ds = ep.get(\"docstring\", \x7b\x7d)",
  "                                    method = ds.get(\"http_method\", \"GET\")",
  "                                    path = ds.get(\"path\", ep[\"name\"])",
  "                                    c.subnav_item(",
  "                                        path,",
  "                                        tag=method,",
  "                                        tag_color=_TAG_COLORS.get(method),",
  "                                        target=f'ep_\x7bep[\"full_path\"]\x7d',",
  "                                    )",
  "",
  "                    with _al.main():",
  "                        c.title(\"API Reference\", level=2)",
  "                        c.text(f\"\x7blen(_API_ENDPOINTS)\x7d endpoints.\", color=\"muted\")",
  "                        c.spacer(3)",
  "",
  "                        # Summary table",
  "                        _method_counts = \x7b\x7d",
  "                        for ep in _API_ENDPOINTS:",
  "                            m = ep.get(\"docstring\", \x7b\x7d).get(\"http_method\", \"GET\")",
  "                            _method_counts[m] = _method_counts.get(m, 0) + 1",
  "                        with c.row(gap=3, wrap=True):",
  "                            for m, count in sorted(_method_counts.items()):",
  "                                c.metric(m, count)",
  "                        c.spacer(4)",
  "",
  "                        for ep in _API_ENDPOINTS:",
  "                            ds = ep.get(\"docstring\", \x7b\x7d)",
  "                            method = ds.get(\"http_method\", \"\")",
  "                            path = ds.get(\"path\", \"\")",
  "",
  "                            c.anchor(f'ep_\x7bep[\"full_path\"]\x7d')",
  "                            with c.card():",
  "                                # Header with method badge + path",
  "                                with c.row(gap=3, wrap=True):",
  "                                    if method:",
  "                                        c.badge(method, color=_METHOD_COLORS.get(method, \"default\"))",
  "                                    c.title(path or ep[\"name\"], level=3)",
  "",
  "                                if ep.get(\"module\"):",
  "                                    c.text(f'\x7bep[\"module\"]\x7d.\x7bep[\"name\"]\x7d', size=\"sm\", color=\"muted\")",
  "",
  "                                c.spacer(2)",
  "                                _render_docstring(ds)",
  "",
  "                                # Source",
  "                                if ep.get(\"source\"):",
  "                                    c.spacer(3)",
  "                                    with c.tabs():",
  "                                        with c.tab(\"src_\" + ep[\"name\"], \"Source Code\"):",
  "                                            c.code(ep[\"source\"], language=\"python\", line_numbers=True)",
  "                            c.spacer(3)",
  "",
  ""]

end Docsmith.Site.Program

-- SUMMARY: The part of the program that draws the insight panels.

/-!
# Insight panels of the program

The panels of calls, of the state of the project, and of pages.
-/

namespace Docsmith.Site.Program

/-- The panel of the calls. -/
def callMapPanel : String := "\n".intercalate [
  "        # --- Call Map Panel ---",
  "        with c.nav_panel(\"callmap\"):",
  "            c.title(\"Call Map\", level=2)",
  "            c.text(\"Function and method call relationships across the codebase.\", color=\"muted\")",
  "            c.spacer(3)",
  "",
  "            _all_known = set()",
  "            _call_entries = []",
  "",
  "            for func in _FUNCTIONS:",
  "                _all_known.add(func[\"full_path\"])",
  "                _all_known.add(func[\"name\"])",
  "            for ep in _API_ENDPOINTS:",
  "                _all_known.add(ep[\"full_path\"])",
  "                _all_known.add(ep[\"name\"])",
  "            for cls in _CLASSES:",
  "                _all_known.add(cls[\"full_path\"])",
  "                for m in cls.get(\"methods\", []):",
  "                    _all_known.add(f'\x7bcls[\"full_path\"]\x7d.\x7bm[\"name\"]\x7d')",
  "                    _all_known.add(m[\"name\"])",
  "",
  "            all_funcs = _FUNCTIONS + _API_ENDPOINTS",
  "            for func in all_funcs:",
  "                calls = func.get(\"calls\", [])",
  "                if calls:",
  "                    internal = [c for c in calls if c in _all_known or c.split(\".\")[-1] in _all_known]",
  "                    external = [c for c in calls if c not in internal]",
  "                    if internal or external:",
  "                        _call_entries.append(\x7b",
  "                            \"caller\": func[\"full_path\"],",
  "                            \"internal\": internal,",
  "                            \"external\": external,",
  "                        \x7d)",
  "",
  "            for cls in _CLASSES:",
  "                for m in cls.get(\"methods\", []):",
  "                    calls = m.get(\"calls\", [])",
  "                    if calls:",
  "                        caller = f'\x7bcls[\"full_path\"]\x7d.\x7bm[\"name\"]\x7d'",
  "                        internal = [c for c in calls if c in _all_known or c.split(\".\")[-1] in _all_known]",
  "                        external = [c for c in calls if c not in internal]",
  "                        if internal or external:",
  "                            _call_entries.append(\x7b",
  "                                \"caller\": caller,",
  "                                \"internal\": internal,",
  "                                \"external\": external,",
  "                            \x7d)",
  "",
  "            if _call_entries:",
  "                table_data = []",
  "                for entry in _call_entries:",
  "                    table_data.append(\x7b",
  "                        \"Caller\": entry[\"caller\"],",
  "                        \"Internal Calls\": \", \".join(entry[\"internal\"]) if entry[\"internal\"] else \"—\",",
  "                        \"External Calls\": str(len(entry[\"external\"])),",
  "                    \x7d)",
  "                c.table(table_data, searchable=True, page_size=20)",
  "",
  "                c.spacer(4)",
  "                c.title(\"Details\", level=3)",
  "                c.spacer(2)",
  "                for entry in _call_entries:",
  "                    if entry[\"internal\"]:",
  "                        with c.card(entry[\"caller\"]):",
  "                            c.title(\"Calls (internal)\", level=4)",
  "                            with c.row(gap=2, wrap=True):",
  "                                for call_name in entry[\"internal\"]:",
  "                                    c.badge(call_name, color=\"info\")",
  "                            if entry[\"external\"]:",
  "                                c.spacer(2)",
  "                                c.title(\"Calls (external)\", level=4)",
  "                                with c.row(gap=2, wrap=True):",
  "                                    for call_name in entry[\"external\"][:15]:",
  "                                        c.badge(call_name, color=\"default\")",
  "                                    if len(entry[\"external\"]) > 15:",
  "                                        c.text(f'... and \x7blen(entry[\"external\"]) - 15\x7d more', size=\"sm\", color=\"muted\")",
  "            else:",
  "                c.text(\"No call relationships found.\", color=\"muted\")",
  "",
  ""]

/-- The dashboard. -/
def dashboardPanel : String := "\n".intercalate [
  "        # --- Dashboard Panel ---",
  "        with c.nav_panel(\"dashboard\"):",
  "            c.title(\"Dashboard\", level=2)",
  "            c.text(\"Project health and code insights.\", color=\"muted\")",
  "            c.spacer(4)",
  "",
  "            # Coverage",
  "            _cov = _DATA.get(\"coverage\", \x7b\x7d)",
  "            _score = _cov.get(\"project_score\", 0)",
  "            _score_color = \"success\" if _score >= 80 else (\"warning\" if _score >= 50 else \"danger\")",
  "            with c.row(wrap=True, gap=4):",
  "                c.metric(\"Doc Coverage\", f\"\x7b_score\x7d%\")",
  "                c.metric(\"Fully Documented\", _cov.get(\"fully_documented\", 0))",
  "                c.metric(\"Undocumented\", _cov.get(\"undocumented\", 0))",
  "                c.metric(\"Total Items\", _cov.get(\"total_items\", 0))",
  "",
  "            c.spacer(4)",
  "            c.title(\"TODOs & Debt\", level=3)",
  "            c.spacer(2)",
  "            _all_todos = _DATA.get(\"todos\", [])",
  "            _all_dead = _DATA.get(\"dead_code\", [])",
  "            _all_deprecated_items = _FUNCTIONS + _API_ENDPOINTS",
  "            for _dcls in _CLASSES:",
  "                for _dm in _dcls.get(\"methods\", []):",
  "                    _all_deprecated_items.append(\x7b**_dm, \"full_path\": f'\x7b_dcls[\"full_path\"]\x7d.\x7b_dm[\"name\"]\x7d'\x7d)",
  "            _all_deprecated = [f for f in _all_deprecated_items if f.get(\"is_deprecated\")]",
  "            with c.row(wrap=True, gap=4):",
  "                c.metric(\"TODOs\", len([t for t in _all_todos if t.get(\"tag\") == \"TODO\"]))",
  "                c.metric(\"FIXMEs\", len([t for t in _all_todos if t.get(\"tag\") == \"FIXME\"]))",
  "                c.metric(\"Deprecated\", len(_all_deprecated))",
  "                c.metric(\"Dead Code\", len(_all_dead))",
  "",
  "            # Deprecated functions detail",
  "            if _all_deprecated:",
  "                c.spacer(4)",
  "                c.title(\"Deprecated Functions\", level=3)",
  "                c.spacer(2)",
  "                _dep_table = []",
  "                for f in _all_deprecated:",
  "                    _dep_table.append(\x7b",
  "                        \"Name\": f.get(\"full_path\", f[\"name\"]),",
  "                        \"Since\": f.get(\"deprecation_since\", \"\"),",
  "                        \"Message\": f.get(\"deprecation_message\", \"\"),",
  "                        \"Type\": f.get(\"doc_type\", \"function\"),",
  "                    \x7d)",
  "                c.table(_dep_table, paginate=False)",
  "",
  "            # Recent changes summary",
  "            _changes_summary = _DATA.get(\"changes\", [])",
  "            if _changes_summary:",
  "                c.spacer(4)",
  "                c.title(\"Recent Changes\", level=3)",
  "                c.spacer(2)",
  "                _ch_summary = \x7b\x7d",
  "                for ch in _changes_summary:",
  "                    _ch_summary[ch[\"change\"]] = _ch_summary.get(ch[\"change\"], 0) + 1",
  "                with c.row(wrap=True, gap=4):",
  "                    for chtype, cnt in sorted(_ch_summary.items()):",
  "                        c.metric(chtype.replace(\"+\", \" + \").title(), cnt)",
  "                c.spacer(2)",
  "                _ch_summary_table = []",
  "                for ch in _changes_summary[:15]:",
  "                    _ch_summary_table.append(\x7b",
  "                        \"Name\": ch[\"name\"],",
  "                        \"Type\": ch[\"doc_type\"],",
  "                        \"Change\": ch[\"change\"],",
  "                    \x7d)",
  "                c.table(_ch_summary_table, paginate=False)",
  "",
  "            _breaking_summary = _DATA.get(\"breaking_changes\", [])",
  "            if _breaking_summary:",
  "                c.spacer(2)",
  "                c.alert(f\"\x7blen(_breaking_summary)\x7d breaking change(s) detected. See Changelog for details.\", type=\"danger\")",
  "",
  "            # Complexity hotspots",
  "            c.spacer(4)",
  "            c.title(\"Complexity Hotspots\", level=3)",
  "            c.spacer(2)",
  "            _all_items = _FUNCTIONS + _API_ENDPOINTS",
  "            for cls in _CLASSES:",
  "                for m in cls.get(\"methods\", []):",
  "                    _all_items.append(\x7b**m, \"full_path\": f'\x7bcls[\"full_path\"]\x7d.\x7bm[\"name\"]\x7d'\x7d)",
  "            _complex = sorted([f for f in _all_items if f.get(\"complexity\", 1) >= 6],",
  "                              key=lambda x: x.get(\"complexity\", 1), reverse=True)[:15]",
  "            if _complex:",
  "                _cx_table = []",
  "                for f in _complex:",
  "                    cx = f.get(\"complexity\", 1)",
  "                    _cx_table.append(\x7b",
  "                        \"Function\": f.get(\"full_path\", f[\"name\"]),",
  "                        \"Complexity\": cx,",
  "                        \"Level\": \"High\" if cx >= 15 else (\"Medium\" if cx >= 8 else \"Low\"),",
  "                    \x7d)",
  "                c.table(_cx_table, paginate=False)",
  "            else:",
  "                c.text(\"No high-complexity functions found.\", color=\"muted\")",
  "",
  "            # Coverage per item",
  "            c.spacer(4)",
  "            c.title(\"Coverage Details\", level=3)",
  "            c.spacer(2)",
  "            _cov_items = _cov.get(\"items\", [])",
  "            if _cov_items:",
  "                _low_cov = sorted([i for i in _cov_items if i[\"score\"] < 100],",
  "                                  key=lambda x: x[\"score\"])[:20]",
  "                if _low_cov:",
  "                    _cov_table = []",
  "                    for i in _low_cov:",
  "                        checks = i.get(\"checks\", \x7b\x7d)",
  "                        missing = checks.get(\"args_missing\", [])",
  "                        _cov_table.append(\x7b",
  "                            \"Name\": i[\"name\"],",
  "                            \"Type\": i[\"doc_type\"],",
  "                            \"Score\": f'\x7bi[\"score\"]\x7d%',",
  "                            \"Missing Args\": \", \".join(missing) if missing else \"\",",
  "                        \x7d)",
  "                    c.table(_cov_table, paginate=False)",
  "                else:",
  "                    c.text(\"All items are fully documented!\", color=\"success\")",
  "",
  ""]

/-- The panel of open work. -/
def openWorkPanel : String := "\n".intercalate [
  "        # --- TODOs Panel ---",
  "        _todo_list_panel = _DATA.get(\"todos\", [])",
  "        if _todo_list_panel:",
  "            with c.nav_panel(\"todos_panel\"):",
  "                c.title(\"TODOs\", level=2)",
  "                c.text(\"TODO, FIXME, HACK, and XXX comments found in source code.\", color=\"muted\")",
  "                c.spacer(4)",
  "",
  "                _tag_counts = \x7b\x7d",
  "                for t in _todo_list_panel:",
  "                    _tag_counts[t[\"tag\"]] = _tag_counts.get(t[\"tag\"], 0) + 1",
  "                with c.row(wrap=True, gap=4):",
  "                    for tag, cnt in sorted(_tag_counts.items()):",
  "                        _tc = \"danger\" if tag == \"FIXME\" else (\"warning\" if tag in (\"HACK\", \"XXX\") else \"info\")",
  "                        c.metric(tag, cnt)",
  "",
  "                c.spacer(3)",
  "                _todo_table = []",
  "                for t in _todo_list_panel:",
  "                    _todo_table.append(\x7b",
  "                        \"Tag\": t[\"tag\"],",
  "                        \"Message\": t[\"text\"],",
  "                        \"Module\": t.get(\"module\", \"\"),",
  "                        \"Line\": t.get(\"line_number\", \"\"),",
  "                    \x7d)",
  "                c.table(_todo_table, searchable=True, page_size=25)",
  "",
  ""]

/-- The panel of changes. -/
def changesPanel : String := "\n".intercalate [
  "        # --- Changelog Panel ---",
  "        _changes_panel = _DATA.get(\"changes\", [])",
  "        if _changes_panel:",
  "            with c.nav_panel(\"changelog_panel\"):",
  "                c.title(\"Recent Changes\", level=2)",
  "                c.text(\"Functions and endpoints that changed since the last build.\", color=\"muted\")",
  "                c.spacer(4)",
  "",
  "                _ch_counts = \x7b\x7d",
  "                for ch in _changes_panel:",
  "                    _ch_counts[ch[\"change\"]] = _ch_counts.get(ch[\"change\"], 0) + 1",
  "                with c.row(wrap=True, gap=4):",
  "                    for chtype, cnt in sorted(_ch_counts.items()):",
  "                        c.metric(chtype.replace(\"+\", \" + \").title(), cnt)",
  "",
  "                c.spacer(3)",
  "                _breaking = _DATA.get(\"breaking_changes\", [])",
  "                if _breaking:",
  "                    c.title(\"Breaking Changes\", level=3)",
  "                    c.spacer(2)",
  "                    for b in _breaking:",
  "                        with c.card(b[\"full_path\"]):",
  "                            for d in b.get(\"details\", []):",
  "                                _icon = \"!!\" if d.get(\"breaking\") else \"\"",
  "                                if d[\"type\"] == \"arg_removed\":",
  "                                    c.text(f'\x7b_icon\x7d Argument removed: \x7bd[\"arg\"]\x7d', color=\"danger\")",
  "                                elif d[\"type\"] == \"required_arg_added\":",
  "                                    c.text(f'\x7b_icon\x7d Required argument added: \x7bd[\"arg\"]\x7d', color=\"danger\")",
  "                                elif d[\"type\"] == \"type_changed\":",
  "                                    c.text(f'\x7b_icon\x7d Type changed: \x7bd[\"arg\"]\x7d (\x7bd[\"from\"]\x7d -> \x7bd[\"to\"]\x7d)', color=\"warning\")",
  "                                elif d[\"type\"] == \"return_type_changed\":",
  "                                    c.text(f'\x7b_icon\x7d Return type changed: \x7bd[\"from\"]\x7d -> \x7bd[\"to\"]\x7d', color=\"warning\")",
  "                                elif d[\"type\"] == \"optional_arg_added\":",
  "                                    c.text(f'Optional argument added: \x7bd[\"arg\"]\x7d', color=\"success\")",
  "                    c.spacer(3)",
  "",
  "                c.title(\"All Changes\", level=3)",
  "                c.spacer(2)",
  "                _ch_table = []",
  "                for ch in _changes_panel:",
  "                    _ch_color = \x7b\"new\": \"success\", \"removed\": \"danger\", \"signature\": \"warning\",",
  "                                 \"body\": \"info\", \"signature+body\": \"danger\"\x7d",
  "                    _ch_table.append(\x7b",
  "                        \"Name\": ch[\"name\"],",
  "                        \"Type\": ch[\"doc_type\"],",
  "                        \"Change\": ch[\"change\"],",
  "                        \"Path\": ch[\"full_path\"],",
  "                    \x7d)",
  "                c.table(_ch_table, searchable=True, page_size=25)",
  "",
  ""]

/-- The panel of dead code. -/
def deadCodePanel : String := "\n".intercalate [
  "        # --- Dead Code Panel ---",
  "        _dead_panel = _DATA.get(\"dead_code\", [])",
  "        if _dead_panel:",
  "            with c.nav_panel(\"dead_code_panel\"):",
  "                c.title(\"Dead Code\", level=2)",
  "                c.text(\"Public functions and methods with no internal callers.\", color=\"muted\")",
  "                c.spacer(4)",
  "",
  "                c.metric(\"Potentially Unused\", len(_dead_panel))",
  "                c.spacer(3)",
  "",
  "                _dc_table = []",
  "                for d in _dead_panel:",
  "                    _dc_table.append(\x7b",
  "                        \"Function\": d[\"full_path\"],",
  "                        \"Type\": d[\"doc_type\"],",
  "                        \"Module\": d.get(\"module\", \"\"),",
  "                    \x7d)",
  "                c.table(_dc_table, searchable=True, page_size=25)",
  "",
  "                c.spacer(2)",
  "                c.text(\"Note: Entry points, decorated functions, and private methods are excluded. \"",
  "                       \"These may still be used externally.\", size=\"sm\", color=\"muted\")",
  "",
  ""]

/-- The panels of the pages. -/
def pagePanels : String := "\n".intercalate [
  "        # --- Page Panels ---",
  "        for page in _PAGES:",
  "            with c.nav_panel(f\"page_\x7bpage['slug']\x7d\"):",
  "                c.title(page[\"title\"], level=2)",
  "                c.spacer(2)",
  "                c.html(page.get(\"content\", \"\"))",
  "",
  ""]

end Docsmith.Site.Program

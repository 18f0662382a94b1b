-- SUMMARY: A settings file to start from.

/-!
# A settings file to start from

The text that a new project gets as its settings file.
-/

namespace Docsmith.Settings

/-- The text of a settings file to start from. -/
def sample : String := "\n".intercalate [
  "# Cacao Configuration",
  "# This file is read by Cacao and its plugins (e.g. CacaoDocs).",
  "",
  "# --- Cacao Framework Settings ---",
  "# These are read by the Cacao framework directly.",
  "title: \"My Project Documentation\"",
  "theme: \"dark\"",
  "# port: 1502",
  "# debug: false",
  "# branding: true",
  "",
  "# --- CacaoDocs Plugin Settings ---",
  "# These are read by CacaoDocs for documentation generation.",
  "description: \"API and module documentation\"",
  "version: \"1.0.0\"",
  "",
  "# Optional: GitHub repository URL",
  "# github_url: \"https://github.com/username/repo\"",
  "",
  "# Optional: Custom logo URL",
  "# logo_url: \"/path/to/logo.png\"",
  "",
  "# Patterns to exclude from scanning",
  "exclude_patterns:",
  "  - \"__pycache__\"",
  "  - \".venv\"",
  "  - \"venv\"",
  "  - \".git\"",
  "  - \"node_modules\"",
  "  - \"build\"",
  "  - \"dist\"",
  "",
  "# Page ordering (optional)",
  "# Control the order of Markdown pages in the sidebar by slug.",
  "# Pages not listed appear after these, in their default order.",
  "# page_order:",
  "#   - \"getting-started\"",
  "#   - \"configuration\"",
  "#   - \"api-reference\"",
  "",
  "# Custom doc types (optional)",
  "# Define your own docstring categories with custom sections.",
  "# doc_types:",
  "#   cli_command:",
  "#     label: \"CLI Command\"",
  "#     icon: \"terminal\"",
  "#     sections:",
  "#       - name: \"Usage\"",
  "#       - name: \"Options\"",
  "#         format: args",
  "#       - name: \"Flags\"",
  "#         format: args",
  "#       - name: \"Examples\"",
  "#         format: code",
  "#",
  "#   database_model:",
  "#     label: \"Model\"",
  "#     icon: \"database\"",
  "#     sections:",
  "#       - name: \"Fields\"",
  "#         format: args",
  "#       - name: \"Indexes\"",
  "#       - name: \"Relations\"",
  ""]

end Docsmith.Settings

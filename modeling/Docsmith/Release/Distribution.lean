-- SUMMARY: What a package index is told about the generator.
import Docsmith.Release
import Docsmith.Release.LongDescription
import Docsmith.Text.Order
import Docsmith.Value.Basic

/-!
# Distribution

The fields with which the package is handed to a package index.
-/

namespace Docsmith.Release

/-- A distribution of the package. -/
structure Distribution where
  version : String
  author : String
  contact : String
  summary : String
  homepage : String
  packages : List String
  classifiers : List String
  language : String
  requirements : List String
  scripts : List String

/-- The distribution of the generator. -/
def distribution : Distribution where
  version := "0.1.26"
  author := "Juan Denis"
  contact := "juan@vene.co"
  summary := "Generate documentation from Python docstrings, powered by Cacao."
  homepage := "https://github.com/jhd3197/CacaoDocs"
  packages := [siteName, "tests"]
  classifiers := [
    "Programming Language :: Python :: 3", "Programming Language :: Python :: 3.10",
    "Programming Language :: Python :: 3.11", "Programming Language :: Python :: 3.12",
    "License :: OSI Approved :: MIT License", "Operating System :: OS Independent",
    "Environment :: Console", "Topic :: Documentation",
    "Topic :: Software Development :: Documentation"]
  language := ">=3.10"
  requirements := ["click>=8.0.0", "Markdown>=3.4", "cacao>=2.0.19"]
  scripts := [siteName ++ "=" ++ siteName ++ ".cli:main"]

/-- The fields of a distribution; its packages are sorted. -/
def Distribution.data (d : Distribution) : Value := .object [
  ("name", .str siteName), ("version", .str d.version), ("author", .str d.author),
  ("author_email", .str d.contact), ("description", .str d.summary),
  ("long_description", .str longDescription),
  ("long_description_content_type", .str "text/markdown"), ("url", .str d.homepage),
  ("packages", .texts (Text.sorted d.packages)), ("include_package_data", .bool true),
  ("classifiers", .texts d.classifiers), ("python_requires", .str d.language),
  ("install_requires", .texts d.requirements),
  ("entry_points", .object [("console_scripts", .texts d.scripts)])]

end Docsmith.Release

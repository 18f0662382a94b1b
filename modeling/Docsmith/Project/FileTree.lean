-- SUMMARY: Trees of files and folders.
import Docsmith.Project.Path
import Docsmith.Text.Utf8

/-!
# File trees

A folder lists its entries in the order in which the file system enumerates
them. `put` keeps them sorted by name.
-/

namespace Docsmith

/-- A file with its bytes, or a folder with its entries. -/
inductive FileTree where
  | file (bytes : List UInt8)
  | folder (entries : List (String × FileTree))

namespace FileTree

/-- A folder without entries. -/
def empty : FileTree := .folder []

/-- The entries of a folder; a file has none. -/
def entries : FileTree → List (String × FileTree)
  | .file _ => []
  | .folder es => es

/-- Put an entry in the place that the order of names gives it. -/
def putEntry (name : String) (t : FileTree) : List (String × FileTree) → List (String × FileTree)
  | [] => [(name, t)]
  | (n, u) :: es =>
    if n == name then (name, t) :: es
    else if name < n then (name, t) :: (n, u) :: es
    else (n, u) :: putEntry name t es

/-- The entry with a name. -/
def entry? (name : String) (t : FileTree) : Option FileTree :=
  (t.entries.find? fun e => e.1 == name).map (·.2)

/-- Put something at a place below, making the folders that lead there. -/
def put : FileTree → List String → FileTree → FileTree
  | _, [], new => new
  | t, p :: ps, new => .folder (putEntry p (put ((t.entry? p).getD empty) ps new) t.entries)

/-- Remove what is at a place below. -/
def remove : FileTree → List String → FileTree
  | t, [] => t
  | t, [p] => .folder (t.entries.filter fun e => e.1 != p)
  | t, p :: ps => match t.entry? p with
    | some u => .folder (putEntry p (remove u ps) t.entries)
    | none => t

/-- What the names lead to; two points lead back, and `back` are the folders passed, nearest
    first. -/
def lookupFrom (back : List FileTree) (t : FileTree) : List String → Option FileTree
  | [] => some t
  | ".." :: ps => match back with
    | u :: back => lookupFrom back u ps
    | [] => none
  | p :: ps => match t with
    | .file _ => none
    | .folder _ => match t.entry? p with
      | some u => lookupFrom (t :: back) u ps
      | none => none

/-- What is at a place below. -/
def lookup (t : FileTree) (ps : List String) : Option FileTree := lookupFrom [] t ps

/-- The bytes of the file at a place below. -/
def bytes? (t : FileTree) (ps : List String) : Option (List UInt8) :=
  match t.lookup ps with
  | some (.file bs) => some bs
  | _ => none

/-- A text file. -/
def ofText (s : String) : FileTree := .file s.toUTF8.toList

/-- A file that was found: the names that lead to it, and its bytes. -/
structure Found where
  parts : List String
  bytes : List UInt8

mutual

/-- The files of a tree: those of a folder first, then those of each folder in it whose name is
    accepted. `before` are the names that lead to the tree. -/
def walk (enter : String → Bool) (before : List String) : FileTree → List Found
  | .file _ => []
  | .folder es => filesIn before es ++ walkAll enter before es

/-- The files of the accepted folders among some entries. -/
def walkAll (enter : String → Bool) (before : List String) : List (String × FileTree) → List Found
  | [] => []
  | (n, t) :: es =>
    (if enter n then walk enter (before ++ [n]) t else []) ++ walkAll enter before es

/-- The files among some entries. -/
def filesIn (before : List String) : List (String × FileTree) → List Found
  | [] => []
  | (n, .file bs) :: es => ⟨before ++ [n], bs⟩ :: filesIn before es
  | (_, .folder _) :: es => filesIn before es

end

/-- All files of a tree. -/
def files (t : FileTree) : List Found := t.walk (fun _ => true) []

end FileTree

/-- The text of a file: UTF-8 with every kind of line break made a line feed. -/
def readText (bs : List UInt8) : String :=
  String.ofList (Text.unifyBreaks (Text.decodeUtf8 bs))

end Docsmith

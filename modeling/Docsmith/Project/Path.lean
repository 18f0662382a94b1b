-- SUMMARY: Paths of files.
import Docsmith.Text.Lines

/-!
# Paths

A path is a list of names, with the slashes that it starts with if it is
absolute. Empty names and single points are left out; two points stay.
-/

namespace Docsmith

/-- A path. -/
structure Path where
  /-- The slashes in front: none, one or two. -/
  root : String
  parts : List String
deriving Repr, DecidableEq

namespace Path

/-- The slashes that a text starts with, as they are kept: more than two count as one. -/
def rootOf : List Char → String
  | '/' :: '/' :: '/' :: _ => "/"
  | '/' :: '/' :: _ => "//"
  | '/' :: _ => "/"
  | _ => ""

/-- Read a path. -/
def ofString (s : String) : Path :=
  let parts := (Text.splitAtChar '/' s.toList).map String.ofList
  ⟨rootOf s.toList, parts.filter fun p => p != "" && p != "."⟩

/-- The text of a path; a path without names is a single point. -/
def text (p : Path) : String :=
  if p.root.isEmpty && p.parts.isEmpty then "." else p.root ++ "/".intercalate p.parts

/-- Go on by a name: two points go back one name. -/
def follow (found : List String) (name : String) : List String :=
  if name == ".." then found.dropLast else found ++ [name]

/-- The path of something below. -/
def join (p : Path) (parts : List String) : Path := { p with parts := p.parts ++ parts }

/-- The last name; empty if there is none. -/
def name (p : Path) : String := p.parts.getLast?.getD ""

/-- The place where the last extension starts: a point that is neither the first nor the last
    character. -/
def extensionAt? (name : List Char) : Option Nat :=
  let tail := name.reverse.takeWhile (· != '.')
  let i := name.length - tail.length - 1
  if tail.length < name.length && 0 < i && !tail.isEmpty then some i else none

/-- The last name without its extension. -/
def stem (p : Path) : String :=
  match extensionAt? p.name.toList with
  | some i => String.ofList (p.name.toList.take i)
  | none => p.name

/-- The extension of the last name with its point; empty if there is none. -/
def extension (p : Path) : String :=
  match extensionAt? p.name.toList with
  | some i => String.ofList (p.name.toList.drop i)
  | none => ""

/-- The path without the extension of its last name. -/
def withoutExtension (p : Path) : Path := { p with parts := p.parts.dropLast ++ [p.stem] }

/-- What is left of a list after another one at its start. -/
def afterParts? : List String → List String → Option (List String)
  | [], ps => some ps
  | _ :: _, [] => none
  | b :: bs, p :: ps => if b == p then afterParts? bs ps else none

/-- The names that lead from the base to the path, if it is the base or below it. -/
def relativeTo? (p base : Path) : Option (List String) :=
  if p.root == base.root then afterParts? base.parts p.parts else none

end Path

end Docsmith

/-!
# Paths

A path names a place in a tree of files by its parts. As text it may hold empty parts and single
dots, which stay where they are; the normal form of a path leaves them out. Double dots go up and
are kept, since what they lead to is known only to the tree.
-/

namespace LoadLedger.FileTree

/-- The parts of a text between slashes. -/
def splitSlashes : List Char → List (List Char)
  | [] => [[]]
  | c :: rest =>
    match splitSlashes rest with
    | [] => []
    | part :: parts => if c == '/' then [] :: part :: parts else (c :: part) :: parts

/-- Does a part stay where it is? -/
def staysHere (part : List Char) : Bool :=
  part == [] || part == ['.']

/-- A path in normal form. -/
structure Path where
  /-- What stands before the first part: nothing for a relative path. -/
  root : String
  parts : List String
  deriving DecidableEq

namespace Path

/-- The root of a path as text. Exactly two slashes are a root of their own. -/
def rootOf : List Char → String
  | '/' :: '/' :: '/' :: _ => "/"
  | '/' :: '/' :: _ => "//"
  | '/' :: _ => "/"
  | _ => ""

/-- The normal form of a path. -/
def ofString (text : String) : Path :=
  { root := rootOf text.toList
    parts := ((splitSlashes text.toList).filter fun part => !staysHere part).map String.ofList }

/-- The text of a path; a path without parts is a dot. -/
def toText (p : Path) : String :=
  if p.root == "" && p.parts.isEmpty then "." else p.root ++ "/".intercalate p.parts

/-- The path of an entry of a folder. -/
def child (p : Path) (name : String) : Path :=
  { p with parts := p.parts ++ [name] }

/-- The folder above a folder whose path goes up only at its beginning, if at all. The root is its
own parent. -/
def up (p : Path) : Path :=
  if p.parts.all (· == "..") then
    if p.root == "" then p.child ".." else p
  else { p with parts := p.parts.dropLast }

/-- The path of the same place that goes up only at its beginning, if at all. There are no links
between folders, so that a part and the double dots after it cancel out. -/
def straightened (p : Path) : Path :=
  p.parts.foldl (fun q part => if part == ".." then q.up else q.child part)
    ⟨if p.root == "" then "" else "/", []⟩

example : (ofString "./a//b/../c").straightened = ⟨"", ["a", "c"]⟩ := by decide +kernel
example : (ofString "a/../..").straightened = ⟨"", [".."]⟩ := by decide +kernel

end Path

end LoadLedger.FileTree

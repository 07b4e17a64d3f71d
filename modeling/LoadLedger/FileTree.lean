import LoadLedger.Fault
import LoadLedger.FileTree.Path

/-!
# Trees of files

Folders and files, and what the operating system answers when a path is followed among them. Parts
are followed one by one: each part but the last has to lead to a folder, and double dots lead to the
folder above.

Places are named by straightened paths. The working folder, the root and all folders above the
working folder exist in every tree.
-/

namespace LoadLedger

/-- A tree of files. A folder exists if it is listed or if something is listed below it. -/
structure FileTree where
  files : List (FileTree.Path × List UInt8)
  folders : List FileTree.Path

namespace FileTree

/-- A tree without files. -/
def empty : FileTree :=
  ⟨[], []⟩

/-- The octets of a file. -/
def file? (t : FileTree) (place : Path) : Option (List UInt8) :=
  t.files.lookup place

/-- Does a place lie at a folder or below it? -/
def Path.liesIn (place folder : Path) : Bool :=
  place.root == folder.root && folder.parts.isPrefixOf place.parts

/-- Is there a folder at a place? -/
def isFolder (t : FileTree) (place : Path) : Bool :=
  place.parts.all (· == "..") || t.folders.any (·.liesIn place) ||
    t.files.any fun f => f.1 != place && f.1.liesIn place

/-- What a path leads to. -/
inductive Target
  | folder (place : Path)
  | file (place : Path) (octets : List UInt8)
  /-- Nothing, at a place where something could be made. -/
  | absent (place : Path)

/-- The greatest number of octets of a part. -/
def partLimit : Nat := 255

/-- The greatest number of octets of a path. -/
def pathLimit : Nat := 4095

/-- What there is at a place. -/
def target (t : FileTree) (place : Path) : Target :=
  match t.file? place with
  | some octets => .file place octets
  | none => if t.isFolder place then .folder place else .absent place

/-- Follows parts from a folder. `path` is the text that faults name. -/
def follow (t : FileTree) (path : String) : Path → List (List Char) → Except Fault Target
  | folder, [] => .ok (.folder folder)
  | folder, part :: parts =>
    if staysHere part then t.follow path folder parts
    else if part == ['.', '.'] then t.follow path folder.up parts
    else
      let name := String.ofList part
      if partLimit < name.utf8ByteSize then .error (.nameTooLong path)
      else match t.target (folder.child name) with
        | .folder next => t.follow path next parts
        | .file place octets =>
          if parts.isEmpty then .ok (.file place octets) else .error (.notFolder path)
        | .absent place =>
          if parts.all (· == []) then .ok (.absent place) else .error (.missingFile path)

/-- The folder where a path begins: the working folder or the root. -/
def startOf (path : List Char) : Path :=
  ⟨if Path.rootOf path == "" then "" else "/", []⟩

/-- What a path leads to. -/
def resolve (t : FileTree) (path : String) : Except Fault Target :=
  if path.toList.contains '\x00' then .error .nullInPath
  else if path == "" then .error (.missingFile path)
  else if pathLimit < path.utf8ByteSize then .error (.nameTooLong path)
  else t.follow path (startOf path.toList) (splitSlashes path.toList)

/-- The octets of the file that a path leads to. -/
def read (t : FileTree) (path : String) : Except Fault (List UInt8) :=
  match t.resolve path with
  | .error cause => .error cause
  | .ok (.file _ octets) => .ok octets
  | .ok (.folder _) => .error (.isFolder path)
  | .ok (.absent _) => .error (.missingFile path)

/-- Does a path lead to anything? -/
def exists? (t : FileTree) (path : String) : Bool :=
  match t.resolve path with
  | .ok (.file ..) | .ok (.folder _) => true
  | _ => false

/-- Makes one folder. -/
def makeFolder (t : FileTree) (path : String) : Except Fault FileTree :=
  match t.resolve path with
  | .error cause => .error cause
  | .ok (.absent place) => .ok { t with folders := t.folders ++ [place] }
  | .ok _ => .error (.fileExists path)

/-- Makes one folder unless it is there. -/
def ensureFolder (t : FileTree) (path : String) : Except Fault FileTree :=
  match t.makeFolder path with
  | .error (.fileExists _) =>
    match t.resolve path with
    | .ok (.folder _) => .ok t
    | _ => .error (.fileExists path)
  | result => result

/-- Makes a folder and those above it, unless they are there. The parts are given last one first. -/
def ensureFoldersFor (t : FileTree) (root : String) : List String → Except Fault FileTree
  | [] => t.ensureFolder (Path.toText ⟨root, []⟩)
  | part :: above =>
    let path := Path.toText ⟨root, (part :: above).reverse⟩
    match t.ensureFolder path with
    | .error (.missingFile _) => do
      let t ← t.ensureFoldersFor root above
      t.ensureFolder path
    | result => result

/-- Makes a folder and those above it, unless they are there. -/
def ensureFolders (t : FileTree) (path : Path) : Except Fault FileTree :=
  t.ensureFoldersFor path.root path.parts.reverse

/-- Opens a file for adding to it, and makes it if it is not there. Answers its place. -/
def openToAppend (t : FileTree) (path : Path) : Except Fault (FileTree × Path) :=
  match t.resolve path.toText with
  | .error cause => .error cause
  | .ok (.file place _) => .ok (t, place)
  | .ok (.folder _) => .error (.isFolder path.toText)
  | .ok (.absent place) => .ok ({ t with files := t.files ++ [(place, [])] }, place)

/-- The tree with a file or a folder added, the latter if no octets are given. -/
def add (t : FileTree) (path : String) (octets : Option (List UInt8)) : FileTree :=
  let place := (Path.ofString path).straightened
  match octets with
  | some octets => { t with files := t.files ++ [(place, octets)] }
  | none => { t with folders := t.folders ++ [place] }

end FileTree

end LoadLedger

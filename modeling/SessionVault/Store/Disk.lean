import SessionVault.Failure
/-!
# Disks

A disk is a tree of folders and files.  A path leads through folders; it is relative to the home
folder unless it starts with a slash.  Every operation says how it fails: something on the way is
missing or no folder, or what stands at the path is of the wrong kind.
-/

namespace SessionVault

/-- A file with its content, or a folder with its entries in name order. -/
inductive Node where
  | file (content : Bytes)
  | folder (entries : List (String × Node))

namespace Node

instance : Inhabited Node := ⟨.folder []⟩

/-- What stands at a path. -/
def find : List String → Node → Except FileFault Node
  | [], node => .ok node
  | _ :: _, .file _ => .error .notDirectory
  | name :: path, .folder entries =>
    match Assoc.get? name entries with
    | none => .error .notFound
    | some node => node.find path

/-- The content of the file at a path. -/
def read (path : List String) (node : Node) : Except FileFault Bytes :=
  match node.find path with
  | .error fault => .error fault
  | .ok (.file content) => .ok content
  | .ok (.folder _) => .error .isDirectory

/-- The names in the folder at a path. -/
def list (path : List String) (node : Node) : Except FileFault (List String) :=
  match node.find path with
  | .error fault => .error fault
  | .ok (.file _) => .error .notDirectory
  | .ok (.folder entries) => .ok (entries.map (·.1))

/-- Puts a file at a path, in place of one that stands there. -/
def write (content : Bytes) : List String → Node → Except FileFault Node
  | [], .file _ => .ok (.file content)
  | [], .folder _ => .error .isDirectory
  | _ :: _, .file _ => .error .notDirectory
  | name :: path, .folder entries =>
    match Assoc.get? name entries with
    | none =>
      if path.isEmpty then .ok (.folder (Assoc.insert name (.file content) entries))
      else .error .notFound
    | some node =>
      match node.write content path with
      | .error fault => .error fault
      | .ok node => .ok (.folder (Assoc.insert name node entries))

/-- A folder inside folders, all of them new. -/
def newFolders : List String → Node
  | [] => .folder []
  | name :: path => .folder [(name, newFolders path)]

/-- Makes the folder at a path, and those on the way, unless they are there. -/
def makeFolders : List String → Node → Except FileFault Node
  | [], .folder entries => .ok (.folder entries)
  | [], .file _ => .error .exists_
  | _ :: _, .file _ => .error .notDirectory
  | name :: path, .folder entries =>
    match Assoc.get? name entries with
    | none => .ok (.folder (Assoc.insert name (newFolders path) entries))
    | some node =>
      match node.makeFolders path with
      | .error fault => .error fault
      | .ok node => .ok (.folder (Assoc.insert name node entries))

/-- Removes the file at a path. -/
def remove : List String → Node → Except FileFault Node
  | [], _ => .error .isDirectory
  | _ :: _, .file _ => .error .notDirectory
  | name :: path, .folder entries =>
    match Assoc.get? name entries with
    | none => .error .notFound
    | some node =>
      match path, node with
      | [], .file _ => .ok (.folder (Assoc.erase name entries))
      | path, node =>
        match node.remove path with
        | .error fault => .error fault
        | .ok node => .ok (.folder (Assoc.insert name node entries))

end Node

/-- The pieces between the slashes of a text; `piece` holds the characters since the last slash,
newest first. -/
def splitSlashes (piece : List Char) : List Char → List String
  | [] => [String.ofList piece.reverse]
  | c :: rest =>
    if c = '/' then String.ofList piece.reverse :: splitSlashes [] rest
    else splitSlashes (c :: piece) rest

/-- The names that a path goes through. -/
def pathParts (path : String) : List String :=
  (splitSlashes [] path.toList).filter fun part => part ≠ "" ∧ part ≠ "."

/-- Whether a path starts at the root. -/
def isAbsolute (path : String) : Bool := path.toList.head? == some '/'

/-- The place of a file or folder: a folder and the path from there. -/
structure Place where
  folder : String
  name : String
  deriving DecidableEq

/-- A place as people write it. -/
def Place.text (p : Place) : String :=
  if isAbsolute p.name || p.folder.isEmpty then p.name
  else if p.folder.toList.getLast? == some '/' then p.folder ++ p.name
  else p.folder ++ "/" ++ p.name

/-- A tree of files with the folder that relative paths start from. -/
structure Disk where
  root : Node
  home : List String

namespace Disk

/-- A disk with nothing but its home folder. -/
def fresh (home : String) : Disk :=
  let parts := pathParts home
  ⟨Node.newFolders parts, parts⟩

/-- Where a folder is, from the root. -/
def resolve (d : Disk) (path : String) : List String :=
  if isAbsolute path then pathParts path else d.home ++ pathParts path

/-- Where a place is, from the root. -/
def locate (d : Disk) (p : Place) : List String :=
  if isAbsolute p.name then pathParts p.name else d.resolve p.folder ++ pathParts p.name

/-- The content of a file. -/
def read (d : Disk) (p : Place) : Except FileFault Bytes := d.root.read (d.locate p)

/-- The names in a folder. -/
def list (d : Disk) (folder : String) : Except FileFault (List String) :=
  d.root.list (d.resolve folder)

/-- Writes a file, in place of one that is there. -/
def write (d : Disk) (p : Place) (content : Bytes) : Except FileFault Disk :=
  (d.root.write content (d.locate p)).map fun root => { d with root }

/-- Makes a folder and those on the way to it. -/
def makeFolders (d : Disk) (folder : String) : Except FileFault Disk :=
  (d.root.makeFolders (d.resolve folder)).map fun root => { d with root }

/-- Removes a file. -/
def remove (d : Disk) (p : Place) : Except FileFault Disk :=
  (d.root.remove (d.locate p)).map fun root => { d with root }

/-- Writes a file after making the folders on the way to it. -/
def put (d : Disk) (p : Place) (content : Bytes) : Except FileFault Disk := do
  let root ← d.root.makeFolders (d.locate p).dropLast
  let root ← root.write content (d.locate p)
  return { d with root }

end Disk

end SessionVault

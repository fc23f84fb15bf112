import ContentBlocker.Text.Quoted

/-!
# Folders of files

A folder is given by the places of the files and folders in it.  A place is the list of the names
that lead to it from the working folder, behind as many `..` as it lies above, or from `/`.  Paths
are resolved name by name: every name but the last must be that of a folder.
-/

namespace ContentBlocker.Offline

/-! ## Faults -/

/-- Why a path cannot be used. -/
inductive PathCause where
  | notFound
  | denied
  | alreadyThere
  | notFolder
  | isFolder
  | nameTooLong
  | nullCharacter
deriving DecidableEq, Repr

namespace PathCause

def label : PathCause → String
  | notFound => "FileNotFoundError"
  | denied => "PermissionError"
  | alreadyThere => "FileExistsError"
  | notFolder => "NotADirectoryError"
  | isFolder => "IsADirectoryError"
  | nameTooLong => "OSError"
  | nullCharacter => "ValueError"

/-- The number and the text of a cause. -/
def numbered? : PathCause → Option (Nat × String)
  | notFound => some (2, "No such file or directory")
  | denied => some (13, "Permission denied")
  | alreadyThere => some (17, "File exists")
  | notFolder => some (20, "Not a directory")
  | isFolder => some (21, "Is a directory")
  | nameTooLong => some (36, "File name too long")
  | nullCharacter => none

end PathCause

structure PathFault where
  cause : PathCause
  path : String
deriving DecidableEq, Repr

def PathFault.message (f : PathFault) : String :=
  match f.cause.numbered? with
  | some (number, text) => s!"[Errno {number}] {text}: {Text.quoted f.path}"
  | none => "embedded null byte"

/-! ## Folders -/

abbrev Place := List String

structure Folder where
  files : List (Place × List UInt8)
  folders : List Place
deriving DecidableEq, Repr

namespace Folder

def empty : Folder := ⟨[], []⟩

/-- Folders of the system. -/
def systemFolders : List Place := [["/"], ["/", "dev"], ["/", "tmp"]]

/-- The file of the system that is empty whatever is written. -/
def nullDevice : Place := ["/", "dev", "null"]

/-- The working folder, the folders above it and those of the system are always there. -/
def isFolder (f : Folder) (p : Place) : Bool :=
  p.all (· = "..") || systemFolders.contains p || f.folders.contains p

def file? (f : Folder) (p : Place) : Option (List UInt8) :=
  if p = nullDevice then some [] else f.files.lookup p

/-- Gives a file bytes: in place if the file is there, at the end otherwise. -/
def put (f : Folder) (p : Place) (bytes : List UInt8) : Folder :=
  if p = nullDevice then f
  else if (f.file? p).isSome then
    { f with files := f.files.map fun (q, old) => (q, if q = p then bytes else old) }
  else { f with files := f.files ++ [(p, bytes)] }

/-- The place of the folder that a folder is in. -/
def above (p : Place) : Place :=
  if p = ["/"] then p else if p.all (· = "..") then p ++ [".."] else p.dropLast

/-- The longest name of a file or folder, in bytes. -/
def nameBound : Nat := 255

/-- The longest path, in bytes. -/
def pathBound : Nat := 4095

/-! ## Paths -/

/-- The names in a path. -/
def names (path : String) : List String :=
  ((path.toList.splitOn '/').filter (!·.isEmpty)).map String.ofList

def endsWithSlash (path : String) : Bool := path.toList.getLast? = some '/'

/-- Goes on to a folder of a folder. -/
def enter (f : Folder) (p : Place) (name : String) : Except PathCause Place :=
  if name = "." then .ok p
  else if name = ".." then .ok (above p)
  else if nameBound < name.utf8ByteSize then .error .nameTooLong
  else if f.isFolder (p ++ [name]) then .ok (p ++ [name])
  else if (f.file? (p ++ [name])).isSome then .error .notFolder
  else .error .notFound

/-- What stands at the end of a path. -/
inductive Found where
  | folder
  | file (p : Place) (bytes : List UInt8)
  | nothing (p : Place)

/-- What stands at a name in a folder. -/
def look (f : Folder) (p : Place) (name : String) : Except PathCause Found :=
  if name = "." || name = ".." then .ok .folder
  else if nameBound < name.utf8ByteSize then .error .nameTooLong
  else if f.isFolder (p ++ [name]) then .ok .folder
  else
    match f.file? (p ++ [name]) with
    | some bytes => .ok (.file (p ++ [name]) bytes)
    | none => .ok (.nothing (p ++ [name]))

def find (f : Folder) (path : String) : Except PathCause Found :=
  let start : Place := if path.toList.head? = some '/' then ["/"] else []
  if path.toList.contains '\x00' then .error .nullCharacter
  else if path.isEmpty then .error .notFound
  else if pathBound < path.utf8ByteSize then .error .nameTooLong
  else
    match (names path).getLast? with
    | none => .ok .folder
    | some name => do
      let p ← (names path).dropLast.foldlM f.enter start
      f.look p name

def isFolderPath (f : Folder) (path : String) : Bool :=
  match f.find path with
  | .ok .folder => true
  | _ => false

def existsPath (f : Folder) (path : String) : Bool :=
  match f.find path with
  | .ok .folder => true
  | .ok (.file _ _) => !endsWithSlash path
  | _ => false

/-! ## Reading and writing -/

def readCause (f : Folder) (path : String) : Except PathCause (List UInt8) := do
  match ← f.find path with
  | .folder => .error .isFolder
  | .file _ bytes => if endsWithSlash path then .error .notFolder else .ok bytes
  | .nothing _ => .error .notFound

def read (f : Folder) (path : String) : Except PathFault (List UInt8) :=
  (f.readCause path).mapError (⟨·, path⟩)

def writeCause (f : Folder) (path : String) (bytes : List UInt8) : Except PathCause Folder := do
  match ← f.find path with
  | .folder => .error .isFolder
  | .file p _ | .nothing p =>
    if endsWithSlash path then .error .isFolder else .ok (f.put p bytes)

def write (f : Folder) (path : String) (bytes : List UInt8) : Except PathFault Folder :=
  (f.writeCause path bytes).mapError (⟨·, path⟩)

/-- Makes one folder. -/
def makeFolder (f : Folder) (path : String) : Except PathCause Folder := do
  match ← f.find path with
  | .folder | .file _ _ => .error .alreadyThere
  | .nothing p => .ok { f with folders := f.folders ++ [p] }

/-- A path without its last name, and that name; slashes between them belong to neither. -/
def splitPath (path : List Char) : List Char × List Char :=
  let name := (path.reverse.takeWhile (· ≠ '/')).reverse
  let start := path.take (path.length - name.length)
  let trimmed := (start.reverse.dropWhile (· = '/')).reverse
  (if trimmed.isEmpty then start else trimmed, name)

/-- Makes a folder unless it is there. -/
def ensureFolder (f : Folder) (path : String) : Except PathFault Folder :=
  match f.makeFolder path with
  | .ok made => .ok made
  | .error cause => if f.isFolderPath path then .ok f else .error ⟨cause, path⟩

/-- Makes a folder and the folders above it, unless they are there, with at most `fuel` names. -/
def ensureFoldersWithin : Nat → Folder → List Char → Except PathFault Folder
  | 0, f, _ => .ok f
  | fuel + 1, f, path =>
    let (start, name) := splitPath path
    let (start, name) := if name.isEmpty then splitPath start else (start, name)
    if start.isEmpty || name.isEmpty || f.existsPath (String.ofList start) then
      f.ensureFolder (String.ofList path)
    else do
      let f ← ensureFoldersWithin fuel f start
      if name = ['.'] then .ok f else f.ensureFolder (String.ofList path)

/-- Makes the folder that a path's last name is in, and the folders above it. -/
def ensureFoldersOf (f : Folder) (path : String) : Except PathFault Folder :=
  let start := (splitPath path.toList).1
  if start.isEmpty then .ok f else ensureFoldersWithin path.length f start

/-! ## Contents -/

/-- The folder with given files, named by paths, and the folders that these are in. -/
def ofFiles (files : List (String × List UInt8)) : Folder :=
  files.foldl
    (fun f (path, bytes) =>
      match (f.ensureFoldersOf path).bind (·.write path bytes) with
      | .ok f => f
      | .error _ => f)
    empty

/-- The files within the working folder, with their paths. -/
def contents (f : Folder) : List (String × List UInt8) :=
  f.files.filterMap fun (p, bytes) =>
    match p with
    | ".." :: _ | "/" :: _ => none
    | p => some ("/".intercalate p, bytes)

end Folder

end ContentBlocker.Offline

import ImagePrompt.FileSystem.Path
import ImagePrompt.Text.Utf8
import Std.Data.HashMap
/-!
# File systems

Files, directories and symbolic links under one root, and the operations of a
program on them. A file system is a value: what changes it gives a new one.
-/

namespace ImagePrompt

inductive FileError where
  | notFound
  | notDirectory
  | isDirectory
  | occupied
  | tooManyLinks
  | nameTooLong
  | nulInName
  | notText
  | denied
  deriving DecidableEq, Repr

def FileError.message : FileError → String
  | .notFound => "No such file or directory (os error 2)"
  | .notDirectory => "Not a directory (os error 20)"
  | .isDirectory => "Is a directory (os error 21)"
  | .occupied => "File exists (os error 17)"
  | .tooManyLinks => "Too many levels of symbolic links (os error 40)"
  | .nameTooLong => "File name too long (os error 36)"
  | .nulInName => "file name contained an unexpected NUL byte"
  | .notText => "stream did not contain valid UTF-8"
  | .denied => "Permission denied (os error 13)"

inductive Node where
  | file (bytes : List UInt8)
  /-- A file that may not be opened. -/
  | closedFile
  | directory
  | link (target : String)
  deriving DecidableEq, Repr

/-- The names from the root down to a node, none of them a dot or a link. -/
abbrev Location := List String

/-- The nodes under one root, and the directory that relative paths start from. -/
structure FileSystem where
  nodes : Std.HashMap Location Node
  workingDirectory : Location

structure Place where
  location : Location
  node : Option Node

namespace FileSystem

def empty : FileSystem where
  nodes := ((∅ : Std.HashMap Location Node).insert [] .directory).insert ["work"] .directory
  workingDirectory := ["work"]

def node? (fs : FileSystem) (l : Location) : Option Node := fs.nodes[l]?

def put (fs : FileSystem) (l : Location) (node : Node) : FileSystem :=
  { fs with nodes := fs.nodes.insert l node }

def delete (fs : FileSystem) (l : Location) : FileSystem :=
  { fs with nodes := fs.nodes.erase l }

def maxLinks : Nat := 40

/-- Follows names from a location on, through at most `links` symbolic links. A link at the end
is followed if `follow` says so. -/
def walk (fs : FileSystem) (follow : Bool) (links : Nat) (l : Location) :
    List String → Except FileError Place
  | [] => .ok ⟨l, fs.node? l⟩
  | name :: rest =>
    if fs.node? l != some .directory then .error .notDirectory
    else if name == "." then fs.walk follow links l rest
    else if name == ".." then fs.walk follow links l.dropLast rest
    else if 255 < name.utf8ByteSize then .error .nameTooLong
    else
      match fs.node? (l ++ [name]) with
      | none => if rest.isEmpty then .ok ⟨l ++ [name], none⟩ else .error .notFound
      | some (.link target) =>
        if rest.isEmpty && !follow then .ok ⟨l ++ [name], some (.link target)⟩
        else
          match links with
          | 0 => .error .tooManyLinks
          | links + 1 =>
            fs.walk follow links (if Path.isAbsolute target then [] else l)
              (Path.names target ++ rest)
      | some _ => fs.walk follow links (l ++ [name]) rest
termination_by names => (links, names.length)

def checkPath (p : String) : Except FileError Unit :=
  if p == "" then .error .notFound
  else if p.toList.contains '\x00' then .error .nulInName
  else if 4096 ≤ p.utf8ByteSize then .error .nameTooLong
  else .ok ()

def start (fs : FileSystem) (p : String) : Location :=
  if Path.isAbsolute p then [] else fs.workingDirectory

/-- The place that a path leads to. A slash at its end asks for a directory. -/
def locate (fs : FileSystem) (p : String) : Except FileError Place := do
  checkPath p
  fs.walk true maxLinks (fs.start p)
    (Path.names p ++ (if Path.endsInSlash p then ["."] else []))

def find (fs : FileSystem) (p : String) : Except FileError (Location × Node) := do
  let place ← fs.locate p
  match place.node with
  | some node => return (place.location, node)
  | none => .error .notFound

def read (fs : FileSystem) (p : String) : Except FileError (List UInt8) := do
  match ← fs.find p with
  | (_, .file bytes) => return bytes
  | (_, .closedFile) => .error .denied
  | _ => .error .isDirectory

def readText (fs : FileSystem) (p : String) : Except FileError String := do
  let bytes ← fs.read p
  match Text.Utf8.decode? bytes with
  | some s => return s
  | none => .error .notText

def isFile (fs : FileSystem) (p : String) : Bool :=
  match fs.find p with
  | .ok (_, .file _) => true
  | .ok (_, .closedFile) => true
  | _ => false

def isDirectory (fs : FileSystem) (p : String) : Bool :=
  match fs.find p with
  | .ok (_, .directory) => true
  | _ => false

def canonical? (fs : FileSystem) (p : String) : Option Location :=
  match fs.find p with
  | .ok (l, _) => some l
  | .error _ => none

/-- Two paths name the same file: by their components, or by what they lead to. -/
def sameFile (fs : FileSystem) (p q : String) : Bool :=
  Path.same p q ||
    match fs.canonical? p, fs.canonical? q with
    | some l, some m => l == m
    | _, _ => false

def locateParent (fs : FileSystem) (p : String) : Except FileError (Location × Option String) := do
  checkPath p
  let names := Path.names p
  let place ← fs.walk true maxLinks (fs.start p) names.dropLast
  match place.node with
  | some .directory =>
    let last := names.getLast?.filter fun name => name != "." && name != ".."
    if (last.getD "").utf8ByteSize ≤ 255 then return (place.location, last)
    else .error .nameTooLong
  | some _ => .error .notDirectory
  | none => .error .notFound

def write (fs : FileSystem) (p : String) (bytes : List UInt8) :
    Except FileError FileSystem := do
  let place ← fs.locate p
  if place.node == some .directory then .error .isDirectory
  else if place.node == some .closedFile then .error .denied
  else return fs.put place.location (.file bytes)

def makeLink (fs : FileSystem) (p target : String) : Except FileError FileSystem := do
  match ← fs.locateParent p with
  | (_, none) => .error .occupied
  | (l, some name) =>
    if (fs.node? (l ++ [name])).isSome then .error .occupied
    else return fs.put (l ++ [name]) (.link target)

def makeDirectory (fs : FileSystem) (p : String) : Except FileError FileSystem := do
  match ← fs.locateParent p with
  | (_, none) => .error .occupied
  | (l, some name) =>
    if (fs.node? (l ++ [name])).isSome then .error .occupied
    else return fs.put (l ++ [name]) .directory

/-- Makes the directories of a list, the outermost first, passing over those that are there. -/
def makeEach (fs : FileSystem) : List String → FileSystem × Except FileError Unit
  | [] => (fs, .ok ())
  | p :: rest =>
    match fs.makeDirectory p with
    | .ok fs' => fs'.makeEach rest
    | .error e => if e == .occupied && fs.isDirectory p then fs.makeEach rest else (fs, .error e)

/-- Looks upwards for a directory that is there or can be made, then makes those below it. -/
def makeUpwards (fs : FileSystem) (pending : List String) :
    List String → FileSystem × Except FileError Unit
  | [] => fs.makeEach pending
  | p :: rest =>
    if p == "" then fs.makeEach pending
    else
      match fs.makeDirectory p with
      | .ok fs' => fs'.makeEach pending
      | .error .notFound => fs.makeUpwards (p :: pending) rest
      | .error e =>
        if e == .occupied && fs.isDirectory p then fs.makeEach pending else (fs, .error e)

def makeDirectories (fs : FileSystem) (p : String) : FileSystem × Except FileError Unit :=
  fs.makeUpwards [] (Path.ancestors p)

/-- Creates an empty file where nothing stands, not even a link, and gives its location. -/
def createNew (fs : FileSystem) (p : String) : Except FileError (FileSystem × Location) := do
  match ← fs.locateParent p with
  | (_, none) => .error .isDirectory
  | (l, some name) =>
    if Path.endsInSlash p then .error .isDirectory
    else if (fs.node? (l ++ [name])).isSome then .error .occupied
    else return (fs.put (l ++ [name]) (.file []), l ++ [name])

/-- Removes a file or a link, not what the link leads to. -/
def remove (fs : FileSystem) (p : String) : Except FileError FileSystem := do
  match ← fs.locateParent p with
  | (_, none) => .error .isDirectory
  | (l, some name) =>
    match fs.node? (l ++ [name]) with
    | none => .error .notFound
    | some .directory => .error .isDirectory
    | some _ =>
      if Path.endsInSlash p then .error .notDirectory else return fs.delete (l ++ [name])

/-- The file system without the file that a path leads to, as far as it can be removed. -/
def cleared (fs : FileSystem) (p : String) : FileSystem :=
  match fs.remove p with
  | .ok fs' => fs'
  | .error _ => fs

def namesBelow? : Location → Location → Option (List String)
  | [], names => if names.isEmpty then none else some names
  | _ :: _, [] => none
  | a :: above, b :: below => if a == b then namesBelow? above below else none

/-- The paths below a directory, those of directories left out, in order. -/
def pathsBelow (fs : FileSystem) (p : String) : List String :=
  match fs.find p with
  | .ok (top, .directory) =>
    let below := fs.nodes.toList.filterMap fun (l, node) =>
      if node == .directory then none
      else (namesBelow? top l).map fun names => names.foldl Path.join p
    below.mergeSort fun a b => !(b < a)
  | _ => []

end FileSystem

end ImagePrompt

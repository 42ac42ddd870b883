import DeclLinker.Dict
import DeclLinker.Path.Specifier
import DeclLinker.Text.Utf8

/-!
# File trees

A file tree holds files and directories by their places.  A path is walked component by component:
every directory on the way has to be there.  Reading, listing and writing answer with what the
operating system would object to.
-/

namespace DeclLinker

/-- What stands at a place. -/
inductive FileEntry where
  | file (bytes : ByteArray)
  | directory

/-- Files and directories by place.  The top is always a directory. -/
abbrev FileTree := Dict Location FileEntry

/-- What is wrong with the place a path leads to. -/
inductive PathFault where
  | missing
  | notDirectory
  | isDirectory
  | occupied
  | nameTooLong
  | nulCharacter
  deriving DecidableEq

namespace PathFault

/-- The number and the words of a fault. -/
def reason : PathFault → Text
  | .missing => "[Errno 2] No such file or directory".toList
  | .notDirectory => "[Errno 20] Not a directory".toList
  | .isDirectory => "[Errno 21] Is a directory".toList
  | .occupied => "[Errno 17] File exists".toList
  | .nameTooLong => "[Errno 36] File name too long".toList
  | .nulCharacter => "embedded null byte".toList

/-- The message for a fault met on a path; a path that cannot even be asked for is not shown. -/
def message (path : Path) (fault : PathFault) : Text :=
  if fault = .nulCharacter then fault.reason
  else fault.reason ++ ": ".toList ++ path.toText.quoted

end PathFault

namespace FileTree

/-- What stands at a place. -/
def entry? (tree : FileTree) (place : Location) : Option FileEntry :=
  if place = [] then some .directory else Dict.get? place tree

/-- One step of a path from a place that was reached. -/
def step (tree : FileTree) (place : Location) (part : Text) : Except PathFault Location :=
  match tree.entry? place with
  | some .directory => .ok (Path.step place part)
  | some (.file _) => .error .notDirectory
  | none => .error .missing

/-- The place a path leads to, which itself need not hold anything. -/
def walk (tree : FileTree) (here : Location) (path : Path) : Except PathFault Location :=
  path.parts.foldlM (step tree) (if path.isAbsolute then [] else here)

/-- What a path leads to. -/
def find (tree : FileTree) (here : Location) (path : Path) :
    Except PathFault (Location × FileEntry) :=
  match tree.walk here path with
  | .error fault => .error fault
  | .ok place =>
      match tree.entry? place with
      | some entry => .ok (place, entry)
      | none => .error .missing

/-- Whether a path leads to something. -/
def holds (tree : FileTree) (here : Location) (path : Path) : Bool :=
  match tree.find here path with
  | .ok _ => true
  | .error _ => false

/-- Whether a path leads to a directory. -/
def isDirectory (tree : FileTree) (here : Location) (path : Path) : Bool :=
  match tree.find here path with
  | .ok (_, .directory) => true
  | _ => false

/-- Whether a path leads to a file. -/
def isFile (tree : FileTree) (here : Location) (path : Path) : Bool :=
  match tree.find here path with
  | .ok (_, .file _) => true
  | _ => false

/-- Whether a text has at most so many bytes. -/
def fits (limit : Nat) (text : Text) : Bool :=
  (Utf8.encode text).size ≤ limit

/-- Why no tree can hold what a path asks for: it has a NUL character, it has more than 4095 bytes,
or a name in it has more than 255.  A long name matters only where the path before it leads to a
directory. -/
def refusal? (tree : FileTree) (here : Location) (path : Path) : Option PathFault :=
  if path.parts.any fun part => part.contains (Char.ofNat 0) then
    some .nulCharacter
  else if !fits 4095 path.toText then
    some .nameTooLong
  else
    match path.parts.findIdx? fun part => !fits 255 part with
    | some index =>
        if tree.isDirectory here ⟨path.root, path.parts.take index⟩ then some .nameTooLong
        else none
    | none => none

/-- The bytes of the file a path leads to. -/
def read (tree : FileTree) (here : Location) (path : Path) : Except PathFault ByteArray :=
  match tree.find here path with
  | .ok (_, .file bytes) => .ok bytes
  | .ok (_, .directory) => .error .isDirectory
  | .error fault => .error fault

/-- The name of a file directly inside a place, if that is what an entry is. -/
def fileIn? (place : Location) (entry : Location × FileEntry) : Option Text :=
  match entry with
  | (inner, .file _) =>
      if inner.dropLast = place then inner.getLast? else none
  | (_, .directory) => none

/-- The names of the files directly inside the directory a path leads to, in code point order. -/
def fileNames (tree : FileTree) (here : Location) (path : Path) : Except PathFault (List Text) :=
  match tree.find here path with
  | .ok (place, .directory) => .ok ((tree.filterMap (fileIn? place)).mergeSort Text.le)
  | .ok (_, .file _) => .error .notDirectory
  | .error fault => .error fault

/-- The tree with new bytes in the file a path leads to.  The file need not be there, its directory
has to. -/
def write (tree : FileTree) (here : Location) (path : Path) (bytes : ByteArray) :
    Except PathFault FileTree :=
  match tree.walk here path with
  | .error fault => .error fault
  | .ok place =>
      match tree.entry? place with
      | some .directory => .error .isDirectory
      | some (.file _) | none => .ok (Dict.put place (.file bytes) tree)

/-- The tree with a directory where a path leads to.  All before its last component has to be
there; the directory itself may be. -/
def makeDirectory (tree : FileTree) (path : Path) : Except PathFault FileTree :=
  match tree.refusal? [] path, tree.walk [] path with
  | some fault, _ => .error fault
  | none, .error fault => .error fault
  | none, .ok place =>
      match tree.entry? place with
      | some .directory => .ok tree
      | some (.file _) => .error .occupied
      | none => .ok (Dict.put place .directory tree)

/-- The tree with a directory where an absolute path leads to after some of its components.  What
is missing on the way is made first; double dots are walked, so they need what stands before them.
A fault comes with the path it was met on. -/
def makePath (tree : FileTree) (path : Path) : (depth : Nat) → Except (Path × PathFault) FileTree
  | 0 => .ok tree
  | depth + 1 =>
      let inner : Path := ⟨path.root, path.parts.take (depth + 1)⟩
      match tree.makeDirectory inner with
      | .ok tree => .ok tree
      | .error .missing =>
          (makePath tree path depth).bind fun tree =>
            (tree.makeDirectory inner).mapError fun fault => (inner, fault)
      | .error fault => .error (inner, fault)

/-- The tree with a directory at every place on the way to a place, and at the place itself. -/
def makeDirectories (tree : FileTree) (place : Location) : FileTree :=
  (List.range (place.length + 1)).foldl
    (fun tree depth =>
      let inner := place.take depth
      if (tree.entry? inner).isSome then tree else Dict.put inner .directory tree)
    tree

end FileTree

end DeclLinker

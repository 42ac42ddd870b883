import DeclLinker.Text.Basic

/-!
# File paths

A path is a root and a list of components.  Reading a path drops empty components and single dots;
double dots stay, because they mean something only on a file tree.  Two leading slashes are a root
of their own, three or more are one.
-/

namespace DeclLinker

/-- Where a path starts. -/
inductive Root where
  | relative
  | slash
  | doubleSlash
  deriving DecidableEq

/-- A path: where it starts and its components. -/
structure Path where
  root : Root
  parts : List Text
  deriving DecidableEq

namespace Root

/-- How a root is written. -/
def toText : Root → Text
  | .relative => []
  | .slash => ['/']
  | .doubleSlash => ['/', '/']

/-- The root a text starts with. -/
def ofText : Text → Root
  | '/' :: '/' :: '/' :: _ => .slash
  | '/' :: '/' :: _ => .doubleSlash
  | '/' :: _ => .slash
  | _ => .relative

end Root

namespace Path

/-- The component of the parent directory. -/
def up : Text := ['.', '.']

/-- Whether a stretch between slashes is a component: it is neither empty nor a single dot. -/
def isPart (part : Text) : Bool :=
  part != [] && part != ['.']

/-- The path a text denotes. -/
def ofText (text : Text) : Path :=
  ⟨Root.ofText text, (text.splitOn '/').filter isPart⟩

/-- Whether a path starts at a root. -/
def isAbsolute (path : Path) : Bool :=
  path.root != .relative

/-- How a path is written; the empty relative path is a dot. -/
def toText (path : Path) : Text :=
  match path.root, path.parts with
  | .relative, [] => ['.']
  | root, parts => root.toText ++ ['/'].intercalate parts

/-- The last component; empty when there is none. -/
def name (path : Path) : Text :=
  path.parts.getLast?.getD []

/-- The path without its last component. -/
def parent (path : Path) : Path :=
  ⟨path.root, path.parts.dropLast⟩

/-- A path taken relative to another; an absolute path stands for itself. -/
def join (base path : Path) : Path :=
  if path.isAbsolute then path else ⟨base.root, base.parts ++ path.parts⟩

/-- The file or directory of a given name inside a directory. -/
def child (base : Path) (name : Text) : Path :=
  base.join (ofText name)

/-- The components with the root, if any, as the first of them. -/
def components (path : Path) : List Text :=
  match path.root with
  | .relative => path.parts
  | root => root.toText :: path.parts

/-- Paths are ordered by their components. -/
def le (first second : Path) : Bool :=
  !List.lex second.components first.components Text.lt

end Path

end DeclLinker

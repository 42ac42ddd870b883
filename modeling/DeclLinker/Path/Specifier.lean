import DeclLinker.Path.Basic

/-!
# Module specifiers

The specifier by which one file imports another: the way from the consumer's directory to the
producer's, then the producer's name without the file suffix.  It starts with a dot segment.
-/

namespace DeclLinker

/-- A place in a file tree: the components from the top, none of them a dot or a double dot. -/
abbrev Location := List Text

namespace Path

/-- One step down, or up for a double dot; the top is its own parent. -/
def step (place : Location) (part : Text) : Location :=
  if part = up then place.dropLast else place ++ [part]

/-- The place a path denotes when every component is taken at its word. -/
def locate (here : Location) (path : Path) : Location :=
  path.parts.foldl step (if path.isAbsolute then [] else here)

/-- The components that lead from one place to another: up to where they part, then down. -/
def route : (start target : Location) → List Text
  | first :: start, second :: target =>
      if first = second then route start target
      else List.replicate (start.length + 1) up ++ second :: target
  | start, target => List.replicate start.length up ++ target

/-- The specifier by which `consumer` imports `producer`. -/
def specifier (here : Location) (consumer producer : Path) (suffix : Text) : Text :=
  let directory := route (consumer.parent.locate here) (producer.parent.locate here)
  let path := (Path.mk .relative directory).child (producer.name.dropEnding suffix)
  let text := path.toText
  if ['.', '.', '/'].isPrefixOf text then text else '.' :: '/' :: text

end Path

end DeclLinker

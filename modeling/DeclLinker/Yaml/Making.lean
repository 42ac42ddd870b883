import DeclLinker.Value.Basic
import DeclLinker.Yaml.Node

/-!
# Making values of nodes

Values are made level by level: the scalars in a collection before anything inside the collections
next to them.  That decides which of several faults is found.  A node is made once, wherever it
stands; a collection is there as soon as it is met, and gets its parts later.

The fields of a mapping behind the merge mark come before a mapping's own.  The default mark is its
own text where it is a key, and stands for the value of a mapping whose kind is that of a scalar.
-/

namespace DeclLinker.Yaml

/-- A part of a collection: a scalar, or another collection by the number of its node. -/
inductive Part where
  | leaf (scalar : Scalar)
  | whole (id : NodeId)

/-- What a collection holds. -/
inductive Body where
  | list (items : List Part)
  | tuples (items : List (Part × Part))
  | dict (fields : List (Scalar × Part))
  | set (items : List Scalar)

/-- How far values have been made: the graph, a bound on the merge marks in it, the parts and the
collections by the numbers of their nodes, and the collections that wait for their parts, the last
one first. -/
structure Making where
  graph : Graph
  marks : Nat
  parts : Array (Option Part)
  bodies : Array (Option Body)
  waiting : List NodeId

namespace Making

/-- Nothing is made yet. -/
def start (graph : Graph) : Making :=
  let nothing {α : Type} : Array (Option α) := Array.replicate graph.nodes.size none
  ⟨graph, graph.pairCount, nothing, nothing, []⟩

/-! ## Scalars -/

/-- The content of a node that is a scalar by its kind.  A mapping has the content of its value
behind the default mark, which must not lead back to it. -/
def scalarContent (graph : Graph) : (bound : Nat) → NodeId → Read Content
  | 0, _ => .error .tooDeep
  | bound + 1, id =>
      match graph.content id with
      | .pairs pairs =>
          match pairs.find? fun pair => graph.tag pair.1 = .value with
          | some (_, value) => scalarContent graph bound value
          | none => .error .malformed
      | .items _ => .error .malformed
      | content => .ok content

/-- The value of a scalar of a kind. -/
def scalarOfContent (tag : Tag) : Content → Read Scalar
  | .text text => scalarOf tag text
  | .halved points =>
      if tag = .str then .ok (.halved points) else scalarOf tag (Text.withoutHalves points)
  | _ => .error .malformed

/-! ## Parts -/

/-- Whether the value of a node is a collection. -/
def isCollection (tag : Tag) : Bool :=
  [Tag.seq, .omap, .pairs, .map, .set].contains tag

/-- What is made, with the part that a node is. -/
def record (making : Making) (id : NodeId) (part : Part) : Making :=
  { making with parts := making.parts.setIfInBounds id (some part) }

/-- What is made, with a collection that waits for its parts. -/
def await (making : Making) (id : NodeId) : Making :=
  { making with
    parts := making.parts.setIfInBounds id (some (.whole id))
    waiting := id :: making.waiting }

/-- The scalar that a node is. -/
def scalarAt (graph : Graph) (id : NodeId) : Read Scalar := do
  scalarOfContent (graph.tag id) (← scalarContent graph (graph.nodes.size + 1) id)

/-- The part that a node is; a collection waits for its own parts. -/
def begin (making : Making) (id : NodeId) : Read (Part × Making) :=
  match making.parts[id]?.join with
  | some part => .ok (part, making)
  | none =>
      if isCollection (making.graph.tag id) then
        .ok (.whole id, making.await id)
      else
        match scalarAt making.graph id with
        | .error fault => .error fault
        | .ok scalar => .ok (.leaf scalar, making.record id (.leaf scalar))

/-- The parts that nodes are. -/
def beginAll (making : Making) : List NodeId → Read (List Part × Making)
  | [] => .ok ([], making)
  | id :: rest => do
      let (part, making) ← making.begin id
      let (parts, making) ← making.beginAll rest
      pure (part :: parts, making)

/-- A key: only scalars are. -/
def beginKey (making : Making) (id : NodeId) : Read (Scalar × Making) := do
  match ← making.begin id with
  | (.leaf scalar, making) => pure (scalar, making)
  | (.whole _, _) => .error .malformed

/-- The one pair of each mapping in a list. -/
def beginSingles (making : Making) : List NodeId → Read (List (Part × Part) × Making)
  | [] => .ok ([], making)
  | id :: rest =>
      match making.graph.content id with
      | .pairs [(key, item)] => do
          let (key, making) ← making.begin key
          let (item, making) ← making.begin item
          let (pairs, making) ← making.beginSingles rest
          pure ((key, item) :: pairs, making)
      | _ => .error .malformed

/-! ## Fields -/

/-- A key and what tells it from others: a scalar, and for what is no number the node it comes from,
unless the format's own word for it is used. -/
structure Key where
  scalar : Scalar
  origin? : Option NodeId

/-- Whether two keys are one. -/
def Key.same (first second : Key) : Bool :=
  first.scalar.sameKey second.scalar && first.origin? == second.origin?

/-- The key that a node stands for. -/
def keyOf (graph : Graph) (id : NodeId) (scalar : Scalar) : Key :=
  match scalar, graph.content id with
  | .float .notANumber, .text text => ⟨scalar, if isNotNumberWord text then none else some id⟩
  | _, _ => ⟨scalar, none⟩

/-- A field put into a mapping; equal keys keep the first spelling and the last value. -/
def putField (key : Key) (part : Part) : List (Key × Part) → List (Key × Part)
  | [] => [(key, part)]
  | (other, held) :: rest =>
      if other.same key then (other, part) :: rest else (other, held) :: putField key part rest

/-- The fields of pairs, put over those before them. -/
def beginFields (making : Making) (fields : List (Key × Part)) :
    List (NodeId × NodeId) → Read (List (Scalar × Part) × Making)
  | [] => .ok (fields.map fun (key, part) => (key.scalar, part), making)
  | (name, item) :: rest => do
      let (scalar, making) ← making.beginKey name
      let (part, making) ← making.begin item
      making.beginFields (putField (keyOf making.graph name scalar) part fields) rest

/-- The fields of a mapping, merged ones first. -/
def beginMapping (making : Making) (id : NodeId) : Read (List (Scalar × Part) × Making) := do
  let graph ← making.graph.flatten making.marks id
  beginFields { making with graph } [] (graph.pairs id)

/-! ## Collections -/

/-- What a collection holds. -/
def bodyOf (making : Making) (id : NodeId) : Read (Body × Making) := do
  match making.graph.tag id, making.graph.content id with
  | .seq, .items items =>
      let (parts, making) ← making.beginAll items
      pure (.list parts, making)
  | .omap, .items items | .pairs, .items items =>
      let (pairs, making) ← making.beginSingles items
      pure (.tuples pairs, making)
  | .map, .pairs _ =>
      let (fields, making) ← making.beginMapping id
      pure (.dict fields, making)
  | .set, .pairs _ =>
      let (fields, making) ← making.beginMapping id
      pure (.set (fields.map Prod.fst), making)
  | _, _ => .error .malformed

/-- A collection gets its parts. -/
def fill (making : Making) (id : NodeId) : Read Making := do
  let (body, making) ← making.bodyOf id
  pure { making with bodies := making.bodies.setIfInBounds id (some body) }

/-- All collections get their parts, level by level. -/
def fillAll : (bound : Nat) → Making → Read Making
  | 0, making => .ok making
  | bound + 1, making =>
      match making.waiting with
      | [] => .ok making
      | waiting => do
          let making ← waiting.reverse.foldlM fill { making with waiting := [] }
          fillAll bound making

/-- The part that the node of a document is, with the collections by the numbers of their nodes. -/
def run (graph : Graph) (id : NodeId) : Read (Part × Array (Option Body)) := do
  let (part, making) ← (start graph).begin id
  let making ← fillAll (graph.nodes.size + 1) making
  pure (part, making.bodies)

end Making

end DeclLinker.Yaml

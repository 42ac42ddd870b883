import DeclLinker.Dict
import DeclLinker.Yaml.Fault
import DeclLinker.Yaml.Tag

/-!
# Graphs of nodes

A document is a graph: its nodes are numbered, and the items of a sequence and the pairs of a
mapping are given by the numbers of nodes.  So a node can stand in several places, and in itself.

A name may be given to a node, and stands for it from then on.
-/

namespace DeclLinker.Yaml

/-- The number of a node. -/
abbrev NodeId := Nat

/-- What a node holds: a text, a text with lone halves in it, items, or pairs of keys and values. -/
inductive Content where
  | text (text : Text)
  | halved (points : List Nat)
  | items (items : List NodeId)
  | pairs (pairs : List (NodeId × NodeId))

/-- A node: its kind and what it holds. -/
structure Node where
  tag : Tag
  content : Content

/-- The nodes read so far, and those that have a name. -/
structure Graph where
  nodes : Array Node
  names : Dict Text NodeId

namespace Graph

/-- The graph without nodes. -/
def empty : Graph := ⟨#[], []⟩

/-- The graph with one more node. -/
def add (graph : Graph) (node : Node) : NodeId × Graph :=
  (graph.nodes.size, { graph with nodes := graph.nodes.push node })

/-- The graph with a name given to a node. -/
def name (graph : Graph) (name? : Option Text) (id : NodeId) : Graph :=
  match name? with
  | some name => { graph with names := Dict.put name id graph.names }
  | none => graph

/-- The kind of a node. -/
def tag (graph : Graph) (id : NodeId) : Tag :=
  match graph.nodes[id]? with
  | some node => node.tag
  | none => .unknown

/-- What a node holds. -/
def content (graph : Graph) (id : NodeId) : Content :=
  match graph.nodes[id]? with
  | some node => node.content
  | none => .items []

/-- The pairs of a mapping; any other node has none. -/
def pairs (graph : Graph) (id : NodeId) : List (NodeId × NodeId) :=
  match graph.content id with
  | .pairs pairs => pairs
  | _ => []

/-- The graph with other content in a node. -/
def setContent (graph : Graph) (id : NodeId) (content : Content) : Graph :=
  { graph with nodes := graph.nodes.modify id fun node => { node with content } }

/-- The graph with another kind for a node. -/
def setTag (graph : Graph) (id : NodeId) (tag : Tag) : Graph :=
  { graph with nodes := graph.nodes.modify id fun node => { node with tag } }

/-- The number of pairs in all mappings. -/
def pairCount (graph : Graph) : Nat :=
  graph.nodes.foldl
    (fun count node =>
      match node.content with
      | .pairs pairs => count + pairs.length
      | _ => count)
    0

/-! ## Merged mappings -/

/-- The default mark is its own text where it is a key. -/
def settleKeys (graph : Graph) (pairs : List (NodeId × NodeId)) : Graph :=
  pairs.foldl
    (fun graph pair => if graph.tag pair.1 = .value then graph.setTag pair.1 .str else graph) graph

/-- The value behind the first merge mark, and the other pairs. -/
def takeMerge? (graph : Graph) (pairs : List (NodeId × NodeId)) :
    Option (NodeId × List (NodeId × NodeId)) :=
  match pairs.span fun pair => graph.tag pair.1 != .merge with
  | (before, (_, value) :: behind) => some (value, before ++ behind)
  | (_, []) => none

/-- The pairs of mappings, each made flat before its pairs are taken. -/
def gatherEach (flatten : NodeId → Graph → Read Graph) :
    List NodeId → Graph → Read (List (List (NodeId × NodeId)) × Graph)
  | [], graph => .ok ([], graph)
  | id :: rest, graph =>
      match graph.content id with
      | .pairs _ => do
          let graph ← flatten id graph
          let (others, last) ← gatherEach flatten rest graph
          pure (graph.pairs id :: others, last)
      | _ => .error .malformed

/-- The pairs that a mapping or a list of mappings brings in, of a list those of the last first. -/
def gather (flatten : NodeId → Graph → Read Graph) (id : NodeId) (graph : Graph) :
    Read (List (NodeId × NodeId) × Graph) :=
  match graph.content id with
  | .pairs _ => do
      let graph ← flatten id graph
      pure (graph.pairs id, graph)
  | .items items => do
      let (pairs, graph) ← gatherEach flatten items graph
      pure (pairs.reverse.flatten, graph)
  | _ => .error .malformed

/-- Makes a mapping flat: the pairs that merge marks bring in come before its own.  Every round
takes away a merge mark, so the number of pairs bounds them; `merged` holds what was brought in
before. -/
def flattenWith : (bound : Nat) → (merged : List (NodeId × NodeId)) → NodeId → Graph → Read Graph
  | bound, merged, id, graph =>
      let pairs := graph.pairs id
      match graph.takeMerge? pairs, bound with
      | none, _ =>
          let graph := graph.settleKeys pairs
          .ok (if merged.isEmpty then graph else graph.setContent id (.pairs (merged ++ pairs)))
      | some _, 0 => .error .malformed
      | some (value, others), bound + 1 => do
          let graph := graph.setContent id (.pairs others)
          let (more, graph) ← gather (flattenWith bound []) value graph
          flattenWith bound (merged ++ more) id graph

/-- Makes a mapping flat. -/
def flatten (graph : Graph) (bound : Nat) (id : NodeId) : Read Graph :=
  flattenWith bound [] id graph

end Graph

end DeclLinker.Yaml

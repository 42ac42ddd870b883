import DeclLinker.Value.Scatter
import DeclLinker.Yaml.Making

/-!
# Documents

A document is read in four steps: tokens, nodes, parts, values.  Keys of mappings are scalars; of
repeated keys the last value counts.

A collection that contains itself is spelled out a few times over.
-/

namespace DeclLinker.Yaml

/-- How often a collection that contains itself is spelled out.  Settings are never looked at deeper
than that. -/
def unrolling : Nat := 5

/-- A value, and the collections around it that it contains. -/
structure Unfolded where
  value : Value
  around : List NodeId

namespace Unfolded

/-- A value that contains nothing around it. -/
def plain (value : Value) : Unfolded := ⟨value, []⟩

/-- A value made of several others. -/
def combine (make : List Value → Value) (parts : List Unfolded) : Unfolded :=
  ⟨make (parts.map Unfolded.value), parts.flatMap Unfolded.around⟩

/-- The value of a collection: it has a name if it contains itself. -/
def close (id : NodeId) (unfolded : Unfolded) : Unfolded :=
  if unfolded.around.contains id then
    ⟨.cyclic id unfolded.value, unfolded.around.filter fun other => other != id⟩
  else
    unfolded

end Unfolded

namespace Body

/-- A collection of the same kind without content. -/
def hollow : Body → Value
  | .list _ | .tuples _ => .list []
  | .dict _ => .dict []
  | .set _ => .set []

/-- The value of a collection, given how its parts are unfolded. -/
def unfold (part : Part → Unfolded) : Body → Unfolded
  | .list items => .combine .list (items.map part)
  | .tuples items =>
      .combine .list (items.map fun (key, item) => .combine .tuple [part key, part item])
  | .dict fields =>
      .combine (fun values => .dict ((fields.map Prod.fst).zip values))
        (fields.map fun field => part field.2)
  | .set items => .plain (.set (Scalar.scatter items))

end Body

/-- The value of a part, given the collections around it.  A collection that is around itself is
spelled out as often as `again` allows. -/
def unfold (bodies : Array (Option Body)) :
    (bound again : Nat) → (around : List NodeId) → Part → Unfolded
  | 0, _, _, _ => .plain .null
  | _, _, _, .leaf scalar => .plain (.scalar scalar)
  | bound + 1, again, around, .whole id =>
      match bodies[id]?.join with
      | none => .plain .null
      | some body =>
          if around.contains id then
            match again with
            | 0 => ⟨.cyclic id body.hollow, [id]⟩
            | again + 1 =>
                let unfolded := body.unfold (unfold bodies bound again around)
                ⟨.cyclic id unfolded.value, id :: unfolded.around⟩
          else
            (body.unfold (unfold bodies bound again (id :: around))).close id

/-- The value of a document. -/
def parse (supply : Supply) : Read Value := do
  let (id, graph) ← Node.ofTokens (tokens supply)
  let (part, bodies) ← Making.run graph id
  pure (unfold bodies ((unrolling + 1) * (graph.nodes.size + 1)) unrolling [] part).value

end DeclLinker.Yaml

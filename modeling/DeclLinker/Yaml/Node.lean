import DeclLinker.Yaml.Graph
import DeclLinker.Yaml.Plain
import DeclLinker.Yaml.Token

/-!
# Nodes

The tokens of a document form a graph of scalars, sequences and mappings, each with its kind.  A
mapping keeps its pairs as they are written.  Absent keys, values and items are empty plain scalars.

A name that is given to a collection stands for it already while the collection is read, which may
so contain itself.

The readers share a bound on their nesting; the number of tokens is always enough.  A reader that
looks at the token for a fault answers with that fault.
-/

namespace DeclLinker.Yaml

namespace Node

/-! ## Readers -/

/-- What a reader answers: a result, the graph after it, and the tokens left. -/
structure Reading (α : Type) where
  result : α
  graph : Graph
  rest : List Token

/-- The pairs of a mapping that is being read. -/
abbrev Pairs := List (NodeId × NodeId)

/-- Which blocks may start a node: none inside brackets, and behind a key also a sequence that is
not indented. -/
inductive Context where
  | flow
  | block
  | entry
  deriving DecidableEq

/-- The tokens, unless the next one is a fault. -/
def looked : List Token → Read (List Token)
  | .broken fault :: _ => .error fault
  | tokens => .ok tokens

/-- What stands before the content of a node. -/
structure Properties where
  anchor? : Option Text
  tag? : Option Text

/-- Whether anything stands before the content of a node. -/
def Properties.isSome (properties : Properties) : Bool :=
  properties.anchor?.isSome || properties.tag?.isSome

/-- The tag in full. -/
def fullTag (handles : Tag.Handles) (written : Tag.Written) : Read (Option Text) :=
  (require (written.full? handles)).map some

/-- The anchor and the tag before a node, in either order, and the tokens behind them. -/
def readProperties (handles : Tag.Handles) (tokens : List Token) :
    Read (Properties × List Token) := do
  match ← looked tokens with
  | .anchor name :: rest =>
      match ← looked rest with
      | .tag written :: rest => pure (⟨some name, ← fullTag handles written⟩, rest)
      | rest => pure (⟨some name, none⟩, rest)
  | .tag written :: rest =>
      match ← looked rest with
      | .anchor name :: rest => pure (⟨some name, ← fullTag handles written⟩, rest)
      | rest => pure (⟨none, ← fullTag handles written⟩, rest)
  | rest => pure (⟨none, none⟩, rest)

namespace Properties

/-- The kind of a collection: its own unless a tag says otherwise. -/
def collectionTag (properties : Properties) (own : Tag) : Tag :=
  match properties.tag? with
  | some text => if text = ['!'] then own else Tag.ofText text
  | none => own

/-- The kind of a scalar: a tag says it, or else its spelling, if it is plain or has the bare
mark. -/
def scalarTag (properties : Properties) (text : Text) (plain : Bool) : Tag :=
  match properties.tag? with
  | some tag => if tag = ['!'] then kindOf text else Tag.ofText tag
  | none => if plain then kindOf text else .str

end Properties

/-- A node with what it holds. -/
def leaf (properties : Properties) (tag : Tag) (content : Content) (graph : Graph)
    (rest : List Token) : Reading NodeId :=
  let (id, graph) := graph.add ⟨tag, content⟩
  ⟨id, graph.name properties.anchor? id, rest⟩

/-- A node for a scalar. -/
def scalar (properties : Properties) (text : Text) (plain : Bool) (graph : Graph)
    (rest : List Token) : Reading NodeId :=
  leaf properties (properties.scalarTag text plain) (.text text) graph rest

/-- A collection read by a reader of its parts, which may refer to it. -/
def collection {α : Type} (properties : Properties) (own : Tag) (content : List α → Content)
    (graph : Graph) (parts : Graph → Read (Reading (List α))) : Read (Reading NodeId) := do
  let ⟨id, graph, _⟩ := leaf properties (properties.collectionTag own) (content []) graph []
  let ⟨parts, graph, rest⟩ ← parts graph
  pure ⟨id, graph.setContent id (content parts), rest⟩

/-- What is not written. -/
def absent (graph : Graph) (rest : List Token) : Reading NodeId :=
  leaf ⟨none, none⟩ .null (.text []) graph rest

/-- The node that a name stands for. -/
def named (name : Text) (graph : Graph) (rest : List Token) : Read (Reading NodeId) :=
  require ((Dict.get? name graph.names).map fun id => ⟨id, graph, rest⟩)

/-- A node without content, which needs something before it. -/
def readNothing (properties : Properties) (graph : Graph) (tokens : List Token) :
    Read (Reading NodeId) :=
  if properties.isSome then .ok (scalar properties [] true graph tokens) else .error .malformed

/-- The tokens behind the comma that parts an item from the one before it, unless the end of the
collection comes first. -/
def pastComma (first : Bool) (stop : Token) (tokens : List Token) : Read (List Token) := do
  match first, ← looked tokens with
  | true, tokens => pure tokens
  | false, .flowEntry :: rest => pure rest
  | false, token :: rest => if token = stop then pure (token :: rest) else .error .malformed
  | false, [] => .error .malformed

mutual

/-- A node. -/
def read (handles : Tag.Handles) (context : Context) :
    (bound : Nat) → Graph → List Token → Read (Reading NodeId)
  | 0, _, _ => .error .malformed
  | bound + 1, graph, tokens => do
      match ← looked tokens with
      | .alias name :: rest => named name graph rest
      | tokens =>
          let (properties, tokens) ← readProperties handles tokens
          let tokens ← looked tokens
          if properties.anchor?.any fun name => Dict.has name graph.names then
            .error .malformed
          else
            readContent handles context properties bound graph tokens

/-- What a node holds, behind its properties.  A name is not given twice. -/
def readContent (handles : Tag.Handles) (context : Context) (properties : Properties) :
    (bound : Nat) → Graph → List Token → Read (Reading NodeId)
  | 0, _, _ => .error .malformed
  | bound + 1, graph, tokens => do
      match tokens with
      | .scalar text plain :: rest => pure (scalar properties text plain graph rest)
      | .halved points :: rest =>
          pure (leaf properties (properties.scalarTag (Text.withoutHalves points) false)
            (.halved points) graph rest)
      | .flowSequenceStart :: rest =>
          collection properties .seq .items graph fun graph =>
            readFlowItems handles true bound graph rest
      | .flowMappingStart :: rest =>
          collection properties .map .pairs graph fun graph =>
            readFlowPairs handles true bound graph rest
      | .sequenceStart :: rest =>
          if context = .flow then
            readNothing properties graph tokens
          else
            collection properties .seq .items graph fun graph =>
              readItems handles false bound graph rest
      | .mappingStart :: rest =>
          if context = .flow then
            readNothing properties graph tokens
          else
            collection properties .map .pairs graph fun graph =>
              readPairs handles bound graph rest
      | .blockEntry :: _ =>
          if context = .entry then
            collection properties .seq .items graph fun graph =>
              readItems handles true bound graph tokens
          else
            readNothing properties graph tokens
      | _ => readNothing properties graph tokens

/-- A node, or the absent node when a token that cannot start one is next. -/
def readUnless (handles : Tag.Handles) (stops : List Token) (context : Context) :
    (bound : Nat) → Graph → List Token → Read (Reading NodeId)
  | 0, _, _ => .error .malformed
  | bound + 1, graph, tokens => do
      match ← looked tokens with
      | [] => pure (absent graph [])
      | token :: rest =>
          if stops.contains token then pure (absent graph (token :: rest))
          else read handles context bound graph (token :: rest)

/-- The value behind a key, or the absent node when there is none. -/
def readValue (handles : Tag.Handles) (stops : List Token) (context : Context) :
    (bound : Nat) → Graph → List Token → Read (Reading NodeId)
  | 0, _, _ => .error .malformed
  | bound + 1, graph, tokens => do
      match ← looked tokens with
      | .value :: rest => readUnless handles stops context bound graph rest
      | rest => pure (absent graph rest)

/-- Items behind dashes.  Unless they are not indented, the end of their block follows. -/
def readItems (handles : Tag.Handles) (indentless : Bool) :
    (bound : Nat) → Graph → List Token → Read (Reading (List NodeId))
  | 0, _, _ => .error .malformed
  | bound + 1, graph, tokens => do
      match ← looked tokens with
      | .blockEntry :: rest =>
          let stops : List Token :=
            if indentless then [.blockEntry, .key, .value, .blockEnd] else [.blockEntry, .blockEnd]
          let ⟨item, graph, rest⟩ ← readUnless handles stops .block bound graph rest
          let ⟨items, graph, rest⟩ ← readItems handles indentless bound graph rest
          pure ⟨item :: items, graph, rest⟩
      | rest =>
          match indentless, rest with
          | true, rest => pure ⟨[], graph, rest⟩
          | false, .blockEnd :: rest => pure ⟨[], graph, rest⟩
          | false, _ => .error .malformed

/-- The pairs of a block mapping, up to and with its end. -/
def readPairs (handles : Tag.Handles) :
    (bound : Nat) → Graph → List Token → Read (Reading Pairs)
  | 0, _, _ => .error .malformed
  | bound + 1, graph, tokens => do
      match ← looked tokens with
      | .blockEnd :: rest => pure ⟨[], graph, rest⟩
      | .key :: rest =>
          let stops : List Token := [.key, .value, .blockEnd]
          let ⟨key, graph, rest⟩ ← readUnless handles stops .entry bound graph rest
          let ⟨item, graph, rest⟩ ← readValue handles stops .entry bound graph rest
          let ⟨pairs, graph, rest⟩ ← readPairs handles bound graph rest
          pure ⟨(key, item) :: pairs, graph, rest⟩
      | _ => .error .malformed

/-- The items of a bracketed sequence, up to and with its end.  A key among them makes an item that
is a mapping of one pair. -/
def readFlowItems (handles : Tag.Handles) (first : Bool) :
    (bound : Nat) → Graph → List Token → Read (Reading (List NodeId))
  | 0, _, _ => .error .malformed
  | bound + 1, graph, tokens => do
      match ← looked (← pastComma first .flowSequenceEnd tokens) with
      | .flowSequenceEnd :: rest => pure ⟨[], graph, rest⟩
      | .key :: rest =>
          let stops : List Token := [.flowEntry, .flowSequenceEnd]
          let ⟨key, graph, rest⟩ ←
            readUnless handles (.value :: stops) .flow bound graph rest
          let ⟨item, graph, rest⟩ ← readValue handles stops .flow bound graph rest
          let ⟨pair, graph, rest⟩ := leaf ⟨none, none⟩ .map (.pairs [(key, item)]) graph rest
          let ⟨items, graph, rest⟩ ← readFlowItems handles false bound graph rest
          pure ⟨pair :: items, graph, rest⟩
      | tokens =>
          let ⟨item, graph, rest⟩ ← read handles .flow bound graph tokens
          let ⟨items, graph, rest⟩ ← readFlowItems handles false bound graph rest
          pure ⟨item :: items, graph, rest⟩

/-- The pairs of a braced mapping, up to and with its end. -/
def readFlowPairs (handles : Tag.Handles) (first : Bool) :
    (bound : Nat) → Graph → List Token → Read (Reading Pairs)
  | 0, _, _ => .error .malformed
  | bound + 1, graph, tokens => do
      match ← looked (← pastComma first .flowMappingEnd tokens) with
      | .flowMappingEnd :: rest => pure ⟨[], graph, rest⟩
      | .key :: rest =>
          let stops : List Token := [.flowEntry, .flowMappingEnd]
          let ⟨key, graph, rest⟩ ←
            readUnless handles (.value :: stops) .flow bound graph rest
          let ⟨item, graph, rest⟩ ← readValue handles stops .flow bound graph rest
          let ⟨pairs, graph, rest⟩ ← readFlowPairs handles false bound graph rest
          pure ⟨(key, item) :: pairs, graph, rest⟩
      | tokens =>
          let ⟨key, graph, rest⟩ ← read handles .flow bound graph tokens
          let ⟨item, graph, rest⟩ := absent graph rest
          let ⟨pairs, graph, rest⟩ ← readFlowPairs handles false bound graph rest
          pure ⟨(key, item) :: pairs, graph, rest⟩

end

/-! ## Documents -/

/-- The directives at the start of tokens, and the tokens behind them. -/
def readDirectives (stated : Directive.Stated) :
    List Token → Read (Directive.Stated × List Token)
  | .directive directive :: rest => do
      readDirectives (← require (stated.add? directive)) rest
  | .broken fault :: _ => .error fault
  | tokens => .ok (stated, tokens)

/-- Whether a token belongs before a document. -/
def isOpening : Token → Bool
  | .directive _ | .documentStart => true
  | _ => false

/-- A document with a mark at its start: directives, the mark, and the content, which may be
absent. -/
def readMarked (tokens : List Token) : Read (Reading NodeId) := do
  let (stated, tokens) ← readDirectives .nothing tokens
  match tokens with
  | .documentStart :: rest =>
      let rest ← looked rest
      if rest.head?.all fun token => isOpening token || token == .documentEnd then
        pure (absent .empty rest)
      else
        read stated.allHandles .block (8 * rest.length + 8) .empty rest
  | _ => .error .malformed

/-- What may follow the one document: marks for its end, and nothing else.  Directives are looked at
before the document they belong to is refused. -/
def readEnd : List Token → Read Unit
  | [] => .ok ()
  | .documentEnd :: rest => readEnd rest
  | tokens => do
      let (_, rest) ← readDirectives .nothing tokens
      let _ ← looked rest
      .error .malformed

/-- The one document that tokens hold: its graph and the node it is; the absent node when they hold
none. -/
def ofTokens (tokens : List Token) : Read (NodeId × Graph) := do
  match ← looked tokens with
  | [] =>
      let ⟨id, graph, _⟩ := absent .empty []
      pure (id, graph)
  | token :: rest =>
      let ⟨id, graph, rest⟩ ←
        if isOpening token then readMarked (token :: rest)
        else read .known .block (8 * rest.length + 16) .empty (token :: rest)
      readEnd rest
      pure (id, graph)

end Node

end DeclLinker.Yaml

import DeclLinker.Expression.Template
import DeclLinker.Expression.Tree
import Std.Data.HashMap

/-!
# Patterns over tokens

A pattern says which tokens may follow each other.  Alternatives are tried in order, and the first
that fits is taken.  A pattern may also say what is wrong with tokens that fit it: such complaints
are looked for only when the tokens were found to make up no expression.

A search remembers how many tokens it has looked at, and the answers of the rules that are worth
remembering.  Looking beyond the last token is an error: the fault that ended the tokens.
-/

namespace DeclLinker.Expression

/-- The kinds of tokens that patterns tell apart. -/
inductive TokenClass where
  | name
  | contextual
  | number
  | quotation
  | sign (text : Text)
  | lineEnd
  | finish
  deriving DecidableEq

namespace TokenClass

/-- The words that are reserved in some places only. -/
def contextualWords : List Text :=
  ["_", "case", "match"].map String.toList

/-- Whether a token is of a class.  A word that starts a word reserved in some places counts as that
word. -/
def accepts : TokenClass → Token → Bool
  | .name, .name _ => true
  | .contextual, .name text => contextualWords.any fun word => text.isPrefixOf word
  | .number, .number _ => true
  | .quotation, .quotation _ => true
  | .sign text, .sign found => found == text
  | .lineEnd, .lineEnd => true
  | .finish, .finish => true
  | _, _ => false

/-- What is wrong with a token by itself: a decimal number has a limit on its length. -/
def fault? : Token → Option Fault
  | .number (.decimal digits) =>
      if Numeral.digitLimit < digits then some (.tooLong digits) else none
  | _ => none

/-- The tree of a token; signs leave none. -/
def trees : Token → List Tree
  | .name text => [.leaf (.name text)]
  | .number kind => [.leaf (.number kind)]
  | .quotation body => [.leaf (.quotation body)]
  | _ => []

end TokenClass

/-- What is said about tokens that fit a pattern they should not fit. -/
inductive Complaint where
  | plain (text : Text)
  | about (before behind : Text)
  | forgottenComma
  | missingBrackets
  | latePositional
  | looseAmong (text : Text)
  | target
  deriving DecidableEq

/-- A pattern over tokens, with the rules of a grammar by name. -/
inductive Pattern (ρ : Type) where
  | nothing
  | token (kind : TokenClass)
  | both (first second : Pattern ρ)
  | either (first second : Pattern ρ)
  | many (item : Pattern ρ)
  | ahead (item : Pattern ρ)
  | notAhead (item : Pattern ρ)
  | rule (name : ρ)
  | labelled (label : Label) (item : Pattern ρ)
  | grown (first rest : Pattern ρ)
  | joined (item : Pattern ρ)
  | whenAsked (item : Pattern ρ)
  | unasked (item : Pattern ρ)
  | blamed (complaint : Complaint) (item : Pattern ρ)

/-- Tokens that fit: where the next one stands, and the trees they make up. -/
structure Fit where
  stop : Nat
  trees : List Tree

/-- The tokens of a cut in an array, the fault behind them, and what is wrong with an expression in
a quotation by the line it starts in. -/
structure Source where
  tokens : Array Placed
  ending : Fault
  embedded? : (line : Nat) → Text → Option Fault

namespace Source

/-- The quotations between two positions, each with the line it starts in. -/
def quotations (source : Source) (start stop : Nat) : List (Nat × Quotation) :=
  (source.tokens.extract start stop).toList.filterMap fun placed =>
    match placed.token with
    | .quotation quotation => some (placed.line, quotation)
    | _ => none

/-- What is wrong with the quotations between two positions, which are one text. -/
def joinFault? (source : Source) (start stop : Nat) : Option Fault :=
  let quotations := source.quotations start stop
  Quotation.joinFault? source.embedded? (quotations.head?.any fun one => one.2.isBytes) quotations

end Source

namespace Complaint

/-- The words that were once commands. -/
def formerCommands : List Text :=
  ["exec", "print"].map String.toList

/-- The fault that a complaint about tokens up to a position makes; none where it does not apply. -/
def fault? (complaint : Complaint) (source : Source) (fit : Fit) : Option Fault :=
  let isCommand := fit.trees.head?.any (Tree.isName formerCommands)
  match complaint, fit.trees with
  | .plain text, _ => some (.complaint text)
  | .about before behind, subject :: _ => some (.complaint (before ++ subject.kind ++ behind))
  | .forgottenComma, _ =>
      match source.tokens[fit.stop - 1]? with
      | some last =>
          if isCommand || last.depth = 0 then none
          else some (.complaint "invalid syntax. Perhaps you forgot a comma?".toList)
      | none => none
  | .missingBrackets, .leaf (.name word) :: _ =>
      if isCommand then
        some (.complaint ("Missing parentheses in call to ".toList ++ word.quoted ++
          ". Did you mean ".toList ++ word ++ "(...)?".toList))
      else
        none
  | .latePositional, .node _ arguments :: _ =>
      some (.complaint ("positional argument follows keyword argument".toList ++
        if arguments.any Tree.isSpread then " unpacking".toList else []))
  | .looseAmong text, .node _ arguments :: _ =>
      if 1 < (arguments.filter Tree.isPositional).length then some (.complaint text) else none
  | .target, trees =>
      (Tree.unassignable? trees).map fun tree =>
        .complaint ("cannot assign to ".toList ++ tree.kind)
  | _, _ => none

end Complaint

/-- What a search remembers. -/
structure Trail (ρ : Type) [BEq ρ] [Hashable ρ] where
  seen : Nat
  known : Std.HashMap (ρ × Nat) (Option Fit)

/-- A search for a fit. -/
abbrev Search (ρ : Type) [BEq ρ] [Hashable ρ] := ExceptT Fault (StateM (Trail ρ))

/-- The rules of a grammar, which of them are worth remembering, and how much each adds to the depth
of those that stand in each other. -/
structure Grammar (ρ : Type) where
  pattern : ρ → Pattern ρ
  remembers : ρ → Bool
  weight : ρ → Nat

namespace Pattern

variable {ρ : Type} [BEq ρ] [Hashable ρ]

/-- The token at a position. -/
def look (source : Source) (position : Nat) : Search ρ Token := do
  match source.tokens[position]? with
  | some placed =>
      modify fun trail => { trail with seen := Nat.max trail.seen (position + 1) }
      pure placed.token
  | none => throw source.ending

/-- The greatest depth of rules that stand in each other. -/
def depthLimit : Nat := 6000

/-- How the tokens from a position on fit a pattern, if they do.  Complaints are looked for when
asked for.  The fuel bounds how deep patterns stand in each other. -/
def fit (grammar : Grammar ρ) (source : Source) :
    (fuel depth : Nat) → (asked : Bool) → Pattern ρ → (position : Nat) → Search ρ (Option Fit)
  | 0, _, _, _, _ => pure none
  | fuel + 1, depth, asked, pattern, position =>
      let go := fit grammar source fuel depth
      match pattern with
      | .nothing => pure (some ⟨position, []⟩)
      | .token kind => do
          let token ← look source position
          if kind.accepts token then
            match TokenClass.fault? token with
            | some fault => throw fault
            | none => pure (some ⟨position + 1, TokenClass.trees token⟩)
          else
            pure none
      | .both first second => do
          match ← go asked first position with
          | none => pure none
          | some one =>
              match ← go asked second one.stop with
              | none => pure none
              | some two => pure (some ⟨two.stop, one.trees ++ two.trees⟩)
      | .either first second => do
          match ← go asked first position with
          | some one => pure (some one)
          | none => go asked second position
      | .many item => do
          match ← go asked item position with
          | none => pure (some ⟨position, []⟩)
          | some one =>
              match ← go asked (.many item) one.stop with
              | none => pure (some one)
              | some two => pure (some ⟨two.stop, one.trees ++ two.trees⟩)
      | .ahead item => do
          match ← go asked item position with
          | none => pure none
          | some _ => pure (some ⟨position, []⟩)
      | .notAhead item => do
          match ← go asked item position with
          | none => pure (some ⟨position, []⟩)
          | some _ => pure none
      | .rule name => do
          match (← get).known[(name, position)]? with
          | some answer => pure answer
          | none =>
              let inner := depth + grammar.weight name
              if depthLimit < inner then
                throw .exhausted
              let answer ← fit grammar source fuel inner asked (grammar.pattern name) position
              if grammar.remembers name then
                modify fun trail =>
                  { trail with known := trail.known.insert (name, position) answer }
              pure answer
      | .labelled label item => do
          match ← go asked item position with
          | none => pure none
          | some one => pure (some ⟨one.stop, [.node label one.trees]⟩)
      | .grown first rest => do
          match ← go asked first position with
          | none => pure none
          | some one =>
              match ← go asked (.many rest) one.stop with
              | none => pure (some one)
              | some two => pure (some ⟨two.stop, Tree.grow one.trees two.trees⟩)
      | .joined item => do
          match ← go asked item position with
          | none => pure none
          | some one =>
              match source.joinFault? position one.stop with
              | some fault => throw fault
              | none => pure (some ⟨one.stop, [.node .quotations one.trees]⟩)
      | .whenAsked item => if asked then go asked item position else pure none
      | .unasked item => go false item position
      | .blamed complaint item => do
          match ← go asked item position with
          | none => pure none
          | some one =>
              match complaint.fault? source one with
              | some fault => throw fault
              | none => pure none

end Pattern

end DeclLinker.Expression

import DeclLinker.Expression.Pattern

/-!
# The rules of expressions

The rules by name, and the patterns that their forms are put together from.
-/

namespace DeclLinker.Expression

/-- The rules of the grammar. -/
inductive Rule where
  | whole
  | embedded
  | expressions
  | expression
  | conditional
  | starExpression
  | starExpressions
  | starNamed
  | starNamedList
  | assignment
  | named
  | misnamed
  | disjunction
  | conjunction
  | inversion
  | comparison
  | bitOr
  | bitXor
  | bitAnd
  | shift
  | sum
  | term
  | factor
  | power
  | awaited
  | primary
  | atom
  | quotations
  | tuple
  | group
  | generator
  | dict
  | set
  | dictComprehension
  | setComprehension
  | miscomprehension
  | pair
  | pairOrSpread
  | mispair
  | clauses
  | targets
  | target
  | plainTarget
  | arguments
  | argumentList
  | positional
  | keywords
  | keywordOrStarred
  | keywordOrSpread
  | miskeyword
  | starred
  | function
  | parameters
  | starredParameters
  | spreadParameter
  | yielding
  deriving DecidableEq, Hashable

namespace Rule

/-- A pattern of the grammar. -/
abbrev Form := Pattern Rule

/-- The tokens of forms one after the other. -/
def sequence : List Form → Form
  | [] => .nothing
  | [form] => form
  | form :: rest => .both form (sequence rest)

/-- The first of several forms that fits. -/
def choice : List Form → Form
  | [] => .notAhead .nothing
  | [form] => form
  | form :: rest => .either form (choice rest)

/-- A form that may be absent. -/
def optional (form : Form) : Form :=
  .either form .nothing

/-- A form once or more often. -/
def several (form : Form) : Form :=
  .both form (.many form)

/-- A sign. -/
def sign (text : String) : Form :=
  .token (.sign text.toList)

/-- One of several signs. -/
def oneOf (texts : List String) : Form :=
  choice (texts.map sign)

/-- A form once or more often, with commas between. -/
def listOf (form : Form) : Form :=
  .both form (.many (.both (sign ",") form))

/-- A name. -/
def name : Form := .token .name

/-- Operands with signs between, which group from the left. -/
def operation (label : Label) (operand : Rule) (signs : List String) : Form :=
  .grown (.rule operand) (.labelled label (.both (oneOf signs) (.rule operand)))

/-- An expression that is not followed by the sign of an assignment. -/
def unassigned : Form :=
  .both (.rule .expression) (.notAhead (sign ":="))

/-- An assignment or an expression. -/
def assigned : Form :=
  .either (.rule .assignment) unassigned

end Rule

end DeclLinker.Expression

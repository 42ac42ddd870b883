import DeclLinker.Expression.Mistake
import DeclLinker.Expression.Parameter

/-!
# The grammar of expressions

The rules say which tokens make up an expression, from the loosest operators to the tightest, and
what is said about common mistakes.  `parse` gives the tree of a text; tokens that make up no
expression are searched a second time for a complaint that fits.
-/

namespace DeclLinker.Expression

namespace Rule

/-- The comparison signs before an operand, but that for membership. -/
def comparisonSign : Form :=
  choice
    [oneOf ["==", "!=", "<=", "<", ">=", ">"], .both (sign "not") (sign "in"),
      .both (sign "is") (sign "not"), sign "is"]

/-- What may follow an expression as a part of it: a name behind a dot, or arguments. -/
def trailer : Form :=
  choice
    [.labelled .attribute (.both (sign ".") name), .labelled .call (.rule .generator),
      .labelled .call (sequence [sign "(", optional (.rule .arguments), sign ")"])]

/-- A single word or sign that is a value of its own. -/
def constant (word : String) : Form :=
  .labelled (.constant word.toList) (sign word)

/-- An argument with a name. -/
def keyword : Form :=
  .labelled .keyword (sequence [name, sign "=", .rule .expression])

/-- The start of a clause: what stands for each item of another value. -/
def clauseStart : Form :=
  sequence [optional (sign "async"), sign "for", .rule .targets, sign "in"]

/-- A value for each item of another. -/
def clause : Form :=
  .either
    (sequence
      [clauseStart, .rule .disjunction, .many (.both (sign "if") (.rule .disjunction))])
    (.whenAsked
      (.both (.notAhead clauseStart)
        (.blamed .target
          (sequence [optional (sign "async"), sign "for", .rule .starExpressions]))))

/-- Whether a part of a target follows. -/
def targetGoesOn : Form :=
  .ahead (oneOf ["(", "."])

/-- A target that has further parts. -/
def targetStart : Form :=
  .grown (.both (.rule .atom) targetGoesOn) (.both trailer targetGoesOn)

/-- The form of each rule. -/
def form : Rule → Form
  | .whole => sequence [.rule .expressions, .many (.token .lineEnd), .token .finish]
  | .embedded => .rule .starExpressions
  | .expressions =>
      choice
        [.labelled .tuple
            (sequence
              [.rule .expression, several (.both (sign ",") (.rule .expression)),
                optional (sign ",")]),
          .labelled .tuple (.both (.rule .expression) (sign ",")), .rule .expression]
  | .expression => choice [.whenAsked misexpressed, .rule .conditional]
  | .conditional =>
      choice
        [.labelled .conditional
            (sequence
              [.rule .disjunction, sign "if", .rule .disjunction, sign "else",
                .rule .expression]),
          .rule .disjunction, .rule .function]
  | .starExpression =>
      .either (.labelled .starred (.both (sign "*") (.rule .bitOr))) (.rule .expression)
  | .starExpressions => .both (listOf (.rule .starExpression)) (optional (sign ","))
  | .starNamed => .either (.labelled .starred (.both (sign "*") (.rule .bitOr))) (.rule .named)
  | .starNamedList => .both (listOf (.rule .starNamed)) (optional (sign ","))
  | .assignment => .labelled .assignment (sequence [name, sign ":=", .rule .expression])
  | .named => choice [.rule .assignment, .whenAsked (.rule .misnamed), unassigned]
  | .misnamed => misassigned
  | .disjunction => operation .logical .conjunction ["or"]
  | .conjunction => operation .logical .inversion ["and"]
  | .inversion =>
      .either (.labelled .operation (.both (sign "not") (.rule .inversion))) (.rule .comparison)
  | .comparison =>
      .grown (.rule .bitOr)
        (.either (.labelled .comparison (.both comparisonSign (.rule .bitOr)))
          (.labelled .membership (.both (sign "in") (.rule .bitOr))))
  | .bitOr => operation .operation .bitXor ["|"]
  | .bitXor => operation .operation .bitAnd ["^"]
  | .bitAnd => operation .operation .shift ["&"]
  | .shift => operation .operation .sum ["<<", ">>"]
  | .sum => operation .sum .term ["+", "-"]
  | .term => operation .operation .factor ["*", "/", "//", "%", "@"]
  | .factor =>
      choice
        [.labelled .signed (.both (oneOf ["+", "-"]) (.rule .factor)),
          .labelled .operation (.both (sign "~") (.rule .factor)), .rule .power]
  | .power =>
      .either (.labelled .operation (sequence [.rule .awaited, sign "**", .rule .factor]))
        (.rule .awaited)
  | .awaited =>
      .either (.labelled .awaiting (.both (sign "await") (.rule .primary))) (.rule .primary)
  | .primary => .grown (.rule .atom) trailer
  | .atom =>
      choice
        [name, constant "True", constant "False", constant "None", .rule .quotations,
          .token .number,
          .both (.ahead (sign "(")) (choice [.rule .tuple, .rule .group, .rule .generator]),
          .both (.ahead (sign "\x7b"))
            (choice
              [.rule .dict, .rule .set, .rule .dictComprehension, .rule .setComprehension]),
          constant "..."]
  | .quotations => .joined (several (.token .quotation))
  | .tuple =>
      .labelled .tuple
        (sequence
          [sign "(",
            optional
              (sequence [.rule .starNamed, sign ",", optional (.rule .starNamedList)]),
            sign ")"])
  | .group =>
      .either (sequence [sign "(", .either (.rule .yielding) (.rule .named), sign ")"])
        (.whenAsked misgrouped)
  | .generator =>
      .either (.labelled .generator (sequence [sign "(", assigned, .rule .clauses, sign ")"]))
        (.whenAsked (.rule .miscomprehension))
  | .dict =>
      .either
        (.labelled .dict
          (sequence
            [sign "\x7b",
              optional (.both (listOf (.rule .pairOrSpread)) (optional (sign ","))),
              sign "\x7d"]))
        (sequence [sign "\x7b", mispaired, sign "\x7d"])
  | .set => .labelled .set (sequence [sign "\x7b", .rule .starNamedList, sign "\x7d"])
  | .dictComprehension =>
      .either
        (.labelled .dictComprehension
          (sequence [sign "\x7b", .rule .pair, .rule .clauses, sign "\x7d"]))
        (.whenAsked
          (.blamed (.plain "dict unpacking cannot be used in dict comprehension".toList)
            (sequence [sign "\x7b", sign "**", .rule .bitOr, .rule .clauses, sign "\x7d"])))
  | .setComprehension =>
      .either
        (.labelled .setComprehension
          (sequence [sign "\x7b", .rule .named, .rule .clauses, sign "\x7d"]))
        (.whenAsked (.rule .miscomprehension))
  | .miscomprehension => miscomprehended
  | .pair => .labelled .pair (sequence [.rule .expression, sign ":", .rule .expression])
  | .pairOrSpread =>
      .either (.labelled .spread (.both (sign "**") (.rule .bitOr))) (.rule .pair)
  | .mispair =>
      choice
        (.blamed (.plain "':' expected after dictionary key".toList)
          (.both (.rule .expression) (.notAhead (sign ":"))) :: misvalued)
  | .clauses => several clause
  | .targets => .both (listOf (.rule .target)) (optional (sign ","))
  | .target =>
      .either (sequence [sign "*", .notAhead (sign "*"), .rule .target]) (.rule .plainTarget)
  | .plainTarget =>
      choice
        [sequence [targetStart, sign ".", name, .notAhead targetGoesOn], name,
          sequence [sign "(", .rule .plainTarget, sign ")"],
          sequence
            [sign "(",
              optional
                (sequence
                  [.rule .target, sign ",",
                    optional (.both (listOf (.rule .target)) (optional (sign ",")))]),
              sign ")"]]
  | .arguments =>
      .either
        (sequence [.rule .argumentList, optional (sign ","), .ahead (sign ")")])
        (.whenAsked misargued)
  | .argumentList =>
      .either
        (.both (listOf (.rule .positional)) (optional (.both (sign ",") (.rule .keywords))))
        (.rule .keywords)
  | .positional => .either (.rule .starred) (.both assigned (.notAhead (sign "=")))
  | .keywords =>
      choice
        [sequence [listOf (.rule .keywordOrStarred), sign ",", listOf (.rule .keywordOrSpread)],
          listOf (.rule .keywordOrStarred), listOf (.rule .keywordOrSpread)]
  | .keywordOrStarred => choice [.whenAsked (.rule .miskeyword), keyword, .rule .starred]
  | .keywordOrSpread =>
      choice
        [.whenAsked (.rule .miskeyword), keyword,
          .labelled .spread (.both (sign "**") (.rule .expression))]
  | .miskeyword => miskeyed
  | .starred => .labelled .starred (.both (sign "*") (.rule .expression))
  | .function =>
      .labelled .function
        (sequence [sign "lambda", optional (.rule .parameters), sign ":", .rule .expression])
  | .parameters =>
      let starred := optional (.rule .starredParameters)
      choice
        [.whenAsked misparametered,
          sequence [slashedBare, .many bareParameter, .many defaultedParameter, starred],
          sequence [slashedDefaulted, .many defaultedParameter, starred],
          sequence [several bareParameter, .many defaultedParameter, starred],
          sequence [several defaultedParameter, starred],
          .rule .starredParameters]
  | .starredParameters =>
      choice
        [.whenAsked misstarred,
          sequence [sign "*", bareParameter, .many anyParameter, optional (.rule .spreadParameter)],
          sequence [sign "*", sign ",", several anyParameter, optional (.rule .spreadParameter)],
          .rule .spreadParameter]
  | .spreadParameter => .either (.whenAsked misspread) (.both (sign "**") bareParameter)
  | .yielding =>
      .labelled .yielding
        (.both (sign "yield")
          (.either (.both (sign "from") (.rule .expression)) (optional (.rule .starExpressions))))

/-- The rules whose answers are remembered. -/
def remembered : List Rule :=
  [.expression, .starExpression, .misnamed, .disjunction, .conjunction, .inversion, .bitOr,
    .bitXor, .bitAnd, .shift, .sum, .term, .factor, .awaited, .primary, .quotations, .arguments,
    .target, .plainTarget]

/-- How much a rule adds to the depth: what groups from the left counts for two, and what stands in
brackets for the choice between its kinds too. -/
def weight : Rule → Nat
  | .conditional | .misnamed | .miscomprehension | .miskeyword => 0
  | .bitOr | .bitXor | .bitAnd | .shift | .sum | .term | .primary => 2
  | .quotations | .starNamedList | .dict | .set | .dictComprehension => 2
  | .tuple | .group | .generator | .setComprehension | .pairOrSpread => 3
  | _ => 1

/-- The grammar of expressions. -/
def grammar : Grammar Rule := ⟨form, remembered.contains, weight⟩

end Rule

/-- How deep patterns may stand in each other for one token. -/
def depthPerToken : Nat := 400

/-- A search for a rule from the start of a source on, from what an earlier search has seen. -/
def search (rule : Rule) (source : Source) (asked : Bool) (seen : Nat) :
    Except Fault (Option Fit) × Trail Rule :=
  Pattern.fit Rule.grammar source (depthPerToken * (source.tokens.size + 1)) 0 asked
    (.rule rule) 0 |>.run ⟨seen, ∅⟩

/-- What is told in place of a fault found in tokens: a fault that ended them later on.  That a
bracket was never closed is told only where the last token seen stands in a later line. -/
def later (cut : Cut) (source : Source) (seen : Nat) (fault : Fault) : Fault :=
  match cut.fault? with
  | none => fault
  | some ending =>
      if ending.isLoud then
        ending
      else
        match cut.opened?, source.tokens[seen - 1]? with
        | some (bracket, line), some last =>
            if line < last.line then .neverClosed bracket else fault
        | _, _ => fault

/-- What is told of a fault found in tokens.  Where a backslash ended them, the rest of its line is
looked at too. -/
def told (cut : Cut) (source : Source) (seen : Nat) (fault : Fault) : Fault :=
  if fault.isGeneral then
    fault
  else if cut.fault? = some fault then
    match cut.behind? with
    | some (state, rest) => later (CutState.cutFrom 0 state rest) source seen fault
    | none => fault
  else
    later cut source seen fault

/-- The deepest tree that is made. -/
def treeLimit : Nat := 2940

/-- The tree of a text cut into tokens, or what is wrong with it, given what is wrong with the
expressions in its quotations.  A complaint stands where the search has seen the text to its end. -/
def ofCut (rule : Rule) (embedded? : (line : Nat) → Text → Option Fault) (cut : Cut) :
    Except Fault (List Tree) :=
  let source : Source := ⟨cut.tokens.toArray, cut.fault?.getD .unexpected, embedded?⟩
  match search rule source false 0 with
  | (.error fault, trail) => .error (told cut source trail.seen fault)
  | (.ok (some fit), _) => .ok fit.trees
  | (.ok none, trail) =>
      match search rule source true trail.seen with
      | (.error fault, trail) => .error (told cut source trail.seen fault)
      | (.ok _, again) =>
          match source.tokens[trail.seen - 1]? with
          | some ⟨.indent, _, _⟩ => .error .indented
          | _ => .error (later cut source again.seen .unexpected)

/-- What is wrong with an expression in a quotation, which is read as if it stood between round
brackets.  Expressions in as many quotations around each other as the depth allows are looked at. -/
def embeddedFault? : (depth line : Nat) → Text → Option Fault
  | 0, _, _ => none
  | depth + 1, line, text =>
      match ofCut .embedded (embeddedFault? depth) (cut line ('(' :: text ++ [')'])) with
      | .error fault => some fault.inside
      | .ok _ => none

/-- The tree of an expression, or what is wrong with it. -/
def parse (text : Text) : Except Fault (List Tree) :=
  if text.contains (Char.ofNat 0) then
    .error .nulCharacter
  else do
    let trees ← ofCut .whole (embeddedFault? text.length) (cut 1 text)
    if treeLimit < Tree.depths trees then .error .tooNested else .ok trees

end DeclLinker.Expression

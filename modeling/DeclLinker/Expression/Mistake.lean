import DeclLinker.Expression.Rule

/-!
# Common mistakes

What is said about tokens that make up no expression but look like a mistake that is often made.
-/

namespace DeclLinker.Expression.Rule

/-- Text that complains about an equals sign behind a name. -/
def equalsText : Text :=
  "invalid syntax. Maybe you meant '==' or ':=' instead of '='?".toList

/-- What is said about an expression where something else should stand. -/
def misexpressed : Form :=
  choice
    [.blamed .forgottenComma
      (sequence
        [.notAhead (.either (.both name (.token .quotation)) (.token .contextual)),
          .rule .disjunction, .unasked (.rule .conditional)]),
      .blamed (.plain "expected 'else' after 'if' expression".toList)
        (sequence
          [.rule .disjunction, sign "if", .rule .disjunction, .notAhead (oneOf ["else", ":"])]),
      .blamed .missingBrackets
        (sequence [name, .notAhead (sign "("), .rule .starExpressions])]

/-- What is said about an assignment to what is no name. -/
def misassigned : Form :=
  let free := .notAhead (oneOf ["=", ":="])
  choice
    [.blamed (.about "cannot use assignment expressions with ".toList [])
        (sequence [.rule .expression, sign ":=", .rule .expression]),
      .blamed (.plain equalsText) (sequence [name, sign "=", .rule .bitOr, free]),
      .blamed
        (.about "cannot assign to ".toList " here. Maybe you meant '==' instead of '='?".toList)
        (sequence
          [.notAhead
              (choice [.rule .tuple, .rule .generator, oneOf ["True", "None", "False"]]),
            .rule .bitOr, sign "=", .rule .bitOr, free])]

/-- What is said about what stands between round brackets. -/
def misgrouped : Form :=
  choice
    [.blamed (.plain "cannot use starred expression here".toList)
        (sequence [sign "(", .rule .starred, sign ")"]),
      .blamed (.plain "cannot use double starred expression here".toList)
        (sequence [sign "(", sign "**", .rule .expression, sign ")"])]

/-- What is said about items before a clause. -/
def miscomprehended : Form :=
  let target := "did you forget parentheses around the comprehension target?".toList
  choice
    [.blamed (.plain "iterable unpacking cannot be used in comprehension".toList)
        (sequence [oneOf ["(", "\x7b"], .rule .starred, .rule .clauses]),
      .blamed (.plain target)
        (sequence
          [sign "\x7b", .rule .starNamed, sign ",", .rule .starNamedList, .rule .clauses]),
      .blamed (.plain target)
        (sequence [sign "\x7b", .rule .starNamed, sign ",", .rule .clauses])]

/-- The mistakes behind the colon of a pair. -/
def misvalued : List Form :=
  [.blamed (.plain "cannot use a starred expression in a dictionary value".toList)
      (sequence [.rule .expression, sign ":", sign "*", .rule .bitOr]),
    .blamed (.plain "expression expected after dictionary key and ':'".toList)
      (sequence [.rule .expression, sign ":", .ahead (oneOf ["\x7d", ","])])]

/-- What is said about the pairs of a dictionary. -/
def mispaired : Form :=
  choice (sequence [listOf (.rule .pairOrSpread), sign ",", .rule .mispair] :: misvalued)

/-- What is said about the arguments of a call. -/
def misargued : Form :=
  let loose := "Generator expression must be parenthesized".toList
  choice
    [.blamed (.plain "iterable argument unpacking follows keyword argument unpacking".toList)
        (sequence [.rule .argumentList, sign ",", sign "*"]),
      .blamed (.plain loose)
        (sequence
          [.rule .expression, .rule .clauses, sign ",",
            optional
              (.either (.rule .argumentList) (.both (.rule .expression) (.rule .clauses)))]),
      .blamed (.plain equalsText)
        (sequence [name, sign "=", .rule .expression, .rule .clauses]),
      .blamed (.looseAmong loose)
        (sequence [.labelled .call (.rule .argumentList), .rule .clauses]),
      .blamed (.plain loose)
        (sequence [.rule .argumentList, sign ",", .rule .expression, .rule .clauses]),
      .blamed .latePositional
        (sequence [.labelled .call (.rule .argumentList), sign ",", .rule .argumentList])]

/-- What is said about an argument with a name. -/
def miskeyed : Form :=
  choice
    [.blamed (.about "cannot assign to ".toList [])
        (.both
          (choice (["True", "False", "None"].map fun word =>
            .labelled (.constant word.toList) (sign word)))
          (sign "=")),
      .blamed (.plain equalsText)
        (sequence [name, sign "=", .rule .expression, .rule .clauses]),
      .blamed
        (.plain "expression cannot contain assignment, perhaps you meant \"==\"?".toList)
        (sequence [.notAhead (.both name (sign "=")), .rule .expression, sign "="])]

end DeclLinker.Expression.Rule

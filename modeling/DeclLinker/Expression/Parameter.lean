import DeclLinker.Expression.Rule

/-!
# Parameters

The parameters of a function without a name: those before a slash, those with a default, and those
from a star on.  Each is followed by a comma or by the colon behind them all.
-/

namespace DeclLinker.Expression.Rule

/-- The value of a parameter that is not given. -/
def defaultValue : Form :=
  .either (.both (sign "=") (.rule .expression))
    (.whenAsked
      (.blamed (.plain "expected default value expression".toList)
        (.both (sign "=") (.ahead (oneOf [")", ","])))))

/-- A parameter and what divides it from the next one. -/
def divided (form : Form) : Form :=
  .either (.both form (sign ",")) (.both form (.ahead (sign ":")))

/-- A parameter without a default. -/
def bareParameter : Form := divided name

/-- A parameter with a default. -/
def defaultedParameter : Form := divided (.both name defaultValue)

/-- A parameter with or without a default. -/
def anyParameter : Form := divided (.both name (optional defaultValue))

/-- Parameters without defaults before a slash. -/
def slashedBare : Form :=
  divided (.both (several bareParameter) (sign "/"))

/-- Parameters of which the last has a default before a slash. -/
def slashedDefaulted : Form :=
  divided (sequence [.many bareParameter, several defaultedParameter, sign "/"])

/-- What is said about the parameters of a function. -/
def misparametered : Form :=
  let slashed := .either slashedBare slashedDefaulted
  choice
    [.blamed (.plain "non-default argument follows default argument".toList)
        (sequence
          [.many bareParameter, .either slashedDefaulted (several defaultedParameter),
            bareParameter]),
      .blamed (.plain "Lambda expression parameters cannot be parenthesized".toList)
        (sequence [.many bareParameter, sign "(", listOf name, optional (sign ","), sign ")"]),
      .blamed (.plain "at least one argument must precede /".toList)
        (.both (sign "/") (sign ",")),
      .blamed (.plain "/ may appear only once".toList)
        (sequence [slashed, .many anyParameter, sign "/"]),
      .blamed (.plain "/ must be ahead of *".toList)
        (sequence
          [optional slashed, .many anyParameter, sign "*", .either (sign ",") bareParameter,
            .many anyParameter, sign "/"]),
      .blamed (.plain "expected comma between / and *".toList)
        (sequence [several anyParameter, sign "/", sign "*"])]

/-- What is said about the parameters from a star on. -/
def misstarred : Form :=
  choice
    [.blamed (.plain "named arguments must follow bare *".toList)
        (.both (sign "*")
          (.either (sign ":") (.both (sign ",") (oneOf [":", "**"])))),
      .blamed (.plain "var-positional argument cannot have default value".toList)
        (sequence [sign "*", name, sign "="]),
      .blamed (.plain "* argument may appear only once".toList)
        (sequence
          [sign "*", .either bareParameter (sign ","), .many anyParameter, sign "*",
            .either bareParameter (sign ",")])]

/-- What is said about the last parameter. -/
def misspread : Form :=
  let late := "arguments cannot follow var-keyword argument".toList
  choice
    [.blamed (.plain "var-keyword argument cannot have default value".toList)
        (sequence [sign "**", name, sign "="]),
      .blamed (.plain late) (sequence [sign "**", name, sign ",", name]),
      .blamed (.plain late) (sequence [sign "**", name, sign ",", oneOf ["*", "**", "/"]])]

end DeclLinker.Expression.Rule

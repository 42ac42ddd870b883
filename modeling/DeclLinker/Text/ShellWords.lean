import DeclLinker.Text.Quoted

/-!
# Words of a command line

A command line is cut into words at blanks.  Quotes keep blanks together, and a backslash takes the
character behind it as it is; between double quotes it does so only for itself and the quote.  A
line may end inside quotes: it is one that is still being written.
-/

namespace DeclLinker.Text

/-- Where a character of a command line stands: between words, in a word, in quotes, or behind a
backslash, which may be in quotes itself. -/
inductive ShellPlace where
  | gap
  | word
  | quoted (quote : Char)
  | escaped (quote? : Option Char)
  deriving DecidableEq

/-- The blanks between words. -/
def isShellBlank (char : Char) : Bool :=
  char == ' ' || char == '\t' || char == '\r' || char == '\n'

/-- The place behind a character that is neither quoted nor a blank, and the characters it adds to a
word. -/
def shellStep (char : Char) : ShellPlace × Text :=
  if char = singleQuote || char = doubleQuote then (.quoted char, [])
  else if char = '\\' then (.escaped none, [])
  else (.word, [char])

/-- The words of the rest of a line, given the word that is being read and whether it had quotes. -/
def shellWordsFrom : ShellPlace → (word : Text) → (hadQuotes : Bool) → Text → List Text
  | .gap, _, _, [] => []
  | .word, word, hadQuotes, [] => if word.isEmpty && !hadQuotes then [] else [word]
  | _, word, _, [] => [word]
  | .gap, word, hadQuotes, char :: rest =>
      if isShellBlank char then
        shellWordsFrom .gap word hadQuotes rest
      else
        let (place, added) := shellStep char
        shellWordsFrom place added false rest
  | .word, word, hadQuotes, char :: rest =>
      if isShellBlank char then
        if word.isEmpty && !hadQuotes then shellWordsFrom .gap [] false rest
        else word :: shellWordsFrom .gap [] false rest
      else
        let (place, added) := shellStep char
        shellWordsFrom place (word ++ added) hadQuotes rest
  | .quoted quote, word, _, char :: rest =>
      if char = quote then shellWordsFrom .word word true rest
      else if char = '\\' && quote = doubleQuote then
        shellWordsFrom (.escaped (some quote)) word true rest
      else shellWordsFrom (.quoted quote) (word ++ [char]) true rest
  | .escaped none, word, hadQuotes, char :: rest =>
      shellWordsFrom .word (word ++ [char]) hadQuotes rest
  | .escaped (some quote), word, hadQuotes, char :: rest =>
      let kept := if char = '\\' || char = quote then [char] else ['\\', char]
      shellWordsFrom (.quoted quote) (word ++ kept) hadQuotes rest

/-- The words of a line. -/
def shellWords (line : Text) : List Text :=
  shellWordsFrom .gap [] false line

end DeclLinker.Text

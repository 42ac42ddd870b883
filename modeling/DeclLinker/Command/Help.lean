import DeclLinker.Number.Numeral

/-!
# Help pages

A help page has a usage line, paragraphs, and lists of names with what is said about each.  It is
laid out for a width: words go on a line as long as they fit, and no word is broken.
-/

namespace DeclLinker.Command

/-- Words with blanks between. -/
def joinWords (words : List Text) : Text :=
  [' '].intercalate words

/-- The words of a text with blanks between them. -/
def wordsOf (text : Text) : List Text :=
  (text.splitOn ' ').filter fun word => !word.isEmpty

/-- Words behind those of a line that fit a width; each goes on the line if it still fits there, and
otherwise starts the next one. -/
def wrapFrom (width : Nat) (line : List Text) : List Text → List Text
  | [] => if line.isEmpty then [] else [joinWords line]
  | word :: rest =>
      if line.isEmpty || (joinWords (line ++ [word])).length ≤ width then
        wrapFrom width (line ++ [word]) rest
      else
        joinWords line :: wrapFrom width [word] rest

/-- A text in lines of a width. -/
def wrap (width : Nat) (text : Text) : List Text :=
  wrapFrom width [] (wordsOf text)

/-- As many words of a text as fit a width, with dots in place of the others. -/
def shorten (width : Nat) (text : Text) : Text :=
  let dots := "...".toList
  if text.length ≤ width then
    text
  else
    let words := wordsOf text
    let fits (count : Nat) := (joinWords (words.take count) ++ dots).length ≤ width
    let count := ((List.range words.length).filter fun count => fits count).foldl max 0
    joinWords (words.take count) ++ dots

/-- A help page; commands are listed by name with the text about them, of which the start may do. -/
structure HelpPage where
  usage : Text
  paragraphs : List Text
  options : List (Text × Text)
  commands : List (Text × Text)

namespace HelpPage

/-- How far everything but the headings is indented. -/
def indent : Nat := 2

/-- Blanks. -/
def blanks (count : Nat) : Text :=
  List.replicate count ' '

/-- The lines of a paragraph. -/
def paragraphLines (width : Nat) (text : Text) : List Text :=
  (wrap (width - indent) text).map fun line => blanks indent ++ line

/-- The width of the longest of several names. -/
def columnWidth (rows : List (Text × Text)) : Nat :=
  rows.foldl (fun widest row => max widest row.1.length) 0

/-- The lines about a name: the text starts in a column behind the names. -/
def rowLines (width column : Nat) (row : Text × Text) : List Text :=
  match wrap (width - column - indent) row.2 with
  | [] => [blanks indent ++ row.1]
  | first :: rest =>
      (blanks indent ++ row.1 ++ blanks (column - row.1.length) ++ first) ::
        rest.map fun line => blanks (column + indent) ++ line

/-- The lines of a list under a heading, with an empty line before it; none for an empty list. -/
def listLines (width : Nat) (heading : String) (rows : List (Text × Text)) : List Text :=
  if rows.isEmpty then
    []
  else
    [] :: heading.toList :: rows.flatMap (rowLines width (columnWidth rows + indent))

/-- The commands with as much of their texts as stands on one line. -/
def shortCommands (width : Nat) (page : HelpPage) : List (Text × Text) :=
  let room := width - columnWidth page.commands - 3 * indent
  page.commands.map fun (name, text) => (name, shorten room text)

/-- The lines of a help page. -/
def lines (width : Nat) (page : HelpPage) : List Text :=
  page.usage :: page.paragraphs.flatMap (fun text => [] :: paragraphLines width text) ++
    listLines width "Options:" page.options ++
    listLines width "Commands:" (page.shortCommands width)

/-- A help page as it is printed. -/
def render (width : Nat) (page : HelpPage) : Text :=
  (page.lines width).flatMap fun line => line ++ ['\n']

/-- The columns of a terminal that says nothing about its width, which are also the most that are
used. -/
def usualColumns : Nat := 80

/-- The width for a text that stands alone behind the name of a command. -/
def briefWidth : Nat := 45

/-- The least width of a page. -/
def leastWidth : Nat := 50

/-- The width of pages, given what the environment says about the columns of the terminal. -/
def widthFor (columns? : Option Text) : Nat :=
  let columns :=
    match columns?.bind fun text => (Numeral.read 10 text).toOption with
    | some (.ofNat (columns + 1)) => columns + 1
    | _ => usualColumns
  max (min columns usualColumns - 2) leastWidth

end HelpPage

end DeclLinker.Command

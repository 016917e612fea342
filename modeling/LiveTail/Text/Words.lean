/-!
# Command words

A command line is cut into words at unquoted blanks (space, tab, carriage return,
newline). Single quotes keep everything literal; double quotes keep blanks; a backslash
outside single quotes makes the next character literal, so that `\t` is a plain `t`. A
quoted empty word counts.
The line ends early at an unquoted `;`, `&`, `|`, `<` or `>`; before `>` a word that
starts with a digit (a redirected descriptor) is dropped. `$(` opens a group that keeps
blanks until `)`; any other unquoted `(` is an error, and so is an unclosed quote, group
or escape. Backquotes group the same way and are kept, as is everything in a group.
-/
namespace LiveTail.Words

/-- Whether the current word holds anything yet, or was quoted empty. -/
inductive Got where
  | nothing
  | chars
  | quoted
  deriving DecidableEq, Repr

/-- The reader's state between characters. -/
structure Reader where
  words : Array String := #[]
  word : String := ""
  got : Got := .nothing
  escaped : Bool := false
  single : Bool := false
  double : Bool := false
  back : Bool := false
  group : Bool := false
  deriving Repr

/-- A blank that separates words. -/
def isBlank (c : Char) : Bool := c = ' ' || c = '\t' || c = '\r' || c = '\n'

/-- What one character does: the next state, the end of the line, or an error. -/
inductive Step where
  | next (r : Reader)
  | stop (r : Reader)
  | error

/-- Keeps a character in the current word. -/
def Reader.keep (r : Reader) (c : Char) : Reader := { r with got := .chars, word := r.word.push c }

/-- Reads one character. -/
def step (r : Reader) (c : Char) : Step :=
  if r.escaped then .next { r.keep c with escaped := false }
  else if c = '\\' then
    if r.single then .next { r with word := r.word.push c } else .next { r with escaped := true }
  else if isBlank c then
    if r.single || r.double || r.back || r.group then .next { r with word := r.word.push c }
    else if r.got ≠ .nothing then .next { r with words := r.words.push r.word, word := "", got := .nothing }
    else .next r
  else if c = '`' then
    if !r.single && !r.double && !r.group then .next ({ r with back := !r.back }.keep c)
    else .next (r.keep c)
  else if c = ')' then
    if !r.single && !r.double && !r.back then .next ({ r with group := !r.group }.keep c)
    else .next (r.keep c)
  else if c = '(' then
    if !r.single && !r.double && !r.back then
      if !r.group && r.word.endsWith "$" then .next { r with group := true, word := r.word.push c }
      else .error
    else .next (r.keep c)
  else if c = '"' then
    if !r.single && !r.group then
      .next { r with double := !r.double, got := if r.double then .quoted else r.got }
    else .next (r.keep c)
  else if c = '\'' then
    if !r.double && !r.group then
      .next { r with single := !r.single, got := if r.single then .quoted else r.got }
    else .next (r.keep c)
  else if c = ';' || c = '&' || c = '|' || c = '<' || c = '>' then
    if !(r.single || r.double || r.back || r.group) then
      let digitFirst := match r.word.toList with
        | d :: _ => d.isDigit
        | [] => false
      if c = '>' && digitFirst then .stop { r with got := .nothing } else .stop r
    else .next (r.keep c)
  else .next (r.keep c)

/-- Reads the characters in order. -/
def run (r : Reader) : List Char → Option Reader
  | [] => some r
  | c :: rest =>
    match step r c with
    | .next r => run r rest
    | .stop r => some r
    | .error => none

/-- The words of a command line, or none when it is malformed. -/
def split (line : String) : Option (List String) := do
  let r ← run {} line.toList
  let r := if r.got ≠ .nothing then { r with words := r.words.push r.word } else r
  if r.escaped || r.single || r.double || r.back || r.group then none else some r.words.toList

end LiveTail.Words

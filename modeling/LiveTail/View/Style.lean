import LiveTail.View.Cells
/-!
# Styled text

A style sets boldness, a foreground and a background colour, and blank columns on each
side. Rendering a text in a style expands tabs to four spaces, turns carriage return and
newline into newline, and wraps each line in one select-graphic-rendition sequence and a
reset. Padding columns carry the background only. A text of several lines is then padded
with blanks to its widest line, so that it forms a block.

Colours are written for a terminal with true colour: a palette entry below 16 as one of the
sixteen basic codes, a higher one as a 256-colour index, and an RGB colour channel by
channel.
-/
namespace LiveTail

/-- A terminal colour: an entry of the 256-colour palette, or red, green and blue bytes. -/
inductive Colour where
  | palette (n : Nat)
  | rgb (r g b : Nat)
  deriving DecidableEq, Repr

namespace Colour

/-- A colour byte as the terminal layer writes it: scaled into the unit interval and back
in binary floating point, then truncated, so some bytes come out one lower. -/
def channel (v : Nat) : Nat := ((Float.ofNat v * (1.0 / 255.0)) * 255.0).toUInt8.toNat

/-- The parameters that select the colour; `ground` is 3 for the foreground and 4 for the
background. -/
def params (c : Colour) (ground : Nat) : String :=
  match c with
  | .palette n =>
    if n < 8 then toString ((ground - 3) * 10 + 30 + n)
    else if n < 16 then toString ((ground - 3) * 10 + 90 + (n - 8))
    else toString ground ++ "8;5;" ++ toString n
  | .rgb r g b =>
    toString ground ++ "8;2;" ++ toString (channel r) ++ ";" ++ toString (channel g) ++ ";"
      ++ toString (channel b)

end Colour

/-- A text style. -/
structure Style where
  bold : Bool := false
  foreground : Option Colour := none
  background : Option Colour := none
  /-- Blank columns on each side. -/
  padding : Nat := 0
  deriving DecidableEq, Repr

namespace Style

/-- The select-graphic-rendition parameters, in the order bold, foreground, background. -/
def params (s : Style) : List String :=
  (if s.bold then ["1"] else []) ++ (s.foreground.map (·.params 3)).toList
    ++ (s.background.map (·.params 4)).toList

/-- Wraps text in parameters and a reset; no parameters leave it bare. -/
def wrapIn (ps : List String) (t : String) : String :=
  if ps.isEmpty then t else "\x1b[" ++ ";".intercalate ps ++ "m" ++ t ++ "\x1b[0m"

/-- Blank columns in the style's background. -/
def blanks (s : Style) (n : Nat) : String :=
  wrapIn (s.background.map (·.params 4)).toList (String.ofList (List.replicate n ' '))

/-- Tabs as four spaces. -/
def expandTabs (t : String) : String :=
  String.ofList (t.toList.flatMap fun c => if c = '\t' then [' ', ' ', ' ', ' '] else [c])

/-- The characters with every carriage return that comes before a newline dropped, scanning
from the left. -/
def joinCrlf : List Char → List Char
  | '\r' :: '\n' :: rest => '\n' :: joinCrlf rest
  | c :: rest => c :: joinCrlf rest
  | [] => []

/-- Pads every line to the widest one with blanks in the style's background. -/
def block (s : Style) (lines : List String) : List String :=
  let widest := (lines.map Cells.lineWidth).foldl max 0
  lines.map fun l =>
    let short := widest - Cells.lineWidth l
    if short > 0 then l ++ s.blanks short else l

/-- The text rendered in the style. -/
def render (s : Style) (t : String) : String :=
  let t := String.ofList (joinCrlf (expandTabs t).toList)
  if s = {} then t
  else
    let lines := (t.splitOn "\n").map (wrapIn s.params)
    let lines :=
      if s.padding > 0 then lines.map fun l => s.blanks s.padding ++ l ++ s.blanks s.padding
      else lines
    let lines := if lines.length > 1 then s.block lines else lines
    "\n".intercalate lines

end Style
end LiveTail

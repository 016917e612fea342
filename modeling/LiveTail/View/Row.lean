import LiveTail.Event
import LiveTail.Path.Basic
import LiveTail.Text.Ansi
import LiveTail.View.Clock
import LiveTail.View.Style
/-!
# Event rows

An event is shown as one row: an optional time stamp, the session's label, and the line or
the end notice, joined by a bar. The styled row colours each part; the label colour is
picked from a palette of seven by the FNV-1a hash of the session identifier, so a session
keeps its colour. Escape sequences in a line are stripped unless passed through. When
truncation is on and the row is wider than the terminal, it keeps its escape sequences and
one character fewer than the terminal width, counted as characters, and ends in an
ellipsis. The plain row has no styles and is never cut.
-/
namespace LiveTail

/-- Which time stamp leads a row. -/
inductive Stamp where
  | none
  | clock
  | iso
  deriving DecidableEq, Repr

/-- Colours for a dark or a light terminal background. -/
inductive Theme where
  | dark
  | light
  deriving DecidableEq, Repr

/-- How rows are drawn. -/
structure RowConfig where
  stamp : Stamp := .none
  theme : Theme := .dark
  /-- Remove escape sequences from lines. -/
  stripEscapes : Bool := true
  /-- Cut rows wider than the terminal. -/
  truncate : Bool := true
  /-- The terminal width; zero or less means 120. -/
  width : Int := 120
  showIds : Bool := true
  /-- The moment stamps show. -/
  now : Instant := ⟨0, 0⟩
  deriving Repr

/-- The styles of one theme. -/
structure Palette where
  labels : List Style
  stopped : Style
  truncated : Style
  failed : Style
  stamp : Style
  message : Style
  separator : Style

namespace Palette

/-- Bold label styles in the given palette entries. -/
def labelsOf (ns : List Nat) : List Style := ns.map fun n => { bold := true, foreground := some (.palette n) }

/-- A plain style in one palette entry. -/
def tint (n : Nat) : Style := { foreground := some (.palette n) }

/-- The styles for a dark background. -/
def dark : Palette where
  labels := labelsOf [39, 114, 213, 220, 81, 208, 147]
  stopped := tint 245
  truncated := tint 220
  failed := { tint 196 with bold := true }
  stamp := tint 243
  message := tint 255
  separator := tint 240

/-- The styles for a light background. -/
def light : Palette where
  labels := labelsOf [27, 28, 127, 130, 31, 166, 61]
  stopped := tint 244
  truncated := tint 172
  failed := { tint 160 with bold := true }
  stamp := tint 242
  message := tint 0
  separator := tint 249

/-- The palette of a theme. -/
def ofTheme : Theme → Palette
  | .dark => dark
  | .light => light

/-- The style of an end notice. -/
def ending (p : Palette) : Option EndKind → Style
  | some .stopped => p.stopped
  | some .truncated => p.truncated
  | _ => p.failed

end Palette

/-- The 32-bit FNV-1a hash of a text's bytes. -/
def fnv1a (s : String) : UInt32 :=
  s.toUTF8.foldl (fun h b => (h ^^^ b.toUInt32) * 16777619) 2166136261

/-- The label of a session: the last name of a path, the identifier itself otherwise. -/
def label (id : String) : String := if id.contains '/' then Path.base id else id

/-- The text of an end notice: the kind in brackets, then the message if there is one. -/
def endingText (kind : Option EndKind) (message : String) : String :=
  if message = "" then "[" ++ Event.kindName kind ++ "]"
  else "[" ++ Event.kindName kind ++ "] " ++ message

/-- The separator between the parts of a row. -/
def bar : String := " │ "

/-- Keeps every character inside an escape sequence (from escape up to and including the
next ASCII letter) and the first `budget` of the others. -/
def keepVisible : Nat → Bool → List Char → List Char
  | _, _, [] => []
  | budget, inEscape, c :: rest =>
    if c = Ansi.esc then c :: keepVisible budget true rest
    else if inEscape then c :: keepVisible budget (!c.isAlpha) rest
    else match budget with
      | 0 => keepVisible 0 false rest
      | b + 1 => c :: keepVisible b false rest

/-- A text cut to `budget` visible characters, its escape sequences kept. -/
def cutTo (s : String) (budget : Nat) : String := String.ofList (keepVisible budget false s.toList)

namespace RowConfig

/-- The width rows are cut to. -/
def columns (c : RowConfig) : Nat := if c.width ≤ 0 then 120 else c.width.toNat

/-- The stamp text, if rows carry one. -/
def stampText (c : RowConfig) : Option String :=
  match c.stamp with
  | .none => none
  | .clock => some c.now.clockText
  | .iso => some c.now.isoText

/-- A line as shown, escape sequences stripped if so configured. -/
def lineText (c : RowConfig) (text : String) : String :=
  if c.stripEscapes then Ansi.strip text else text

/-- Cuts a styled row that is wider than the terminal. -/
def fit (c : RowConfig) (row : String) : String :=
  if c.truncate && Cells.width row > c.columns then cutTo row (c.columns - 1) ++ "…" else row

/-- The styled row of an event. -/
def styled (c : RowConfig) (e : Event) : String :=
  let p := Palette.ofTheme c.theme
  let stamp := (c.stampText.map p.stamp.render).toList
  let tag := if c.showIds then
      [((p.labels[(fnv1a e.id % 7).toNat]?).getD {}).render (label e.id)]
    else []
  let body := match e with
    | .line _ text => p.message.render (c.lineText text)
    | .ending _ kind message => (p.ending kind).render (endingText kind message)
  c.fit ((p.separator.render bar).intercalate (stamp ++ tag ++ [body]))

/-- The plain row of an event. -/
def plain (c : RowConfig) (e : Event) : String :=
  let stamp := c.stampText.toList
  let tag := if c.showIds then [label e.id] else []
  let body := match e with
    | .line _ text => c.lineText text
    | .ending _ kind message => endingText kind message
  bar.intercalate (stamp ++ tag ++ [body])

end RowConfig
end LiveTail

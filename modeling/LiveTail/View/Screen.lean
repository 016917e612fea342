import LiveTail.Event
import LiveTail.View.Row
/-!
# The scrolling screen

The screen keeps the last rows it was given, at most `capacity` of them, and shows a
window of them between a title bar and a status bar. The window starts at `offset`, which
stays between zero and the last offset that still fills the window. While the screen
follows, the window sits at the bottom and moves with every new row; scrolling up stops
following, and reaching the bottom again, by scrolling down or by the end key, resumes it.
When old rows are dropped while not following, the offset moves up with them, so the
same row stays on top.

The screen also tracks the sessions it has heard of: each is live until its end arrives,
and then shows the kind of its end.
-/
namespace LiveTail

/-- What the screen is told. -/
inductive Message where
  /-- A key press, by its name (`up`, `ctrl+d`, a character, ...). -/
  | key (name : String)
  | resize (width height : Int)
  /-- An event, with its row as already drawn. -/
  | event (e : Event) (row : String)
  /-- A failure of the source, by its text. -/
  | failure (text : String)
  /-- The source has no more events. -/
  | finished
  deriving Repr

/-- The state of the scrolling screen. -/
structure Screen where
  width : Int := 0
  height : Int := 0
  /-- Whether a size has been given. -/
  ready : Bool := false
  rows : Array String := #[]
  /-- How many rows are kept; zero keeps all. -/
  capacity : Nat := 10000
  /-- The index of the first row shown. -/
  offset : Int := 0
  /-- Whether the window sticks to the bottom. -/
  follow : Bool := true
  /-- Each session heard of, with "live" or the kind of its end. -/
  sessions : List (String × String) := []
  /-- Whether the source has finished. -/
  done : Bool := false
  deriving Repr

namespace Screen

/-- Records the status of a session, replacing an earlier one. -/
def setStatus (ss : List (String × String)) (id status : String) : List (String × String) :=
  if ss.any (·.1 == id) then ss.map fun (k, v) => if k == id then (k, status) else (k, v)
  else ss ++ [(id, status)]

/-- A screen that knows the given sessions as live. -/
def create (ids : List String) : Screen :=
  { sessions := ids.foldl (fun ss id => setStatus ss id "live") [] }

/-- Rows the window shows: the height less the title, a blank and the status bar, at
least one. -/
def windowRows (m : Screen) : Nat := if m.height - 3 < 1 then 1 else (m.height - 3).toNat

/-- The last offset that still fills the window. -/
def maxOffset (m : Screen) : Int := max 0 ((m.rows.size : Int) - m.windowRows)

/-- The offset brought back between zero and the last offset. -/
def clamp (m : Screen) : Screen := { m with offset := min (max m.offset 0) m.maxOffset }

/-- Whether the window shows the last row. -/
def atBottom (m : Screen) : Bool := decide (m.offset ≥ m.maxOffset)

/-- Adds a row, dropping the oldest beyond the capacity. -/
def push (m : Screen) (row : String) : Screen :=
  let rows := m.rows.push row
  let m :=
    if m.capacity > 0 && rows.size > m.capacity then
      let drop := rows.size - m.capacity
      { m with rows := rows.extract drop rows.size,
               offset := if m.follow then m.offset else m.offset - drop }
    else { m with rows := rows }
  let m := if m.follow then { m with offset := m.maxOffset } else m
  m.clamp

/-- Moves the window by `delta` rows and stops following; a move down (`down` set, even
by no rows) that ends at the bottom resumes following. -/
def scroll (m : Screen) (delta : Int) (down : Bool) : Screen :=
  let m := { m with follow := false, offset := m.offset + delta }.clamp
  if down && m.atBottom then { m with follow := true } else m

/-- Handles a key press; the flag says whether the screen asks to quit. -/
def press (m : Screen) (key : String) : Screen × Bool :=
  let half : Int := (m.windowRows / 2 : Nat)
  let page : Int := m.windowRows
  match key with
  | "q" | "ctrl+c" => (m, true)
  | "j" | "down" => (m.scroll 1 true, false)
  | "k" | "up" => (m.scroll (-1) false, false)
  | "g" | "home" => ({ m with follow := false, offset := 0 }, false)
  | "G" | "end" => ({ m with offset := m.maxOffset, follow := true }, false)
  | "pgdown" | "f" | "ctrl+f" => (m.scroll page true, false)
  | "pgup" | "b" | "ctrl+b" => (m.scroll (-page) false, false)
  | "d" | "ctrl+d" => (m.scroll half true, false)
  | "u" | "ctrl+u" => (m.scroll (-half) false, false)
  | _ => (m, false)

/-- Handles a message; the flag says whether the screen asks to quit. -/
def update (m : Screen) : Message → Screen × Bool
  | .key name => m.press name
  | .resize w h =>
    let m := { m with width := w, height := h, ready := true }
    let m := if m.follow then { m with offset := m.maxOffset } else m
    (m.clamp, false)
  | .event e row =>
    let sessions := match e with
      | .ending id kind _ => setStatus m.sessions id (Event.kindName kind)
      | .line id _ => if m.sessions.any (·.1 == id) then m.sessions else m.sessions ++ [(id, "live")]
    ({ m with sessions := sessions }.push row, false)
  | .failure text => (m.push ("ERROR: " ++ text), false)
  | .finished => ({ m with done := true }, false)

/-- The title bar style. -/
def titleStyle : Style :=
  { bold := true, foreground := some (.rgb 250 250 250), background := some (.rgb 125 86 244),
    padding := 1 }

/-- The status bar style. -/
def barStyle : Style :=
  { foreground := some (.rgb 250 250 250), background := some (.rgb 51 51 51), padding := 1 }

/-- The style of the names in the status bar. -/
def keyStyle : Style :=
  { bold := true, foreground := some (.rgb 125 86 244), background := some (.rgb 51 51 51),
    padding := 1 }

/-- How many sessions are still live. -/
def liveCount (m : Screen) : Nat := m.sessions.countP (·.2 == "live")

/-- Where the window stands: "bottom", or how far down as a percentage. -/
def position (m : Screen) : String :=
  if m.rows.size > 0 && !m.atBottom then
    let pct := if m.maxOffset > 0 then m.offset * 100 / m.maxOffset else 0
    toString pct ++ "%"
  else "bottom"

/-- The status bar: row count, sessions and position, the position pushed to the right. -/
def statusLine (m : Screen) : String :=
  let sessions :=
    if m.done then " " ++ toString m.sessions.length ++ " ended "
    else " " ++ toString m.liveCount ++ "/" ++ toString m.sessions.length ++ " live "
  let left := keyStyle.render "Lines:" ++ barStyle.render (" " ++ toString m.rows.size ++ " ")
  let mid := keyStyle.render "Sessions:" ++ barStyle.render sessions
  let right := keyStyle.render "Pos:" ++ barStyle.render (" " ++ m.position ++ " ")
  let gap := (m.width - Cells.width left - Cells.width mid - Cells.width right).toNat
  barStyle.render (left ++ mid ++ String.ofList (List.replicate gap ' ') ++ right)

/-- The rows of the window, each ending in a newline; placeholders while there are none. -/
def windowText (m : Screen) : String :=
  let vh := m.windowRows
  if m.rows.size = 0 then
    (List.range vh).foldl (fun acc i =>
      let row := if i + 1 = vh / 2 then "  No lines yet."
        else if i = vh / 2 then "  Waiting for files to grow..." else ""
      acc ++ row ++ "\n") ""
  else
    let start := m.offset.toNat
    let stop := min (start + vh) m.rows.size
    let shown := (m.rows.extract start stop).foldl (fun acc r => acc ++ r ++ "\n") ""
    shown ++ String.ofList (List.replicate (vh - (stop - start)) '\n')

/-- The whole screen. -/
def view (m : Screen) : String :=
  if !m.ready then "Loading..."
  else titleStyle.render "simpleio tail" ++ "\n" ++ m.windowText ++ m.statusLine

/-- The sessions that have ended, as "label: kind", sorted. -/
def ended (m : Screen) : List String :=
  ((m.sessions.filter (·.2 != "live")).map fun (id, s) => label id ++ ": " ++ s).mergeSort
    fun a b => !decide (b < a)

/-- A screen of the given size that knows `ids`, shows `events` in order as `config`
draws them, and then hears that the source has finished. -/
def replay (ids : List String) (width height : Int) (config : RowConfig)
    (events : List Event) : Screen :=
  let m := ((create ids).update (.resize width height)).1
  let m := events.foldl (fun m e => (m.update (.event e (config.styled e))).1) m
  (m.update .finished).1

end Screen
end LiveTail

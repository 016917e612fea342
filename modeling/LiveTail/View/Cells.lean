import LiveTail.Text.Grapheme
import LiveTail.Text.Wide
/-!
# Terminal cells

How many columns a text takes on a terminal. Escape sequences take none; they are read
octet by octet as a DEC-style terminal parser reads them: a control sequence runs from
escape and `[` to its final byte (a parameter after an intermediate ends it early), an
operating-system command to a bell or to escape, a device-control or private string to
escape, and a character beyond ASCII ends any sequence but an operating-system command or
a device-control string, whose octets belong to the string. Printable ASCII takes one
column, other controls none. A run of other characters is measured by grapheme cluster:
a cluster takes the columns of its first character, wide East Asian characters, regional
indicators and emoji shown as pictures taking two, controls, marks and joiners none. After
an emoji a variation selector chooses one or two columns; after a regional indicator or a
leading Hangul consonant the rest of the cluster adds nothing; after anything else each
character of the cluster adds its own columns. A multi-line text is as wide as its widest
line.
-/
namespace LiveTail.Cells

open Grapheme

/-- The selector that asks for text presentation. -/
def textSelector : Char := '\uFE0E'

/-- The selector that asks for picture presentation. -/
def pictureSelector : Char := '\uFE0F'

/-- The columns of a character of a break property on its own. -/
def ofChar (c : Char) : Break → Nat
  | .control | .carriageReturn | .lineFeed | .extend | .joiner => 0
  | .regional => 2
  | .pictographic => if Wide.isPicture c then 2 else 1
  | _ =>
    if c.toNat == 0x2E3A then 3
    else if c.toNat == 0x2E3B then 4
    else if Wide.isEastAsianWide c then 2
    else 1

/-- A cluster under way: the break property of its first character, what its characters
leave open, and its columns so far. -/
structure Cluster where
  first : Break
  state : State
  columns : Nat
  deriving Repr

namespace Cluster

/-- The cluster a character starts. -/
def start (c : Char) (b : Break) : Cluster :=
  { first := b, state := (step .any b).1, columns := ofChar c b }

/-- A character of property `b` joins the cluster, leaving `s` open. -/
def extend (k : Cluster) (c : Char) (b : Break) (s : State) : Cluster :=
  let columns :=
    if k.first = .pictographic then
      if c = textSelector then 1 else if c = pictureSelector then 2 else k.columns
    else if k.first = .regional || k.first = .lead then k.columns
    else k.columns + ofChar c b
  { k with state := s, columns }

end Cluster

/-- Where an escape sequence stands: plain text, just after escape, in an escape sequence's
intermediates, in the entry, parameters or intermediates of a control sequence or of a
device-control string, in a device-control string's body, in an operating-system command,
or in a private string. -/
inductive Seq where
  | ground
  | escape
  | escapeIntermediate
  | controlEntry
  | controlParam
  | controlIntermediate
  | deviceEntry
  | deviceParam
  | deviceIntermediate
  | deviceString
  | command
  | privateString
  deriving DecidableEq, Repr

namespace Seq

/-- The state after an ASCII octet `n` other than cancel, substitute and escape; `ctl` says
whether it is a control. A control sequence that meets a parameter after an intermediate
ends there. -/
def ascii (s : Seq) (c : Char) (n : Nat) (ctl : Bool) : Seq :=
  match s with
  | .ground => s
  | .escape =>
    if ctl || n == 0x7F then s
    else if n < 0x30 then .escapeIntermediate
    else if c = 'P' then .deviceEntry
    else if c = 'X' || c = '^' || c = '_' then .privateString
    else if c = '[' then .controlEntry
    else if c = ']' then .command
    else .ground
  | .escapeIntermediate => if ctl || n < 0x30 || n == 0x7F then s else .ground
  | .controlEntry | .controlParam =>
    if ctl || n == 0x7F then s
    else if n < 0x30 then .controlIntermediate
    else if n < 0x40 then .controlParam
    else .ground
  | .controlIntermediate => if ctl || n < 0x30 || n == 0x7F then s else .ground
  | .deviceEntry =>
    if 0x08 ≤ n && n ≤ 0x0D then .deviceString
    else if ctl || n == 0x7F then s
    else if n < 0x30 then .deviceIntermediate
    else if n < 0x40 then .deviceParam
    else .deviceString
  | .deviceParam =>
    if ctl || n == 0x7F then s
    else if n < 0x30 then .deviceIntermediate
    else if n < 0x40 then s
    else .deviceString
  | .deviceIntermediate => if ctl || n < 0x30 || n == 0x7F then s else .deviceString
  | .deviceString | .privateString => s
  | .command => if n == 0x07 then .ground else s

/-- Whether the state keeps the octets of characters beyond ASCII as its own. -/
def holdsOctets : Seq → Bool
  | .command | .deviceString => true
  | _ => false

/-- The state after a continuation octet `n` read on its own: the string states keep it
unless it is the string terminator; elsewhere the C1 controls among these octets open what
they stand for and the rest lead back to plain text. -/
def octet (s : Seq) (n : Nat) : Seq :=
  if s.holdsOctets then (if n == 0x9C then .ground else s)
  else if n == 0x90 then .deviceEntry
  else if n == 0x98 || n == 0x9E || n == 0x9F then .privateString
  else if n == 0x9B then .controlEntry
  else if n == 0x9D then .command
  else .ground

end Seq

/-- The measuring state: the escape sequence, the open cluster, and the columns of the
closed clusters. -/
structure Meter where
  seq : Seq := .ground
  cluster : Option Cluster := none
  closed : Nat := 0
  deriving Repr

namespace Meter

/-- Closes the open cluster. -/
def close (m : Meter) : Meter :=
  { m with cluster := none, closed := m.closed + (m.cluster.map (·.columns)).getD 0 }

/-- A character outside ASCII. Inside an operating-system command or a device-control
string its octets belong to the string, a terminator octet among them ending it; elsewhere
it joins the open cluster or starts a new one, and ends any escape sequence. -/
def wideStep (m : Meter) (c : Char) : Meter :=
  if m.seq.holdsOctets then
    { m with seq := (c.toString.toUTF8.toList.drop 1).foldl (fun s o => s.octet o.toNat) m.seq }
  else
    let b := Break.ofChar c
    let m := { m with seq := .ground }
    match m.cluster with
    | some k =>
      let (s, ends) := step k.state b
      if ends then { m.close with cluster := some (Cluster.start c b) }
      else { m with cluster := some (k.extend c b s) }
    | none => { m with cluster := some (Cluster.start c b) }

/-- An ASCII character: printable ones take a column in plain text, cancel and substitute
end any sequence, escape starts one (or, right after a device-control introducer, the
string's body), and the other octets advance the sequence. -/
def asciiStep (m : Meter) (c : Char) : Meter :=
  let n := c.toNat
  let m := m.close
  if n == 0x18 || n == 0x1A then { m with seq := .ground }
  else if n == 0x1B then { m with seq := if m.seq = .deviceEntry then .deviceString else .escape }
  else if m.seq = .ground then
    if 0x20 ≤ n && n ≤ 0x7E then { m with closed := m.closed + 1 } else m
  else { m with seq := m.seq.ascii c n (n < 0x20) }

/-- One character. -/
def step (m : Meter) (c : Char) : Meter := if c.toNat < 0x80 then m.asciiStep c else m.wideStep c

/-- The columns measured so far. -/
def total (m : Meter) : Nat := m.close.closed

end Meter

/-- The columns of one line. -/
def lineWidth (s : String) : Nat := (s.foldl Meter.step {}).total

/-- The columns of a text: its widest line. -/
def width (s : String) : Nat := ((s.splitOn "\n").map lineWidth).foldl max 0

end LiveTail.Cells

import LiveTail.Bytes.Utf8
import LiveTail.Document.Yaml.Input
import LiveTail.Document.Yaml.Token
/-!
# Scanning YAML

The scanner turns the text into tokens. It tracks the indentation of the open block
collections and closes them when a token stands less indented. A scalar, quoted text or
flow collection may turn out to be a key: its place is remembered, and when a `:` follows
on the same line a key token is put in front of it, opening a block mapping if the key is
further indented than the current block. A key at exactly the current indentation of a
block must be one: when its line ends without `:`, the text is refused.

When the decoder failed, the scanner has only the characters delivered before, and the
failure is reported by the first token that needs more: one whose start lies less than
four characters before their end (a token's start is always read with the three
characters after it), or which reads up to their end.
-/
namespace LiveTail.Document.Yaml

/-- A place where a key may start. -/
structure KeySlot where
  possible : Bool := false
  required : Bool := false
  /-- The index of its first token. -/
  number : Nat := 0
  mark : Mark := {}
  deriving Repr, Inhabited

/-- The scanner state. -/
structure Scanner where
  text : Array Char
  mark : Mark := {}
  tokens : Array Token := #[]
  indent : Int := -1
  indents : List Int := []
  flowLevel : Nat := 0
  keyAllowed : Bool := true
  keys : List KeySlot := [{}]
  /-- The decoder's failure after the last character of the text. -/
  broken : Option Failure := none
  deriving Repr

/-- A line break character. -/
def isBreak (c : Char) : Bool := c = '\n' || c = '\r' || c = '\x85' || c = ' ' || c = ' '

/-- A space or a tab. -/
def isBlank (c : Char) : Bool := c = ' ' || c = '\t'

/-- The end of the text, shown as NUL. -/
def endChar : Char := '\x00'

/-- A blank, a break or the end. -/
def isBlankz (c : Char) : Bool := isBlank c || isBreak c || c = endChar

/-- A hexadecimal digit's value. -/
def hexDigit (c : Char) : Option Nat :=
  if c.isDigit then some (c.toNat - 48)
  else if 'a' ≤ c ∧ c ≤ 'f' then some (c.toNat - 87)
  else if 'A' ≤ c ∧ c ≤ 'F' then some (c.toNat - 55)
  else none

namespace Scanner

/-- The character `k` places ahead; NUL at the end. -/
def peek (s : Scanner) (k : Nat := 0) : Char := s.text.getD (s.mark.index + k) endChar

/-- Whether the text is used up. -/
def atEnd (s : Scanner) : Bool := s.mark.index ≥ s.text.size

/-- Moves over one character that is not a line break. -/
def skip (s : Scanner) : Scanner :=
  { s with mark := { s.mark with index := s.mark.index + 1, column := s.mark.column + 1 } }

/-- Moves over a line break, CR LF counting as one. -/
def skipLine (s : Scanner) : Scanner :=
  let n := if s.peek = '\r' ∧ s.peek 1 = '\n' then 2 else 1
  { s with mark := { index := s.mark.index + n, line := s.mark.line + 1, column := 0 } }

/-- Reads a line break, normalised to a newline unless it is a line or paragraph
separator. -/
def readLine (s : Scanner) : String × Scanner :=
  let c := s.peek
  ((if c = ' ' ∨ c = ' ' then c else '\n').toString, s.skipLine)

/-- A scanner failure. -/
def fail (s : Scanner) (context : Option Mark) (problem : String) : Except Failure α :=
  .error { fromScanner := true, context, problem, place := s.mark }

/-- Appends a token. -/
def emit (s : Scanner) (kind : Kind) (mark : Mark) : Scanner :=
  { s with tokens := s.tokens.push ⟨kind, mark⟩ }

/-- The key slot of the innermost level. -/
def slot (s : Scanner) : KeySlot := s.keys.headD {}

/-- Replaces the key slot of the innermost level. -/
def setSlot (s : Scanner) (k : KeySlot) : Scanner :=
  { s with keys := match s.keys with
    | [] => [k]
    | _ :: rest => k :: rest }

/-- Drops the pending key; a required one is refused. -/
def removeKey (s : Scanner) : Except Failure Scanner :=
  let k := s.slot
  if k.possible then
    if k.required then s.fail (some k.mark) "could not find expected ':'"
    else .ok (s.setSlot { k with possible := false })
  else .ok s

/-- Remembers that a key may start here. -/
def saveKey (s : Scanner) : Except Failure Scanner := do
  if s.keyAllowed then
    let k : KeySlot := { possible := true,
                         required := s.flowLevel = 0 ∧ s.indent = s.mark.column,
                         number := s.tokens.size, mark := s.mark }
    let s ← s.removeKey
    pure (s.setSlot k)
  else pure s

/-- Whether the pending key can still be one: same line and close enough. A required one
that cannot is refused. -/
def checkKey (s : Scanner) : Except Failure (Bool × Scanner) :=
  let k := s.slot
  if !k.possible then .ok (false, s)
  else if k.mark.line < s.mark.line ∨ k.mark.index + 1024 < s.mark.index then
    if k.required then s.fail (some k.mark) "could not find expected ':'"
    else .ok (false, s.setSlot { k with possible := false })
  else .ok (true, s)

/-- Opens a block collection when `column` is further indented than the current block,
putting its start token at `number` (or at the end). -/
def rollIndent (s : Scanner) (column : Nat) (number : Option Nat) (kind : Kind) (mark : Mark) :
    Scanner :=
  if s.flowLevel > 0 then s
  else if s.indent < column then
    let s := { s with indents := s.indent :: s.indents, indent := column }
    match number with
    | some n => { s with tokens := s.tokens.insertIdxIfInBounds n ⟨kind, mark⟩ }
    | none => s.emit kind mark
  else s

/-- Closes the block collections more indented than `column`. -/
def unrollIndent (s : Scanner) (column : Int) : Scanner :=
  if s.flowLevel > 0 then s
  else
    let rec go (s : Scanner) : List Int → Scanner
      | [] => s
      | i :: rest =>
        if s.indent > column then go { (s.emit .blockEnd s.mark) with indent := i, indents := rest } rest
        else s
    go s s.indents

/-- Skips blanks, comments and line breaks up to the next token. -/
def toNextToken (s : Scanner) : Nat → Scanner
  | 0 => s
  | fuel + 1 =>
    let s := if s.mark.index = 0 ∧ s.peek = '﻿' then s.skip else s
    let rec blanks (s : Scanner) : Nat → Scanner
      | 0 => s
      | f + 1 =>
        if s.peek = ' ' ∨ ((s.flowLevel > 0 ∨ !s.keyAllowed) ∧ s.peek = '\t') then blanks s.skip f else s
    let s := blanks s (s.text.size + 1)
    let rec comment (s : Scanner) : Nat → Scanner
      | 0 => s
      | f + 1 => if isBreak s.peek ∨ s.atEnd then s else comment s.skip f
    let s := if s.peek = '#' then comment s (s.text.size + 1) else s
    if isBreak s.peek then
      let s := s.skipLine
      toNextToken (if s.flowLevel = 0 then { s with keyAllowed := true } else s) fuel
    else s

/-! ## Scalars -/

/-- Whether the text at the place starts a document marker `---` or `...`. -/
def atDocumentMarker (s : Scanner) : Bool :=
  s.mark.column = 0 ∧ isBlankz (s.peek 3)
    ∧ ((s.peek = '-' ∧ s.peek 1 = '-' ∧ s.peek 2 = '-') ∨ (s.peek = '.' ∧ s.peek 1 = '.' ∧ s.peek 2 = '.'))

/-- What a plain scalar gathers between its pieces. -/
structure Gap where
  text : String := ""
  leadingBreak : String := ""
  trailingBreaks : String := ""
  leadingBlanks : Bool := false

/-- Joins the gap before the next piece of a scalar: a single line break folds into a
space, more keep all but the first. -/
def Gap.join (g : Gap) (acc : String) : String :=
  if g.leadingBlanks then
    if g.leadingBreak.startsWith "\n" then
      if g.trailingBreaks.isEmpty then acc ++ " " else acc ++ g.trailingBreaks
    else acc ++ g.leadingBreak ++ g.trailingBreaks
  else acc ++ g.text

/-- Reads the blanks and breaks after a piece of a plain scalar. -/
def plainGap (s : Scanner) (g : Gap) (indent : Int) (start : Mark) :
    Nat → Except Failure (Gap × Scanner)
  | 0 => .ok (g, s)
  | fuel + 1 =>
    let c := s.peek
    if isBlank c then
      if g.leadingBlanks ∧ (s.mark.column : Int) < indent ∧ c = '\t' then
        s.fail (some start) "found a tab character that violates indentation"
      else if !g.leadingBlanks then plainGap s.skip { g with text := g.text.push c } indent start fuel
      else plainGap s.skip g indent start fuel
    else if isBreak c then
      let (br, s') := s.readLine
      if !g.leadingBlanks then plainGap s' { g with text := "", leadingBreak := br, leadingBlanks := true } indent start fuel
      else plainGap s' { g with trailingBreaks := g.trailingBreaks ++ br } indent start fuel
    else .ok (g, s)

/-- Whether a character ends a plain scalar here. -/
def endsPlain (s : Scanner) : Bool :=
  let c := s.peek
  (c = ':' ∧ isBlankz (s.peek 1))
    ∨ (s.flowLevel > 0 ∧ (c = ',' ∨ c = '?' ∨ c = '[' ∨ c = ']' ∨ c = '{' ∨ c = '}'))

/-- Reads the characters of one piece of a plain scalar. -/
def plainPiece (s : Scanner) (acc : String) (g : Gap) : Nat → String × Gap × Scanner
  | 0 => (acc, g, s)
  | fuel + 1 =>
    if isBlankz s.peek ∨ s.endsPlain then (acc, g, s)
    else
      let acc := if g.leadingBlanks ∨ !g.text.isEmpty then g.join acc else acc
      plainPiece s.skip (acc.push s.peek) {} fuel

/-- Reads a plain scalar: pieces on one or more lines, joined by folding. -/
def plain (s : Scanner) : Except Failure (String × Scanner) :=
  let indent := s.indent + 1
  let start := s.mark
  let rec go (s : Scanner) (acc : String) (g : Gap) : Nat → Except Failure (String × Gap × Scanner)
    | 0 => .ok (acc, g, s)
    | fuel + 1 =>
      if s.atDocumentMarker ∨ s.peek = '#' then .ok (acc, g, s)
      else
        let (acc', g', s') := s.plainPiece acc g (s.text.size + 1)
        let g := if s'.mark.index = s.mark.index then g else g'
        if !(isBlank s'.peek ∨ isBreak s'.peek) then .ok (acc', g, s')
        else match s'.plainGap (if s'.mark.index = s.mark.index then g else {}) indent start (s.text.size + 1) with
          | .error e => .error e
          | .ok (g, s'') =>
            if s''.flowLevel = 0 ∧ (s''.mark.column : Int) < indent then .ok (acc', g, s'')
            else go s'' acc' g fuel
  match go s "" {} (s.text.size + 1) with
  | .error e => .error e
  | .ok (acc, g, s') => .ok (acc, if g.leadingBlanks then { s' with keyAllowed := true } else s')

/-- The character of a one-letter escape in a double-quoted scalar. -/
def simpleEscape (c : Char) : Option Char :=
  match c with
  | '0' => some '\x00'
  | 'a' => some '\x07'
  | 'b' => some '\x08'
  | 't' => some '\t'
  | '\t' => some '\t'
  | 'n' => some '\n'
  | 'v' => some '\x0b'
  | 'f' => some '\x0c'
  | 'r' => some '\r'
  | 'e' => some '\x1b'
  | ' ' => some ' '
  | '"' => some '"'
  | '/' => some '/'
  | '\\' => some '\\'
  | 'N' => some '\x85'
  | '_' => some '\xa0'
  | 'L' => some ' '
  | 'P' => some ' '
  | _ => none

/-- Reads `n` hexadecimal digits. -/
def hexDigits (s : Scanner) (n : Nat) (start : Mark) : Except Failure Nat :=
  (List.range n).foldlM (fun acc k =>
    match hexDigit (s.peek k) with
    | some d => .ok (acc * 16 + d)
    | none => s.fail (some start) "did not find expected hexdecimal number") 0

/-- Reads the characters of one line of a quoted scalar up to a blank. -/
def quotedPiece (s : Scanner) (single : Bool) (start : Mark) (acc : String) :
    Nat → Except Failure (String × Bool × Scanner)
  | 0 => .ok (acc, false, s)
  | fuel + 1 =>
    let c := s.peek
    if isBlankz c then .ok (acc, false, s)
    else if single ∧ c = '\'' ∧ s.peek 1 = '\'' then quotedPiece s.skip.skip single start (acc.push '\'') fuel
    else if c = (if single then '\'' else '"') then .ok (acc, false, s)
    else if !single ∧ c = '\\' ∧ isBreak (s.peek 1) then
      .ok (acc, true, s.skip.skipLine)
    else if !single ∧ c = '\\' then
      let e := s.peek 1
      match simpleEscape e with
      | some ch => quotedPiece s.skip.skip single start (acc.push ch) fuel
      | none =>
        let width := if e = 'x' then 2 else if e = 'u' then 4 else if e = 'U' then 8 else 0
        if width = 0 then s.fail (some start) "found unknown escape character"
        else
          let s2 := s.skip.skip
          match s2.hexDigits width start with
          | .error f => .error f
          | .ok n =>
            if (0xD800 ≤ n ∧ n ≤ 0xDFFF) ∨ n > 0x10FFFF then
              s2.fail (some start) "found invalid Unicode character escape code"
            else
              let s3 := (List.range width).foldl (fun t _ => t.skip) s2
              quotedPiece s3 single start (acc.push (Char.ofNat n)) fuel
    else quotedPiece s.skip single start (acc.push c) fuel

/-- Reads the blanks and breaks inside a quoted scalar. -/
def quotedGap (s : Scanner) (g : Gap) : Nat → Gap × Scanner
  | 0 => (g, s)
  | fuel + 1 =>
    let c := s.peek
    if isBlank c then
      quotedGap s.skip (if g.leadingBlanks then g else { g with text := g.text.push c }) fuel
    else if isBreak c then
      let (br, s') := s.readLine
      if !g.leadingBlanks then quotedGap s' { g with text := "", leadingBreak := br, leadingBlanks := true } fuel
      else quotedGap s' { g with trailingBreaks := g.trailingBreaks ++ br } fuel
    else (g, s)

/-- Reads a quoted scalar after checking where it starts. -/
def quoted (s : Scanner) (single : Bool) : Except Failure (String × Scanner) :=
  let start := s.mark
  let rec go (s : Scanner) (acc : String) : Nat → Except Failure (String × Scanner)
    | 0 => .ok (acc, s)
    | fuel + 1 =>
      if s.atDocumentMarker then s.fail (some start) "found unexpected document indicator"
      else if s.atEnd then s.fail (some start) "found unexpected end of stream"
      else match s.quotedPiece single start acc (s.text.size + 1) with
        | .error e => .error e
        | .ok (acc, escapedBreak, s) =>
          if s.peek = (if single then '\'' else '"') then .ok (acc, s.skip)
          else
            let g : Gap := if escapedBreak then { leadingBlanks := true, leadingBreak := "" } else {}
            let (g, s) := s.quotedGap g (s.text.size + 1)
            let acc := if g.leadingBlanks ∧ escapedBreak ∧ g.leadingBreak.isEmpty then acc ++ g.trailingBreaks
              else g.join acc
            go s acc fuel
  go s.skip "" (s.text.size + 1)

/-- Reads the breaks and indentation before a line of a block scalar, settling the
indentation when it is not yet known. -/
def blockBreaks (s : Scanner) (indent : Nat) (breaks : String) (start : Mark) (maxIndent : Nat) :
    Nat → Except Failure (Nat × String × Scanner)
  | 0 => .ok (indent, breaks, s)
  | fuel + 1 =>
    let rec spaces (s : Scanner) : Nat → Scanner
      | 0 => s
      | f + 1 => if (indent = 0 ∨ s.mark.column < indent) ∧ s.peek = ' ' then spaces s.skip f else s
    let s := spaces s (s.text.size + 1)
    let maxIndent := max maxIndent s.mark.column
    if (indent = 0 ∨ s.mark.column < indent) ∧ s.peek = '\t' then
      s.fail (some start) "found a tab character where an indentation space is expected"
    else if isBreak s.peek then
      let (br, s) := s.readLine
      blockBreaks s indent (breaks ++ br) start maxIndent fuel
    else
      let indent := if indent = 0 then max maxIndent (max (s.indent + 1).toNat 1) else indent
      .ok (indent, breaks, s)

/-- Reads a literal (`|`) or folded (`>`) block scalar. -/
def block (s : Scanner) (literal : Bool) : Except Failure (String × Scanner) := do
  let start := s.mark
  let s := s.skip
  let (chomp, increment, s) ← (do
    let c := s.peek
    if c = '+' ∨ c = '-' then
      let chomp : Int := if c = '+' then 1 else -1
      let s := s.skip
      if s.peek.isDigit then
        if s.peek = '0' then s.fail (some start) "found an indentation indicator equal to 0"
        else pure (chomp, s.peek.toNat - 48, s.skip)
      else pure (chomp, 0, s)
    else if c.isDigit then
      if c = '0' then s.fail (some start) "found an indentation indicator equal to 0"
      else
        let inc := c.toNat - 48
        let s := s.skip
        let c := s.peek
        if c = '+' ∨ c = '-' then pure ((if c = '+' then 1 else -1), inc, s.skip)
        else pure (0, inc, s)
    else pure (0, 0, s) : Except Failure (Int × Nat × Scanner))
  let rec blanks (s : Scanner) : Nat → Scanner
    | 0 => s
    | f + 1 => if isBlank s.peek then blanks s.skip f else s
  let s := blanks s (s.text.size + 1)
  let rec comment (s : Scanner) : Nat → Scanner
    | 0 => s
    | f + 1 => if isBreak s.peek ∨ s.atEnd then s else comment s.skip f
  let s := if s.peek = '#' then comment s (s.text.size + 1) else s
  if !(isBreak s.peek ∨ s.atEnd) then s.fail (some start) "did not find expected comment or line break"
  let s := if isBreak s.peek then s.skipLine else s
  let indent : Nat := if increment > 0 then (if s.indent ≥ 0 then (s.indent + increment).toNat else increment) else 0
  let (indent, trailing, s) ← s.blockBreaks indent "" start 0 (s.text.size + 1)
  let rec lines (s : Scanner) (acc leading trailing : String) (leadingBlank : Bool) :
      Nat → Except Failure (String × String × String × Scanner)
    | 0 => .ok (acc, leading, trailing, s)
    | fuel + 1 =>
      if s.mark.column = indent ∧ !s.atEnd then
        let trailingBlank := isBlank s.peek
        let acc :=
          if !literal ∧ leading.startsWith "\n" ∧ !leadingBlank ∧ !trailingBlank then
            (if trailing.isEmpty then acc ++ " " else acc)
          else acc ++ leading
        let acc := acc ++ trailing
        let leadingBlank := isBlank s.peek
        let rec content (s : Scanner) (acc : String) : Nat → String × Scanner
          | 0 => (acc, s)
          | f + 1 => if isBreak s.peek ∨ s.atEnd then (acc, s) else content s.skip (acc.push s.peek) f
        let (acc, s) := content s acc (s.text.size + 1)
        if s.atEnd then .ok (acc, "", "", s)
        else
          let (br, s) := s.readLine
          match s.blockBreaks indent "" start 0 (s.text.size + 1) with
          | .error e => .error e
          | .ok (_, trailing, s) => lines s acc br trailing leadingBlank fuel
      else .ok (acc, leading, trailing, s)
  let (acc, leading, trailing, s) ← lines s "" "" trailing false (s.text.size + 1)
  let acc := if chomp ≠ -1 then acc ++ leading else acc
  let acc := if chomp = 1 then acc ++ trailing else acc
  pure (acc, s)

/-! ## Tokens -/

/-- An ASCII letter, digit, `_` or `-`: the characters of anchor and alias names,
directive names and tag handles. -/
def isWord (c : Char) : Bool :=
  ('0' ≤ c && c ≤ '9') || ('A' ≤ c && c ≤ 'Z') || ('a' ≤ c && c ≤ 'z') || c = '_' || c = '-'

/-- Skips spaces and tabs. -/
def skipBlanks (s : Scanner) : Nat → Scanner
  | 0 => s
  | fuel + 1 => if isBlank s.peek then skipBlanks s.skip fuel else s

/-- Reads characters while they pass a test. -/
def takeWhile (s : Scanner) (p : Char → Bool) (acc : String) : Nat → String × Scanner
  | 0 => (acc, s)
  | fuel + 1 => if p s.peek ∧ !s.atEnd then takeWhile s.skip p (acc.push s.peek) fuel else (acc, s)

/-- Reads an anchor or alias name after its indicator: ASCII letters, digits, `_` and
`-`, at least one, followed by a blank, a break, the end, or one of `? : , ] } % @` and a
backquote. -/
def name (s : Scanner) : Except Failure (String × Scanner) :=
  let start := s.mark
  let (n, s) := s.skip.takeWhile isWord "" (s.text.size + 1)
  let c := s.peek
  if n.isEmpty ∨ !(isBlankz c ∨ c = '?' ∨ c = ':' ∨ c = ',' ∨ c = ']' ∨ c = '}' ∨ c = '%' ∨ c = '@' ∨ c = '`') then
    s.fail (some start) "did not find expected alphabetic or numeric character"
  else .ok (n, s)

/-- Reads a tag handle: `!`, then letters and digits, then `!` if one follows. In a
directive the closing `!` is required unless the handle is the single `!`. -/
def tagHandle (s : Scanner) (directive : Bool) (start : Mark) : Except Failure (String × Scanner) :=
  if s.peek ≠ '!' then s.fail (some start) "did not find expected '!'"
  else
    let (h, s) := s.skip.takeWhile isWord "!" (s.text.size + 1)
    if s.peek = '!' then .ok (h.push '!', s.skip)
    else if directive ∧ h ≠ "!" then s.fail (some start) "did not find expected '!'"
    else .ok (h, s)

/-- A character that may stand in a tag: letters, digits and URI punctuation, and in a
verbatim tag also commas and brackets. -/
def isUriChar (verbatim : Bool) (c : Char) : Bool :=
  isWord c || ";/?:@&=+$.%!~*'()".contains c || (verbatim && (c = ',' || c = '[' || c = ']'))

/-- How many octets a UTF-8 sequence has by its first octet; none for an octet that
cannot start one by its high bits. -/
def sequenceWidth (b : Nat) : Nat :=
  if b < 0x80 then 1
  else if b / 32 = 6 then 2
  else if b / 16 = 14 then 3
  else if b / 8 = 30 then 4
  else 0

/-- Reads the `%XX` escapes of one UTF-8 sequence in a tag: the first gives the number of
octets by its high bits, and the others must be continuation octets. -/
def uriEscapes (s : Scanner) (start : Mark) : Except Failure (List UInt8 × Scanner) :=
  let rec go (s : Scanner) (acc : List UInt8) (left : Option Nat) : Nat → Except Failure (List UInt8 × Scanner)
    | 0 => .ok (acc, s)
    | fuel + 1 =>
      if left = some 0 then .ok (acc, s)
      else
        match (if s.peek = '%' then (hexDigit (s.peek 1)).bind fun h => (hexDigit (s.peek 2)).map (16 * h + ·) else none) with
        | none => s.fail (some start) "did not find URI escaped octet"
        | some octet =>
          let width := left.getD (sequenceWidth octet)
          if left.isNone ∧ width = 0 then s.fail (some start) "found an incorrect leading UTF-8 octet"
          else if left.isSome ∧ octet / 64 ≠ 2 then s.fail (some start) "found an incorrect trailing UTF-8 octet"
          else go s.skip.skip.skip (acc ++ [octet.toUInt8]) (some (width - 1)) fuel
  go s [] none 5

/-- Reads the characters of a tag after `head` (whose leading `!` is dropped), decoding
`%XX` escapes as UTF-8 sequences. -/
def tagUri (s : Scanner) (verbatim : Bool) (head : String) (start : Mark) :
    Except Failure (String × Scanner) :=
  let rec go (s : Scanner) (acc : List UInt8) : Nat → Except Failure (List UInt8 × Scanner)
    | 0 => .ok (acc, s)
    | fuel + 1 =>
      let c := s.peek
      if s.atEnd ∨ !isUriChar verbatim c then .ok (acc, s)
      else if c = '%' then
        match uriEscapes s start with
        | .ok (octets, s) => go s (acc ++ octets) fuel
        | .error e => .error e
      else go s.skip (acc ++ c.toString.toUTF8.toList) fuel
  match go s (head.drop 1).toString.toUTF8.toList (s.text.size + 1) with
  | .error e => .error e
  | .ok (bytes, s') =>
    if head.isEmpty ∧ s'.mark.index = s.mark.index then s'.fail (some start) "did not find expected tag URI"
    else .ok (Utf8.read (ByteArray.mk bytes.toArray), s')

/-- Reads a tag: `!<uri>` verbatim, `!handle!suffix`, `!suffix`, or `!` alone. It must
end at a blank, a break, or a comma in a flow collection. -/
def tagText (s : Scanner) : Except Failure (String × String × Scanner) := do
  let start := s.mark
  let (handle, suffix, s) ←
    if s.peek 1 = '<' then do
      let (u, s) ← s.skip.skip.tagUri true "" start
      if s.peek ≠ '>' then s.fail (some start) "did not find the expected '>'"
      pure ("", u, s.skip)
    else do
      let (h, s) ← s.tagHandle false start
      if h.length > 1 ∧ h.back = '!' then
        let (u, s) ← s.tagUri false "" start
        pure (h, u, s)
      else
        let (u, s) ← s.tagUri false h start
        if u.isEmpty then pure ("", "!", s) else pure ("!", u, s)
  if !isBlankz s.peek ∧ (s.flowLevel = 0 ∨ s.peek ≠ ',') then
    s.fail (some start) "did not find expected whitespace or line break"
  pure (handle, suffix, s)

/-- The digits of a version number, at most two of them. -/
def versionNumber (s : Scanner) (start : Mark) : Except Failure (Nat × Scanner) :=
  let (ds, s') := s.takeWhile Char.isDigit "" 3
  if ds.isEmpty then s.fail (some start) "did not find expected version number"
  else if ds.length > 2 then s'.fail (some start) "found extremely long version number"
  else .ok (ds.toNat!, s')

/-- Reads a directive at the start of a line: `%YAML` and its version, or `%TAG` with a
handle and a prefix; then blanks, a comment and the line break. -/
def directive (s : Scanner) : Except Failure Scanner := do
  let start := s.mark
  let fuel := s.text.size + 1
  let (name, s) := s.skip.takeWhile isWord "" fuel
  if name.isEmpty then s.fail (some start) "could not find expected directive name"
  if !isBlankz s.peek then s.fail (some start) "found unexpected non-alphabetical character"
  let (kind, s) ←
    if name = "YAML" then do
      let s := s.skipBlanks fuel
      let (major, s) ← s.versionNumber start
      if s.peek ≠ '.' then s.fail (some start) "did not find expected digit or '.' character"
      let (minor, s) ← s.skip.versionNumber start
      pure (Kind.versionDirective major minor, s)
    else if name = "TAG" then do
      let s := s.skipBlanks fuel
      let (handle, s) ← s.tagHandle true start
      if !isBlank s.peek then s.fail (some start) "did not find expected whitespace"
      let s := s.skipBlanks fuel
      let (pfx, s) ← s.tagUri true "" start
      if !isBlankz s.peek then s.fail (some start) "did not find expected whitespace or line break"
      pure (Kind.tagDirective handle pfx, s)
    else s.fail (some start) "found unknown directive name"
  let s := s.skipBlanks fuel
  let s := if s.peek = '#' then (s.takeWhile (fun c => !isBreak c) "" fuel).2 else s
  if !(isBreak s.peek ∨ s.atEnd) then s.fail (some start) "did not find expected comment or line break"
  let s := if isBreak s.peek then s.skipLine else s
  pure (s.emit kind start)

/-- Reads the `:` of a mapping value, putting in the key token when a key is pending. -/
def value (s : Scanner) : Except Failure Scanner := do
  let (valid, s) ← s.checkKey
  let s ←
    if valid then
      let k := s.slot
      let s := { s with tokens := s.tokens.insertIdxIfInBounds k.number ⟨.key, k.mark⟩ }
      let s := s.rollIndent k.mark.column (some k.number) .blockMappingStart k.mark
      pure ({ (s.setSlot { k with possible := false }) with keyAllowed := false })
    else if s.flowLevel = 0 then
      if !s.keyAllowed then s.fail none "mapping values are not allowed in this context"
      else
        let s := s.rollIndent s.mark.column none .blockMappingStart s.mark
        pure { s with keyAllowed := true }
    else pure { s with keyAllowed := false }
  let m := s.mark
  pure (s.skip.emit .value m)

/-- Whether a character may start a plain scalar here. -/
def startsPlain (s : Scanner) : Bool :=
  let c := s.peek
  !(isBlankz c ∨ "-?:,[]{}#&*!|>'\"%@`".contains c)
    ∨ (c = '-' ∧ !isBlank (s.peek 1))
    ∨ (s.flowLevel = 0 ∧ (c = '?' ∨ c = ':') ∧ !isBlankz (s.peek 1))

/-- Reads the next token, or several when block collections close. -/
def next (s : Scanner) : Except Failure Scanner := do
  let s := s.toNextToken (s.text.size + 1)
  let s := s.unrollIndent s.mark.column
  let c := s.peek
  let m := s.mark
  if s.atEnd then
    let s := if s.mark.column ≠ 0 then { s with mark := { s.mark with column := 0, line := s.mark.line + 1 } } else s
    let s := s.unrollIndent (-1)
    let s ← s.removeKey
    pure ({ s with keyAllowed := false }.emit .streamEnd s.mark)
  else if s.mark.column = 0 ∧ c = '%' then
    let s := s.unrollIndent (-1)
    let s ← s.removeKey
    { s with keyAllowed := false }.directive
  else if s.atDocumentMarker then
    let s := s.unrollIndent (-1)
    let s ← s.removeKey
    let kind := if c = '-' then Kind.documentStart else .documentEnd
    pure ({ s.skip.skip.skip with keyAllowed := false }.emit kind m)
  else if c = '[' ∨ c = '{' then
    let s ← s.saveKey
    let s := { s with flowLevel := s.flowLevel + 1, keys := {} :: s.keys, keyAllowed := true }
    pure (s.skip.emit (if c = '[' then .flowSequenceStart else .flowMappingStart) m)
  else if c = ']' ∨ c = '}' then
    let s ← s.removeKey
    let s := if s.flowLevel > 0 then { s with flowLevel := s.flowLevel - 1, keys := s.keys.tail } else s
    pure ({ s.skip with keyAllowed := false }.emit (if c = ']' then .flowSequenceEnd else .flowMappingEnd) m)
  else if c = ',' then
    let s ← s.removeKey
    pure ({ s.skip with keyAllowed := true }.emit .flowEntry m)
  else if c = '-' ∧ isBlankz (s.peek 1) then
    let s ←
      if s.flowLevel = 0 then
        if !s.keyAllowed then s.fail none "block sequence entries are not allowed in this context"
        else pure (s.rollIndent s.mark.column none .blockSequenceStart s.mark)
      else pure s
    let s ← s.removeKey
    pure ({ s.skip with keyAllowed := true }.emit .blockEntry m)
  else if c = '?' ∧ (s.flowLevel > 0 ∨ isBlankz (s.peek 1)) then
    let s ←
      if s.flowLevel = 0 then
        if !s.keyAllowed then s.fail none "mapping keys are not allowed in this context"
        else pure (s.rollIndent s.mark.column none .blockMappingStart s.mark)
      else pure s
    let s ← s.removeKey
    pure ({ s.skip with keyAllowed := s.flowLevel = 0 }.emit .key m)
  else if c = ':' ∧ (s.flowLevel > 0 ∨ isBlankz (s.peek 1)) then s.value
  else if c = '*' ∨ c = '&' then
    let s ← s.saveKey
    let s := { s with keyAllowed := false }
    let (n, s) ← s.name
    pure (s.emit (if c = '*' then .alias n else .anchor n) m)
  else if c = '!' then
    let s ← s.saveKey
    let s := { s with keyAllowed := false }
    let (h, suffix, s) ← s.tagText
    pure (s.emit (.tag h suffix) m)
  else if (c = '|' ∨ c = '>') ∧ s.flowLevel = 0 then
    let s ← s.removeKey
    let s := { s with keyAllowed := true }
    let (text, s) ← s.block (c = '|')
    pure (s.emit (.scalar text (if c = '|' then .literal else .folded)) m)
  else if c = '\'' ∨ c = '"' then
    let s ← s.saveKey
    let s := { s with keyAllowed := false }
    let (text, s) ← s.quoted (c = '\'')
    pure (s.emit (.scalar text (if c = '\'' then .singleQuoted else .doubleQuoted)) m)
  else if s.startsPlain then
    let s ← s.saveKey
    let s := { s with keyAllowed := false }
    let (text, s) ← s.plain
    pure (s.emit (.scalar text .plain) m)
  else s.fail (some s.mark) "found character that cannot start any token"

/-- The tokens a reader may take: those before the first token that may still become a
key. -/
def settled (s : Scanner) : Array Token :=
  let pending := s.keys.filterMap fun k => if k.possible then some k.number else none
  match pending.min? with
  | some n => s.tokens.extract 0 n
  | none => s.tokens

/-- The decoder's failure, if the next token, from `s`, needs characters past the text:
its start is less than four characters before the end, or it reads to the end. -/
def starved (s : Scanner) (next : Except Failure Scanner) : Option Failure :=
  s.broken.filter fun _ =>
    decide ((s.toNextToken (s.text.size + 1)).mark.index + 4 > s.text.size) ||
      match next with
      | .ok s' => decide (s'.mark.index ≥ s.text.size)
      | .error f => decide (f.place.index ≥ s.text.size)

/-- Scans the whole text: the tokens up to the stream end, or those settled before a
failure together with the failure. -/
def run (s : Scanner) : Nat → Array Token × Option Failure
  | 0 => (s.tokens, none)
  | fuel + 1 =>
    match s.checkKey with
    | .error f => (s.settled, some f)
    | .ok (_, s) =>
      let next := s.next
      match s.starved next, next with
      | some f, _ => (s.settled, some f)
      | none, .error f => (s.settled, some f)
      | none, .ok s' =>
        if s'.tokens.any (·.kind == .streamEnd) then (s'.tokens, none) else run s' fuel

end Scanner

/-- The tokens of a stream, and the failure that stopped the scan, if any. -/
def scan (stream : Stream) : Array Token × Option Failure :=
  Scanner.run { text := stream.chars, broken := stream.failure } (stream.chars.size + 2)

end LiveTail.Document.Yaml

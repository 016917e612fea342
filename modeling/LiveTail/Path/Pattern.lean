import LiveTail.Bytes.Utf8
/-!
# Name patterns

A pattern matches the octets of a name: `*` matches any run of octets without a `/`, `?`
any one character but `/`, `[...]` one character of a class (ranges `a-z`, a leading `^`
negates), a plain character its own octets, and a backslash makes the next character
plain. Where a character is read from the name, an octet that starts no well-formed
sequence reads as U+FFFD on its own; since a star may stop inside a character, the rest of
that character reads this way. A pattern is cut into chunks, each a run of stars followed
by the text up to the next star outside a class; a chunk is matched at the earliest place
that lets the rest match.

A malformed pattern (an open class, an empty class, a range with a missing end, a
backslash at the end) is refused, also when the name fails to match before the malformed
part is reached.
-/
namespace LiveTail.Path

/-- A malformed pattern. -/
structure BadPattern where
  deriving DecidableEq, Repr

/-- The message of a malformed pattern. -/
def BadPattern.message (_ : BadPattern) : String := "syntax error in pattern"

/-- The text of a chunk up to the next star outside a class, and what follows. -/
def chunkText (inClass : Bool) : List Char → List Char × List Char
  | [] => ([], [])
  | '\\' :: c :: rest =>
    let (a, b) := chunkText inClass rest
    ('\\' :: c :: a, b)
  | '[' :: rest =>
    let (a, b) := chunkText true rest
    ('[' :: a, b)
  | ']' :: rest =>
    let (a, b) := chunkText false rest
    (']' :: a, b)
  | '*' :: rest =>
    if inClass then
      let (a, b) := chunkText inClass rest
      ('*' :: a, b)
    else ([], '*' :: rest)
  | c :: rest =>
    let (a, b) := chunkText inClass rest
    (c :: a, b)

/-- The next chunk: whether stars lead it, its text, and the rest of the pattern. -/
def nextChunk (p : List Char) : Bool × List Char × List Char :=
  let body := p.dropWhile (· = '*')
  let (chunk, rest) := chunkText false body
  (body.length < p.length, chunk, rest)

/-- One end of a class range, with a backslash making the next character plain; a
range end must be followed by more of the class. -/
def classChar (chunk : List Char) : Except BadPattern (Char × List Char) :=
  match chunk with
  | [] => .error {}
  | c :: rest =>
    if c = '-' ∨ c = ']' then .error {}
    else
      let plain : Except BadPattern (Char × List Char) :=
        if c = '\\' then
          match rest with
          | [] => .error {}
          | d :: r => .ok (d, r)
        else .ok (c, rest)
      match plain with
      | .error e => .error e
      | .ok (r, rest) => if rest.isEmpty then .error {} else .ok (r, rest)

/-- Reads the ranges of a class up to its closing bracket: whether `r` lies in one, and
the chunk after the class. -/
def classRanges (r : Char) (chunk : List Char) (count : Nat) (found : Bool) :
    Nat → Except BadPattern (Bool × List Char)
  | 0 => .error {}
  | fuel + 1 =>
    match chunk with
    | ']' :: rest =>
      if count > 0 then .ok (found, rest)
      else .error {}
    | _ => do
      let (lo, chunk) ← classChar chunk
      let (hi, chunk) ← match chunk with
        | '-' :: rest => classChar rest
        | _ => pure (lo, chunk)
      classRanges r chunk (count + 1) (found || (lo ≤ r && r ≤ hi)) fuel

/-- The character at the front of a name's octets and the octets after it; an octet that
starts no well-formed sequence is U+FFFD. -/
def frontOf (s : List Char) : Char × List Char :=
  match Utf8.frontChar? s with
  | some (c, k) => (c, s.drop (k + 1))
  | none => ('\uFFFD', s.drop 1)

/-- The octets of a character, each as a character below 256. -/
def octetsOf (c : Char) : List Char := Utf8.octetChars c.toString.toUTF8

/-- Matches a chunk at the front of a name's octets: the rest of the name when it
matches. After a mismatch the chunk is still read to the end, so a malformed chunk is
refused. -/
def matchChunk (chunk s : List Char) (failed : Bool) : Nat → Except BadPattern (Option (List Char))
  | 0 => .ok (if failed then none else some s)
  | fuel + 1 =>
    match chunk with
    | [] => .ok (if failed then none else some s)
    | c :: rest =>
      let failed := failed || s.isEmpty
      if c = '[' then
        let (r, s) := if failed then ('\x00', s) else frontOf s
        let (negated, rest) := match rest with
          | '^' :: r' => (true, r')
          | _ => (false, rest)
        match classRanges r rest 0 false (rest.length + 1) with
        | .error e => .error e
        | .ok (found, rest) => matchChunk rest s (failed || found == negated) fuel
      else if c = '?' then
        if failed then matchChunk rest s failed fuel
        else matchChunk rest (frontOf s).2 (s.headD '/' = '/') fuel
      else
        let plain : Except BadPattern (Char × List Char) :=
          if c = '\\' then
            match rest with
            | [] => .error {}
            | d :: r => .ok (d, r)
          else .ok (c, rest)
        match plain with
        | .error e => .error e
        | .ok (c, rest) =>
          let bytes := octetsOf c
          if failed then matchChunk rest s failed fuel
          else if s.take bytes.length = bytes then matchChunk rest (s.drop bytes.length) false fuel
          else matchChunk rest s true fuel

/-- Checks that the chunks of a pattern are well formed. -/
def checkChunks (p : List Char) : Nat → Except BadPattern Unit
  | 0 => .ok ()
  | fuel + 1 =>
    if p.isEmpty then .ok ()
    else
      let (_, chunk, rest) := nextChunk p
      match matchChunk chunk [] false (chunk.length + 1) with
      | .error e => .error e
      | .ok _ => checkChunks rest fuel

/-- After a star, tries the chunk one octet further on each time, never past a `/`:
the rest of the name at the first place it matches (and, for the last chunk, leaves
nothing). -/
def skipAhead (chunk : List Char) (last : Bool) : List Char → Except BadPattern (Option (List Char))
  | [] => .ok none
  | c :: tail =>
    if c = '/' then .ok none
    else
      match matchChunk chunk tail false (chunk.length + 1) with
      | .error e => .error e
      | .ok (some t) => if last ∧ !t.isEmpty then skipAhead chunk last tail else .ok (some t)
      | .ok none => skipAhead chunk last tail

/-- Matches a pattern against a whole name. -/
def matchFrom (p name : List Char) : Nat → Except BadPattern Bool
  | 0 => .ok name.isEmpty
  | fuel + 1 =>
    if p.isEmpty then .ok name.isEmpty
    else
      let (star, chunk, rest) := nextChunk p
      if star ∧ chunk.isEmpty then .ok (!name.contains '/')
      else
        match matchChunk chunk name false (chunk.length + 1) with
        | .error e => .error e
        | .ok here =>
          -- the chunk fits where it stands, unless it is the last and leaves some name
          let direct := match here with
            | some t => if t.isEmpty ∨ !rest.isEmpty then some t else none
            | none => none
          let next : Except BadPattern (Option (List Char)) := match direct with
            | some t => .ok (some t)
            | none => if star then skipAhead chunk rest.isEmpty name else .ok none
          match next with
          | .error e => .error e
          | .ok (some t) => matchFrom rest t fuel
          | .ok none =>
            match checkChunks rest (rest.length + 1) with
            | .error e => .error e
            | .ok () => .ok false

/-- Whether a pattern matches a whole name. -/
def fits (pattern name : String) : Except BadPattern Bool :=
  matchFrom pattern.toList (Utf8.octetChars name.toUTF8) (pattern.length + 1)

/-- Whether a path holds a character that makes it a pattern. -/
def hasMeta (p : String) : Bool := p.any fun c => c = '*' || c = '?' || c = '[' || c = '\\'

end LiveTail.Path

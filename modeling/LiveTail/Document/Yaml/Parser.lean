import LiveTail.Document.Yaml.Scanner
/-!
# Parsing YAML

The parser builds the node tree of the first document from the tokens. Block collections
run from their start token to their end token; in a block mapping every entry starts with
a key token, in a block sequence with a `-`. Flow collections separate their entries by
commas. A missing key, value or entry content is an empty scalar. When the tokens do not
fit, the failure names the collection being read and the token that did not fit.
-/
namespace LiveTail.Document.Yaml

/-- A node of the document tree; `line` counts from one and is the line of the node's
first token, its anchor or tag when it has one. -/
inductive Node where
  | scalar (text : String) (style : Style) (tag : String) (line : Nat)
  | sequence (items : List Node) (line : Nat)
  | mapping (pairs : List (Node × Node)) (line : Nat)
  /-- An alias, with the node its anchor named when the alias was read. -/
  | alias (name : String) (target : Node) (line : Nat)
  /-- What an alias names when it stands inside the collection its anchor names, before
  that collection ends: a collection that would contain itself. -/
  | cycle (name : String) (isMapping : Bool) (line : Nat)
  deriving Repr, Inhabited

/-- The empty scalar at a place. -/
def Node.empty (m : Mark) : Node := .scalar "" .plain "" (m.line + 1)

/-- A node read after its properties: a scalar takes its tag, and every node the line of
its first token. -/
def Node.placed (tag : String) (line : Nat) : Node → Node
  | .scalar text style _ _ => .scalar text style tag line
  | .sequence items _ => .sequence items line
  | .mapping pairs _ => .mapping pairs line
  | n => n

/-- The tag handles every document knows, with their prefixes. -/
def defaultDirectives : List (String × String) := [("!", "!"), ("!!", "tag:yaml.org,2002:")]

/-- The parser state: the tokens, the failure that ended them, the anchors seen, and the
tag handles of the document. -/
structure Parser where
  tokens : Array Token
  failure : Option Failure
  anchors : List (String × Node) := []
  directives : List (String × String) := defaultDirectives

/-- A parser result: the node and the index after it, with the anchors. -/
abbrev Parsed := Except Failure (Node × Nat × List (String × Node))

namespace Parser

/-- The token at an index. The scanner reads two tokens ahead of the one handed out, so
when it failed, a token is handed out only if two more were read after it. -/
def peek (p : Parser) (i : Nat) : Except Failure Token :=
  match p.failure with
  | some f =>
    if h : i + 2 < p.tokens.size then
      have : i < p.tokens.size := by omega
      .ok p.tokens[i]
    else .error f
  | none =>
    match p.tokens[i]? with
    | some t => .ok t
    | none => .ok ⟨.streamEnd, (p.tokens.back?.map (·.mark)).getD {}⟩

/-- A parser failure with a context place. -/
def fail (context : Option Mark) (problem : String) (t : Token) : Except Failure α :=
  .error { fromScanner := false, context, problem, place := t.mark }

/-- Whether a token is of one of the given kinds. -/
def Token.isIn (t : Token) (ks : List Kind) : Bool := ks.contains t.kind

/-- Content that is missing: empty when properties were given, else a failure. -/
def otherwise (_p : Parser) (anchor : Option String) (tag : String) (block : Bool) (start : Mark)
    (t : Token) (i : Nat) (anchors : List (String × Node)) : Parsed :=
  if anchor.isSome ∨ tag ≠ "" then .ok (Node.empty t.mark, i, anchors)
  else
    let _ := block
    fail (some start) "did not find expected node content" t

/-- The full tag of a tag token: a verbatim tag as written, otherwise the prefix of its
handle and the suffix. A handle the document does not know is refused. -/
def fullTag (p : Parser) (start : Mark) (t : Token) (handle suffix : String) : Except Failure String :=
  if handle.isEmpty then .ok suffix
  else match p.directives.lookup handle with
    | some pfx => .ok (pfx ++ suffix)
    | none => .error { fromScanner := false, context := some start, problem := "found undefined tag handle",
                       place := t.mark }

/-- Reads an anchor and a tag in either order; the tag is given in full. -/
def properties (p : Parser) (i : Nat) : Except Failure (Option String × String × Nat) := do
  let t ← p.peek i
  match t.kind with
  | .anchor a =>
    let t2 ← p.peek (i + 1)
    match t2.kind with
    | .tag h s => pure (some a, ← p.fullTag t.mark t2 h s, i + 2)
    | _ => pure (some a, "", i + 1)
  | .tag h s =>
    let tag ← p.fullTag t.mark t h s
    let t2 ← p.peek (i + 1)
    match t2.kind with
    | .anchor a => pure (some a, tag, i + 2)
    | _ => pure (none, tag, i + 1)
  | _ => pure (none, "", i)

mutual

/-- Parses a node: an alias, or properties and then content. -/
def node (p : Parser) (block indentless : Bool) (i : Nat) (anchors : List (String × Node)) :
    Nat → Parsed
  | 0 => .error { fromScanner := false, context := none, problem := "exceeded max depth", place := {} }
  | fuel + 1 => do
    let t ← p.peek i
    match t.kind with
    | .alias name =>
      match anchors.lookup name with
      | some n => pure (.alias name n (t.mark.line + 1), i + 1, anchors)
      | none => .error { fromScanner := false, context := none,
                         problem := "unknown anchor '" ++ name ++ "' referenced", place := t.mark }
    | _ =>
      let start := t.mark
      let (anchor, tag, i) ← p.properties i
      let t ← p.peek i
      -- a collection's anchor names it already while its entries are read
      let inner (isMapping : Bool) : List (String × Node) := match anchor with
        | some a => (a, .cycle a isMapping (start.line + 1)) :: anchors
        | none => anchors
      let (n, i, anchors) ←
        match t.kind with
        | .scalar text style => pure (Node.scalar text style tag (t.mark.line + 1), i + 1, anchors)
        | .flowSequenceStart => p.flowSequence t.mark (i + 1) true [] (inner false) fuel
        | .flowMappingStart => p.flowMapping t.mark (i + 1) true [] (inner true) fuel
        | .blockSequenceStart =>
          if block then p.blockSequence t.mark (i + 1) [] (inner false) fuel
          else p.otherwise anchor tag block start t i anchors
        | .blockMappingStart =>
          if block then p.blockMapping t.mark (i + 1) [] (inner true) fuel
          else p.otherwise anchor tag block start t i anchors
        | .blockEntry =>
          if indentless then p.indentless t.mark i [] (inner false) fuel
          else p.otherwise anchor tag block start t i anchors
        | _ => p.otherwise anchor tag block start t i anchors
      let n := n.placed tag (start.line + 1)
      pure (n, i, match anchor with
        | some a => (a, n) :: anchors
        | none => anchors)
termination_by structural fuel => fuel

/-- The entries of a block sequence after its start. -/
def blockSequence (p : Parser) (start : Mark) (i : Nat) (acc : List Node)
    (anchors : List (String × Node)) : Nat → Parsed
  | 0 => .ok (.sequence acc.reverse (start.line + 1), i, anchors)
  | fuel + 1 => do
    let t ← p.peek i
    match t.kind with
    | .blockEntry =>
      let t2 ← p.peek (i + 1)
      if Token.isIn t2 [.blockEntry, .blockEnd] then
        p.blockSequence start (i + 1) (Node.empty t.mark :: acc) anchors fuel
      else
        let (n, j, anchors) ← p.node true false (i + 1) anchors fuel
        p.blockSequence start j (n :: acc) anchors fuel
    | .blockEnd => pure (.sequence acc.reverse (start.line + 1), i + 1, anchors)
    | _ => fail (some start) "did not find expected '-' indicator" t
termination_by structural fuel => fuel

/-- The entries of a sequence written at the indentation of its mapping key. -/
def indentless (p : Parser) (start : Mark) (i : Nat) (acc : List Node)
    (anchors : List (String × Node)) : Nat → Parsed
  | 0 => .ok (.sequence acc.reverse (start.line + 1), i, anchors)
  | fuel + 1 => do
    let t ← p.peek i
    match t.kind with
    | .blockEntry =>
      let t2 ← p.peek (i + 1)
      if Token.isIn t2 [.blockEntry, .key, .value, .blockEnd] then
        p.indentless start (i + 1) (Node.empty t.mark :: acc) anchors fuel
      else
        let (n, j, anchors) ← p.node true false (i + 1) anchors fuel
        p.indentless start j (n :: acc) anchors fuel
    | _ => pure (.sequence acc.reverse (start.line + 1), i, anchors)
termination_by structural fuel => fuel

/-- The entries of a block mapping after its start. -/
def blockMapping (p : Parser) (start : Mark) (i : Nat) (acc : List (Node × Node))
    (anchors : List (String × Node)) : Nat → Parsed
  | 0 => .ok (.mapping acc.reverse (start.line + 1), i, anchors)
  | fuel + 1 => do
    let t ← p.peek i
    match t.kind with
    | .key =>
      let t2 ← p.peek (i + 1)
      let (k, j, anchors) ←
        if Token.isIn t2 [.key, .value, .blockEnd] then pure (Node.empty t.mark, i + 1, anchors)
        else p.node true true (i + 1) anchors fuel
      let t3 ← p.peek j
      let (v, j, anchors) ←
        if t3.kind = .value then do
          let t4 ← p.peek (j + 1)
          if Token.isIn t4 [.key, .value, .blockEnd] then pure (Node.empty t3.mark, j + 1, anchors)
          else p.node true true (j + 1) anchors fuel
        else pure (Node.empty t3.mark, j, anchors)
      p.blockMapping start j ((k, v) :: acc) anchors fuel
    | .blockEnd => pure (.mapping acc.reverse (start.line + 1), i + 1, anchors)
    | _ => fail (some start) "did not find expected key" t
termination_by structural fuel => fuel

/-- The entries of a flow sequence after its `[`. -/
def flowSequence (p : Parser) (start : Mark) (i : Nat) (first : Bool) (acc : List Node)
    (anchors : List (String × Node)) : Nat → Parsed
  | 0 => .ok (.sequence acc.reverse (start.line + 1), i, anchors)
  | fuel + 1 => do
    let t ← p.peek i
    if t.kind = .flowSequenceEnd then return (.sequence acc.reverse (start.line + 1), i + 1, anchors)
    let (t, i) ←
      if first then pure (t, i)
      else if t.kind = .flowEntry then do pure (← p.peek (i + 1), i + 1)
      else fail (some start) "did not find expected ',' or ']'" t
    if t.kind = .flowSequenceEnd then return (.sequence acc.reverse (start.line + 1), i + 1, anchors)
    if t.kind = .key then
      let t2 ← p.peek (i + 1)
      let (k, j, anchors) ←
        if Token.isIn t2 [.value, .flowEntry, .flowSequenceEnd] then pure (Node.empty t.mark, i + 1, anchors)
        else p.node false false (i + 1) anchors fuel
      let t3 ← p.peek j
      let (v, j, anchors) ←
        if t3.kind = .value then do
          let t4 ← p.peek (j + 1)
          if Token.isIn t4 [.flowEntry, .flowSequenceEnd] then pure (Node.empty t3.mark, j + 1, anchors)
          else p.node false false (j + 1) anchors fuel
        else pure (Node.empty t3.mark, j, anchors)
      p.flowSequence start j false (.mapping [(k, v)] (t.mark.line + 1) :: acc) anchors fuel
    else
      let (n, j, anchors) ← p.node false false i anchors fuel
      p.flowSequence start j false (n :: acc) anchors fuel
termination_by structural fuel => fuel

/-- The entries of a flow mapping after its `{`. -/
def flowMapping (p : Parser) (start : Mark) (i : Nat) (first : Bool) (acc : List (Node × Node))
    (anchors : List (String × Node)) : Nat → Parsed
  | 0 => .ok (.mapping acc.reverse (start.line + 1), i, anchors)
  | fuel + 1 => do
    let t ← p.peek i
    if t.kind = .flowMappingEnd then return (.mapping acc.reverse (start.line + 1), i + 1, anchors)
    let (t, i) ←
      if first then pure (t, i)
      else if t.kind = .flowEntry then do pure (← p.peek (i + 1), i + 1)
      else fail (some start) "did not find expected ',' or '\x7d'" t
    if t.kind = .flowMappingEnd then return (.mapping acc.reverse (start.line + 1), i + 1, anchors)
    if t.kind = .key then
      let t2 ← p.peek (i + 1)
      let (k, j, anchors) ←
        if Token.isIn t2 [.value, .flowEntry, .flowMappingEnd] then pure (Node.empty t.mark, i + 1, anchors)
        else p.node false false (i + 1) anchors fuel
      let t3 ← p.peek j
      let (v, j, anchors) ←
        if t3.kind = .value then do
          let t4 ← p.peek (j + 1)
          if Token.isIn t4 [.flowEntry, .flowMappingEnd] then pure (Node.empty t3.mark, j + 1, anchors)
          else p.node false false (j + 1) anchors fuel
        else pure (Node.empty t3.mark, j, anchors)
      p.flowMapping start j false ((k, v) :: acc) anchors fuel
    else
      let (k, j, anchors) ← p.node false false i anchors fuel
      let t3 ← p.peek j
      p.flowMapping start j false ((k, Node.empty t3.mark) :: acc) anchors fuel
termination_by structural fuel => fuel

end

/-- A parser failure at a token, with no context. -/
def failAt (problem : String) (t : Token) : Except Failure α :=
  .error { fromScanner := false, context := none, problem, place := t.mark }

/-- Reads the directives before a document: at most one `%YAML`, of version 1.1, and
`%TAG` handles each given once, which join the handles every document knows. Gives the
index after them and the handles. -/
def readDirectives (p : Parser) (i : Nat) (version : Bool) (tags : List (String × String)) :
    Nat → Except Failure (Nat × List (String × String))
  | 0 => .ok (i, tags ++ defaultDirectives.filter fun (h, _) => !tags.any (·.1 == h))
  | fuel + 1 => do
    let t ← p.peek i
    match t.kind with
    | .versionDirective major minor =>
      if version then failAt "found duplicate %YAML directive" t
      else if major ≠ 1 ∨ minor ≠ 1 then failAt "found incompatible YAML document" t
      else p.readDirectives (i + 1) true tags fuel
    | .tagDirective handle pfx =>
      if tags.any (·.1 == handle) then failAt "found duplicate %TAG directive" t
      else p.readDirectives (i + 1) version (tags ++ [(handle, pfx)]) fuel
    | _ => .ok (i, tags ++ defaultDirectives.filter fun (h, _) => !tags.any (·.1 == h))

/-- Parses the first document: its root node, or none for an empty stream. A document
with directives must start with `---`. -/
def document (p : Parser) : Except Failure (Option Node) := do
  let fuel := p.tokens.size + 2
  let t ← p.peek 0
  let isDirective := match t.kind with
    | .versionDirective .. | .tagDirective .. => true
    | _ => false
  let (start, tags) ← if isDirective then p.readDirectives 0 false [] fuel else pure (0, defaultDirectives)
  let p := { p with directives := tags }
  let t ← p.peek start
  if isDirective ∧ t.kind ≠ .documentStart then failAt "did not find expected <document start>" t
  let (root, i) ←
    if start = 0 ∧ !Token.isIn t [.documentStart, .streamEnd] then do
      let (n, i, _) ← p.node true false 0 [] fuel
      pure (some n, i)
    else if t.kind = .streamEnd then pure (none, start)
    else do
      let t2 ← p.peek (start + 1)
      if Token.isIn t2 [.documentStart, .documentEnd, .streamEnd] then pure (some (Node.empty t2.mark), start + 1)
      else
        let (n, i, _) ← p.node true false (start + 1) [] fuel
        pure (some n, i)
  let _ ← p.peek i
  pure root

end Parser

/-- The root node of the first document of a stream, if any. -/
def parse (stream : Stream) : Except Failure (Option Node) :=
  let (tokens, failure) := scan stream
  Parser.document { tokens, failure }

end LiveTail.Document.Yaml

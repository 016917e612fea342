import LiveTail.Bytes.Base64
import LiveTail.Bytes.Utf8
import LiveTail.Document.Moment
import LiveTail.Document.Value
import LiveTail.Document.Yaml.Input
import LiveTail.Document.Yaml.Parser
import LiveTail.Text.Integer
import LiveTail.Text.Quote
/-!
# Reading YAML into values

Each node has a tag. One written with the node is used in its short form (`!!int` for
`tag:yaml.org,2002:int`); otherwise a quoted or block scalar is a string, a plain `<<` is
a merge key, and any other plain scalar takes the tag of the first thing it spells:
null (empty, `~`, `null`), a truth value (`true` or `false` in three casings), infinity
or not-a-number, a timestamp, an integer (underscores dropped, base prefixes allowed, too
large for 64 signed bits but not for unsigned gives an unsigned one), a decimal; else a
string. The first character decides what is tried at all.

A scalar with the tag of a string, a truth value, an integer, a decimal, a timestamp or
null must spell a value of that tag (an integer is taken for a decimal); otherwise
decoding stops with "cannot decode". A binary scalar must be base 64. Other tags keep the
text as written.

A mapping whose keys are all strings has string keys; otherwise its keys are values,
printed as keys, and a key that is a list or a mapping stops decoding. The document's
mapping always has string keys: a key that is a collection is a type error and its entry
is left out, and a null key leaves the entry out. A key written twice in one mapping is a
type error for that mapping, which is then left out.

A merge key `<<` takes a mapping or a list of mappings; their entries join the mapping
where no entry of the mapping itself or of an earlier merged mapping has the key.

Type errors are collected and reported together; the document must be a mapping (or
null).
-/
namespace LiveTail.Document.Yaml

/-! ## Tags and plain scalars -/

/-- The prefix of the standard tags. -/
def standardPrefix : String := "tag:yaml.org,2002:"

/-- The short form of a tag: the standard prefix becomes `!!`. -/
def shortTag (tag : String) : String :=
  if tag.startsWith standardPrefix then "!!" ++ String.ofList (tag.toList.drop standardPrefix.length)
  else tag

/-- What the first character of a plain scalar lets it be. -/
inductive Hint where
  /-- Only text. -/
  | none
  /-- A name of the table of named values. -/
  | word
  /-- A decimal without whole digits, or a named value. -/
  | dot
  /-- A timestamp, an integer or a decimal. -/
  | number
  deriving DecidableEq

/-- The hint of a plain scalar's text. -/
def hintOf (text : String) : Hint :=
  match text.toList with
  | [] => .word
  | c :: _ =>
    if c.isDigit ∨ c = '+' ∨ c = '-' then .number
    else if c = '.' then .dot
    else if "yYnNtTfFoO~".contains c then .word
    else .none

/-- The values known by name. -/
def named (text : String) : Option (Value × String) :=
  if ["true", "True", "TRUE"].contains text then some (.bool true, "!!bool")
  else if ["false", "False", "FALSE"].contains text then some (.bool false, "!!bool")
  else if ["", "~", "null", "Null", "NULL"].contains text then some (.null, "!!null")
  else if [".nan", ".NaN", ".NAN"].contains text then some (.float .nan, "!!float")
  else if [".inf", ".Inf", ".INF", "+.inf", "+.Inf", "+.INF"].contains text then
    some (.float (.infinity false), "!!float")
  else if ["-.inf", "-.Inf", "-.INF"].contains text then some (.float (.infinity true), "!!float")
  else none

/-- The double a decimal text spells: a sign, then digits with an optional point and
fraction or a point and fraction digits, then an optional exponent. A decimal too large
for a double spells none. -/
def floatOf (text : String) : Option Double :=
  let cs := text.toList
  let (negative, cs) := match cs with
    | '-' :: r => (true, r)
    | '+' :: r => (false, r)
    | _ => (false, cs)
  let whole := cs.takeWhile Char.isDigit
  let cs := cs.dropWhile Char.isDigit
  let (frac, cs) := match cs with
    | '.' :: r => (r.takeWhile Char.isDigit, r.dropWhile Char.isDigit)
    | _ => ([], cs)
  let hasPoint := text.contains '.'
  let exp? : Option Int := match cs with
    | [] => some 0
    | e :: r =>
      if e = 'e' ∨ e = 'E' then
        let (neg, ds) := match r with
          | '-' :: ds => (true, ds)
          | '+' :: ds => (false, ds)
          | ds => (false, ds)
        if ds.isEmpty ∨ !ds.all Char.isDigit then none
        else let n : Int := (String.ofList ds).toNat!; some (if neg then -n else n)
      else none
  if whole.isEmpty ∧ (frac.isEmpty ∨ !hasPoint) then none
  else if whole.isEmpty ∧ !hasPoint then none
  else
    exp?.bind fun e =>
      let d := Double.ofDecimal negative (String.ofList (whole ++ frac)).toNat! (e - frac.length)
      if d.isInfinite then none else some d

/-- A signed 64-bit integer in a given base without prefix or separators. -/
def intInBase (cs : List Char) (base : Nat) : Option Int :=
  let (negative, body) := match cs with
    | '-' :: r => (true, r)
    | '+' :: r => (false, r)
    | _ => (false, cs)
  if body.isEmpty then none
  else match Integer.digits base false body 0 with
    | .ok n =>
      if negative then (if n ≤ Nat.pow 2 63 then some (-(n : Int)) else none)
      else if n < Nat.pow 2 63 then some n else none
    | .error _ => none

/-- An unsigned 64-bit integer in a given base without sign, prefix or separators. -/
def uintInBase (cs : List Char) (base : Nat) : Option Nat :=
  if cs.isEmpty then none
  else match Integer.digits base false cs 0 with
    | .ok n => some n
    | .error _ => none

/-- The integer of a text with a binary or octal prefix, read in that base after it; a
minus sign may stand before the prefix. -/
def prefixedInt (plain : String) : Option (Value × String) :=
  let cs := plain.toList
  let int (n : Int) : Value × String := (.int n .int, "!!int")
  match cs with
  | '0' :: 'b' :: rest =>
    match intInBase rest 2 with
    | some n => some (int n)
    | none => (uintInBase rest 2).map fun n => (.int n .uint64, "!!int")
  | '-' :: '0' :: 'b' :: rest => (intInBase ('-' :: rest) 2).map int
  | '0' :: 'o' :: rest =>
    match intInBase rest 8 with
    | some n => some (int n)
    | none => (uintInBase rest 8).map fun n => (.int n .uint64, "!!int")
  | '-' :: '0' :: 'o' :: rest => (intInBase ('-' :: rest) 8).map int
  | _ => none

/-! ## Timestamps -/

/-- Reads one or two digits. -/
def number12 (cs : List Char) : Option (Nat × List Char) :=
  match cs with
  | a :: b :: rest =>
    if a.isDigit then
      if b.isDigit then some ((a.toNat - 48) * 10 + (b.toNat - 48), rest) else some (a.toNat - 48, b :: rest)
    else none
  | [a] => if a.isDigit then some (a.toNat - 48, []) else none
  | [] => none

/-- Reads a fraction of a second after a point or comma: all its digits, of which the
first nine count. -/
def fraction (cs : List Char) : Nat × List Char :=
  match cs with
  | p :: d :: rest =>
    if (p = '.' ∨ p = ',') ∧ d.isDigit then
      let ds := (d :: rest).takeWhile Char.isDigit
      let nine := (ds.take 9) ++ List.replicate (9 - min 9 ds.length) '0'
      ((String.ofList nine).toNat!, (d :: rest).dropWhile Char.isDigit)
    else (0, cs)
  | _ => (0, cs)

/-- Reads a zone: `Z`, or a sign, two digits of hours, a colon and two of minutes. -/
def zoneOf (cs : List Char) : Option (Zone × List Char) :=
  match cs with
  | 'Z' :: rest => some (.utc, rest)
  | s :: h1 :: h2 :: ':' :: m1 :: m2 :: rest =>
    if (s = '+' ∨ s = '-') ∧ h1.isDigit ∧ h2.isDigit ∧ m1.isDigit ∧ m2.isDigit then
      let h := (h1.toNat - 48) * 10 + (h2.toNat - 48)
      let m := (m1.toNat - 48) * 10 + (m2.toNat - 48)
      if 24 < h ∨ 60 < m then none
      else
        let o : Int := ((h * 60 + m) * 60 : Nat)
        let o := if s = '-' then -o else o
        some (if o = 0 then .utc else .fixed o, rest)
    else none
  | _ => none

/-- The forms a timestamp may take after its date: a separator and a time with an
optional fraction and, when `zoned`, a zone. -/
def timeOf (sep : Char) (zoned : Bool) (cs : List Char) : Option (Nat × Nat × Nat × Nat × Zone) := do
  let rest ← match cs with
    | c :: r => if c = sep then some r else none
    | [] => none
  let (h, rest) ← number12 rest
  let rest ← match rest with | ':' :: r => some r | _ => none
  let (mi, rest) ← number12 rest
  let rest ← match rest with | ':' :: r => some r | _ => none
  let (s, rest) ← number12 rest
  let (ns, rest) := fraction rest
  let (z, rest) ← if zoned then zoneOf rest else some (Zone.utc, rest)
  if !rest.isEmpty ∨ 24 ≤ h ∨ 60 ≤ mi ∨ 60 ≤ s then none else some (h, mi, s, ns, z)

/-- The moment a timestamp spells: four digits of year, a dash, a month and a day of one
or two digits, then nothing, or `T` or `t` and a time with a zone, or a space and a time
without one. The date must exist. -/
def timestamp (text : String) : Option Moment := do
  let cs := text.toList
  let year := cs.take 4
  if year.length ≠ 4 ∨ !year.all Char.isDigit then none
  let rest ← match cs.drop 4 with | '-' :: r => some r | _ => none
  let (month, rest) ← number12 rest
  let rest ← match rest with | '-' :: r => some r | _ => none
  let (day, rest) ← number12 rest
  let y : Int := (String.ofList year).toNat!
  if !Moment.validDate y month day then none
  let date : Moment := { year := y, month, day }
  if rest.isEmpty then some date
  else
    let t := (timeOf 'T' true rest) <|> (timeOf 't' true rest) <|> (timeOf ' ' false rest)
    t.map fun (h, mi, s, ns, z) => { date with hour := h, minute := mi, second := s, nanos := ns, zone := z }

/-- The value of a timestamp. -/
def timeValue (m : Moment) : Value := .other "time.Time" "struct" m.text

/-! ## Resolving scalars -/

/-- The value a plain scalar spells and its tag, looked for as a tag `tag` allows. -/
def resolvePlain (tag text : String) : Value × String :=
  let str : Value × String := (.text text, "!!str")
  let hint := hintOf text
  if hint = .none ∨ tag = "!!str" ∨ tag = "!!binary" then str
  else match named text with
    | some r => r
    | none =>
      match hint with
      | .dot => match floatOf text with
        | some d => (.float d, "!!float")
        | none => str
      | .number =>
        let moment := if tag = "" ∨ tag = "!!timestamp" then timestamp text else none
        match moment with
        | some m => (timeValue m, "!!timestamp")
        | none =>
          let plain := text.replace "_" ""
          match Integer.parse plain with
          | .ok n => (.int n .int, "!!int")
          | .error _ =>
            match Integer.magnitude plain.toList with
            | .ok n => (.int n .uint64, "!!int")
            | .error _ =>
              match floatOf plain with
              | some d => (.float d, "!!float")
              | none => (prefixedInt plain).getD str
      | _ => str

/-- The tags whose scalars are resolved. -/
def resolvable (tag : String) : Bool :=
  ["", "!!str", "!!bool", "!!int", "!!float", "!!timestamp", "!!null"].contains tag

/-- The value of a scalar with a tag, and the tag it resolves to; a tag the text does not
spell a value of stops decoding. -/
def resolve (tag text : String) : Except String (Value × String) :=
  if !resolvable tag then .ok (.text text, tag)
  else
    let (v, rtag) := resolvePlain tag text
    if tag = "" ∨ tag = rtag ∨ tag = "!!str" then .ok (v, rtag)
    else match tag, v with
      | "!!float", .int n .int => .ok (.float (Double.ofInt n), "!!float")
      | _, _ => .error ("cannot decode " ++ rtag ++ " `" ++ text ++ "` as a " ++ tag)

/-- The tag a node has: the one written with it unless that is `!` or none; else a
string for a quoted or block scalar, a merge key for a plain `<<`, and the tag of what a
plain scalar spells. An alias has the tag of the node it names. -/
def nodeTag : Node → String
  | .scalar text style tag _ =>
    if tag ≠ "" ∧ tag ≠ "!" then shortTag tag
    else if style ≠ .plain then "!!str"
    else if text = "<<" then "!!merge"
    else (resolvePlain "" text).2
  | .sequence .. => "!!seq"
  | .mapping .. => "!!map"
  | .alias _ target _ => nodeTag target
  | .cycle _ isMapping _ => if isMapping then "!!map" else "!!seq"

/-- Whether a node is a merge key: a scalar `<<` whose tag is the merge tag. -/
def isMerge : Node → Bool
  | n@(.scalar text _ _ _) => text = "<<" ∧ nodeTag n = "!!merge"
  | _ => false

/-- The value of a scalar node; null when it resolves to null. -/
def scalarValue (text : String) (tag : String) : Except String Value :=
  if tag = "!!str" then .ok (.text text)
  else do
    let (v, rtag) ← resolve tag text
    if rtag = "!!binary" then
      match Base64.decode? (String.ofList (text.toList.filter fun c => c ≠ '\n' ∧ c ≠ '\r')) with
      | some bytes => .ok (.text (Utf8.read bytes))
      | none => .error "!!binary value contains invalid base64 data"
    else .ok v

/-! ## Decoding nodes

Decoding walks the tree as the document is turned into values. Every node decoded is
counted, and so is every node decoded through an alias; when more than a hundred of over a
thousand decodes came through aliases and their share is too large, decoding stops, so
that a few aliases cannot make a small document decode into a huge one. An alias met again
inside the node it names stops decoding too.
-/

/-- The line of a node. -/
def Node.line : Node → Nat
  | .scalar _ _ _ l => l
  | .sequence _ l => l
  | .mapping _ l => l
  | .alias _ _ l => l
  | .cycle _ _ l => l

/-- What a key is compared by for being written twice: a scalar by its text, an alias by
its anchor's name, and all lists alike and all mappings alike. -/
def Node.keyText : Node → Nat × String
  | .scalar text .. => (0, text)
  | .alias name .. => (1, name)
  | .sequence .. => (2, "")
  | .mapping .. => (3, "")
  | .cycle _ isMapping _ => (if isMapping then 3 else 2, "")

/-- The reports of keys written twice in one mapping. -/
def duplicates : List (Node × Node) → List String
  | [] => []
  | (k, _) :: rest =>
    let here := rest.filterMap fun (k2, _) =>
      if k.keyText = k2.keyText then
        some ("line " ++ toString k2.line ++ ": mapping key " ++ Quote.quote k.keyText.2
          ++ " already defined at line " ++ toString k.line)
      else none
    here ++ duplicates rest

/-- Whether every key of a mapping is a string or a merge key. -/
def hasStringKeys (pairs : List (Node × Node)) : Bool :=
  pairs.all fun (k, _) => nodeTag k = "!!str" ∨ nodeTag k = "!!merge"

/-- A value written as Go source writes it, as keys are shown in a report. -/
def goSyntax : Value → Nat → String
  | _, 0 => ""
  | .null, _ => "interface {}(nil)"
  | .text s, _ => Quote.quote s
  | .int n .uint64, _ => "0x" ++ String.ofList (Nat.toDigits 16 n.toNat)
  | .list items, fuel + 1 => "[]interface {}\x7b" ++ ", ".intercalate (items.map (goSyntax · fuel)) ++ "\x7d"
  | .table es, fuel + 1 =>
    let es := es.mergeSort fun a b => decide (a.1 ≤ b.1)
    "map[string]interface {}\x7b" ++ ", ".intercalate (es.map fun (k, v) => Quote.quote k ++ ":" ++ goSyntax v fuel) ++ "\x7d"
  | v, _ => v.display

/-- The identity of a key for merging: its type and printed form. -/
def keyIdentity (v : Value) : String := v.typeName ++ ":" ++ v.display

/-- Puts a value under a key, replacing the value of an equal key in its place. -/
def setEntry (es : List (String × Value)) (key : String) (v : Value) : List (String × Value) :=
  if es.any (·.1 == key) then es.map fun (k, w) => if k == key then (k, v) else (k, w)
  else es ++ [(key, v)]

/-- The first characters of a scalar as shown in a report. -/
def shownScalar (text : String) : String :=
  if text.utf8ByteSize > 10 then " `" ++ Utf8.read (text.toUTF8.extract 0 7) ++ "...`"
  else " `" ++ text ++ "`"

/-- The decoder's count of nodes decoded, of those decoded through an alias, how many
aliases deep it is, and the type errors so far, in order. -/
structure Tally where
  decodes : Nat := 0
  aliased : Nat := 0
  depth : Nat := 0
  problems : List String := []

/-- A step of decoding: it counts, reports type errors, or stops with a message. -/
abbrev Decoding := StateT Tally (Except String)

/-- Whether the share of decodes that came through aliases is too large: up to 400000
decodes all but one in a hundred may, from 4000000 on only one in ten, and the share
falls evenly in between. -/
def excessive (aliased decodes : Nat) : Bool :=
  if decodes ≤ 400000 then aliased * 100 > decodes * 99
  else if decodes ≥ 4000000 then aliased * 10 > decodes
  else aliased * 360000000 > decodes * (356400000 - 89 * (decodes - 400000))

/-- Counts one node decoded, and stops when too much came through aliases. -/
def tick : Decoding Unit := do
  let t ← get
  let t := { t with decodes := t.decodes + 1, aliased := if t.depth > 0 then t.aliased + 1 else t.aliased }
  set t
  if t.aliased > 100 ∧ t.decodes > 1000 ∧ excessive t.aliased t.decodes then
    throw "document contains excessive aliasing"

/-- Reports type errors. -/
def report (ps : List String) : Decoding Unit :=
  modify fun t => { t with problems := t.problems ++ ps }

/-- Runs a step inside an alias. -/
def throughAlias {α : Type} (step : Decoding α) : Decoding α := do
  modify fun t => { t with depth := t.depth + 1 }
  let r ← step
  modify fun t => { t with depth := t.depth - 1 }
  pure r

/-- The failure of an alias met inside the node it names. -/
def containsItself {α : Type} (name : String) : Decoding α :=
  throw ("anchor '" ++ name ++ "' value contains itself")

/-- The failure of a merge key whose value is not a mapping or a list of them. -/
def wantMap {α : Type} : Decoding α := throw "map merge requires map or sequence of maps as the value"

/-- A mapping being filled: its entries and, once a merge began, the identities of the
keys it has, which merged entries may not replace. -/
structure Filling where
  entries : List (String × Value) := []
  seen : Option (List String) := none

mutual

/-- The value of a node decoded as a value of any type; none when it is left out. -/
def decode : Nat → Node → Decoding (Option Value)
  | 0, _ => pure none
  | fuel + 1, n => do
    tick
    match n with
    | .scalar text _ _ _ => pure (some (← scalarValue text (nodeTag n)))
    | .sequence items _ => pure (some (.list (← decodeItems fuel items)))
    | .mapping pairs _ =>
      match duplicates pairs with
      | [] => do
        let f ← fill fuel (hasStringKeys pairs) pairs pairs {}
        pure (some (.table f.entries))
      | ds => do
        report ds
        pure none
    | .alias _ (.cycle name ..) _ => throughAlias (containsItself name)
    | .alias _ target _ => throughAlias (decode fuel target)
    | .cycle name .. => containsItself name

/-- The values of list items; items left out are dropped. -/
def decodeItems : Nat → List Node → Decoding (List Value)
  | 0, _ => pure []
  | _ + 1, [] => pure []
  | fuel + 1, n :: rest => do
    let v ← decode fuel n
    let vs ← decodeItems fuel rest
    pure (v.toList ++ vs)

/-- Fills a mapping from node pairs: entries with string keys when `stringKeys`. Merge
keys are skipped, and after the other entries the value of the last one is merged. -/
def fill : Nat → Bool → List (Node × Node) → List (Node × Node) → Filling → Decoding Filling
  | 0, _, _, _, f => pure f
  | fuel + 1, stringKeys, all, [], f =>
    match (all.reverse.find? fun (k, _) => isMerge k) with
    | none => pure f
    | some (_, m) => merge fuel stringKeys all m f
  | fuel + 1, stringKeys, all, (k, v) :: rest, f => do
    if isMerge k then fill fuel stringKeys all rest f
    else
      match ← keyOf fuel stringKeys k with
      | none => fill fuel stringKeys all rest f
      | some (name, identity) =>
        let fresh := match f.seen with
          | some s => !s.contains identity
          | none => true
        if !fresh then fill fuel stringKeys all rest f
        else
          let f := { f with seen := f.seen.map (· ++ [identity]) }
          let f := match ← decode fuel v with
            | some x => { f with entries := setEntry f.entries name x }
            | none => f
          fill fuel stringKeys all rest f

/-- Merges a merge key's value into a mapping: a mapping, or a list of mappings in order.
Before the first merge the keys of the mapping itself are read again, as values. -/
def merge : Nat → Bool → List (Node × Node) → Node → Filling → Decoding Filling
  | 0, _, _, _, f => pure f
  | fuel + 1, stringKeys, all, m, f => do
    let f ← match f.seen with
      | some _ => pure f
      | none => do pure { f with seen := some (← keysOf fuel all) }
    match m with
    | .mapping .. => mergeOne fuel stringKeys m f
    | .alias _ target _ =>
      match target with
      | .mapping .. | .cycle _ true _ => mergeOne fuel stringKeys m f
      | _ => wantMap
    | .sequence items _ => mergeAll fuel stringKeys items f
    | _ => wantMap

/-- Merges the mappings of a list in order, each checked as it comes. -/
def mergeAll : Nat → Bool → List Node → Filling → Decoding Filling
  | 0, _, _, f => pure f
  | _ + 1, _, [], f => pure f
  | fuel + 1, stringKeys, n :: rest, f => do
    match n with
    | .mapping .. | .alias _ (.mapping ..) _ | .alias _ (.cycle _ true _) _ => pure ()
    | _ => wantMap
    let f ← mergeOne fuel stringKeys n f
    mergeAll fuel stringKeys rest f

/-- Merges one mapping, or an alias of one, into a mapping being filled; a mapping with a
key written twice adds nothing. -/
def mergeOne : Nat → Bool → Node → Filling → Decoding Filling
  | 0, _, _, f => pure f
  | fuel + 1, stringKeys, n, f => do
    tick
    match n with
    | .mapping pairs _ =>
      match duplicates pairs with
      | [] => fill fuel stringKeys pairs pairs f
      | ds => do
        report ds
        pure f
    | .alias _ (.cycle name ..) _ => throughAlias (containsItself name)
    | .alias _ target _ => throughAlias (mergeOne fuel stringKeys target f)
    | _ => pure f

/-- The key of an entry, by name and identity; none when the entry is left out. With
string keys, a scalar gives its text and a null leaves the entry out, while a collection
is a type error; otherwise the key is a value, and a collection stops decoding. -/
def keyOf : Nat → Bool → Node → Decoding (Option (String × String))
  | 0, _, _ => pure none
  | fuel + 1, true, n => do
    tick
    match n with
    | .scalar text _ _ _ =>
      match ← scalarValue text (nodeTag n) with
      | .null => pure none
      | .text s => pure (some (s, keyIdentity (.text s)))
      | _ => pure (some (text, keyIdentity (.text text)))
    | .mapping pairs line =>
      match duplicates pairs with
      | [] => do
        report ["line " ++ toString line ++ ": cannot unmarshal !!map into string"]
        pure none
      | ds => do
        report ds
        pure none
    | .alias _ target _ => throughAlias (keyOf fuel true target)
    | _ => do
      report ["line " ++ toString n.line ++ ": cannot unmarshal " ++ nodeTag n ++ " into string"]
      pure none
  | fuel + 1, false, n => do
    match ← decode fuel n with
    | some v@(.list _) | some v@(.table _) => throw ("invalid map key: " ++ goSyntax v (fuel + 1))
    | some v => pure (some (v.display, keyIdentity v))
    | none => pure none

/-- The identities of the keys of a mapping, each read as a value. -/
def keysOf : Nat → List (Node × Node) → Decoding (List String)
  | 0, _ => pure []
  | _ + 1, [] => pure []
  | fuel + 1, (k, _) :: rest => do
    let v ← decode fuel k
    let ids ← keysOf fuel rest
    pure ((v.map keyIdentity).toList ++ ids)

end

/-- Decodes the document's root into the entries of a mapping with string keys. -/
def decodeRoot (fuel : Nat) (root : Node) : Decoding (List (String × Value)) := do
  tick
  tick
  match root with
  | .mapping pairs _ =>
    match duplicates pairs with
    | [] => pure (← fill fuel true pairs pairs {}).entries
    | ds => do
      report ds
      pure []
  | .scalar text _ _ line =>
    match ← scalarValue text (nodeTag root) with
    | .null => pure []
    | _ => do
      report ["line " ++ toString line ++ ": cannot unmarshal " ++ nodeTag root ++ shownScalar text
        ++ " into map[string]interface {}"]
      pure []
  | n => do
    report ["line " ++ toString n.line ++ ": cannot unmarshal " ++ nodeTag n ++ " into map[string]interface {}"]
    pure []

/-- Reads a YAML stream's first document into table entries. -/
def read (bytes : ByteArray) : Except String (List (String × Value)) := do
  let stream := decodeStream bytes
  match parse stream with
  | .error f => .error f.message
  | .ok none => .ok []
  | .ok (some root) =>
    match (decodeRoot (2 * stream.chars.size + 4) root).run {} with
    | .error e => .error ("yaml: " ++ e)
    | .ok (es, { problems := [], .. }) => .ok es
    | .ok (_, t) => .error ("yaml: unmarshal errors:\n  " ++ "\n  ".intercalate t.problems)

end LiveTail.Document.Yaml

import LiveTail.Document.Value
import LiveTail.Text.Case
import LiveTail.Text.Quote
import LiveTail.Text.Verbs
/-!
# Properties documents

A properties document assigns texts to keys, one a line. A key ends at the first blank,
`:` or `=` that is not escaped; blanks, one `:` or `=`, and blanks more separate it from
the value, which runs to the end of the line. Lines starting with `#` or `!` are comments.
A backslash escapes: `\t`, `\n`, `\r`, `\f`, `\uXXXX` (a surrogate reading as U+FFFD), and
before any other character that character itself; a backslash at the end of a value joins the next line, whose leading
blanks go.

A value may refer to another key as `${key}`, replaced by that key's value (or the
variable of that name when no key has it), itself expanded in turn; a reference to a key
on its own path is refused, and so are an unclosed `${` and a path of more than 64 keys.

Keys with dots nest: `log.level` is `level` in the table `log`.

A line whose key is empty (it starts with `:` or `=`) is refused with its value shown
quoted, cut to ten characters and `...` when it is longer than ten octets. The messages
of refused lines and circular references are read as formats with no values, so a
percent sign in them prints as a directive without its value.
-/
namespace LiveTail.Document.Properties

/-- A blank between key and value. -/
def isBlank (c : Char) : Bool := c = ' ' || c = '\t' || c = '\x0c'

/-- A line end. -/
def isLineEnd (c : Char) : Bool := c = '\n' || c = '\r'

/-- Reads the escape after a backslash: the character it stands for and the rest. -/
def escape (cs : List Char) : Except String (Char × List Char) :=
  match cs with
  | [] => .error "premature EOF"
  | 't' :: rest => .ok ('\t', rest)
  | 'n' :: rest => .ok ('\n', rest)
  | 'r' :: rest => .ok ('\r', rest)
  | 'f' :: rest => .ok ('\x0c', rest)
  | 'u' :: rest =>
    let ds := rest.take 4
    let hex (c : Char) : Option Nat :=
      if c.isDigit then some (c.toNat - 48)
      else if 'a' ≤ c ∧ c ≤ 'f' then some (c.toNat - 87)
      else if 'A' ≤ c ∧ c ≤ 'F' then some (c.toNat - 55) else none
    match ds.foldlM (fun acc d => (hex d).map (acc * 16 + ·)) 0 with
    | some n =>
      -- a surrogate is no character: it reads as the replacement character
      let c := if 0xD800 ≤ n ∧ n ≤ 0xDFFF then '\uFFFD' else Char.ofNat n
      if ds.length = 4 then .ok (c, rest.drop 4) else .error "invalid unicode literal"
    | none => .error "invalid unicode literal"
  | c :: rest => .ok (c, rest)

/-- Reads a key up to its end: the key and the rest. -/
def key (acc : List Char) : List Char → Nat → Except String (String × List Char)
  | cs, 0 => .ok (String.ofList acc.reverse, cs)
  | [], _ => .ok (String.ofList acc.reverse, [])
  | c :: rest, fuel + 1 =>
    if c = '\\' then
      match escape rest with
      | .ok (e, rest) => key (e :: acc) rest fuel
      | .error m => .error m
    else if isBlank c ∨ isLineEnd c ∨ c = ':' ∨ c = '=' then .ok (String.ofList acc.reverse, c :: rest)
    else key (c :: acc) rest fuel

/-- Reads a value to the end of its line, joining lines after a final backslash. -/
def value (acc : List Char) : List Char → Nat → Except String (String × List Char)
  | cs, 0 => .ok (String.ofList acc.reverse, cs)
  | [], _ => .ok (String.ofList acc.reverse, [])
  | c :: rest, fuel + 1 =>
    if c = '\\' then
      match rest with
      | e :: more =>
        if isLineEnd e then value acc (more.dropWhile isBlank) fuel
        else
          match escape rest with
          | .ok (x, rest) => value (x :: acc) rest fuel
          | .error m => .error m
      | [] => .error "premature EOF"
    else if isLineEnd c then .ok (String.ofList acc.reverse, c :: rest)
    else value (c :: acc) rest fuel

/-- A value as a refused line shows it: quoted, and past ten octets cut to ten
characters followed by `...`. -/
def shown (v : String) : String :=
  if v.utf8ByteSize > 10 then Quote.quote (String.ofList (v.toList.take 10)) ++ "..." else Quote.quote v

/-- The line number of a place, counted from one by the line feeds before it. -/
def lineAt (text rest : List Char) : Nat :=
  ((text.take (text.length - rest.length)).filter (· = '\n')).length + 1

/-- Reads the key-value pairs of a document, in order. -/
def pairs (text : List Char) : Except String (List (String × String)) :=
  go text [] (text.length + 1)
where
  /-- Reads the pairs of the rest of the text. -/
  go (cs : List Char) (acc : List (String × String)) : Nat → Except String (List (String × String))
    | 0 => .ok acc
    | fuel + 1 =>
      match cs.dropWhile fun c => isBlank c ∨ isLineEnd c with
      | [] => .ok acc
      | c :: rest =>
        if c = '#' ∨ c = '!' then go (rest.dropWhile fun c => !isLineEnd c) acc fuel
        else
          let fail (m : String) (pos : List Char) : Except String (List (String × String)) :=
            .error ("properties: Line " ++ toString (lineAt text pos) ++ ": " ++ Verbs.unfilled m)
          match key [] (c :: rest) (rest.length + 2) with
          | .error m => fail m rest
          | .ok (k, rest) =>
            let rest := rest.dropWhile isBlank
            let rest := match rest with
              | ':' :: r | '=' :: r => r
              | _ => rest
            match value [] (rest.dropWhile isBlank) (rest.length + 1) with
            | .error m => fail m rest
            | .ok (v, after) =>
              if k.isEmpty then fail (shown v) rest else
              let rest := after
              let acc := if acc.any (·.1 == k)
                then acc.map fun (k', w) => if k' == k then (k', v) else (k', w)
                else acc ++ [(k, v)]
              go rest acc fuel

/-- The longest path of keys an expansion may follow. -/
def maxDepth : Nat := 64

/-- Expands the references of a value, `keys` being the path of keys expanded so far; the
references are replaced from the left, each by its fully expanded value. -/
def expand (values : List (String × String)) (lookup : String → Option String) (s : String)
    (keys : List String) : Nat → Except String String
  | 0 => .error "expansion too deep"
  | fuel + 1 =>
    if keys.length > maxDepth then .error "expansion too deep" else
    match s.splitOn "$\x7b" with
    | [] | [_] => .ok s
    | front :: _ =>
      let after := (s.drop (front.length + 2)).toString
      match after.splitOn "\x7d" with
      | [] | [_] => .error "malformed expression"
      | name :: _ =>
        if keys.contains name then
          .error (Verbs.unfilled ("circular reference in:\n" ++ String.join (keys.map fun k =>
            k ++ "=" ++ (values.lookup k).getD "" ++ "\n")))
        else
          let v := match values.lookup name with
            | some v => v
            | none => (lookup name).getD ""
          match expand values lookup v (keys ++ [name]) fuel with
          | .error e => .error e
          | .ok inner =>
            let s := front ++ inner ++ (after.drop (name.length + 1)).toString
            -- the rest of the text is expanded again, the path unchanged
            match expand values lookup s keys fuel with
            | .error e => .error e
            | .ok t => .ok t

/-- Reads a properties document into nested tables of texts. -/
def read (lookup : String → Option String) (text : String) : Except String (List (String × Value)) := do
  let ps ← pairs text.toList
  let depth := Nat.pow 2 20 + text.length
  let expanded ← ps.mapM fun (k, v) => do
    let e ← expand ps lookup v [k] depth
    pure (k, e)
  return expanded.foldl (fun es (k, v) =>
    let path := k.splitOn "."
    let path := path.dropLast ++ [Case.lower (path.getLast?.getD "")]
    Value.setAt es path (.text v)) []

end LiveTail.Document.Properties

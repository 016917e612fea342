import LiveTail.Bytes.Utf8
import LiveTail.Document.Hcl.Json
import LiveTail.Text.Integer
import LiveTail.Text.Quote
import LiveTail.Document.Value
import LiveTail.Text.Case
/-!
# Reading HCL documents

A document's items become a table. An item's value is decoded by what it is: a number
with no point or exponent is an integer, one with them a decimal; truth values, strings
and heredocs are themselves; a list is a list. A block is a list of tables, one for each
block of that name, because a name may open several blocks; the items of a table that is
an element of a list are plain values again, so a block inside a list element is once more
a list of tables. An item with several keys (`a "b" { … }`) gathers every item whose first
key is `a` (in any case) and decodes their remaining keys as a block list under `a`.

A name given twice decodes its second value into what the first left there: a list grows,
a block list gets more tables, and a scalar is read again as the same kind of scalar,
which may fail.

A document whose first character other than white space is `{` is JSON. Its objects are
blocks, and an object whose members are all objects, or a list of objects only, is
spread into items of several keys before decoding.
-/
namespace LiveTail.Document.Hcl

/-- The UTF-8 bytes of a character. -/
def charBytes (c : Char) : List UInt8 := (String.singleton c).toUTF8.toList

/-- The value of a hexadecimal digit, if it is one. -/
def hexDigit (c : Char) : Option Nat :=
  let v := Reader.digitVal c
  if v < 16 then some v else none

/-- Reads `n` hexadecimal digits. -/
def hexValue (cs : List Char) (n : Nat) : Option Nat :=
  if cs.length < n then none
  else (cs.take n).foldlM (fun acc c => (hexDigit c).map (acc * 16 + ·)) 0

/-- Reads one character or escape of a quoted string: its bytes and the rest. A code
point escape names a Unicode scalar value when `strict`; otherwise a surrogate stands for
the replacement character. -/
def unquoteChar (strict : Bool) (cs : List Char) : Option (List UInt8 × List Char) :=
  match cs with
  | [] => none
  | '"' :: _ => none
  | '\\' :: c :: rest =>
    match c with
    | 'a' => some ([7], rest)
    | 'b' => some ([8], rest)
    | 'f' => some ([12], rest)
    | 'n' => some ([10], rest)
    | 'r' => some ([13], rest)
    | 't' => some ([9], rest)
    | 'v' => some ([11], rest)
    | '\\' => some ([92], rest)
    | '"' => some ([34], rest)
    | 'x' => (hexValue rest 2).map fun v => ([v.toUInt8], rest.drop 2)
    | 'u' | 'U' =>
      let n := if c = 'u' then 4 else 8
      (hexValue rest n).bind fun v =>
        if v > 0x10FFFF ∨ (strict ∧ 0xD800 ≤ v ∧ v < 0xE000) then none
        else some (charBytes (if 0xD800 ≤ v ∧ v < 0xE000 then '�' else Char.ofNat v), rest.drop n)
    | _ =>
      if '0' ≤ c ∧ c ≤ '7' then
        match rest with
        | d1 :: d2 :: more =>
          if '0' ≤ d1 ∧ d1 ≤ '7' ∧ '0' ≤ d2 ∧ d2 ≤ '7' then
            let v := (c.toNat - 48) * 64 + (d1.toNat - 48) * 8 + (d2.toNat - 48)
            if v > 255 then none else some ([v.toUInt8], more)
          else none
        | _ => none
      else none
  | ['\\'] => none
  | c :: rest => some (charBytes c, rest)

/-- Undoes the quoting of a string token. Text inside `${ … }` is kept as written. -/
def unquote (text : String) : Option String :=
  let cs := text.toList
  if cs.length < 2 ∨ cs.head? ≠ some '"' ∨ cs.getLast? ≠ some '"' then none
  else
    let body := (cs.drop 1).dropLast
    if !body.contains '$' ∧ !body.contains '{' ∧ body.contains '\n' then none
    else if !body.contains '\\' ∧ !body.contains '"' ∧ !body.contains '$' then some (String.ofList body)
    else
      let rec go (cs : List Char) (acc : List UInt8) : Nat → Option (List UInt8)
        | 0 => none
        | fuel + 1 =>
          match cs with
          | [] => some acc
          | '$' :: '{' :: rest =>
            -- copied as written up to the brace that closes it
            let rec copy (cs : List Char) (acc : List UInt8) (braces : Nat) : Nat → Option (List UInt8 × List Char)
              | 0 => none
              | fuel + 1 =>
                if braces = 0 then some (acc, cs)
                else match cs with
                  | [] => none
                  | c :: rest =>
                    if c = '�' then none
                    else
                      let braces := if c = '{' then braces + 1 else if c = '}' then braces - 1 else braces
                      copy rest (acc ++ charBytes c) braces fuel
            match copy rest (acc ++ [36, 123]) 1 (rest.length + 1) with
            | some (acc, rest) => go rest acc fuel
            | none => none
          | '\n' :: _ => none
          | _ =>
            match unquoteChar false cs with
            | some (bytes, rest) => go rest (acc ++ bytes) fuel
            | none => none
      (go body [] (body.length + 1)).map fun bytes => Utf8.read (ByteArray.mk bytes.toArray)

/-- Undoes the quoting of a string by the general rules of quoted strings, which a JSON
document's strings follow: no line break, no bare quote, and escapes of valid characters. -/
def strictUnquote (text : String) : Option String :=
  let cs := text.toList
  if cs.length < 2 ∨ cs.head? ≠ some '"' ∨ cs.getLast? ≠ some '"' then none
  else
    let body := (cs.drop 1).dropLast
    if body.contains '\n' then none
    else if !body.contains '\\' ∧ !body.contains '"' then some (String.ofList body)
    else
      let rec go (cs : List Char) (acc : List UInt8) : Nat → Option (List UInt8)
        | 0 => none
        | fuel + 1 =>
          match cs with
          | [] => some acc
          | _ =>
            match unquoteChar true cs with
            | some (bytes, rest) => go rest (acc ++ bytes) fuel
            | none => none
      (go body [] (body.length + 1)).map fun bytes => Utf8.read (ByteArray.mk bytes.toArray)

/-- The text a string token of a JSON document stands for: the empty string for `null`,
else its value. A string that cannot be unquoted is taken as written. -/
def jsonText (text : String) : String :=
  if text.isEmpty then "" else (strictUnquote text).getD text

/-- The text of a heredoc token: the lines between the anchors. In an indented heredoc
(`<<-`) every line loses the indentation of the closing anchor, unless some line has less
of it; then only blanks at the end go. -/
def heredocText (text : String) : String :=
  let b := text.toUTF8.toList
  let slice (lo hi : Nat) : List UInt8 := (b.take hi).drop lo
  let str (bs : List UInt8) : String := Utf8.read (ByteArray.mk bs.toArray)
  match b.findIdx? (· = 10) with
  | none => text
  | some idx =>
    if b[2]? ≠ some 45 then str (slice (idx + 1) (b.length + 1 - idx))
    else
      let lines := (str (slice (idx + 1) (b.length + 2 - idx))).splitOn "\n"
      let margin := lines.getLast?.getD ""
      if lines.all (·.startsWith margin) then
        "\n".intercalate (lines.dropLast.map (fun l => (l.drop margin.length).toString) ++ [""])
      else
        let s := str (slice (idx + 1) (b.length + 1 - idx))
        String.ofList (s.toList.reverse.dropWhile (fun c => c = ' ' || c = '\t')).reverse

/-- The text a string or heredoc token stands for. -/
def Token.stringValue (t : Token) : Option String :=
  if t.json then some (jsonText t.text)
  else if t.kind = .heredoc then some (heredocText t.text)
  else unquote t.text

/-- The name a key token gives. -/
def Token.keyValue (t : Token) : Option String :=
  if t.json then some (jsonText t.text)
  else if t.kind = .ident then some t.text else unquote t.text

/-- The sign, digits and exponent of a decimal number text, `none` if it is not one. -/
def decimalOf (text : String) : Option (Bool × Nat × Int) :=
  let cs := text.toList
  let (negative, cs) := match cs with
    | '-' :: rest => (true, rest)
    | '+' :: rest => (false, rest)
    | _ => (false, cs)
  let whole := cs.takeWhile Char.isDigit
  let cs := cs.dropWhile Char.isDigit
  let (frac, cs) := match cs with
    | '.' :: rest => (rest.takeWhile Char.isDigit, rest.dropWhile Char.isDigit)
    | _ => ([], cs)
  if whole.isEmpty ∧ frac.isEmpty then none
  else
    let exp? : Option Int := match cs with
      | [] => some 0
      | e :: rest =>
        if e = 'e' ∨ e = 'E' then
          let (neg, ds) := match rest with
            | '-' :: ds => (true, ds)
            | '+' :: ds => (false, ds)
            | ds => (false, ds)
          if ds.isEmpty ∨ !ds.all Char.isDigit then none
          else let n : Int := (String.ofList ds).toNat!; some (if neg then -n else n)
        else none
    exp?.map fun e => (negative, (String.ofList (whole ++ frac)).toNat!, e - frac.length)

/-- A decoded value: the values of a generic decoding, where a block list is kept apart
from a plain list. -/
inductive Held where
  | table (entries : List (String × Held))
  /-- The tables of blocks of one name. -/
  | blocks (items : List Held)
  | list (items : List Held)
  | int (n : Int)
  | float (d : Double)
  | bool (b : Bool)
  | text (s : String)

/-- The type name of a node in messages. -/
def Node.typeName : Node → String
  | .literal _ => "*ast.LiteralType"
  | .object .. => "*ast.ObjectType"
  | .list .. => "*ast.ListType"
  | .items _ => "*ast.ObjectList"
  | .item .. => "*ast.ObjectItem"

/-- The place of the first key of the first of some items. -/
def itemsPos (items : List (List Token × Node)) : Pos :=
  match items.head? with
  | some (k :: _, _) => k.pos
  | _ => {}

/-- The place of a node in messages. -/
def Node.pos : Node → Pos
  | .literal t => t.pos
  | .object p _ => p
  | .list p _ => p
  | .items entries => itemsPos entries
  | .item keys _ => match keys.head? with
    | some k => k.pos
    | none => {}

/-- The items whose first key is `key` in any case, without that key. -/
def filterItems (items : List (List Token × Node)) (key : String) : List (List Token × Node) :=
  items.filterMap fun (keys, v) =>
    match keys with
    | k :: rest =>
      match k.keyValue with
      | some name => if name = key ∨ Case.equalFold name key then some (rest, v) else none
      | none => none
    | [] => none

/-- The problem of a node that does not fit what it is decoded into. -/
def unknownType (name : String) (node : Node) : Fault :=
  .located node.pos (name ++ ": unknown type " ++ node.typeName)

/-- Decodes an integer: a number token's text, or a string's value, read with its base
prefix. -/
def decodeInt (name : String) (node : Node) : Except Fault Held :=
  match node with
  | .literal t =>
    let text? := if t.kind = .number then some t.text else if t.kind = .string then t.stringValue else none
    match text? with
    | some text =>
      match Integer.parse text with
      | .ok n => .ok (.int n)
      | .error e => .error (.plain (e.message text))
    | none => if t.kind = .string then .error (.plain ("unquote " ++ t.text ++ " err: invalid syntax")) else .error (unknownType name node)
  | _ => .error (unknownType name node)

/-- Decodes a decimal from a number token. -/
def decodeFloat (name : String) (node : Node) : Except Fault Held :=
  match node with
  | .literal t =>
    if t.kind = .float ∨ t.kind = .number then
      match decimalOf t.text with
      | some (negative, ds, e) =>
        let d := Double.ofDecimal negative ds e
        if d.isInfinite then
          .error (.plain ("strconv.ParseFloat: parsing " ++ Quote.quote t.text ++ ": value out of range"))
        else .ok (.float d)
      | _ => .error (.plain ("strconv.ParseFloat: parsing " ++ Quote.quote t.text ++ ": invalid syntax"))
    else .error (unknownType name node)
  | _ => .error (unknownType name node)

/-- Decodes a truth value. -/
def decodeBool (name : String) (node : Node) : Except Fault Held :=
  match node with
  | .literal t => if t.kind = .bool then .ok (.bool (t.text = "true")) else .error (unknownType name node)
  | _ => .error (unknownType name node)

/-- Decodes a text: a number's text, or a string's or heredoc's value. -/
def decodeString (name : String) (node : Node) : Except Fault Held :=
  match node with
  | .literal t =>
    if t.kind = .number then .ok (.text t.text)
    else if t.kind = .string ∨ t.kind = .heredoc then
      match t.stringValue with
      | some s => .ok (.text s)
      | none => .error (.plain ("unquote " ++ t.text ++ " err: invalid syntax"))
    else .error (.located node.pos (name ++ ": unknown type for string " ++ node.typeName))
  | _ => .error (.located node.pos (name ++ ": unknown type for string " ++ node.typeName))

/-- Sets an entry of a table, keeping its place if it is there. -/
def setEntry (es : List (String × Held)) (k : String) (v : Held) : List (String × Held) :=
  if es.any (·.1 == k) then es.map fun (n, w) => if n == k then (n, v) else (n, w) else es ++ [(k, v)]

mutual

/-- Decodes a value into a slot that holds `old` if anything; `inList` says the slot is
an element of a plain list, where a block decodes as one table. -/
def decodeSlot (name : String) (node : Node) (old : Option Held) (inList : Bool) :
    Nat → Except Fault Held
  | 0 => .error (.plain "nesting too deep")
  | n + 1 =>
    match old with
    | none =>
      match node with
      | .items _ | .object .. =>
        if inList then (decodeMap name node [] n).map .table
        else (decodeSlice name node [] true n).map .blocks
      | .list .. => (decodeSlice name node [] false n).map .list
      | .literal t =>
        match t.kind with
        | .bool => decodeBool name node
        | .float => decodeFloat name node
        | .number => decodeInt name node
        | .string | .heredoc => decodeString name node
        | _ => .error (.located node.pos (name ++ ": cannot decode into interface: " ++ node.typeName))
      | _ => .error (.plain (name ++ ": cannot decode into interface: " ++ node.typeName))
    | some (.table es) => (decodeMap name node es n).map .table
    | some (.blocks items) => (decodeSlice name node items true n).map .blocks
    | some (.list items) => (decodeSlice name node items false n).map .list
    | some (.int _) => decodeInt name node
    | some (.float _) => decodeFloat name node
    | some (.bool _) => decodeBool name node
    | some (.text _) => decodeString name node

/-- Decodes items into a table that already holds `base`. -/
def decodeMap (name : String) (node : Node) (base : List (String × Held)) : Nat → Except Fault (List (String × Held))
  | 0 => .error (.plain "nesting too deep")
  | n + 1 =>
    let items? := match node with
      | .item keys v => some [(keys, v)]
      | .object _ items => some items
      | .items items => some items
      | _ => none
    match items? with
    | none => .error (.located node.pos (name ++ ": not an object type for map (" ++ node.typeName ++ ")"))
    | some items => decodeEntries name items items base [] n

/-- Decodes the entries of a table one by one; `all` are every item of the table, for the
items of several keys, and `done` the names such items have taken. -/
def decodeEntries (name : String) (all : List (List Token × Node)) :
    List (List Token × Node) → List (String × Held) → List String → Nat → Except Fault (List (String × Held))
  | [], base, _, _ => .ok base
  | _, base, _, 0 => .ok base
  | (keys, val) :: rest, base, done, n + 1 =>
    match keys with
    | [] => .error (.located (itemsPos all) (name ++ ": map must have string keys"))
    | k :: more =>
      match k.keyValue with
      | none => .error (.plain ("unquote " ++ k.text ++ " err: invalid syntax"))
      | some key =>
        if done.contains key then decodeEntries name all rest base done n
        else
          let (itemVal, done) := if more.isEmpty then (val, done) else (Node.items (filterItems all key), done ++ [key])
          match decodeSlot (name ++ "." ++ key) itemVal (base.lookup key) false n with
          | .error e => .error e
          | .ok v => decodeEntries name all rest (setEntry base key v) done n

/-- Decodes elements onto a list that already holds `base`: block tables when `tables`,
plain values otherwise. -/
def decodeSlice (name : String) (node : Node) (base : List Held) (tables : Bool) : Nat → Except Fault (List Held)
  | 0 => .error (.plain "nesting too deep")
  | n + 1 =>
    let items? : Option (List Node) := match node with
      | .items entries => some (entries.map fun (k, v) => Node.item k v)
      | .object .. => some [node]
      | .list _ elems => some elems
      | _ => none
    match items? with
    | none => .error (.located node.pos ("unknown slice type: " ++ node.typeName))
    | some items => decodeElements name items tables 0 base n

/-- Decodes list elements one by one, numbering them from `i`. -/
def decodeElements (name : String) : List Node → Bool → Nat → List Held → Nat → Except Fault (List Held)
  | [], _, _, base, _ => .ok base
  | _, _, _, base, 0 => .ok base
  | item :: rest, tables, i, base, n + 1 =>
    let field := name ++ "[" ++ toString i ++ "]"
    let v := if tables then (decodeMap field item [] n).map Held.table else decodeSlot field item none true n
    match v with
    | .error e => .error e
    | .ok v => decodeElements name rest tables (i + 1) (base ++ [v]) n

end

/-- Whether a node is a block. -/
def Node.isObject : Node → Bool
  | .object .. => true
  | _ => false

/-- Spreads items, taken from the end of `frontier`, into `acc` (in reverse): an item
whose value is a non-empty block of blocks gives one item per inner block, its keys
extended; one whose value is a non-empty list of blocks gives one item per block. -/
def spread (frontier acc : List (List Token × Node)) : Nat → List (List Token × Node)
  | 0 => acc
  | fuel + 1 =>
    match frontier.getLast? with
    | none => acc
    | some (keys, val) =>
      let frontier := frontier.dropLast
      match val with
      | .object _ sub =>
        if !sub.isEmpty ∧ sub.all (·.2.isObject) then
          spread (frontier ++ sub.map fun (k, v) => (keys ++ k, v)) acc fuel
        else spread frontier (acc ++ [(keys, val)]) fuel
      | .list _ elems =>
        if !elems.isEmpty ∧ elems.all Node.isObject then
          spread (frontier ++ elems.map fun e => (keys, e)) acc fuel
        else spread frontier (acc ++ [(keys, val)]) fuel
      | _ => spread frontier (acc ++ [(keys, val)]) fuel

mutual

/-- Spreads items whose value is a block of blocks, or a list of blocks only, into items
of several keys, and does so again inside every block and list. -/
def flatten : Node → Nat → Node
  | node, 0 => node
  | .object p items, n + 1 => .object p (flattenItems items n)
  | .items items, n + 1 => .items (flattenItems items n)
  | .list p elems, n + 1 => .list p (flattenList elems n)
  | node, _ + 1 => node

/-- Spreads one list of items, then goes inside what is left. -/
def flattenItems (items : List (List Token × Node)) : Nat → List (List Token × Node)
  | 0 => items
  | n + 1 => flattenValues ((spread items [] (4 * (items.length + 1) * (n + 2))).reverse) n

/-- Flattens inside the values of items. -/
def flattenValues : List (List Token × Node) → Nat → List (List Token × Node)
  | [], _ => []
  | items, 0 => items
  | (k, v) :: rest, n + 1 => (k, flatten v n) :: flattenValues rest (n + 1)

/-- Flattens inside list elements. -/
def flattenList : List Node → Nat → List Node
  | [], _ => []
  | elems, 0 => elems
  | e :: rest, n + 1 => flatten e n :: flattenList rest (n + 1)

end

mutual

/-- A decoded value as a document value; a block list keeps its own type name. -/
def Held.toValue : Held → Value
  | .table es => .table (heldEntries es)
  | .blocks items =>
    let v := Value.list (heldList items)
    .other "[]map[string]interface {}" "slice" v.display
  | .list items => .list (heldList items)
  | .int n => .int n .int
  | .float d => .float d
  | .bool b => .bool b
  | .text s => .text s

/-- Decoded list items as document values. -/
def heldList : List Held → List Value
  | [] => []
  | h :: rest => h.toValue :: heldList rest

/-- Decoded table entries as document values. -/
def heldEntries : List (String × Held) → List (String × Value)
  | [] => []
  | (k, h) :: rest => (k, h.toValue) :: heldEntries rest

end

/-- White space by the Unicode definition. -/
def isUnicodeSpace (c : Char) : Bool :=
  let n := c.toNat
  (9 ≤ n && n ≤ 13) || n == 0x20 || n == 0x85 || n == 0xA0 || n == 0x1680
    || (0x2000 ≤ n && n ≤ 0x200A) || n == 0x2028 || n == 0x2029 || n == 0x202F || n == 0x205F
    || n == 0x3000

/-- Whether a document is JSON: its first character other than white space is `{`. -/
def isJson (text : List Char) : Bool :=
  (text.dropWhile isUnicodeSpace).head? = some '{'

/-- Reads an HCL document from its octets into table entries. -/
def read (data : ByteArray) : Except Refusal (List (String × Value)) :=
  let text := Utf8.marked data
  let fuel := 4 * text.length + 16
  let root? : Except Refusal Node :=
    if isJson (text.map (·.1)) then (parseJson text).map (flatten · fuel)
    else parse text
  match root? with
  | .error e => .error e
  | .ok root =>
    match decodeMap "root" root [] fuel with
    | .ok es => .ok (heldEntries es)
    | .error e => .error (.problem e.message)

end LiveTail.Document.Hcl

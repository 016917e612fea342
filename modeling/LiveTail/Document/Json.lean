import LiveTail.Document.Value
import LiveTail.Text.Quote
import LiveTail.Bytes.Utf8
/-!
# JSON documents

Reads a JSON text into a table. The whole text is checked first, left to right, into a
tree that keeps each number as written; the first character that cannot continue it is
reported with what was being looked for, and a text that stops early is "unexpected end
of JSON input".

The reader works on the octets of the text, each octet a character below 256, as the
syntax is all in ASCII. A character reported is decoded from the octets there, and an
octet that starts no well-formed sequence is shown by its value; in a string, such an
octet reads as U+FFFD. Arrays and objects nest at most ten thousand deep. A valid text
must then be an object (or null, which gives no entries). Numbers become the nearest
doubles, and the first one too large for a double is reported with the keys and places
that lead to it, as a JSON pointer; of two equal keys the later wins.
-/
namespace LiveTail.Document.Json

/-- Why a text is not JSON, or not a table. -/
inductive Fault where
  | endOfInput
  /-- A character that cannot stand here, as quoted, and what was being read. -/
  | unexpected (found : String) (context : String)
  /-- An escape sequence in a string that is not one, by its octets. -/
  | badEscape (sequence : List Char)
  /-- A valid document whose top is not an object, by the kind of its top. -/
  | notObject (kind : String)
  /-- A number too large for a double, and the keys and places that lead to it. -/
  | tooLarge (literal : String) (path : List String)
  /-- Arrays and objects nested more than `maxDepth` deep. -/
  | tooDeep
  deriving DecidableEq, Repr

/-- How deep arrays and objects may nest. -/
def maxDepth : Nat := 10000

/-- A key or place as a step of a JSON pointer: `~` is written `~0` and `/` is `~1`. -/
def pointerStep (k : String) : String := (k.replace "~" "~0").replace "/" "~1"

/-- Where a number too large lies, as messages show it: the steps of its pointer joined by
dots after a dot, called a struct field unless the last step starts with a digit; the
empty path is a plain value. -/
def placeShown (path : List String) : String :=
  let field := ".".intercalate (path.map pointerStep)
  if field = "" then "Go value"
  else if (path.getLast?.bind fun k => k.toList.head?).any Char.isDigit then "." ++ field
  else "Go struct field ." ++ field

/-- A character in a message, quoted as a character literal. -/
def quoteChar (c : Char) : String :=
  if c = '\'' then "'\\''"
  else if c = '"' then "'\"'"
  else "'" ++ String.ofList ((Quote.quote c.toString).toList.drop 1).dropLast ++ "'"

/-- The character at the front of octets as messages quote it; an octet that starts no
well-formed sequence is shown by its value. -/
def found (cs : List Char) : String :=
  match Utf8.frontChar? cs with
  | some (c, _) => quoteChar c
  | none => "'\\x" ++ Quote.hex 2 ((cs.head?.map Char.toNat).getD 0) ++ "'"

/-- An escape sequence, given by its octets, in a message: between backticks, or quoted
when it holds a backtick, a space, a character that does not print or octets that are not
well-formed. -/
def shownEscape (sequence : List Char) : String :=
  let text := Utf8.read (Utf8.ofOctetChars sequence)
  if text.any fun c => c = '\x60' ∨ c = '�' ∨ c.isWhitespace ∨ !Printable.isPrintable c then
    Quote.quoteOctets (Utf8.ofOctetChars sequence)
  else "\x60" ++ text ++ "\x60"

/-- The message of a fault. -/
def Fault.message : Fault → String
  | .endOfInput => "unexpected end of JSON input"
  | .unexpected what context => "invalid character " ++ what ++ " " ++ context
  | .badEscape sequence => "invalid escape sequence " ++ shownEscape sequence ++ " in string"
  | .notObject kind => "json: cannot unmarshal " ++ kind ++ " into Go value of type map[string]interface {}"
  | .tooLarge literal path => "json: cannot unmarshal number " ++ literal ++ " into " ++ placeShown path
      ++ " of type float64"
  | .tooDeep => "exceeded max depth"

/-- A JSON value as written: numbers keep their text, their sign, digits and exponent. -/
inductive Tree where
  | null
  | bool (b : Bool)
  | number (text : String) (negative : Bool) (digits : Nat) (exponent : Int)
  | string (s : String)
  | array (items : List Tree)
  /-- Members in the order written, equal keys included. -/
  | object (members : List (String × Tree))
  deriving Repr, Inhabited

/-- Whitespace between tokens. -/
def isSpace (c : Char) : Bool := c = ' ' || c = '\t' || c = '\n' || c = '\r'

/-- Drops whitespace. -/
def skip (cs : List Char) : List Char := cs.dropWhile isSpace

/-- Reads the rest of a literal word. -/
def word (name : String) : List Char → List Char → Except Fault (Unit × List Char)
  | [], rest => .ok ((), rest)
  | w :: ws, c :: rest =>
    if c = w then word name ws rest
    else .error (.unexpected (found (c :: rest)) ("in literal " ++ name ++ " (expecting " ++ quoteChar w ++ ")"))
  | _ :: _, [] => .error .endOfInput

/-- The value of a hexadecimal digit. -/
def hexValue (c : Char) : Option Nat :=
  if c.isDigit then some (c.toNat - 48)
  else if 'a' ≤ c ∧ c ≤ 'f' then some (c.toNat - 87)
  else if 'A' ≤ c ∧ c ≤ 'F' then some (c.toNat - 55)
  else none

/-- Reads the four hexadecimal digits of a `\u` escape. Four characters that are not all
digits are a bad escape, shown with them; fewer before the end are the end of the text
when they are digits, a bad escape otherwise. -/
def hex4 (cs : List Char) : Except Fault (Nat × List Char) :=
  let four := cs.take 4
  match four.mapM hexValue with
  | some ds =>
    if ds.length = 4 then .ok (ds.foldl (fun n d => n * 16 + d) 0, cs.drop 4) else .error .endOfInput
  | none => .error (.badEscape ('\\' :: 'u' :: four))

/-- A code unit pair or a lone unit as a character; lone surrogates become U+FFFD. -/
def unitChar (n : Nat) : Char := if 0xD800 ≤ n ∧ n < 0xE000 then '�' else Char.ofNat n

/-- Reads the body of a string after its opening quote, decoding its octets; `fuel`
bounds the characters read. -/
def string : Nat → List Char → List Char → Except Fault (String × List Char)
  | 0, _, _ => .error .endOfInput
  | _ + 1, _, [] => .error .endOfInput
  | _ + 1, acc, '"' :: rest => .ok (String.ofList acc.reverse, rest)
  | fuel + 1, acc, '\\' :: rest =>
    match rest with
    | [] => .error .endOfInput
    | e :: rest =>
      let simple := match e with
        | '"' => some '"'
        | '\\' => some '\\'
        | '/' => some '/'
        | 'b' => some '\x08'
        | 'f' => some '\x0c'
        | 'n' => some '\n'
        | 'r' => some '\r'
        | 't' => some '\t'
        | _ => none
      match simple with
      | some c => string fuel (c :: acc) rest
      | none =>
        if e ≠ 'u' then .error (.badEscape ['\\', e])
        else match hex4 rest with
          | .error f => .error f
          | .ok (n, rest) =>
            if 0xD800 ≤ n ∧ n < 0xDC00 then
              match rest with
              | '\\' :: 'u' :: more =>
                match hex4 more with
                | .ok (m, after) =>
                  if 0xDC00 ≤ m ∧ m < 0xE000 then
                    string fuel (Char.ofNat (0x10000 + (n - 0xD800) * 0x400 + (m - 0xDC00)) :: acc) after
                  else string fuel (unitChar n :: acc) rest
                | .error _ => string fuel (unitChar n :: acc) rest
              | _ => string fuel (unitChar n :: acc) rest
            else string fuel (unitChar n :: acc) rest
  | fuel + 1, acc, c :: rest =>
    if c.toNat < 0x20 then .error (.unexpected (quoteChar c) "in string")
    else match Utf8.frontChar? (c :: rest) with
      | some (d, k) => string fuel (d :: acc) (rest.drop k)
      | none => string fuel ('�' :: acc) rest

/-- Reads digits. -/
def digits (cs : List Char) : List Char × List Char := (cs.takeWhile Char.isDigit, cs.dropWhile Char.isDigit)

/-- Requires at least one digit. -/
def someDigits (cs : List Char) : Except Fault ((List Char) × List Char) :=
  match cs with
  | [] => .error .endOfInput
  | c :: _ => if c.isDigit then .ok (digits cs) else .error (.unexpected (found cs) "in numeric literal")

/-- Reads a number: its text, sign, digits and exponent. -/
def number (cs : List Char) : Except Fault (Tree × List Char) := do
  let start := cs
  let (negative, cs) := match cs with
    | '-' :: rest => (true, rest)
    | _ => (false, cs)
  let (whole, cs) ← match cs with
    | '0' :: rest => pure (['0'], rest)
    | _ => someDigits cs
  let (frac, cs) ← match cs with
    | '.' :: rest => someDigits rest
    | _ => pure ([], cs)
  let (exp, cs) ← match cs with
    | e :: rest =>
      if e = 'e' ∨ e = 'E' then do
        let (neg, rest) := match rest with
          | '-' :: r => (true, r)
          | '+' :: r => (false, r)
          | _ => (false, rest)
        let (ds, rest) ← someDigits rest
        let n : Int := (String.ofList ds).toNat!
        pure (if neg then -n else n, rest)
      else pure (0, cs)
    | [] => pure (0, cs)
  let text := String.ofList (start.take (start.length - cs.length))
  pure (.number text negative (String.ofList (whole ++ frac)).toNat! (exp - frac.length), cs)

mutual

/-- Reads one value inside `depth` arrays and objects; `fuel` bounds the nesting and
length. -/
def value (depth : Nat) : Nat → List Char → Except Fault (Tree × List Char)
  | 0, _ => .error .endOfInput
  | fuel + 1, cs =>
    match skip cs with
    | [] => .error .endOfInput
    | '{' :: rest => if depth < maxDepth then object (depth + 1) fuel [] rest true else .error .tooDeep
    | '[' :: rest => if depth < maxDepth then array (depth + 1) fuel [] rest true else .error .tooDeep
    | '"' :: rest => (string (rest.length + 1) [] rest).map fun (s, r) => (.string s, r)
    | 't' :: rest => (word "true" ['r', 'u', 'e'] rest).map fun (_, r) => (.bool true, r)
    | 'f' :: rest => (word "false" ['a', 'l', 's', 'e'] rest).map fun (_, r) => (.bool false, r)
    | 'n' :: rest => (word "null" ['u', 'l', 'l'] rest).map fun (_, r) => (.null, r)
    | c :: rest =>
      if c = '-' ∨ c.isDigit then number (c :: rest)
      else .error (.unexpected (found (c :: rest)) "looking for beginning of value")

/-- Reads object members after the opening brace. -/
def object (depth : Nat) : Nat → List (String × Tree) → List Char → Bool → Except Fault (Tree × List Char)
  | 0, _, _, _ => .error .endOfInput
  | fuel + 1, acc, cs, first =>
    match skip cs with
    | [] => .error .endOfInput
    | '}' :: rest => if first then .ok (.object acc.reverse, rest)
        else .error (.unexpected (quoteChar '}') "looking for beginning of object key string")
    | '"' :: rest => do
      let (key, rest) ← string (rest.length + 1) [] rest
      match skip rest with
      | [] => .error .endOfInput
      | ':' :: rest =>
        let (v, rest) ← value depth fuel rest
        let acc := (key, v) :: acc
        match skip rest with
        | [] => .error .endOfInput
        | ',' :: rest =>
          match skip rest with
          | [] => .error .endOfInput
          | '"' :: _ => object depth fuel acc rest false
          | cs => .error (.unexpected (found cs) "looking for beginning of object key string")
        | '}' :: rest => .ok (.object acc.reverse, rest)
        | cs => .error (.unexpected (found cs) "after object key:value pair")
      | cs => .error (.unexpected (found cs) "after object key")
    | cs => .error (.unexpected (found cs) "looking for beginning of object key string")

/-- Reads array items after the opening bracket. -/
def array (depth : Nat) : Nat → List Tree → List Char → Bool → Except Fault (Tree × List Char)
  | 0, _, _, _ => .error .endOfInput
  | fuel + 1, acc, cs, first =>
    match skip cs with
    | [] => .error .endOfInput
    | ']' :: rest =>
      if first then .ok (.array acc.reverse, rest)
      else .error (.unexpected (quoteChar ']') "looking for beginning of value")
    | _ => do
      let (v, rest) ← value depth fuel cs
      match skip rest with
      | [] => .error .endOfInput
      | ',' :: rest => array depth fuel (v :: acc) rest false
      | ']' :: rest => .ok (.array (v :: acc).reverse, rest)
      | cs => .error (.unexpected (found cs) "after array element")

end

/-- Reads a whole JSON text, as octet characters, into its tree; only whitespace may
follow the value. -/
def parse (cs : List Char) : Except Fault Tree := do
  let (v, rest) ← value 0 (2 * cs.length + 2) cs
  match skip rest with
  | [] => .ok v
  | rest => .error (.unexpected (found rest) "after top-level value")

/-- Puts a value under a key, replacing the value of an equal key in its place. -/
def setMember (acc : List (String × Value)) (key : String) (v : Value) : List (String × Value) :=
  if acc.any (·.1 == key) then acc.map fun (k, w) => if k == key then (k, v) else (k, w)
  else acc ++ [(key, v)]

mutual

/-- The value of a tree at a path, numbers rounded to doubles; the first number too
large, in document order, is reported. -/
def Tree.toValue (path : List String) : Tree → Except Fault Value
  | .null => .ok .null
  | .bool b => .ok (.bool b)
  | .string s => .ok (.text s)
  | .number text negative digits exponent =>
    let d := Double.ofDecimal negative digits exponent
    if d.isInfinite then .error (.tooLarge text path) else .ok (.float d)
  | .array items => (Tree.itemValues path 0 items).map .list
  | .object members => (Tree.memberValues path [] members).map .table

/-- The values of array items, each at its place. -/
def Tree.itemValues (path : List String) (i : Nat) : List Tree → Except Fault (List Value)
  | [] => .ok []
  | t :: rest => do
    let v ← t.toValue (path ++ [toString i])
    let vs ← Tree.itemValues path (i + 1) rest
    pure (v :: vs)

/-- The entries of object members, each at its key. -/
def Tree.memberValues (path : List String) (acc : List (String × Value)) :
    List (String × Tree) → Except Fault (List (String × Value))
  | [] => .ok acc
  | (k, t) :: rest => do
    let v ← t.toValue (path ++ [k])
    Tree.memberValues path (setMember acc k v) rest

end

/-- Reads a JSON document from its octets into table entries. -/
def read (data : ByteArray) : Except Fault (List (String × Value)) := do
  let tree ← parse (Utf8.octetChars data)
  match tree with
  | .object _ =>
    match ← tree.toValue [] with
    | .table es => .ok es
    | _ => .ok []
  | .null => .ok []
  | .string _ => .error (.notObject "string")
  | .number .. => .error (.notObject "number")
  | .bool _ => .error (.notObject "bool")
  | .array _ => .error (.notObject "array")

end LiveTail.Document.Json

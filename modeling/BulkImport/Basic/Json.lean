import BulkImport.Basic.Text

/-!
# JSON values and the text `encoding/json` writes for them

The NDJSON parser hands each non-empty line to `json.Unmarshal`, and the exporters write each
record with `json.Marshal`. The model meets the JSON text at the value level: a line of an input
file is the value its text denotes (or a syntax error), and an exported record is the value the
encoder writes, with `render` giving its text for byte counts. `render` is the encoder's compact
form with its default HTML escaping: `<`, `>`, `&`, U+2028 and U+2029 as `\u` escapes, the control
characters as `\n`, `\r`, `\t`, `\b`, `\f` or `\u00xx`.
-/

namespace BulkImport

/-- A JSON value. A number keeps its literal text; objects keep their members in order. -/
inductive JVal where
  /-- `null` -/
  | null
  /-- `true` or `false` -/
  | bool (b : Bool)
  /-- a number, by its literal -/
  | num (lit : String)
  /-- a string -/
  | str (s : String)
  /-- an array -/
  | arr (xs : List JVal)
  /-- an object, its members in order -/
  | obj (fields : List (String × JVal))
  deriving Repr

/-- The lower-case hexadecimal digit of a nibble. -/
def hexChar (n : Nat) : Char := Nat.digitChar (n % 16)

/-- A `\u` escape of a code point below `0x10000`. -/
def unicodeEscape (n : Nat) : List Char :=
  ['\\', 'u', hexChar (n / 4096), hexChar (n / 256), hexChar (n / 16), hexChar n]

/-- One character of a JSON string as the encoder writes it. -/
def escapeChar (c : Char) : List Char :=
  if c = '"' then ['\\', '"']
  else if c = '\\' then ['\\', '\\']
  else if c = '\n' then ['\\', 'n']
  else if c = '\r' then ['\\', 'r']
  else if c = '\t' then ['\\', 't']
  else if c = '\x08' then ['\\', 'b']
  else if c = '\x0c' then ['\\', 'f']
  else if c.toNat < 32 || c = '<' || c = '>' || c = '&' || c = '\u2028' || c = '\u2029' then
    unicodeEscape c.toNat
  else [c]

/-- A string as a quoted, escaped JSON string. -/
def quote (s : String) : List Char := '"' :: s.data.flatMap escapeChar ++ ['"']

mutual
/-- The compact text of a JSON value. -/
def render : JVal → List Char
  | .null => "null".data
  | .bool b => if b then "true".data else "false".data
  | .num lit => lit.data
  | .str s => quote s
  | .arr xs => '[' :: renderElems xs ++ [']']
  | .obj fs => '\x7b' :: renderMembers fs ++ ['\x7d']

/-- The elements of an array, comma-separated. -/
def renderElems : List JVal → List Char
  | [] => []
  | [x] => render x
  | x :: xs => render x ++ ',' :: renderElems xs

/-- The members of an object, comma-separated. -/
def renderMembers : List (String × JVal) → List Char
  | [] => []
  | [(k, v)] => quote k ++ ':' :: render v
  | (k, v) :: fs => quote k ++ ':' :: render v ++ ',' :: renderMembers fs
end

/-- The text of a value, as a string. -/
def JVal.text (v : JVal) : String := ⟨render v⟩

/-- A JSON array of strings: how `json.Marshal` encodes a `[]string`. -/
def strArray (xs : List String) : JVal := .arr (xs.map .str)

example : (JVal.obj [("a", .str "x<y"), ("b", .arr [.bool true, .null])]).text =
    "\x7b\"a\":\"x\\u003cy\",\"b\":[true,null]\x7d" := by decide

end BulkImport

import DataQuality.Json.Basic
import DataQuality.Decimal.Layout

/-!
# Writing JSON text

Two layouts of the same document: `Json.compact`, with no blank at all, and `Json.pretty`,
with every array item and object member on a line of its own, indented by two spaces per
level, `": "` between key and value, and `[]` or `{}` for empty containers.

Strings escape the quote, the backslash and the control characters below `U+0020` (`\n`,
`\t`, `\r`, `\b`, `\f` by name, the rest as `\u00xx` with lower-case hex digits); every other
character stands as it is.  Numbers that are not finite have no JSON form and are written
`null`.
-/

namespace DataQuality

namespace Json

/-- The two lower-case hex digits of a byte. -/
def hexByte (n : Nat) : String :=
  let digit (d : Nat) : Char := if d < 10 then Char.ofNat (48 + d) else Char.ofNat (87 + d)
  String.ofList [digit (n / 16 % 16), digit (n % 16)]

/-- The escaped form of one character inside a string literal. -/
def escapeChar (c : Char) : String :=
  match c with
  | '"' => "\\\""
  | '\\' => "\\\\"
  | '\n' => "\\n"
  | '\t' => "\\t"
  | '\r' => "\\r"
  | '\x08' => "\\b"
  | '\x0c' => "\\f"
  | c => if c.toNat < 0x20 then "\\u00" ++ hexByte c.toNat else c.toString

/-- A string literal: the text between quotes, escaped. -/
def quote (s : String) : String :=
  "\"" ++ String.join (s.toList.map escapeChar) ++ "\""

/-- The text of a number that is not an integer token. -/
def floatText (x : Float) : String :=
  match Decimal.decode x with
  | .finite negative d => Decimal.jsonText negative d
  | _ => "null"

mutual
/-- The compact text of a document. -/
def compact : Json → String
  | null => "null"
  | bool b => if b then "true" else "false"
  | int n => toString n
  | float x => floatText x
  | str s => quote s
  | arr items => "[" ++ ",".intercalate (compactItems items) ++ "]"
  | obj fields => "\x7b" ++ ",".intercalate (compactFields fields) ++ "\x7d"

/-- Compact texts of array items. -/
def compactItems : List Json → List String
  | [] => []
  | v :: rest => compact v :: compactItems rest

/-- Compact texts of object members. -/
def compactFields : List (String × Json) → List String
  | [] => []
  | (k, v) :: rest => (quote k ++ ":" ++ compact v) :: compactFields rest
end

/-- The indentation of a level. -/
def indent (level : Nat) : String :=
  String.ofList (List.replicate (2 * level) ' ')

mutual
/-- The pretty text of a document whose first line stands at the given level. -/
def prettyAt (level : Nat) : Json → String
  | arr [] => "[]"
  | obj [] => "\x7b\x7d"
  | arr items =>
    "[\n" ++ ",\n".intercalate (prettyItems (level + 1) items) ++ "\n" ++ indent level ++ "]"
  | obj fields =>
    "\x7b\n" ++ ",\n".intercalate (prettyFields (level + 1) fields) ++ "\n" ++ indent level ++ "\x7d"
  | v => compact v

/-- Pretty lines of array items at a level. -/
def prettyItems (level : Nat) : List Json → List String
  | [] => []
  | v :: rest => (indent level ++ prettyAt level v) :: prettyItems level rest

/-- Pretty lines of object members at a level. -/
def prettyFields (level : Nat) : List (String × Json) → List String
  | [] => []
  | (k, v) :: rest => (indent level ++ quote k ++ ": " ++ prettyAt level v) :: prettyFields level rest
end

/-- The pretty text of a document. -/
def pretty (v : Json) : String :=
  prettyAt 0 v

end Json

end DataQuality

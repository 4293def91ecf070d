import DataQuality.Text.Quoted

/-!
# TOML errors

A refusal to read TOML text: a message, the text read, the path of keys it concerns and the
span of bytes it points at.  Its display shows the line of the span with a caret under it:

```text
TOML parse error at line 1, column 12
  |
1 | checks = [
  |            ^
invalid array
expected `]`
```

Lines and columns count from one, columns in characters.  A span at the very end of the text
points one column past its last character.
-/

namespace DataQuality.Toml

/-- Why TOML text was refused. -/
structure TomlError where
  message : String
  raw : Option String := none
  keys : List String := []
  span : Option (Nat × Nat) := none
  deriving Inhabited

/-- The line and the column, both from zero, of a byte offset into a text. -/
def translatePosition (raw : String) (index : Nat) : Nat × Nat :=
  let bytes := raw.toUTF8
  if bytes.size == 0 then (0, index)
  else
    let safe := min index (bytes.size - 1)
    let before := (bytes.extract 0 safe).toList
    let lineStart := match before.reverse.findIdx? (· == 10) with
      | some k => safe - k
      | none => 0
    let line := ((bytes.extract 0 lineStart).toList.filter (· == 10)).length
    let column := match String.fromUTF8? (bytes.extract lineStart (safe + 1)) with
      | some s => s.length - 1
      | none => safe - lineStart
    (line, column + (index - safe))

/-- Spaces. -/
def spaces (n : Nat) : String := String.ofList (List.replicate n ' ')

/-- The display of a refusal: where it is, with its line and a caret, then the message. -/
def TomlError.text (e : TomlError) : String :=
  let context := match e.raw, e.span with
    | some raw, some (start, stop) =>
      let (line, column) := translatePosition raw start
      let lineNum := line + 1
      let gutter := (toString lineNum).length
      let content := ((raw.splitOn "\n")[line]?).getD ""
      let highlight := min (stop - start) (content.utf8ByteSize - column)
      some ("TOML parse error at line " ++ toString lineNum ++ ", column " ++ toString (column + 1) ++
        "\n" ++ spaces (gutter + 1) ++ "|\n" ++ toString lineNum ++ " | " ++ content ++ "\n" ++
        spaces (gutter + 1) ++ "|" ++ spaces (column + 1) ++ "^" ++
        String.ofList (List.replicate (highlight - 1) '^') ++ "\n")
    | _, _ => none
  match context with
  | some c => c ++ e.message ++ "\n"
  | none =>
    e.message ++ "\n" ++
      (if e.keys.isEmpty then "" else "in " ++ "\x60" ++ ".".intercalate e.keys ++ "\x60" ++ "\n")

/-- The record form of a refusal, each text quoted. -/
def TomlError.record (e : TomlError) : String :=
  let raw := match e.raw with
    | some r => "Some(" ++ Text.quoted r ++ ")"
    | none => "None"
  let span := match e.span with
    | some (a, b) => "Some(" ++ toString a ++ ".." ++ toString b ++ ")"
    | none => "None"
  "TomlError \x7b message: " ++ Text.quoted e.message ++ ", raw: " ++ raw ++ ", keys: [" ++
    ", ".intercalate (e.keys.map Text.quoted) ++ "], span: " ++ span ++ " \x7d"

end DataQuality.Toml

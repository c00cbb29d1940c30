import RunnerFleet.Json.Basic
import RunnerFleet.Text.Quoted

/-!
# Writing JSON

Values are written without blanks. In texts only quotes, backslashes and control characters are
escaped.
-/

namespace RunnerFleet.Json

/-- One character of a string literal. -/
def escapeChar (c : Char) : String :=
  match c with
  | '"' => "\\\""
  | '\\' => "\\\\"
  | '\n' => "\\n"
  | '\r' => "\\r"
  | '\t' => "\\t"
  | '\x08' => "\\b"
  | '\x0c' => "\\f"
  | c =>
    if c.toNat < 0x20 then
      (if c.toNat < 0x10 then "\\u000" else "\\u00") ++ Text.hexDigits c.toNat
    else c.toString

/-- A text between quotes. -/
def literal (s : String) : String := "\"" ++ String.join (s.toList.map escapeChar) ++ "\""

mutual

/-- The value as compact text. -/
def render : Json → String
  | null => "null"
  | bool b => if b then "true" else "false"
  | whole n => toString n
  | decimal negative digits exponent =>
    (if negative then "-" else "") ++ toString digits ++ "e" ++ toString exponent
  | text s => literal s
  | badText => "null"
  | list items => "[" ++ String.intercalate "," (renderItems items) ++ "]"
  | record fields => "\x7b" ++ String.intercalate "," (renderFields fields) ++ "\x7d"

def renderItems : List Json → List String
  | [] => []
  | item :: rest => render item :: renderItems rest

def renderFields : List (Option String × Json) → List String
  | [] => []
  | (key, value) :: rest =>
    (literal (key.getD "") ++ ":" ++ render value) :: renderFields rest

end

end RunnerFleet.Json

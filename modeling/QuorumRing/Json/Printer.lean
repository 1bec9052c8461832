import QuorumRing.Json.Basic
import QuorumRing.Text.Decimal

/-!
# Writing JSON

`Json.compress` writes a value on one line without blanks, `Json.pretty` over several lines,
indented by two blanks a level. A quotation mark, a backslash and the control characters are
escaped; all other characters stand for themselves.
-/

namespace QuorumRing.Json

/-- A digit of a hexadecimal number, in lower case. -/
def hexDigit (n : Nat) : Char := (Nat.toDigits 16 n).headD '0'

/-- A character as it stands between quotation marks. -/
def escapeChar (c : Char) : String :=
  match c with
  | '"' => "\\\""
  | '\\' => "\\\\"
  | '\n' => "\\n"
  | '\r' => "\\r"
  | '\t' => "\\t"
  | '\x08' => "\\b"
  | '\x0c' => "\\f"
  | c =>
    if c.toNat < 32 then "\\u00" ++ String.ofList [hexDigit (c.toNat / 16), hexDigit (c.toNat % 16)]
    else c.toString

/-- A text in quotation marks. -/
def quote (s : String) : String := s.foldl (fun text c => text ++ escapeChar c) "\"" ++ "\""

/-- The text of a number. -/
def Number.text : Number → String
  | natural n => toString n
  | negative n => "-" ++ toString n
  | float x => (Decimal.compact? x).getD "null"

mutual

/-- A value on one line. -/
def compress : Json → String
  | null => "null"
  | bool true => "true"
  | bool false => "false"
  | number n => n.text
  | string s => quote s
  | array [] => "[]"
  | array (item :: items) => "[" ++ compress item ++ compressItems items ++ "]"
  | object [] => "\x7b\x7d"
  | object ((key, value) :: members) =>
    "\x7b" ++ quote key ++ ":" ++ compress value ++ compressMembers members ++ "\x7d"

/-- The items after the first. -/
def compressItems : List Json → String
  | [] => ""
  | item :: items => "," ++ compress item ++ compressItems items

/-- The members after the first. -/
def compressMembers : List (String × Json) → String
  | [] => ""
  | (key, value) :: members => "," ++ quote key ++ ":" ++ compress value ++ compressMembers members

end

/-- The start of a line at the given depth. -/
def newLine (depth : Nat) : String := "\n".pushn ' ' (2 * depth)

mutual

/-- A value over several lines. The depth is that of the line it starts on. -/
def indent (depth : Nat) : Json → String
  | array (item :: items) =>
    "[" ++ newLine (depth + 1) ++ indent (depth + 1) item ++ indentItems (depth + 1) items ++
      newLine depth ++ "]"
  | object ((key, value) :: members) =>
    "\x7b" ++ newLine (depth + 1) ++ quote key ++ ": " ++ indent (depth + 1) value ++
      indentMembers (depth + 1) members ++ newLine depth ++ "\x7d"
  | value => compress value

/-- The items after the first. -/
def indentItems (depth : Nat) : List Json → String
  | [] => ""
  | item :: items => "," ++ newLine depth ++ indent depth item ++ indentItems depth items

/-- The members after the first. -/
def indentMembers (depth : Nat) : List (String × Json) → String
  | [] => ""
  | (key, value) :: members =>
    "," ++ newLine depth ++ quote key ++ ": " ++ indent depth value ++ indentMembers depth members

end

/-- A value over several lines. -/
def pretty (value : Json) : String := indent 0 value

end QuorumRing.Json

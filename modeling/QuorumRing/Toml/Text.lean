import QuorumRing.Text.Numeral

/-!
# Texts in TOML

A text stands in quotation marks, where a backslash begins an escape, or in single quotes, where all
characters stand for themselves. Either kind may go over several lines if it has three of the marks
on both sides. Control characters other than the tab are not allowed.

A reader takes what it can from the front of a text and gives back the rest.
-/

namespace QuorumRing.Toml

/-- Whether a character is a control character that is not allowed, as all but the tab. -/
def isControl (c : Char) : Bool := (c.toNat < 0x20 && c != '\t') || c.toNat = 0x7f

/-- Whether a character is a blank within a line. -/
def isBlank (c : Char) : Bool := c = ' ' || c = '\t'

/-- Takes the end of a line. -/
def takeNewline? : List Char → Option (List Char)
  | '\n' :: rest => some rest
  | '\r' :: '\n' :: rest => some rest
  | _ => none

/-- The character with the code point that hexadecimal digits give. -/
def charOfHex? (digits : List Char) : Option Char :=
  let n := Numeral.ofDigits 16 digits
  if digits.all (fun c => (Numeral.digit? 16 c).isSome) && Nat.isValidChar n then
    some (Char.ofNat n)
  else none

/-- The character that a one-letter escape stands for. -/
def shortEscape? : Char → Option Char
  | '"' => some '"'
  | '\\' => some '\\'
  | 'b' => some '\x08'
  | 'e' => some '\x1b'
  | 'f' => some '\x0c'
  | 'n' => some '\n'
  | 'r' => some '\r'
  | 't' => some '\t'
  | _ => none

/-- Puts a character in front of what a reader has found. -/
def prepend? (c : Option Char) (found : Option (List Char × List Char)) :
    Option (List Char × List Char) := do
  let c ← c
  let (text, rest) ← found
  return (c :: text, rest)

/-- Whether nothing but blanks stands between here and the end of the line, and there is one. -/
def endsLine (s : List Char) : Bool := (takeNewline? (s.dropWhile isBlank)).isSome

/-- Takes what stands up to the quotation mark or marks. `multiline` says whether there are three.
If `trimming` holds, blanks and line ends are passed over, as they are behind a backslash that ends
a line. -/
def takeBasic? (multiline : Bool) : (trimming : Bool) → List Char → Option (List Char × List Char)
  | _, [] => none
  | true, c :: rest =>
    if isBlank c || c = '\n' || (c = '\r' && rest.head? = some '\n') then
      takeBasic? multiline true rest
    else plain c rest
  | false, c :: rest => plain c rest
where
  /-- Takes a text whose first character is not passed over. -/
  plain (c : Char) (rest : List Char) : Option (List Char × List Char) :=
    match c, rest with
    | '\\', 'x' :: a :: b :: rest => prepend? (charOfHex? [a, b]) (takeBasic? multiline false rest)
    | '\\', 'u' :: a :: b :: c :: d :: rest =>
      prepend? (charOfHex? [a, b, c, d]) (takeBasic? multiline false rest)
    | '\\', 'U' :: a :: b :: c :: d :: e :: f :: g :: h :: rest =>
      prepend? (charOfHex? [a, b, c, d, e, f, g, h]) (takeBasic? multiline false rest)
    | '\\', c :: rest =>
      if multiline && endsLine (c :: rest) then takeBasic? multiline true rest
      else prepend? (shortEscape? c) (takeBasic? multiline false rest)
    | '"', rest =>
      if multiline then
        match rest with
        | '"' :: '"' :: '"' :: '"' :: rest => some (['"', '"'], rest)
        | '"' :: '"' :: '"' :: rest => some (['"'], rest)
        | '"' :: '"' :: rest => some ([], rest)
        | rest => prepend? (some '"') (takeBasic? multiline false rest)
      else some ([], rest)
    | '\n', rest =>
      if multiline then prepend? (some '\n') (takeBasic? multiline false rest) else none
    | '\r', '\n' :: rest =>
      if multiline then prepend? (some '\n') (takeBasic? multiline false rest) else none
    | c, rest =>
      if isControl c then none else prepend? (some c) (takeBasic? multiline false rest)

/-- Takes what stands up to the single quote or quotes. -/
def takeLiteral? (multiline : Bool) : List Char → Option (List Char × List Char)
  | [] => none
  | '\'' :: rest =>
    if multiline then
      match rest with
      | '\'' :: '\'' :: '\'' :: '\'' :: rest => some (['\'', '\''], rest)
      | '\'' :: '\'' :: '\'' :: rest => some (['\''], rest)
      | '\'' :: '\'' :: rest => some ([], rest)
      | rest => prepend? (some '\'') (takeLiteral? multiline rest)
    else some ([], rest)
  | '\r' :: '\n' :: rest =>
    if multiline then prepend? (some '\n') (takeLiteral? multiline rest) else none
  | c :: rest =>
    if (multiline && c = '\n') || !isControl c then prepend? (some c) (takeLiteral? multiline rest)
    else none

/-- Takes a text on one line. -/
def takeLineText? : List Char → Option (List Char × List Char)
  | '"' :: rest => takeBasic? false false rest
  | '\'' :: rest => takeLiteral? false rest
  | _ => none

/-- Takes a text of any kind. A line end right behind three marks is not part of it. -/
def takeText? : List Char → Option (List Char × List Char)
  | '"' :: '"' :: '"' :: rest => takeBasic? true false ((takeNewline? rest).getD rest)
  | '\'' :: '\'' :: '\'' :: rest => takeLiteral? true ((takeNewline? rest).getD rest)
  | s => takeLineText? s

end QuorumRing.Toml

import QuorumRing.Toml.Scalar
import QuorumRing.Toml.Section

/-!
# TOML documents

A document is a sequence of lines: headers of tables, and keys with their values, which belong to
the table whose header came last. The result is the members of the outermost table.

The readers of values call each other, and each call takes at least a character or is followed by
one that does. The number of calls they may nest is bounded by `fuel`, which `parse?` makes large
enough.
-/

namespace QuorumRing.Toml

/-- Takes blanks, line ends and comments. -/
def takeGap? : (comment : Bool) → List Char → Option (List Char)
  | _, [] => some []
  | _, '\n' :: rest => takeGap? false rest
  | _, '\r' :: '\n' :: rest => takeGap? false rest
  | true, c :: rest => if isControl c then none else takeGap? true rest
  | false, c :: rest =>
    if isBlank c then takeGap? false rest
    else if c = '#' then takeGap? true rest
    else some (c :: rest)

/-- Takes what may stand behind a line: blanks and a comment. -/
def takeLineEnd? (s : List Char) : Option (List Char) :=
  match s.dropWhile isBlank with
  | [] => some []
  | '#' :: rest =>
    let comment := rest.takeWhile fun c => c != '\n' && c != '\r'
    let rest := rest.drop comment.length
    if comment.any isControl then none
    else if rest.isEmpty then some []
    else takeNewline? rest
  | rest => takeNewline? rest

/-- Whether a character may stand in a key without quotation marks. -/
def isKeyChar (c : Char) : Bool := c.isAlphanum || c = '_' || c = '-'

/-- Takes one part of a key, and the blanks around it. -/
def takeName? (s : List Char) : Option (String × List Char) :=
  let s := s.dropWhile isBlank
  let bare := s.takeWhile isKeyChar
  let found :=
    if bare = [] then takeLineText? s else some (bare, s.dropWhile isKeyChar)
  found.map fun (name, rest) => (String.ofList name, rest.dropWhile isBlank)

/-- Takes a key of at most so many parts: the parts before the last one, and the last one. -/
def takeKey? : (size : Nat) → List Char → Option (List String × String × List Char)
  | 0, _ => none
  | size + 1, s => do
    let (name, rest) ← takeName? s
    match rest with
    | '.' :: rest =>
      let (path, last, rest) ← takeKey? size rest
      return (name :: path, last, rest)
    | rest => return ([], name, rest)

/-- The number of lists and tables in braces that may be nested. -/
def maxDepth : Nat := 80

mutual

/-- Takes a value. -/
def takeValue? : (fuel depth : Nat) → List Char → Option (Tree × List Char)
  | 0, _, _ => none
  | fuel + 1, depth, '[' :: rest => do
    if depth = 0 then none
    let (items, rest) ← takeItems? fuel (depth - 1) rest
    return (.list items, rest)
  | fuel + 1, depth, '\x7b' :: rest => do
    if depth = 0 then none
    let (members, rest) ← takeMembers? fuel (depth - 1) [] rest
    return (.table (membersToTrees members), rest)
  | _, _, s => takeScalar? s

/-- Takes the items of a list and the bracket behind them. -/
def takeItems? : (fuel depth : Nat) → List Char → Option (List Tree × List Char)
  | 0, _, _ => none
  | fuel + 1, depth, s => do
    match ← takeGap? false s with
    | ']' :: rest => return ([], rest)
    | s =>
      let (item, rest) ← takeValue? fuel depth s
      match ← takeGap? false rest with
      | ']' :: rest => return ([item], rest)
      | ',' :: rest =>
        let (items, rest) ← takeItems? fuel depth rest
        return (item :: items, rest)
      | _ => none

/-- Takes the members of a table in braces and the brace behind them. -/
def takeMembers? : (fuel depth : Nat) → Section → List Char → Option (Section × List Char)
  | 0, _, _, _ => none
  | fuel + 1, depth, members, s => do
    match ← takeGap? false s with
    | '\x7d' :: rest => return (members, rest)
    | s =>
      let (path, name, rest) ← takeKey? s.length s
      match rest with
      | '=' :: rest =>
        let (value, rest) ← takeValue? fuel depth (rest.dropWhile isBlank)
        let members ← Section.assign? path name value members
        match ← takeGap? false rest with
        | '\x7d' :: rest => return (members, rest)
        | ',' :: rest => takeMembers? fuel depth members rest
        | _ => none
      | _ => none

end

/-- A document that is being read. -/
structure Draft where
  /-- The outermost table. -/
  root : Section := []
  /-- The path of the table whose header came last. -/
  header : List String := []

namespace Draft

/-- Reads one line, which is neither blank nor a comment, and its end. The value of a key may go
over several lines. -/
def readLine? (draft : Draft) (s : List Char) : Option (Draft × List Char) := do
  match s with
  | '[' :: '[' :: rest =>
    let (path, name, rest) ← takeKey? rest.length rest
    match rest with
    | ']' :: ']' :: rest =>
      let root ← Section.declareItem? path name draft.root
      return ({ root, header := path ++ [name] }, ← takeLineEnd? rest)
    | _ => none
  | '[' :: rest =>
    let (path, name, rest) ← takeKey? rest.length rest
    match rest with
    | ']' :: rest =>
      let root ← Section.declare? path name draft.root
      return ({ root, header := path ++ [name] }, ← takeLineEnd? rest)
    | _ => none
  | s =>
    let (path, name, rest) ← takeKey? s.length s
    match rest with
    | '=' :: rest =>
      let (value, rest) ← takeValue? (2 * rest.length + 2) maxDepth (rest.dropWhile isBlank)
      let root ← Section.within? false (Section.assign? path name value) draft.header draft.root
      return ({ draft with root }, ← takeLineEnd? rest)
    | _ => none

/-- Reads the lines of a text of at most so many characters. -/
def readWithin? : (size : Nat) → Draft → List Char → Option Draft
  | 0, draft, s => if s.isEmpty then some draft else none
  | size + 1, draft, s => do
    match ← takeGap? false s with
    | [] => return draft
    | s =>
      let (draft, rest) ← draft.readLine? s
      readWithin? size draft rest

end Draft

/-- The members of the outermost table of a document. A mark of the byte order in front of it is
passed over. -/
def parse? (text : String) : Option (List (String × Tree)) :=
  let s :=
    match text.toList with
    | '\ufeff' :: s => s
    | s => s
  (Draft.readWithin? s.length {} s).map fun draft => membersToTrees draft.root

end QuorumRing.Toml

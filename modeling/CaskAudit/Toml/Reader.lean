import CaskAudit.Json.Reader
import CaskAudit.Limits
import CaskAudit.Toml.Basic

/-!
# Reading TOML

A reader of TOML 1.0 documents. Lexical rules come first, then values, then the rules by which
headers and dotted keys build the tree of tables: a table is opened by one header at most, and a
dotted key extends only tables that dotted keys have made.
-/

namespace CaskAudit.Toml

open CaskAudit.Text CaskAudit.Json

/-! ## Characters and strings -/

/-- Whether a character is a blank within a line. -/
def isTab (c : Char) : Bool := c == ' ' || c == '\t'

/-- A text without its leading blanks. -/
def skipTabs (s : List Char) : List Char := s.dropWhile isTab

/-- Whether a character may stand in a comment. -/
def isCommentChar (c : Char) : Bool := c == '\t' || (0x20 ≤ c.toNat && c.toNat != 0x7F)

/-- Reads a line break. -/
def readNewline? : List Char → Option (List Char)
  | '\n' :: rest => some rest
  | '\r' :: '\n' :: rest => some rest
  | _ => none

/-- A text without the comment it may begin with. -/
def skipComment : List Char → List Char
  | '#' :: rest => rest.dropWhile isCommentChar
  | s => s

/-- Reads what may follow a header or a value on its line, up to and including the line break. -/
def readLineEnd? (s : List Char) : Option (List Char) :=
  match skipComment (skipTabs s) with
  | [] => some []
  | rest => readNewline? rest

/-- The scalar value that hexadecimal digits write. -/
def scalarOfHex? (digits : List Char) : Option Char := do
  let values ← digits.mapM hexValue?
  let n := values.foldl (fun n d => 16 * n + d) 0
  if h : n.isValidChar then return Char.ofNatAux n h else none

/-- Reads the rest of an escape after its backslash. -/
def readEscape? : List Char → Option (Char × List Char)
  | 'b' :: rest => some ('\x08', rest)
  | 't' :: rest => some ('\t', rest)
  | 'n' :: rest => some ('\n', rest)
  | 'f' :: rest => some ('\x0c', rest)
  | 'r' :: rest => some ('\r', rest)
  | '"' :: rest => some ('"', rest)
  | '\\' :: rest => some ('\\', rest)
  | 'u' :: a :: b :: c :: d :: rest => (scalarOfHex? [a, b, c, d]).map (·, rest)
  | 'U' :: a :: b :: c :: d :: e :: f :: g :: h :: rest =>
    (scalarOfHex? [a, b, c, d, e, f, g, h]).map (·, rest)
  | _ => none

/-- Reads a string of one line up to its closing quote; only double quotes know escapes. -/
def readLine (quote : Char) : Nat → List Char → Option (List Char × List Char)
  | 0, _ => none
  | _ + 1, [] => none
  | fuel + 1, c :: rest =>
    if c = quote then some ([], rest)
    else if c = '\\' ∧ quote = '"' then
      match readEscape? rest with
      | none => none
      | some (e, after) => (readLine quote fuel after).map fun (cs, end_) => (e :: cs, end_)
    else if isCommentChar c then
      (readLine quote fuel rest).map fun (cs, end_) => (c :: cs, end_)
    else none

/-- A text without the blanks and line breaks it begins with. -/
def skipLines : Nat → List Char → List Char
  | 0, s => s
  | fuel + 1, s =>
    match readNewline? (skipTabs s) with
    | some rest => skipLines fuel rest
    | none => skipTabs s

/-- Reads a string of several lines up to its closing quotes. A run of quotes ends the string from
the third on; up to two quotes before the last three belong to it. A backslash at the end of a line
joins the next text to it. -/
def readLines (quote : Char) : Nat → List Char → Option (List Char × List Char)
  | 0, _ => none
  | _ + 1, [] => none
  | fuel + 1, c :: rest =>
    if c = quote then
      let run := (c :: rest).takeWhile (· = quote)
      let after := (c :: rest).dropWhile (· = quote)
      if run.length < 3 then
        (readLines quote fuel after).map fun (cs, end_) => (run ++ cs, end_)
      else if run.length ≤ 5 then some (run.drop 3, after)
      else none
    else if c = '\\' ∧ quote = '"' then
      match readNewline? (skipTabs rest) with
      | some after => readLines quote fuel (skipLines (after.length + 1) after)
      | none =>
        match readEscape? rest with
        | none => none
        | some (e, after) => (readLines quote fuel after).map fun (cs, end_) => (e :: cs, end_)
    else
      match readNewline? (c :: rest) with
      | some after => (readLines quote fuel after).map fun (cs, end_) => ('\n' :: cs, end_)
      | none =>
        if isCommentChar c then
          (readLines quote fuel rest).map fun (cs, end_) => (c :: cs, end_)
        else none

/-- Reads a string after its first quote, of one line or of several. -/
def readQuoted (quote : Char) (rest : List Char) : Option (List Char × List Char) :=
  match rest with
  | c :: d :: body =>
    if c = quote ∧ d = quote then
      readLines quote (body.length + 1) ((readNewline? body).getD body)
    else readLine quote (rest.length + 1) rest
  | _ => readLine quote (rest.length + 1) rest

/-! ## Keys -/

/-- Whether a character may stand in a key without quotes. -/
def isBareKeyChar (c : Char) : Bool := c.isAlphanum || c == '_' || c == '-'

/-- Reads one part of a key. -/
def readKeyPart (s : List Char) : Option (String × List Char) :=
  match s with
  | '"' :: rest =>
    (readLine '"' (rest.length + 1) rest).map fun (cs, after) => (String.ofList cs, after)
  | '\'' :: rest =>
    (readLine '\'' (rest.length + 1) rest).map fun (cs, after) => (String.ofList cs, after)
  | _ =>
    let bare := s.takeWhile isBareKeyChar
    if bare.isEmpty then none else some (String.ofList bare, s.dropWhile isBareKeyChar)

/-- Reads a key: its parts are joined by dots, with blanks around each part. -/
def readKey : Nat → List Char → Option (List String × List Char)
  | 0, _ => none
  | fuel + 1, s =>
    match readKeyPart (skipTabs s) with
    | none => none
    | some (part, after) =>
      match skipTabs after with
      | '.' :: rest => (readKey fuel rest).map fun (parts, end_) => (part :: parts, end_)
      | rest => some ([part], rest)

/-- The number of parts that a key has fewer than, and of brackets that values nest less deep
than. -/
def depthLimit : Nat := 80

/-- Reads a key that is not too long. -/
def readPath (s : List Char) : Option (List String × List Char) :=
  match readKey (s.length + 1) s with
  | some (path, rest) => if path.length < depthLimit then some (path, rest) else none
  | none => none

/-! ## Numbers -/

/-- Whether digits with underscores between them form the digits of a number. -/
def wellSpaced (isDigit : Char → Bool) : List Char → Bool
  | [] => false
  | [c] => isDigit c
  | c :: '_' :: rest => isDigit c && wellSpaced isDigit rest
  | c :: rest => isDigit c && wellSpaced isDigit rest

/-- The number that digits write to a base, underscores ignored. -/
def ofBase (base : Nat) (s : List Char) : Nat :=
  (s.filter (· != '_')).foldl (fun n c => base * n + (hexValue? c).getD 0) 0

/-- The magnitude of an unsigned integer in one of four bases. -/
def magnitude? : List Char → Option Nat
  | '0' :: 'x' :: digits =>
    if wellSpaced (hexValue? · |>.isSome) digits then some (ofBase 16 digits) else none
  | '0' :: 'o' :: digits =>
    if wellSpaced (fun c => '0' ≤ c && c ≤ '7') digits then some (ofBase 8 digits) else none
  | '0' :: 'b' :: digits =>
    if wellSpaced (fun c => c == '0' || c == '1') digits then some (ofBase 2 digits) else none
  | ['0'] => some 0
  | '0' :: _ => none
  | digits => if wellSpaced isAsciiDigit digits then some (ofBase 10 digits) else none

/-- The integer that a text writes: a sign stands only before decimal digits. -/
def integer? : List Char → Option Int
  | '+' :: rest => if rest.all (fun c => isAsciiDigit c || c == '_') then
      (magnitude? rest).map fun n => (n : Int) else none
  | '-' :: rest => if rest.all (fun c => isAsciiDigit c || c == '_') then
      (magnitude? rest).map fun n => -(n : Int) else none
  | s => (magnitude? s).map fun n => (n : Int)

/-- Whether a character may stand in a number, a date or a time. -/
def isScalarChar (c : Char) : Bool :=
  c.isAlphanum || c == '_' || c == '+' || c == '-' || c == '.' || c == ':'

/-- Reads a number, a date or a time; an integer has to fit into 64 bits. -/
def readScalar? (s : List Char) : Option (Toml × List Char) :=
  let text := s.takeWhile isScalarChar
  let rest := s.dropWhile isScalarChar
  match integer? text with
  | some n => if FitsSigned64 n then some (.int n, rest) else none
  | none =>
    if text.any isAsciiDigit || text == "inf".toList || text == "nan".toList then
      some (.scalar (String.ofList text), rest)
    else none

/-! ## The tree of tables -/

/-- A place in the tree under construction: a finished value, a table, or an array of tables in
order of appearance. A table is implicit while only longer keys pass through it, and dotted if a
dotted key made it. -/
inductive Node where
  | value (v : Toml)
  | table (implicit dotted : Bool) (line : Option Nat) (entries : List (String × Node))
  | tables (list : List Node)

/-- The entries of a table, changed at one key; `change` is given the node at the key, if any. -/
def alterAt (key : String) (change : Option Node → Option Node) :
    List (String × Node) → Option (List (String × Node))
  | [] => (change none).map fun node => [(key, node)]
  | (k, node) :: rest =>
    if k = key then (change (some node)).map fun node' => (k, node') :: rest
    else (alterAt key change rest).map fun rest' => (k, node) :: rest'

/-- Changes the table at a path below a node, making tables where there are none; an array of
tables is entered at its last table. With `dotted`, only implicit tables may be entered. -/
def descend (dotted : Bool) (change : Node → Option Node) : List String → Node → Option Node
  | [], node => change node
  | key :: path, .table implicit wasDotted line entries =>
    let enter : Option Node → Option Node
      | none => descend dotted change path (.table true dotted none [])
      | some (.value _) => none
      | some (.tables list) =>
        match list.getLast? with
        | none => none
        | some last =>
          (descend dotted change path last).map fun last' => .tables (list.dropLast ++ [last'])
      | some (.table implicit' dotted' line' entries') =>
        if dotted && !implicit' then none
        else descend dotted change path (.table implicit' dotted' line' entries')
    (alterAt key enter entries).map fun entries' => .table implicit wasDotted line entries'
  | _ :: _, _ => none

/-- Sets a new key of a table to a value. A dotted key ends in a table that dotted keys made, a
plain key in one that they did not. -/
def putValue (path : List String) (v : Toml) (root : Node) : Option Node :=
  match path.getLast? with
  | none => none
  | some key =>
    let way := path.dropLast
    descend true (fun
      | .table implicit dotted line entries =>
        if dotted == way.isEmpty then none
        else
          (alterAt key (fun | none => some (.value v) | some _ => none) entries).map
            fun entries' => .table implicit dotted line entries'
      | _ => none) way root

/-- Opens the table of a header. -/
def openTable (path : List String) (line : Nat) (root : Node) : Option Node :=
  match path.getLast? with
  | none => none
  | some key =>
    descend false (fun
      | .table implicit dotted l entries =>
        (alterAt key (fun
          | none => some (.table false false (some line) [])
          | some (.table true false _ inner) => some (.table false false (some line) inner)
          | some _ => none) entries).map fun entries' => .table implicit dotted l entries'
      | _ => none) path.dropLast root

/-- Opens a further table of an array of tables. -/
def openArrayTable (path : List String) (line : Nat) (root : Node) : Option Node :=
  match path.getLast? with
  | none => none
  | some key =>
    let fresh := Node.table false false (some line) []
    descend false (fun
      | .table implicit dotted l entries =>
        (alterAt key (fun
          | none => some (.tables [fresh])
          | some (.tables list) => some (.tables (list ++ [fresh]))
          | some _ => none) entries).map fun entries' => .table implicit dotted l entries'
      | _ => none) path.dropLast root

/-- Changes the table that a header has opened: the last one of an array of tables. -/
def atOpened (path : List String) (change : Node → Option Node) (root : Node) : Option Node :=
  descend false change path root

mutual

/-- The value that a finished place of the tree holds. -/
def Node.toToml : Node → Toml
  | .value v => v
  | .table _ _ line entries => .table line (entriesToToml entries)
  | .tables list => .array none (listToToml list)

/-- The values of the tables of an array. -/
def listToToml : List Node → List Toml
  | [] => []
  | node :: rest => node.toToml :: listToToml rest

/-- The values of the entries of a table. -/
def entriesToToml : List (String × Node) → List (String × Toml)
  | [] => []
  | (key, node) :: rest => (key, node.toToml) :: entriesToToml rest

end

/-! ## Values -/

/-- The line of a document of `total` line breaks on which the rest `s` begins. -/
def lineOf (total : Nat) (s : List Char) : Nat := total - s.count '\n' + 1

/-- A text without the blanks, comments and line breaks it begins with. -/
def skipBreaks : Nat → List Char → List Char
  | 0, s => s
  | fuel + 1, s =>
    let s' := skipComment (skipTabs s)
    match readNewline? s' with
    | some rest => skipBreaks fuel rest
    | none => s'

mutual

/-- Reads a value; `depth` counts the brackets around it. -/
def readTomlValue (total : Nat) : Nat → Nat → List Char → Option (Toml × List Char)
  | 0, _, _ => none
  | fuel + 1, depth, s =>
    match s with
    | '"' :: rest =>
      (readQuoted '"' rest).map fun (cs, after) => (.string (String.ofList cs), after)
    | '\'' :: rest =>
      (readQuoted '\'' rest).map fun (cs, after) => (.string (String.ofList cs), after)
    | 't' :: 'r' :: 'u' :: 'e' :: rest => some (.bool true, rest)
    | 'f' :: 'a' :: 'l' :: 's' :: 'e' :: rest => some (.bool false, rest)
    | '[' :: rest =>
      if depth + 1 < depthLimit then
        (readArray total fuel (depth + 1) (skipBreaks (rest.length + 1) rest)).map
          fun (items, after) => (.array (some (lineOf total s)) items, after)
      else none
    | '\x7b' :: rest =>
      if depth + 1 < depthLimit then
        let line := lineOf total s
        let empty := Node.table false false (some line) []
        match skipTabs rest with
        | '\x7d' :: after => some (empty.toToml, after)
        | inner =>
          (readInlineTable total fuel (depth + 1) empty inner).map
            fun (node, after) => (node.toToml, after)
      else none
    | _ => readScalar? s

/-- Reads the items of an array up to its closing bracket. -/
def readArray (total : Nat) : Nat → Nat → List Char → Option (List Toml × List Char)
  | 0, _, _ => none
  | fuel + 1, depth, s =>
    match s with
    | ']' :: rest => some ([], rest)
    | _ =>
      match readTomlValue total fuel depth s with
      | none => none
      | some (item, after) =>
        match skipBreaks (after.length + 1) after with
        | ']' :: rest => some ([item], rest)
        | ',' :: rest =>
          (readArray total fuel depth (skipBreaks (rest.length + 1) rest)).map
            fun (items, end_) => (item :: items, end_)
        | _ => none

/-- Reads the entries of an inline table up to its closing brace, which stands on the same line. -/
def readInlineTable (total : Nat) : Nat → Nat → Node → List Char → Option (Node × List Char)
  | 0, _, _, _ => none
  | fuel + 1, depth, node, s =>
    match readPath s with
    | some (path, '=' :: r₁) =>
      match readTomlValue total fuel depth (skipTabs r₁) with
      | none => none
      | some (value, r₂) =>
        match putValue path value node with
        | none => none
        | some node' =>
          match skipTabs r₂ with
          | '\x7d' :: rest => some (node', rest)
          | ',' :: rest => readInlineTable total fuel depth node' rest
          | _ => none
    | _ => none

end

/-! ## Documents -/

/-- Reads the lines of a document into the tree; `opened` is the path of the last header. -/
def readDocument (total : Nat) : Nat → List String → Node → List Char → Option Node
  | 0, _, _, _ => none
  | fuel + 1, opened, root, s =>
    match skipTabs s with
    | [] => some root
    | '#' :: rest =>
      match readLineEnd? ('#' :: rest) with
      | some after => readDocument total fuel opened root after
      | none => none
    | '[' :: '[' :: rest =>
      match readPath rest with
      | some (path, ']' :: ']' :: r₁) =>
        match readLineEnd? r₁, openArrayTable path (lineOf total rest) root with
        | some after, some root' => readDocument total fuel path root' after
        | _, _ => none
      | _ => none
    | '[' :: rest =>
      match readPath rest with
      | some (path, ']' :: r₁) =>
        match readLineEnd? r₁, openTable path (lineOf total rest) root with
        | some after, some root' => readDocument total fuel path root' after
        | _, _ => none
      | _ => none
    | c :: rest =>
      match readNewline? (c :: rest) with
      | some after => readDocument total fuel opened root after
      | none =>
        match readPath (c :: rest) with
        | some (path, '=' :: r₁) =>
          match readTomlValue total (2 * r₁.length + 2) 0 (skipTabs r₁) with
          | none => none
          | some (value, r₂) =>
            match readLineEnd? r₂, atOpened opened (putValue path value) root with
            | some after, some root' => readDocument total fuel opened root' after
            | _, _ => none
        | _ => none

/-- The root table of a document; a byte order mark at its start is skipped. -/
def parse? (text : String) : Option Toml :=
  let s := match text.toList with
    | '\uFEFF' :: rest => rest
    | s => s
  (readDocument (s.count '\n') (s.length + 1) [] (.table false false none []) s).map Node.toToml

end CaskAudit.Toml

import CashShop.Hex

namespace CashShop.Toml

abbrev Reader (α : Type) := List Char → Option (α × List Char)

def isPlain (c : Char) : Bool := c == '\t' || (32 ≤ c.toNat && c.toNat != 127)

def isBlank (c : Char) : Bool := c == ' ' || c == '\t'

def skipBlank (cs : List Char) : List Char := cs.dropWhile isBlank

def newline : List Char → Option (List Char)
  | '\n' :: rest => some rest
  | '\r' :: '\n' :: rest => some rest
  | _ => none

def skipComment : List Char → List Char
  | '#' :: rest => rest.dropWhile isPlain
  | cs => cs

def endLine (cs : List Char) : Option (List Char) :=
  match skipComment (skipBlank cs) with
  | [] => some []
  | rest => newline rest

def skipFill (inComment : Bool) : List Char → List Char
  | [] => []
  | '\n' :: rest => skipFill false rest
  | '\r' :: '\n' :: rest => skipFill false rest
  | c :: rest =>
    if inComment then (if isPlain c then skipFill true rest else c :: rest)
    else if isBlank c then skipFill false rest
    else if c == '#' then skipFill true rest
    else c :: rest

def skipSpace : List Char → List Char
  | '\r' :: '\n' :: rest => skipSpace rest
  | c :: rest => if isBlank c || c == '\n' then skipSpace rest else c :: rest
  | [] => []

def simpleEscape? : Char → Option Char
  | 'b' => some '\x08'
  | 't' => some '\t'
  | 'n' => some '\n'
  | 'f' => some '\x0c'
  | 'r' => some '\r'
  | '"' => some '"'
  | '\\' => some '\\'
  | _ => none

def charOfHex? (digits : List Char) : Option Char :=
  match Hex.value digits with
  | some n => if n < 0xD800 ∨ (0xDFFF < n ∧ n < 0x110000) then some (Char.ofNat n) else none
  | none => none

def readEscape : Reader Char
  | 'u' :: rest =>
    if 4 ≤ rest.length then (charOfHex? (rest.take 4)).map fun c => (c, rest.drop 4) else none
  | 'U' :: rest =>
    if 8 ≤ rest.length then (charOfHex? (rest.take 8)).map fun c => (c, rest.drop 8) else none
  | c :: rest => (simpleEscape? c).map fun e => (e, rest)
  | [] => none

def readBasic : Nat → Reader (List Char)
  | 0, _ => none
  | _, [] => none
  | _, '"' :: rest => some ([], rest)
  | fuel + 1, '\\' :: rest => (readEscape rest).bind fun (c, rest) =>
    (readBasic fuel rest).map fun r => (c :: r.1, r.2)
  | fuel + 1, c :: rest => if isPlain c then (readBasic fuel rest).map fun r => (c :: r.1, r.2) else none

/-- A backslash at the end of a line joins it with the next text. -/
def readContinuation (cs : List Char) : Option (List Char) := (newline (skipBlank cs)).map skipSpace

/-- Up to two quotes may stand directly before the closing ones. -/
def closing (quote : Char) : List Char → List Char × List Char
  | a :: b :: rest =>
    if a = quote then (if b = quote then ([a, b], rest) else ([a], b :: rest)) else ([], a :: b :: rest)
  | [a] => if a = quote then ([a], []) else ([], [a])
  | [] => ([], [])

def readMultiline : Nat → Reader (List Char)
  | 0, _ => none
  | _, [] => none
  | _, '"' :: '"' :: '"' :: rest => some (closing '"' rest)
  | fuel + 1, '\\' :: rest => match readContinuation rest with
    | some rest => readMultiline fuel rest
    | none => (readEscape rest).bind fun (c, rest) => (readMultiline fuel rest).map fun r => (c :: r.1, r.2)
  | fuel + 1, '\r' :: '\n' :: rest => (readMultiline fuel rest).map fun r => ('\n' :: r.1, r.2)
  | fuel + 1, c :: rest =>
    if isPlain c || c == '\n' then (readMultiline fuel rest).map fun r => (c :: r.1, r.2) else none

def readLiteral : Reader (List Char)
  | [] => none
  | '\'' :: rest => some ([], rest)
  | c :: rest => if isPlain c then (readLiteral rest).map fun r => (c :: r.1, r.2) else none

def readMultilineLiteral : Reader (List Char)
  | [] => none
  | '\'' :: '\'' :: '\'' :: rest => some (closing '\'' rest)
  | '\r' :: '\n' :: rest => (readMultilineLiteral rest).map fun r => ('\n' :: r.1, r.2)
  | c :: rest => if isPlain c || c == '\n' then (readMultilineLiteral rest).map fun r => (c :: r.1, r.2) else none

/-- A line end directly after the opening quotes does not count. -/
def skipFirstNewline (cs : List Char) : List Char := (newline cs).getD cs

def readString : Reader (List Char)
  | '"' :: '"' :: '"' :: rest => readMultiline (rest.length + 1) (skipFirstNewline rest)
  | '"' :: rest => readBasic (rest.length + 1) rest
  | '\'' :: '\'' :: '\'' :: rest => readMultilineLiteral (skipFirstNewline rest)
  | '\'' :: rest => readLiteral rest
  | _ => none

def isBare (c : Char) : Bool := c.isAlphanum || c == '-' || c == '_'

def readKeyPart : Reader String
  | '"' :: rest => (readBasic (rest.length + 1) rest).map fun r => (String.ofList r.1, r.2)
  | '\'' :: rest => (readLiteral rest).map fun r => (String.ofList r.1, r.2)
  | cs =>
    let part := cs.takeWhile isBare
    if part.isEmpty then none else some (String.ofList part, cs.dropWhile isBare)

def readKeyParts : Nat → Reader (List String)
  | 0, _ => none
  | fuel + 1, cs => (readKeyPart (skipBlank cs)).bind fun (part, rest) =>
    match skipBlank rest with
    | '.' :: rest => (readKeyParts fuel rest).map fun r => (part :: r.1, r.2)
    | rest => some ([part], rest)

def maxDepth : Nat := 79

def readKey (cs : List Char) : Option (List String × List Char) :=
  match readKeyParts (cs.length + 1) cs with
  | some (parts, rest) => if parts.length ≤ maxDepth then some (parts, rest) else none
  | none => none

end CashShop.Toml

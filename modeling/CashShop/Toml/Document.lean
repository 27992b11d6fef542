import CashShop.Toml
import CashShop.Toml.Number
import CashShop.Toml.Text

namespace CashShop.Toml

def isWordChar (c : Char) : Bool := c.isAlphanum || c == '+' || c == '-' || c == '_' || c == '.' || c == ':'

def ofWord? (cs : List Char) : Option Toml :=
  if cs = "true".toList then some (bool true)
  else if cs = "false".toList then some (bool false)
  else if isDate cs then some date
  else if isFloat cs then some float
  else (int? cs).map int

/-- A word; after a date a single space may lead to a time. -/
def readWord (cs : List Char) : Option (Toml × List Char) :=
  let word := cs.takeWhile isWordChar
  let rest := cs.dropWhile isWordChar
  match isDay word, rest with
  | true, ' ' :: more =>
    let time := more.takeWhile isWordChar
    if time.isEmpty then some (date, rest)
    else if isClock time then some (date, more.dropWhile isWordChar)
    else none
  | _, _ => (ofWord? word).map fun v => (v, rest)

mutual

/-- A value that nests at most `room` deep. The fuel grows with the length of the text. -/
def readValue : Nat → Nat → Reader Toml
  | 0, _, _ => none
  | fuel + 1, room, cs => match cs with
    | '[' :: rest =>
      if room = 0 then none
      else match skipFill false rest with
        | ']' :: rest => some (array [], rest)
        | rest => (readItems fuel (room - 1) rest).map fun r => (array r.1, r.2)
    | '{' :: rest =>
      if room = 0 then none
      else match skipBlank rest with
        | '}' :: rest => some (inline [], rest)
        | rest => (readPairs fuel (room - 1) rest []).map fun r => (inline r.1, r.2)
    | c :: rest =>
      if c == '"' || c == '\'' then (readString (c :: rest)).map fun r => (string (String.ofList r.1), r.2)
      else readWord (c :: rest)
    | [] => none

def readItems : Nat → Nat → Reader (List Toml)
  | 0, _, _ => none
  | fuel + 1, room, cs =>
    match readValue fuel room cs with
    | none => none
    | some (v, rest) =>
      match skipFill false rest with
      | ']' :: rest => some ([v], rest)
      | ',' :: rest =>
        match skipFill false rest with
        | ']' :: rest => some ([v], rest)
        | rest => (readItems fuel room rest).map fun r => (v :: r.1, r.2)
      | _ => none

def readPairs : Nat → Nat → List Char → Entries → Option (Entries × List Char)
  | 0, _, _, _ => none
  | fuel + 1, room, cs, es =>
    match readKey cs with
    | some (parts, '=' :: rest) =>
      match readValue fuel room (skipBlank rest) with
      | none => none
      | some (v, rest) =>
        match putValue (parts.getLastD "") v parts.dropLast es with
        | none => none
        | some es =>
          match skipBlank rest with
          | '}' :: rest => some (es, rest)
          | ',' :: rest => readPairs fuel room rest es
          | _ => none
    | _ => none

end

def readLine (cs : List Char) (path : List String) (root : Entries) :
    Option (List Char × List String × Entries) :=
  match cs with
  | '[' :: '[' :: rest =>
    match readKey rest with
    | some (parts, ']' :: ']' :: rest) => do pure (← endLine rest, parts, ← openRow parts root)
    | _ => none
  | '[' :: rest =>
    match readKey rest with
    | some (parts, ']' :: rest) => do pure (← endLine rest, parts, ← openTable parts root)
    | _ => none
  | cs =>
    match readKey cs with
    | some (parts, '=' :: rest) => do
      let (v, rest) ← readValue (2 * rest.length + 2) maxDepth (skipBlank rest)
      pure (← endLine rest, path, ← inOpened (putValue (parts.getLastD "") v parts.dropLast) path root)
    | _ => none

def readLines : Nat → List Char → List String → Entries → Option Entries
  | 0, _, _, _ => none
  | fuel + 1, cs, path, root =>
    match skipBlank cs with
    | [] => some root
    | c :: rest =>
      if c == '#' || c == '\n' || c == '\r' then
        match endLine (c :: rest) with
        | some rest => readLines fuel rest path root
        | none => none
      else
        match readLine (c :: rest) path root with
        | some (rest, path, root) => readLines fuel rest path root
        | none => none

def skipMark : List Char → List Char
  | '\uFEFF' :: cs => cs
  | cs => cs

def parse? (text : String) : Option Entries :=
  let cs := skipMark text.toList
  readLines (cs.length + 1) cs [] []

end CashShop.Toml

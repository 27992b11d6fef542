import CashShop.Hex
import CashShop.Json.Numeral

namespace CashShop.Json

inductive Source where
  | null
  | bool (b : Bool)
  | num (t : Numeral)
  | str (s : Option String)
  | arr (items : List Source)
  | obj (fields : List (Option String × Source))
deriving Inhabited

/-- A character of a string as written, or one 16-bit unit given by its number. -/
inductive Piece where
  | char (c : Char)
  | unit (n : Nat)

def Piece.join? : List Piece → Option (List Char)
  | [] => some []
  | .char c :: rest => (join? rest).map (c :: ·)
  | .unit h :: .unit l :: rest =>
    if 0xD800 ≤ h ∧ h ≤ 0xDBFF then
      if 0xDC00 ≤ l ∧ l ≤ 0xDFFF then
        (join? rest).map (Char.ofNat ((h - 0xD800) * 1024 + (l - 0xDC00) + 0x10000) :: ·)
      else none
    else if 0xDC00 ≤ h ∧ h ≤ 0xDFFF then none
    else (join? (.unit l :: rest)).map (Char.ofNat h :: ·)
  | .unit n :: rest => if 0xD800 ≤ n ∧ n ≤ 0xDFFF then none else (join? rest).map (Char.ofNat n :: ·)

namespace Source

def isSpace (c : Char) : Bool := c == ' ' || c == '\t' || c == '\n' || c == '\r'

def skip (cs : List Char) : List Char := cs.dropWhile isSpace

def simpleEscape? : Char → Option Char
  | '"' => some '"'
  | '\\' => some '\\'
  | '/' => some '/'
  | 'b' => some '\x08'
  | 'f' => some '\x0c'
  | 'n' => some '\n'
  | 'r' => some '\r'
  | 't' => some '\t'
  | _ => none

def readPieces : List Char → Option (List Piece × List Char)
  | [] => none
  | '"' :: rest => some ([], rest)
  | '\\' :: 'u' :: a :: b :: c :: d :: rest =>
    match Hex.value [a, b, c, d] with
    | some n => (readPieces rest).map fun r => (.unit n :: r.1, r.2)
    | none => none
  | '\\' :: c :: rest =>
    match simpleEscape? c with
    | some e => (readPieces rest).map fun r => (.char e :: r.1, r.2)
    | none => none
  | c :: rest => if c.toNat < 32 then none else (readPieces rest).map fun r => (.char c :: r.1, r.2)

def readText (cs : List Char) : Option (Option String × List Char) :=
  (readPieces cs).map fun r => ((Piece.join? r.1).map String.ofList, r.2)

def isDigit (c : Char) : Bool := 48 ≤ c.toNat && c.toNat ≤ 57

def readFraction : List Char → Option (Option (List Char) × List Char)
  | '.' :: rest =>
    let ds := rest.takeWhile isDigit
    if ds.isEmpty then none else some (some ds, rest.dropWhile isDigit)
  | cs => some (none, cs)

def readExponent : List Char → Option (Option (Bool × List Char) × List Char)
  | [] => some (none, [])
  | c :: rest =>
    if c = 'e' ∨ c = 'E' then
      let (negative, rest) := match rest with
        | '-' :: r => (true, r)
        | '+' :: r => (false, r)
        | r => (false, r)
      let ds := rest.takeWhile isDigit
      if ds.isEmpty then none else some (some (negative, ds), rest.dropWhile isDigit)
    else some (none, c :: rest)

def readNumeral (cs : List Char) : Option (Numeral × List Char) :=
  let (negative, cs) := match cs with
    | '-' :: r => (true, r)
    | r => (false, r)
  let whole := cs.takeWhile isDigit
  if whole.isEmpty ∨ (whole.head? = some '0' ∧ 1 < whole.length) then none
  else (readFraction (cs.dropWhile isDigit)).bind fun (fraction, cs) =>
    (readExponent cs).map fun (exponent, cs) => (⟨negative, whole, fraction, exponent⟩, cs)

mutual

def readValue : Nat → List Char → Option (Source × List Char)
  | 0, _ => none
  | fuel + 1, cs =>
    match skip cs with
    | 'n' :: 'u' :: 'l' :: 'l' :: rest => some (null, rest)
    | 't' :: 'r' :: 'u' :: 'e' :: rest => some (bool true, rest)
    | 'f' :: 'a' :: 'l' :: 's' :: 'e' :: rest => some (bool false, rest)
    | '"' :: rest => (readText rest).map fun r => (str r.1, r.2)
    | '[' :: rest =>
      match skip rest with
      | ']' :: rest => some (arr [], rest)
      | rest => (readItems fuel rest).map fun r => (arr r.1, r.2)
    | '{' :: rest =>
      match skip rest with
      | '}' :: rest => some (obj [], rest)
      | rest => (readFields fuel rest).map fun r => (obj r.1, r.2)
    | rest => (readNumeral rest).map fun r => (num r.1, r.2)

def readItems : Nat → List Char → Option (List Source × List Char)
  | 0, _ => none
  | fuel + 1, cs =>
    match readValue fuel cs with
    | none => none
    | some (v, rest) =>
      match skip rest with
      | ',' :: rest => (readItems fuel rest).map fun r => (v :: r.1, r.2)
      | ']' :: rest => some ([v], rest)
      | _ => none

def readFields : Nat → List Char → Option (List (Option String × Source) × List Char)
  | 0, _ => none
  | fuel + 1, cs =>
    match skip cs with
    | '"' :: rest =>
      match readText rest with
      | none => none
      | some (k, rest) =>
        match skip rest with
        | ':' :: rest =>
          match readValue fuel rest with
          | none => none
          | some (v, rest) =>
            match skip rest with
            | ',' :: rest => (readFields fuel rest).map fun r => ((k, v) :: r.1, r.2)
            | '}' :: rest => some ([(k, v)], rest)
            | _ => none
        | _ => none
    | _ => none

end

/-- The fuel suffices because reading a value or an item that does not fail takes at least one character. -/
def ofChars? (cs : List Char) : Option Source :=
  match readValue (2 * cs.length + 2) cs with
  | some (v, rest) => if (skip rest).isEmpty then some v else none
  | none => none

def parse? (s : String) : Option Source := ofChars? s.toList

mutual

/-- The value, if it nests at most `room` deep and all its parts have one. Of two fields with one key the later counts. -/
def toJson? : Nat → Source → Option Json
  | _, null => some .null
  | _, bool b => some (.bool b)
  | _, num t => t.toJson?
  | _, str s => s.map .str
  | room, arr items => if room = 0 then none else (itemsToJson? (room - 1) items).map .arr
  | room, obj fields => if room = 0 then none else (fieldsToJson? (room - 1) fields).map Json.object

def itemsToJson? : Nat → List Source → Option (List Json)
  | _, [] => some []
  | room, v :: vs =>
    match toJson? room v, itemsToJson? room vs with
    | some j, some js => some (j :: js)
    | _, _ => none

def fieldsToJson? : Nat → List (Option String × Source) → Option (List (String × Json))
  | _, [] => some []
  | room, (k, v) :: fs =>
    match k, toJson? room v, fieldsToJson? room fs with
    | some k, some j, some js => some ((k, j) :: js)
    | _, _, _ => none

end

end Source

def maxDepth : Nat := 127

def parse? (s : String) : Option Json := (Source.parse? s).bind (Source.toJson? maxDepth)

end CashShop.Json

import CashShop.Hex
import CashShop.Text

namespace CashShop.Remote.Target

def pathDelimiters : List Char := ['"', '#', '<', '>', '?', '`', '\x7b', '\x7d']

def queryDelimiters : List Char := ['"', '#', '\'', '<', '>']

def isPlain (delimiters : List Char) (c : Char) : Bool := '\x20' < c && c < '\x7F' && !delimiters.contains c

def escapeChar (c : Char) : List Char :=
  (String.utf8EncodeChar c).flatMap fun b => '%' :: (Hex.digits 2 b.toNat).map Char.toUpper

def escape (delimiters cs : List Char) : List Char :=
  cs.flatMap fun c => if isPlain delimiters c then [c] else escapeChar c

/-- The number of dots that a segment consists of, however they are spelled. -/
def dots : List Char → Option Nat
  | [] => some 0
  | '.' :: cs => (dots cs).map (· + 1)
  | '%' :: '2' :: e :: cs => if e = 'e' ∨ e = 'E' then (dots cs).map (· + 1) else none
  | _ => none

def isDot (segment : List Char) : Bool := dots segment = some 1

def isDoubleDot (segment : List Char) : Bool := dots segment = some 2

def isDrive : List Char → Bool
  | [c, d] => c.isAlpha && (d = ':' || d = '|')
  | _ => false

def enter (place : List (List Char)) (segment : List Char) : List (List Char) :=
  if isDoubleDot segment then
    match place with
    | [] => []
    | s :: up => if isDrive s then place else up
  else if isDot segment then place
  else segment :: place

/-- The path through the segments. Behind the last one there is no slash; dots in its place leave it empty. -/
def resolve (place : List (List Char)) : List (List Char) → List Char
  | [] => []
  | [last] =>
    let (place, last) := if isDot last || isDoubleDot last then (enter place last, []) else (place, last)
    place.reverse.flatMap ('/' :: ·) ++ '/' :: last
  | segment :: rest => resolve (enter place segment) rest

def path (cs : List Char) : List Char :=
  resolve [] ((Text.parts '/' (cs.map fun c => if c = '\\' then '/' else c)).map (escape pathDelimiters))

def endsPath (c : Char) : Bool := c = '?' || c = '#'

def query : List Char → List Char
  | '?' :: cs => '?' :: escape queryDelimiters (cs.takeWhile (· != '#'))
  | _ => []

def isBreak (c : Char) : Bool := c = '\t' || c = '\n' || c = '\r'

def ofAddress (s : String) : String :=
  let cs := s.toList.filter (!isBreak ·)
  String.ofList (path (cs.takeWhile (!endsPath ·)) ++ query (cs.dropWhile (!endsPath ·)))

end CashShop.Remote.Target

import CashShop.Hex
import CashShop.Json

namespace CashShop.Json

def escape (c : Char) : List Char :=
  if c = '"' then ['\\', '"']
  else if c = '\\' then ['\\', '\\']
  else if c = '\x08' then ['\\', 'b']
  else if c = '\x0c' then ['\\', 'f']
  else if c = '\n' then ['\\', 'n']
  else if c = '\r' then ['\\', 'r']
  else if c = '\t' then ['\\', 't']
  else if c.toNat < 32 then '\\' :: 'u' :: Hex.digits 4 c.toNat
  else [c]

def quoteChars (s : String) : List Char := '"' :: s.toList.flatMap escape ++ ['"']

mutual

def chars : Json → List Char
  | null => ['n', 'u', 'l', 'l']
  | bool true => ['t', 'r', 'u', 'e']
  | bool false => ['f', 'a', 'l', 's', 'e']
  | int n => (toString n).toList
  | double d => d.chars
  | str s => quoteChars s
  | arr items => '[' :: itemChars items ++ [']']
  | obj fields => '{' :: fieldChars fields ++ ['}']

def itemChars : List Json → List Char
  | [] => []
  | [v] => chars v
  | v :: vs => chars v ++ ',' :: itemChars vs

def fieldChars : List (String × Json) → List Char
  | [] => []
  | [(k, v)] => quoteChars k ++ ':' :: chars v
  | (k, v) :: fs => quoteChars k ++ ':' :: chars v ++ ',' :: fieldChars fs

end

def render (j : Json) : String := String.ofList j.chars

end CashShop.Json

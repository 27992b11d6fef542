import CashShop.Text
import CashShop.Topic
import CashShop.Transport

namespace CashShop

open Wire Record

structure ReplayError where
  line : Nat
  error : DecodeError
deriving DecidableEq

def ReplayError.message (e : ReplayError) : String := s!"replay line {e.line}: {e.error.message}"

namespace Replay

def lines : List Char → List (List Char) := Text.parts '\n'

def isSkipped (line : List Char) : Bool := line.isEmpty || line.head? == some '#'

/-- A topic is given by its name, or as the only key of an object. -/
def topicOf : Json.Source → Except DecodeError Topic
  | .obj [f] => ofSource 1 Wire.topic (.obj [f])
  | s => ofSource 0 Wire.topic s

def valueDepth : Nat := Json.maxDepth - 1

def decode : Json.Source → Except DecodeError (Topic × Message) :=
  ((fun t k v => (t, ⟨k, v⟩)) <$> field "topic" topicOf <*> field "key" (ofSource 0 string)
    <*> field "value" (ofSource valueDepth value)).decodeSource

def readLine (line : List Char) : Except DecodeError (Option (Topic × Message)) :=
  let cs := Text.trimChars line
  if isSkipped cs then .ok none
  else match Json.Source.ofChars? cs with
    | some s => (decode s).map some
    | none => .error .malformed

def readLines : Nat → List (List Char) → Except ReplayError (List (Topic × Message))
  | _, [] => .ok []
  | n, l :: ls => match readLine l with
    | .ok r => (readLines (n + 1) ls).map (r.toList ++ ·)
    | .error e => .error ⟨n, e⟩

def parse (content : String) : Except ReplayError (List (Topic × Message)) := readLines 1 (lines content.toList)

end Replay

end CashShop

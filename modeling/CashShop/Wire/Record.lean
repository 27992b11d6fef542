import CashShop.Wire.Decoder
import CashShop.Json.Source

namespace CashShop.Wire

inductive Fields (ν : Type) where
  | keyed (entries : List (String × ν))
  | listed (items : List ν)

structure Failure where
  rank : Nat
  error : DecodeError

structure Record (ν α : Type) where
  size : Nat
  read : Fields ν → Nat → Except Failure α

namespace Record

variable {ν α β : Type}

def both (f : Except Failure (α → β)) (x : Except Failure α) : Except Failure β :=
  match f, x with
  | .ok f, .ok x => .ok (f x)
  | .error e, .ok _ => .error e
  | .ok _, .error e => .error e
  | .error e, .error e' => if e'.rank < e.rank then .error e' else .error e

instance : Applicative (Record ν) where
  pure a := ⟨0, fun _ _ => .ok a⟩
  seq f x := ⟨f.size + (x ()).size, fun fields i => both (f.read fields i) ((x ()).read fields (i + f.size))⟩

def occurrences (name : String) : List (String × ν) → Nat → List (Nat × ν)
  | [], _ => []
  | (k, v) :: rest, i => if k = name then (i, v) :: occurrences name rest (i + 1) else occurrences name rest (i + 1)

def ranked (i : Nat) (r : Except DecodeError α) : Except Failure α :=
  match r with
  | .ok a => .ok a
  | .error e => .error ⟨i, e⟩

/-- A field that a keyed record may lack if `absent` gives its value then, and a list if `beyond` does. -/
def fieldOr (name : String) (decode : ν → Except DecodeError α) (absent beyond : Option α) : Record ν α where
  size := 1
  read
    | .keyed entries, _ => match occurrences name entries 0 with
      | [] => match absent with
        | some a => .ok a
        | none => .error ⟨entries.length, .malformed⟩
      | [(i, v)] => ranked i (decode v)
      | (i, v) :: (j, _) :: _ => match decode v with
        | .ok _ => .error ⟨j, .malformed⟩
        | .error e => .error ⟨i, e⟩
    | .listed items, i => match items[i]? with
      | some v => ranked i (decode v)
      | none => match beyond with
        | some a => .ok a
        | none => .error ⟨i, .malformed⟩

def field (name : String) (decode : ν → Except DecodeError α) : Record ν α := fieldOr name decode none none

def fieldD (name : String) (decode : ν → Except DecodeError α) (default : α) : Record ν α :=
  fieldOr name decode (some default) (some default)

def run (r : Record ν α) (fields : Fields ν) : Except DecodeError α :=
  match r.read fields 0 with
  | .error e => .error e.error
  | .ok a => match fields with
    | .keyed _ => .ok a
    | .listed items => if items.length ≤ r.size then .ok a else .error .malformed

/-- A field that may be null, and missing from an object but not from a list. -/
def nullable (name : String) (d : Decoder α) : Record Json (Option α) := fieldOr name (optional d) (some none) none

def omissible (name : String) (d : Decoder α) : Record Json (Option α) := fieldD name (optional d) none

def decode (r : Record Json α) : Decoder α
  | .obj fields => r.run (.keyed fields)
  | .arr items => r.run (.listed items)
  | _ => .error .malformed

def textKeys : List (Option String × Json.Source) → Option (List (String × Json.Source))
  | [] => some []
  | (some k, v) :: rest => (textKeys rest).map ((k, v) :: ·)
  | (none, _) :: _ => none

def decodeSource (r : Record Json.Source α) : Json.Source → Except DecodeError α
  | .obj fields => match textKeys fields with
    | some entries => r.run (.keyed entries)
    | none => .error .malformed
  | .arr items => r.run (.listed items)
  | _ => .error .malformed

/-- Reads a part of a source tree as a value, which may nest at most `room` deep. -/
def ofSource (room : Nat) (d : Decoder α) (s : Json.Source) : Except DecodeError α :=
  match s.toJson? room with
  | some j => d j
  | none => .error .malformed

end Record

def tagKey : String := "type"

/-- A message whose kind is told by its tag: a field of the object, or the head of the list. A kind without a reader is
`other`, if there is such a value, whatever else the object holds. -/
def tagged {α : Type} (kinds : String → Option (Record Json α)) (other : Option α) : Decoder α
  | .obj fields => match fields.lookup tagKey with
    | some (.str name) =>
      match kinds name, other with
      | some r, _ => r.run (.keyed (fields.filter fun f => f.1 ≠ tagKey))
      | none, some a => .ok a
      | none, none => .error .malformed
    | _ => .error .malformed
  | .arr (.str name :: items) =>
    match kinds name, other with
    | some r, _ => r.run (.listed items)
    | none, some a => if items.isEmpty then .ok a else .error .malformed
    | none, none => .error .malformed
  | _ => .error .malformed

end CashShop.Wire

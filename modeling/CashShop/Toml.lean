namespace CashShop

inductive Toml.Origin where
  | header
  | implied
  | dotted
deriving DecidableEq

/-- Floats and dates are told apart from other values, but hold nothing. -/
inductive Toml where
  | string (s : String)
  | int (n : Int)
  | bool (b : Bool)
  | float
  | date
  | array (items : List Toml)
  | inline (entries : List (String × Toml))
  | table (origin : Toml.Origin) (entries : List (String × Toml))
  | tables (rows : List (List (String × Toml)))
deriving Inhabited

namespace Toml

abbrev Entries := List (String × Toml)

def set (key : String) (v : Toml) : Entries → Entries
  | [] => [(key, v)]
  | (k, w) :: rest => if k = key then (k, v) :: rest else (k, w) :: set key v rest

def inLastRow (f : Entries → Option Entries) : List Entries → Option (List Entries)
  | [] => none
  | [row] => (f row).map ([·])
  | row :: rows => (inLastRow f rows).map (row :: ·)

/-- Puts a value under a dotted key. The tables on the way may be implied, but the one that takes the value has been
made by dotted keys, and has no such key yet. -/
def putValue (key : String) (v : Toml) : List String → Entries → Option Entries
  | [], es => if (es.lookup key).isSome then none else some (es ++ [(key, v)])
  | p :: ps, es => match es.lookup p with
    | none => (putValue key v ps []).map fun sub => es ++ [(p, .table .dotted sub)]
    | some (.table .dotted sub) => (putValue key v ps sub).map fun sub => set p (.table .dotted sub) es
    | some (.table .implied sub) =>
      if ps.isEmpty then none else (putValue key v ps sub).map fun sub => set p (.table .implied sub) es
    | some (.tables rows) =>
      if ps.isEmpty then none else (inLastRow (putValue key v ps) rows).map fun rows => set p (.tables rows) es
    | some _ => none

/-- Follows the path of a header, where missing tables are implied, and changes what it leads to. -/
def descend (f : Option Toml → Option Toml) : List String → Entries → Option Entries
  | [], _ => none
  | [p], es => (f (es.lookup p)).map fun v => set p v es
  | p :: ps, es => match es.lookup p with
    | none => (descend f ps []).map fun sub => es ++ [(p, .table .implied sub)]
    | some (.table o sub) => (descend f ps sub).map fun sub => set p (.table o sub) es
    | some (.tables rows) => (inLastRow (descend f ps) rows).map fun rows => set p (.tables rows) es
    | some _ => none

def openTable : List String → Entries → Option Entries := descend fun
  | none => some (.table .header [])
  | some (.table .implied sub) => some (.table .header sub)
  | some _ => none

def openRow : List String → Entries → Option Entries := descend fun
  | none => some (.tables [[]])
  | some (.tables rows) => some (.tables (rows ++ [[]]))
  | some _ => none

/-- Changes the table that the latest header has opened. -/
def inOpened (f : Entries → Option Entries) : List String → Entries → Option Entries
  | [], es => f es
  | p :: ps, es => descend (fun
    | some (.table o sub) => (f sub).map (.table o)
    | some (.tables rows) => (inLastRow f rows).map .tables
    | _ => none) (p :: ps) es

end Toml

end CashShop

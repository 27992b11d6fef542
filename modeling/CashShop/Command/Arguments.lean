namespace CashShop.Command

inductive Setting where
  | config
  | replay
deriving DecidableEq

def Setting.name : Setting → String
  | config => "config"
  | replay => "replay"

inductive Word where
  | setting (s : Setting) (value : Option String)
  | help
  | finish
  | wrong
deriving DecidableEq

def Word.long (name : List Char) (rest : List Char) : Word :=
  match [Setting.config, .replay].find? (·.name.toList = name), rest with
  | some s, [] => setting s none
  | some s, _ :: value => setting s (some (String.ofList value))
  | none, [] => if name = "help".toList then help else wrong
  | none, _ => wrong

def Word.ofString (arg : String) : Word :=
  match arg.toList with
  | ['-', '-'] => finish
  | '-' :: '-' :: cs => long (cs.takeWhile (· ≠ '=')) (cs.dropWhile (· ≠ '='))
  | ['-', 'c'] => setting .config none
  | '-' :: 'c' :: '=' :: value => setting .config (some (String.ofList value))
  | '-' :: 'c' :: value => setting .config (some (String.ofList value))
  | '-' :: 'h' :: _ => help
  | _ => wrong

def isValue (arg : String) : Bool := arg.toList.head? ≠ some '-' || arg == "-"

inductive Refusal where
  | help
  | misuse
deriving DecidableEq

structure Arguments where
  config : Option String
  replay : Option String
deriving DecidableEq

namespace Arguments

def none : Arguments := ⟨.none, .none⟩

/-- No setting comes twice, and a replay has a path that is not empty. -/
def set (a : Arguments) (value : String) : Setting → Except Refusal Arguments
  | .config => if a.config.isSome then .error .misuse else .ok { a with config := value }
  | .replay => if a.replay.isSome || value.isEmpty then .error .misuse else .ok { a with replay := value }

def read (a : Arguments) : List String → Except Refusal Arguments
  | [] => .ok a
  | arg :: rest => match Word.ofString arg with
    | .help => .error .help
    | .wrong => .error .misuse
    | .finish => if rest.isEmpty then .ok a else .error .misuse
    | .setting s (some value) => match a.set value s with
      | .ok a' => a'.read rest
      | .error e => .error e
    | .setting s .none => match rest with
      | [] => .error .misuse
      | value :: rest' =>
        if isValue value then
          match a.set value s with
          | .ok a' => a'.read rest'
          | .error e => .error e
        else .error .misuse

def parse (args : List String) : Except Refusal Arguments := none.read args

end Arguments

end CashShop.Command

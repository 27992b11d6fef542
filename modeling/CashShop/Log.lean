import CashShop.Json.Printer
import CashShop.Text

namespace CashShop

inductive LogLevel where
  | off
  | error
  | warn
  | info
  | debug
  | trace
deriving DecidableEq

namespace LogLevel

def all : List LogLevel := [off, error, warn, info, debug, trace]

def name : LogLevel → String
  | off => "off"
  | error => "error"
  | warn => "warn"
  | info => "info"
  | debug => "debug"
  | trace => "trace"

def rank (l : LogLevel) : Nat := all.idxOf l

def ofRank? (word : List Char) : Option LogLevel :=
  let digits := match word with
    | '+' :: cs => cs
    | cs => cs
  if digits.isEmpty then none
  else all.find? fun l => (toString l.rank).toList = match digits.dropWhile (· == '0') with
    | [] => ['0']
    | cs => cs

def ofName? (word : List Char) : Option LogLevel := all.find? fun l => l.name.toList = word.map Char.toLower

def ofWord? (word : List Char) : Option LogLevel := (ofRank? word).or (ofName? word)

end LogLevel

inductive LogOrigin where
  | context
  | lifecycle
  | replay
  | consumer
  | sweeper
deriving DecidableEq

def LogOrigin.name : LogOrigin → String
  | context => "cashshop_bootstrap::context"
  | lifecycle => "cashshop_bootstrap::lifecycle"
  | replay => "cashshop_bootstrap::replay"
  | consumer => "cashshop_interfaces_messaging::consumer"
  | sweeper => "cashshop_application::ops::reservation_sweeper"

structure LogLine where
  origin : LogOrigin
  level : LogLevel
  text : String
deriving DecidableEq

namespace LogLine

def fields : List String := ["message"]

/-- The written form of a line: an object, or plain text. -/
def render (json : Bool) (l : LogLine) : String :=
  if json then
    (Json.obj [("level", .str l.level.name), ("message", .str l.text), ("target", .str l.origin.name)]).render
  else s!"{l.level.name} {l.origin.name}: {l.text}"

end LogLine

/-- A level for the lines whose origin begins with a name and that have a field; the empty name begins all. -/
structure Directive where
  origin : List Char
  field : Option (List Char)
  confined : Bool
  level : LogLevel
deriving DecidableEq

namespace Directive

def covers (d : Directive) (l : LogLine) : Bool :=
  !d.confined && d.origin.isPrefixOf l.origin.name.toList && d.field.all fun f => LogLine.fields.contains (.ofList f)

/-- A later directive that is no less special takes the place of an earlier one. -/
def yieldsTo (a b : Directive) : Bool :=
  a.origin.length < b.origin.length ||
    (a.origin.length == b.origin.length && (a.field.isNone || b.field.isSome))

end Directive

namespace LogFilter

def beginsName (c : Char) : Bool := c.isAlphanum || c == '_' || c == '-' || c == ':'

def levelAfter? : List Char → Option LogLevel
  | [] => some .trace
  | word => LogLevel.ofWord? word

def levelBehind? : List Char → Option LogLevel
  | '=' :: word => levelAfter? word
  | cs => if cs.all Text.isBlank then some .trace else none

/-- A directive whose name ends at a bracket, behind which there is the name of a span, a field in braces, or both. -/
def bracketed? (origin cs : List Char) : Option Directive :=
  let span := cs.takeWhile fun c => c != ']' && c != '\x7b'
  match cs.dropWhile fun c => c != ']' && c != '\x7b' with
  | ']' :: rest => (levelBehind? rest).map (⟨origin, none, true, ·⟩)
  | '\x7b' :: rest =>
    let field := rest.takeWhile (· != '\x7d')
    if field.isEmpty then none
    else match rest.dropWhile (· != '\x7d') with
      | '\x7d' :: ']' :: rest =>
        (levelBehind? rest).map (⟨origin, some field, !span.isEmpty || field.contains '=', ·⟩)
      | _ => none
  | _ => none

def directive? : List Char → Option Directive
  | [] => none
  | '[' :: cs => bracketed? [] cs
  | part@(c :: _) =>
    let name := part.takeWhile fun c => c != '=' && c != '['
    if !beginsName c then none
    else match part.dropWhile fun c => c != '=' && c != '[' with
      | '=' :: word => (levelAfter? word).map (⟨name, none, false, ·⟩)
      | '[' :: cs => bracketed? name cs
      | _ => match LogLevel.ofWord? part with
        | some l => some ⟨[], none, false, l⟩
        | none => some ⟨name, none, false, .trace⟩

/-- The directives of a text. What is none is left out; where none remains only errors are written. -/
def parse (s : String) : List Directive :=
  match (Text.parts ',' s.toList).filterMap directive? with
  | [] => [⟨[], none, false, .error⟩]
  | ds => ds

def choose (best : Option Directive) (d : Directive) : Option Directive :=
  match best with
  | some b => if b.yieldsTo d then some d else some b
  | none => some d

/-- The level up to which a line like this one is written. -/
def level (ds : List Directive) (l : LogLine) : LogLevel :=
  (((ds.filter (·.covers l)).foldl choose none).map (·.level)).getD .off

def passes (ds : List Directive) (l : LogLine) : Bool := l.level.rank ≤ (level ds l).rank

end LogFilter

end CashShop

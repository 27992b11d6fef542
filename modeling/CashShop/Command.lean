import CashShop.Command.Arguments
import CashShop.Config.Load
import CashShop.Log
import CashShop.Replay
import CashShop.Session

namespace CashShop.Command

inductive Content where
  | missing
  | unreadable (reason : String)
  | text (s : String)
deriving DecidableEq

structure Surroundings where
  env : String → Option String
  file : String → Content
  ask : String → Remote.Exchange
  ambient : Nat → Ambient

inductive Failure where
  | configUnreadable (reason : String)
  | configMalformed (path : String)
  | configInvalid (issue : ConfigIssue)
  | replayUnreadable (path reason : String)
  | replayMalformed (error : ReplayError)
deriving DecidableEq

def Failure.message : Failure → String
  | configUnreadable reason => reason
  | configMalformed path => s!"invalid {path}: not a configuration"
  | configInvalid i => i.message
  | replayUnreadable path reason => s!"unable to read {path}: {reason}"
  | replayMalformed e => e.message

structure Log where
  json : Bool
  lines : List LogLine
deriving DecidableEq

inductive Outcome where
  | help
  | misuse
  | failed (f : Failure) (log : Log)
  | stopped (running final : Log)

def Outcome.code : Outcome → Nat
  | help | stopped _ _ => 0
  | failed _ _ => 1
  | misuse => 2

def configVariable : String := "CASHSHOP_CONFIG"

def configPath (a : Arguments) (env : String → Option String) : String :=
  (a.config.or (env configVariable)).getD "./config.toml"

def loadConfig (path : String) (s : Surroundings) : Except Failure Config :=
  let load (file : Option String) := (Config.load file s.env).mapError fun
    | .file => .configMalformed path
    | .invalid i => .configInvalid i
  match s.file path with
  | .missing => load none
  | .text content => load (some content)
  | .unreadable reason => .error (.configUnreadable reason)

def loadReplay (path : Option String) (s : Surroundings) : Except Failure (List (Topic × Message)) :=
  match path with
  | none => .ok []
  | some path => match s.file path with
    | .text content => (Replay.parse content).mapError .replayMalformed
    | .unreadable reason => .error (.replayUnreadable path reason)
    | .missing => .error (.replayUnreadable path "no such file")

def log (c : Config) (lines : List LogLine) : Log :=
  ⟨c.logFormat == "json", lines.filter (LogFilter.passes (LogFilter.parse c.logLevel))⟩

def addressLine (what key : String) : Option String → LogLine
  | some url => ⟨.context, .info, s!"{what} at {url}"⟩
  | none => ⟨.context, .warn, s!"{key} not set, nothing will be found"⟩

def startLines (c : Config) : List LogLine :=
  [addressLine "catalog" Config.catalogKey c.catalogUrl, addressLine "directory" Config.characterKey c.characterUrl]

def consumerLines (text : Topic → String) : List LogLine :=
  Topic.inbound.map fun t => ⟨.consumer, .info, text t⟩

def readyLines (replayed : Nat) : List LogLine :=
  consumerLines (fun t => s!"consuming {t}") ++
    (if replayed = 0 then [] else [⟨.replay, .info, s!"{replayed} messages replayed"⟩]) ++ [⟨.lifecycle, .info, "ready"⟩]

/-- Messages that cannot be read, and faults, stand out from those that are applied, ignored or refused. -/
def handlingLine (h : Handling) : LogLine :=
  let (level, what) : LogLevel × String := match h.result with
    | .ok .applied => (.debug, "applied")
    | .ok .ignored => (.debug, "ignored")
    | .error (.rejected e) => (.debug, s!"rejected: {e.message}")
    | .error (.malformed reason) => (.warn, s!"skipped: {reason}")
    | .error (.internal diagnosis) => (.error, s!"failed: {diagnosis}")
  ⟨.consumer, level, s!"{h.topic} key {h.message.key} {what}"⟩

def finalLines (m : Metrics) : List LogLine :=
  [⟨.lifecycle, .info, "stopping"⟩] ++ consumerLines (fun t => s!"{t} consumer stopping") ++
    [⟨.sweeper, .debug, "sweeper stopping"⟩, ⟨.lifecycle, .info, s!"final metrics\n{m.exposition}"⟩]

def serve (c : Config) (records : List (Topic × Message)) (s : Surroundings) : Session :=
  (Session.start c.settings.consumerBuffer (.ofConfig c s.ask)).replay s.ambient records

def runWith (a : Arguments) (s : Surroundings) : Outcome :=
  match loadConfig (configPath a s.env) s with
  | .error f => .failed f ⟨false, []⟩
  | .ok c => match loadReplay a.replay s with
    | .error f => .failed f (log c (startLines c))
    | .ok records =>
      let n := serve c records s
      .stopped (log c (startLines c ++ readyLines records.length ++ n.handled.map handlingLine))
        (log c (finalLines n.service.metrics))

def run (args : List String) (s : Surroundings) : Outcome :=
  match Arguments.parse args with
  | .error .help => .help
  | .error .misuse => .misuse
  | .ok a => runWith a s

end CashShop.Command

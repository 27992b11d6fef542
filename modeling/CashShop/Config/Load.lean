import CashShop.Config.Variable
import CashShop.Toml.Document

namespace CashShop

inductive ConfigError where
  | file
  | invalid (issue : ConfigIssue)
deriving DecidableEq

namespace Config

def entry {α : Type} (es : Toml.Entries) (key : String) (read : Toml → Option α) (initial : α) : Option α :=
  match es.lookup key with
  | some v => read v
  | none => some initial

def stringEntry : Toml → Option String
  | .string s => some s
  | _ => none

def natEntry (bits : Nat) : Toml → Option Nat
  | .int n => if 0 ≤ n ∧ n.toNat < 1 <<< bits then some n.toNat else none
  | _ => none

def intEntry : Toml → Option Int
  | .int n => some n
  | _ => none

def ofEntries (es : Toml.Entries) : Option Config := do
  let c := initial
  let s := c.settings
  pure {
    logLevel := ← entry es "log_level" stringEntry c.logLevel
    logFormat := ← entry es "log_format" stringEntry c.logFormat
    catalogUrl := ← entry es catalogKey (fun v => (stringEntry v).map some) c.catalogUrl
    characterUrl := ← entry es characterKey (fun v => (stringEntry v).map some) c.characterUrl
    settings := {
      requestTimeoutSeconds := ← entry es "request_timeout_seconds" (natEntry 64) s.requestTimeoutSeconds
      reservationTtlSeconds := ← entry es "reservation_ttl_seconds" (natEntry 64) s.reservationTtlSeconds
      reservationSweepSeconds := ← entry es "reservation_sweep_seconds" (natEntry 64) s.reservationSweepSeconds
      itemExpirationDays := ← entry es "item_expiration_days" intEntry s.itemExpirationDays
      compartmentCapacity := .ofNat (← entry es "default_compartment_capacity" (natEntry 32)
        s.compartmentCapacity.toNat)
      consumerBuffer := ← entry es "consumer_buffer" (natEntry 64) s.consumerBuffer }
    keyCapacity := ← entry es "idempotency_key_capacity" (natEntry 64) c.keyCapacity }

/-- The configuration of a file; the initial one where there is no file. -/
def ofFile? : Option String → Option Config
  | some text => (Toml.parse? text).bind ofEntries
  | none => some initial

def load (file : Option String) (env : String → Option String) : Except ConfigError Config :=
  match ofFile? file with
  | none => .error .file
  | some c =>
    let c := (c.override env).normalize
    match c.validate with
    | .ok () => .ok c
    | .error i => .error (.invalid i)

end Config

end CashShop

import CashShop.Lookup
import CashShop.Text

namespace CashShop

structure Settings where
  reservationTtlSeconds : Nat
  reservationSweepSeconds : Nat
  itemExpirationDays : Int
  compartmentCapacity : UInt32
  requestTimeoutSeconds : Nat
  consumerBuffer : Nat
deriving DecidableEq

namespace Settings

def initial : Settings where
  reservationTtlSeconds := 300
  reservationSweepSeconds := 60
  itemExpirationDays := 30
  compartmentCapacity := 55
  requestTimeoutSeconds := 15
  consumerBuffer := 256

end Settings

structure Config where
  logLevel : String
  logFormat : String
  catalogUrl : Option String
  characterUrl : Option String
  settings : Settings
  keyCapacity : Nat
deriving DecidableEq

inductive ConfigIssue where
  | noTtl
  | noSweep
  | sweepBeyondTtl
  | capacityOutOfRange
  | noExpirationDays
  | noKeyCapacity
  | unknownLogFormat
  | emptyUrl (key : String)
  | urlScheme (key : String)
deriving DecidableEq

def ConfigIssue.message : ConfigIssue → String
  | noTtl => "reservation_ttl_seconds must be greater than 0"
  | noSweep => "reservation_sweep_seconds must be greater than 0"
  | sweepBeyondTtl => "reservation_sweep_seconds must not exceed reservation_ttl_seconds"
  | capacityOutOfRange => s!"default_compartment_capacity must be within 1..={slotCeiling}"
  | noExpirationDays => "item_expiration_days must be greater than 0"
  | noKeyCapacity => "idempotency_key_capacity must be greater than 0"
  | unknownLogFormat => "log_format must be text or json"
  | emptyUrl key => s!"{key} is empty"
  | urlScheme key => s!"{key} must start with http:// or https://"

namespace Config

def initial : Config := ⟨"info", "text", none, none, .initial, 100000⟩

def catalogKey : String := "catalog_base_url"

def characterKey : String := "character_base_url"

def fold (s : String) : String := Text.lower (Text.trim s)

def withSlash (url : String) : String :=
  let cs := Text.trimChars url.toList
  String.ofList (if cs.getLast? = some '/' then cs else cs ++ ['/'])

def normalizeUrl : Option String → Option String
  | some url => if (Text.trimChars url.toList).isEmpty then none else some (withSlash url)
  | none => none

def normalize (c : Config) : Config :=
  { c with
    logLevel := fold c.logLevel
    logFormat := fold c.logFormat
    catalogUrl := normalizeUrl c.catalogUrl
    characterUrl := normalizeUrl c.characterUrl
    settings := { c.settings with consumerBuffer := max c.settings.consumerBuffer 1 } }

def schemes : List String := ["http://", "https://"]

def validateUrl (key url : String) : Except ConfigIssue Unit :=
  let cs := Text.trimChars url.toList
  if cs.isEmpty then .error (.emptyUrl key)
  else if schemes.any fun s => s.toList.isPrefixOf cs then .ok ()
  else .error (.urlScheme key)

def validateUrl? (key : String) : Option String → Except ConfigIssue Unit
  | some url => validateUrl key url
  | none => .ok ()

def require (holds : Bool) (i : ConfigIssue) : Except ConfigIssue Unit := if holds then .ok () else .error i

/-- Reports the first rule that is broken. -/
def validate (c : Config) : Except ConfigIssue Unit := do
  let s := c.settings
  require (0 < s.reservationTtlSeconds) .noTtl
  require (0 < s.reservationSweepSeconds) .noSweep
  require (s.reservationSweepSeconds ≤ s.reservationTtlSeconds) .sweepBeyondTtl
  require (0 < s.compartmentCapacity && s.compartmentCapacity ≤ slotCeiling) .capacityOutOfRange
  require (0 < s.itemExpirationDays) .noExpirationDays
  require (0 < c.keyCapacity) .noKeyCapacity
  require (c.logFormat == "text" || c.logFormat == "json") .unknownLogFormat
  validateUrl? catalogKey c.catalogUrl
  validateUrl? characterKey c.characterUrl

end Config

end CashShop

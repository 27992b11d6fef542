import CashShop.Config

namespace CashShop.Config

def digits? (cs : List Char) : Option Nat :=
  if !cs.isEmpty && cs.all Char.isDigit then some (cs.foldl (fun n c => n * 10 + (c.toNat - 48)) 0) else none

def natOf? (bits : Nat) (s : String) : Option Nat :=
  let ds := match s.toList with
    | '+' :: cs => cs
    | cs => cs
  (digits? ds).filter (· < 1 <<< bits)

def intOf? (s : String) : Option Int :=
  match s.toList with
  | '-' :: cs => ((digits? cs).map fun n => -(n : Int)).filter (Int64.minValue.toInt ≤ ·)
  | _ => (natOf? 63 s).map Int.ofNat

structure Variable where
  name : String
  apply : String → Config → Config

namespace Variable

def numeric {α : Type} (name : String) (read : String → Option α) (set : α → Settings → Settings) : Variable :=
  ⟨name, fun v c => match read v with
    | some n => { c with settings := set n c.settings }
    | none => c⟩

def all : List Variable := [
  ⟨"CASHSHOP_LOG_LEVEL", fun v c => { c with logLevel := v }⟩,
  ⟨"CASHSHOP_LOG_FORMAT", fun v c => { c with logFormat := v }⟩,
  ⟨"CASHSHOP_CATALOG_BASE_URL", fun v c => { c with catalogUrl := some v }⟩,
  ⟨"CASHSHOP_CHARACTER_BASE_URL", fun v c => { c with characterUrl := some v }⟩,
  numeric "CASHSHOP_REQUEST_TIMEOUT_SECONDS" (natOf? 64) fun n s => { s with requestTimeoutSeconds := n },
  numeric "CASHSHOP_RESERVATION_TTL_SECONDS" (natOf? 64) fun n s => { s with reservationTtlSeconds := n },
  numeric "CASHSHOP_RESERVATION_SWEEP_SECONDS" (natOf? 64) fun n s => { s with reservationSweepSeconds := n },
  numeric "CASHSHOP_ITEM_EXPIRATION_DAYS" intOf? fun n s => { s with itemExpirationDays := n },
  numeric "CASHSHOP_DEFAULT_COMPARTMENT_CAPACITY" (natOf? 32) fun n s => { s with compartmentCapacity := .ofNat n },
  numeric "CASHSHOP_CONSUMER_BUFFER" (natOf? 64) fun n s => { s with consumerBuffer := n },
  ⟨"CASHSHOP_IDEMPOTENCY_KEY_CAPACITY", fun v c => match natOf? 64 v with
    | some n => { c with keyCapacity := n }
    | none => c⟩]

end Variable

/-- The configuration under the variables of an environment. -/
def override (env : String → Option String) (c : Config) : Config :=
  Variable.all.foldl (fun c v => match env v.name with
    | some value => v.apply value c
    | none => c) c

end CashShop.Config

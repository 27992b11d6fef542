import CashShop.Json

namespace CashShop

inductive Counter where
  | purchases
  | purchaseRejections
  | duplicateCommands
  | capacityIncreases
  | itemsGranted
  | transfersStarted
  | transfersCompleted
  | transfersFailed
  | callbacksDropped
  | workflowErrors
  | reservationsExpired
deriving DecidableEq

namespace Counter

def all : List Counter :=
  [.purchases, .purchaseRejections, .duplicateCommands, .capacityIncreases, .itemsGranted, .transfersStarted,
    .transfersCompleted, .transfersFailed, .callbacksDropped, .workflowErrors, .reservationsExpired]

def name : Counter → String
  | purchases => "purchases"
  | purchaseRejections => "purchaseRejections"
  | duplicateCommands => "duplicateCommands"
  | capacityIncreases => "capacityIncreases"
  | itemsGranted => "itemsGranted"
  | transfersStarted => "transfersStarted"
  | transfersCompleted => "transfersCompleted"
  | transfersFailed => "transfersFailed"
  | callbacksDropped => "callbacksDropped"
  | workflowErrors => "workflowErrors"
  | reservationsExpired => "reservationsExpired"

def metricName : Counter → String
  | purchases => "cashshop_purchases_total"
  | purchaseRejections => "cashshop_purchase_rejections_total"
  | duplicateCommands => "cashshop_duplicate_commands_total"
  | capacityIncreases => "cashshop_capacity_increases_total"
  | itemsGranted => "cashshop_items_granted_total"
  | transfersStarted => "cashshop_transfers_started_total"
  | transfersCompleted => "cashshop_transfers_completed_total"
  | transfersFailed => "cashshop_transfers_failed_total"
  | callbacksDropped => "cashshop_callbacks_dropped_total"
  | workflowErrors => "cashshop_workflow_errors_total"
  | reservationsExpired => "cashshop_reservations_expired_total"

end Counter

structure Metrics where
  count : Counter → UInt64

namespace Metrics

def zero : Metrics := ⟨fun _ => 0⟩

/-- A counter starts again when it is full. -/
def add (m : Metrics) (c : Counter) (n : UInt64) : Metrics := ⟨fun d => if d = c then m.count d + n else m.count d⟩

def sampleLine (m : Metrics) (c : Counter) : String := s!"{c.metricName} {m.count c}"

def exposition (m : Metrics) : String :=
  String.join (Counter.all.map fun c => s!"# TYPE {c.metricName} counter\n{m.sampleLine c}\n")

def toJson (m : Metrics) : Json := Json.object (Counter.all.map fun c => (c.name, .int (m.count c).toNat))

end Metrics

end CashShop

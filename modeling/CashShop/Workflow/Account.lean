import CashShop.Service
import CashShop.Work.Stores

namespace CashShop

inductive AccountSetup where
  | created
  | alreadyExists
deriving DecidableEq

namespace AccountSetup

def name : AccountSetup → String
  | created => "CREATED"
  | alreadyExists => "ALREADY_EXISTS"

def work (a : AccountId) (capacity : UInt32) (id : ClassLine → CompartmentId) : Work AccountSetup := do
  if (← Work.read (·.wallet? a)).isSome then pure alreadyExists
  else
    let _ ← Ledger.create (.empty a)
    let _ ← Holdings.createInventory a capacity id
    pure created

end AccountSetup

/-- Deletes the wallet and the inventory of an account. Items stay. -/
def AccountId.deleteHoldings (a : AccountId) : Work Unit := do
  let _ ← Ledger.delete a
  let _ ← Holdings.deleteInventory a

namespace Service

def accountCreated (s : Service) (amb : Ambient) (a : AccountId) : Except WorkflowError AccountSetup × Service :=
  match s.run (AccountSetup.work a s.settings.compartmentCapacity amb.compartment) (· = .created) with
  | (.ok r, s') => (.ok r, s')
  | (.error e, s') => (.error e, s'.count .workflowErrors)

def accountDeleted (s : Service) (a : AccountId) : Except WorkflowError Unit × Service :=
  match s.run a.deleteHoldings fun _ => true with
  | (.ok r, s') => (.ok r, s')
  | (.error e, s') => (.error e, s'.count .workflowErrors)

end Service

def Grant.spec (g : Grant) (days : Int) : ItemSpec := ⟨g.template, g.quantity, g.purchasedBy, days⟩

def Service.grant (s : Service) (amb : Ambient) (g : Grant) : Except WorkflowError Item × Service :=
  match s.run (Registry.create (g.spec s.settings.itemExpirationDays) amb.now amb.cashIds) fun _ => true with
  | (.ok item, s') => (.ok item, s'.count .itemsGranted)
  | (.error e, s') => (.error e, s'.count .workflowErrors)

end CashShop

import CashShop.Store
import CashShop.Transport

namespace CashShop

structure Draft where
  base : Store
  tables : Tables
  claimed : List String
  outbox : Outbox
deriving DecidableEq

namespace Draft

def begin (s : Store) : Draft := ⟨s, s.tables, [], .empty⟩

/-- Nothing, or the fault that the store has been told to raise here. -/
def check (d : Draft) (p : FaultPoint) : Except Fault Unit :=
  if p ∈ d.base.faults then .error (.injected p) else .ok ()

def wallet? (d : Draft) (a : AccountId) : Option Wallet := d.tables.wallets.get? a

def insertWallet (d : Draft) (w : Wallet) : Except Fault Draft :=
  if d.tables.wallets.contains w.account then .error (.walletExists w.account)
  else .ok { d with tables := { d.tables with wallets := d.tables.wallets.insert w.account w } }

def updateWallet (d : Draft) (w : Wallet) : Except Fault (Bool × Draft) := do
  d.check .updateWallet
  if d.tables.wallets.contains w.account then
    pure (true, { d with tables := { d.tables with wallets := d.tables.wallets.insert w.account w } })
  else pure (false, d)

def deleteWallet (d : Draft) (a : AccountId) : Bool × Draft :=
  (d.tables.wallets.contains a, { d with tables := { d.tables with wallets := d.tables.wallets.erase a } })

def item? (d : Draft) (i : ItemId) : Except Fault (Option Item) := do
  d.check .readItem
  pure (d.tables.items.get? i)

def hasCashId (d : Draft) (c : CashId) : Bool := d.tables.items.values.any (·.cashId = c)

def insertItem (d : Draft) (n : NewItem) : Except Fault (Item × Draft) := do
  d.check .insertItem
  if d.tables.lastItem.toNat + 1 < UInt32.size then
    let id := d.tables.lastItem + 1
    let item : Item := { n with id := ⟨id⟩ }
    pure (item, { d with tables := { d.tables with items := d.tables.items.insert ⟨id⟩ item, lastItem := id } })
  else throw .itemIdsExhausted

def compartment? (d : Draft) (c : CompartmentId) : Option Compartment := d.tables.compartments.get? c

def compartmentOf? (d : Draft) (a : AccountId) (l : ClassLine) : Option Compartment :=
  d.tables.compartments.values.find? fun c => c.account = a && c.line = l

def compartmentsOf (d : Draft) (a : AccountId) : List Compartment :=
  d.tables.compartments.values.filter (·.account = a)

/-- Refuses a second compartment of an account and a line. A compartment with the same id is replaced. -/
def insertCompartment (d : Draft) (c : Compartment) : Except Fault Draft :=
  if (d.compartmentOf? c.account c.line).isSome then .error (.lineTaken c.account c.line)
  else .ok { d with tables := { d.tables with compartments := d.tables.compartments.insert c.id c } }

def updateCapacity (d : Draft) (id : CompartmentId) (capacity : UInt32) : Option Compartment × Draft :=
  match d.compartment? id with
  | none => (none, d)
  | some c =>
    let c := { c with capacity }
    (some c, { d with tables := { d.tables with compartments := d.tables.compartments.insert id c } })

def deleteCompartment (d : Draft) (id : CompartmentId) : Bool × Draft :=
  ((d.compartment? id).isSome,
    { d with tables := { d.tables with compartments := d.tables.compartments.erase id } })

def asset? (d : Draft) (a : AssetId) : Option Asset := d.tables.assets.find? (·.id = a)

def assetOf? (d : Draft) (i : ItemId) : Option Asset := d.tables.assets.find? (·.item = i)

def assetsIn (d : Draft) (c : CompartmentId) : Except Fault (List Asset) := do
  d.check .listAssets
  pure (d.tables.assets.filter (·.compartment = c))

def insertAsset (d : Draft) (a : Asset) : Except Fault Draft := do
  d.check .insertAsset
  if (d.compartment? a.compartment).isSome then
    pure { d with tables := { d.tables with assets := d.tables.assets ++ [a] } }
  else throw (.compartmentMissing a.compartment)

def deleteAssets (d : Draft) (p : Asset → Bool) : Nat × Draft :=
  (d.tables.assets.countP p, { d with tables := { d.tables with assets := d.tables.assets.filter (!p ·) } })

/-- Claims an idempotency key, and says whether it was free. -/
def claim (d : Draft) (key : String) : Bool × Draft :=
  if key ∈ d.base.window.keys ∨ key ∈ d.claimed then (false, d)
  else (true, { d with claimed := d.claimed ++ [key] })

def commit (d : Draft) : Except Fault Store := do
  d.check .commit
  pure { d.base with tables := d.tables, window := d.claimed.foldl KeyWindow.record d.base.window }

def put (d : Draft) (t : Topic) (m : Message) : Draft := { d with outbox := d.outbox.put t m }

end Draft

end CashShop

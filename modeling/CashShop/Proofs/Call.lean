import CashShop.Dispatch

namespace CashShop

inductive Call where
  | accountCreated (account : AccountId)
  | accountDeleted (account : AccountId)
  | purchase (character : CharacterId) (order : PurchaseOrder)
  | increaseByType (character : CharacterId) (currency : UInt32) (tab : UInt8)
  | increaseByItem (character : CharacterId) (currency : UInt32) (serial : SerialNumber)
  | grant (grant : Grant)
  | accept (handoff : Handoff)
  | release (handoff : Handoff)
  | move (character : CharacterId) (order : MoveOrder)
  | moved (completion : MoveCompletion)
  | moveFailed (character : CharacterId) (item : ItemId) (transaction : Option TransactionId)
deriving DecidableEq

inductive Answer where
  | setup (outcome : AccountSetup)
  | deleted
  | purchase (outcome : PurchaseOutcome)
  | widened (increase : CapacityIncrease)
  | granted (item : Item)
  | accepted (asset : Asset)
  | released (asset : Asset)
  | started (transfer : TransferStarted)
  | callback (outcome : CallbackOutcome)
deriving DecidableEq

/-- Whether the call did what it was asked to do. A call may also find that there is nothing to do, or reject an order
without failing. -/
def Answer.isDone : Answer → Bool
  | setup .alreadyExists | purchase .inventoryFull | purchase .duplicate | callback .dropped => false
  | _ => true

def Answer.isSale : Answer → Bool
  | purchase (.completed _) | widened _ => true
  | _ => false

theorem Answer.isSale_of_not_isDone {a : Answer} (h : a.isDone = false) : a.isSale = false := by
  cases a with
  | purchase outcome =>
    cases outcome with
    | completed => cases h
    | inventoryFull | duplicate => rfl
  | widened => cases h
  | _ => rfl

def Ambient.opening : Ambient where
  now := 0
  compartment := fun l => ⟨.ofNat l.code.toNat⟩
  asset := ⟨.ofNat 1⟩
  transaction := ⟨.ofNat 1⟩
  cashIds := [⟨1⟩, ⟨2⟩, ⟨3⟩]

namespace Service

def answered {α : Type} (f : α → Answer) (r : Except WorkflowError α × Service) :
    Except WorkflowError Answer × Service := (r.1.map f, r.2)

def call (s : Service) (amb : Ambient) : Call → Except WorkflowError Answer × Service
  | .accountCreated a => answered .setup (s.accountCreated amb a)
  | .accountDeleted a => answered (fun _ => .deleted) (s.accountDeleted a)
  | .purchase c o => answered .purchase (s.purchase amb c o)
  | .increaseByType c currency tab => answered .widened (s.increaseByType c currency tab)
  | .increaseByItem c currency n => answered .widened (s.increaseByItem c currency n)
  | .grant g => answered .granted (s.grant amb g)
  | .accept h => answered .accepted (s.accept amb h)
  | .release h => answered .released (s.release amb h)
  | .move c o => answered .started (s.move amb c o)
  | .moved m => answered .callback (s.moved amb m)
  | .moveFailed c i t => answered .callback (s.moveFailed amb c i t)

def kiosk : Service where
  settings := .initial
  store := .ofKeyCapacity 1
  catalog := fun n => .ok ⟨n, ⟨5000000⟩, 1, 400, 0, 0, 0, true⟩
  directory := fun c withInventory =>
    .ok ⟨c, ⟨1⟩, "buyer", 0, if withInventory then some (Table.empty.insert .equip 24) else none⟩
  transport := .working
  reservations := .ofTtl 300000
  metrics := .zero

/-- Whether a call succeeds: it does not fail, and what it answers is that it was done. -/
def succeeds (s : Service) (amb : Ambient) (c : Call) : Bool :=
  match (s.call amb c).1 with
  | .ok a => a.isDone
  | .error _ => false

end Service

def AccountEvent.call? (e : AccountEvent) : Option Call :=
  match e.status with
  | .created => some (.accountCreated e.account)
  | .deleted => some (.accountDeleted e.account)
  | .other => none

def ShopCommand.call? : ShopCommand → Option Call
  | purchase c o => some (.purchase c o)
  | increaseByType c currency tab => some (.increaseByType c currency tab)
  | increaseByItem c currency n => some (.increaseByItem c currency n)
  | move c o => some (.move c o)
  | unsupported => none

def CompartmentCommand.call? : CompartmentCommand → Option Call
  | accept h => some (.accept h)
  | release h => some (.release h)
  | unsupported => none

def ItemCommand.call? : ItemCommand → Option Call
  | create g => some (.grant g)
  | unsupported => none

def CharacterEvent.call? : CharacterEvent → Option Call
  | itemMoved c k m => some (.moved ⟨c, k, m⟩)
  | error c _ failure => failure.item.bind fun i =>
    if failure.code = moveFailedCode then some (.moveFailed c i failure.transaction) else none
  | other => none

def Message.call? (t : Topic) (m : Message) : Option Call :=
  match t with
  | .accountStatus => (AccountEvent.decode m.value).toOption.bind AccountEvent.call?
  | .shopCommand => (ShopCommand.decode m.value).toOption.bind ShopCommand.call?
  | .compartmentCommand => (CompartmentCommand.decode m.value).toOption.bind CompartmentCommand.call?
  | .itemCommand => (ItemCommand.decode m.value).toOption.bind ItemCommand.call?
  | .characterStatus => (CharacterEvent.decode m.value).toOption.bind CharacterEvent.call?
  | _ => none

namespace Service

def callIf (s : Service) (amb : Ambient) (c : Option Call) : Service :=
  match c with
  | some c => (s.call amb c).2
  | none => s

variable {s : Service} {amb : Ambient}

theorem decoded_snd {α : Type} {d : Wire.Decoder α} {t : Topic} {m : Message}
    {handle : α → Except RequestError Verdict × Service} {call? : α → Option Call}
    (h : ∀ a, (handle a).2 = s.callIf amb (call? a)) :
    (decoded d t m s handle).2 = s.callIf amb ((d m.value).toOption.bind call?) := by
  unfold decoded
  cases d m.value with
  | ok a => exact h a
  | error e => rfl

theorem dispatch_snd (s : Service) (amb : Ambient) (t : Topic) (m : Message) :
    (s.dispatch amb t m).2 = s.callIf amb (m.call? t) := by
  change (s.handle amb t m).2 = _
  cases t with
  | accountStatus =>
    refine decoded_snd fun e => ?_
    rcases e with ⟨a, name, status⟩
    cases status <;> rfl
  | shopCommand => exact decoded_snd fun c => by cases c <;> rfl
  | compartmentCommand => exact decoded_snd fun c => by cases c <;> rfl
  | itemCommand => exact decoded_snd fun c => by cases c <;> rfl
  | characterStatus =>
    refine decoded_snd fun e => ?_
    cases e with
    | itemMoved | other => rfl
    | error c k failure =>
      rcases failure with ⟨code, item, txn⟩
      cases item with
      | none => rfl
      | some i =>
        by_cases h : code = moveFailedCode
        · simp [handleCharacter, CharacterEvent.call?, callIf, h]
          rfl
        · simp [handleCharacter, CharacterEvent.call?, callIf, h]
  | shopStatus | compartmentStatus | inventoryStatus | itemStatus | characterCommand | walletStatus => rfl

end Service

end CashShop

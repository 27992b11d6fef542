import CashShop.Code
import CashShop.Lookup
import CashShop.Text
import CashShop.Topic

namespace CashShop

inductive FaultPoint where
  | readItem
  | listAssets
  | insertItem
  | insertAsset
  | updateWallet
  | commit
deriving DecidableEq

namespace FaultPoint

def all : List FaultPoint := [.readItem, .listAssets, .insertItem, .insertAsset, .updateWallet, .commit]

def name : FaultPoint → String
  | readItem => "ReadItem"
  | listAssets => "ListAssets"
  | insertItem => "InsertItem"
  | insertAsset => "InsertAsset"
  | updateWallet => "UpdateWallet"
  | commit => "Commit"

end FaultPoint

inductive Fault where
  | injected (point : FaultPoint)
  | walletExists (account : AccountId)
  | lineTaken (account : AccountId) (line : ClassLine)
  | compartmentMissing (id : CompartmentId)
  | itemIdsExhausted
  | cashIdsExhausted
  /-- So many days from now there is no date. The call is given up, and concluded like one that has failed. -/
  | expirationOutOfRange
  | transportDown (topic : Topic)
  | occupancyUnknown (id : CompartmentId)
  | other (reason : String)
deriving DecidableEq

def Fault.message : Fault → String
  | injected p => s!"injected {p.name} failure"
  | walletExists a => s!"wallet for account {a} already exists"
  | lineTaken a l => s!"account {a} already has a {l.name} compartment"
  | compartmentMissing c => s!"compartment {c} does not exist"
  | itemIdsExhausted => "item id space exhausted"
  | cashIdsExhausted => "cash id source exhausted"
  | expirationOutOfRange => "expiration out of range"
  | transportDown t => s!"transport unavailable for {t}"
  | occupancyUnknown c => s!"occupancy of compartment {c} could not be read"
  | other reason => reason

def LookupError.message : LookupError → String
  | notFound what => s!"{what} not found"
  | transport reason => s!"transport error: {reason}"

def unknownCurrencyMessage (code : UInt32) : String := s!"unknown currency code {code}"

def unknownTabMessage (code : Int) : String := s!"unknown inventory type {code}"

def unknownLineMessage (code : UInt8) : String := s!"unknown compartment type {code}"

inductive WorkflowError where
  | insufficientFunds (currency : Currency) (balance price : UInt32)
  | inventoryFull (id : CompartmentId)
  | maxSlots (capacity amount : UInt32)
  | itemNotFound (what : String)
  | itemAlreadyReserved (id : ItemId)
  | unknownCurrency (code : UInt32)
  | invalidTab (reason : String)
  | compartmentNotFound (what : String)
  | walletNotFound (account : AccountId)
  | assetCreationFailed (reason : String)
  | lookup (error : LookupError)
  | internal (fault : Fault)
deriving DecidableEq

namespace WorkflowError

def message : WorkflowError → String
  | insufficientFunds c b p => s!"{c.title} balance {b} is below price {p}"
  | inventoryFull c => s!"compartment {c} is full"
  | maxSlots c a => s!"capacity {c} + {a} exceeds the slot ceiling"
  | itemNotFound what => s!"item not found: {what}"
  | itemAlreadyReserved i => s!"item {i} is already reserved"
  | unknownCurrency n => unknownCurrencyMessage n
  | invalidTab reason => s!"invalid inventory type: {reason}"
  | compartmentNotFound what => s!"compartment not found: {what}"
  | walletNotFound a => s!"wallet not found for account {a}"
  | assetCreationFailed reason => s!"asset creation failed: {reason}"
  | lookup e => e.message
  | internal f => f.message

/-- The code that an error event carries. Refusals without a code of their own, and all faults, are unknown errors. -/
def code : WorkflowError → ErrorCode
  | insufficientFunds _ _ _ => .notEnoughCash
  | inventoryFull _ => .inventoryFull
  | itemNotFound _ => .itemNotFound
  | itemAlreadyReserved _ => .itemAlreadyReserved
  | assetCreationFailed _ => .assetCreationFailed
  | _ => .unknownError

def isBusiness : WorkflowError → Bool
  | lookup _ | internal _ => false
  | _ => true

def kind : WorkflowError → String
  | insufficientFunds _ _ _ => "InsufficientFunds"
  | inventoryFull _ => "InventoryFull"
  | maxSlots _ _ => "MaxSlots"
  | itemNotFound _ => "ItemNotFound"
  | itemAlreadyReserved _ => "ItemAlreadyReserved"
  | unknownCurrency _ => "UnknownCurrency"
  | invalidTab _ => "InvalidInventoryType"
  | compartmentNotFound _ => "CompartmentNotFound"
  | walletNotFound _ => "WalletNotFound"
  | assetCreationFailed _ => "AssetCreationFailed"
  | lookup _ => "Lookup"
  | internal _ => "Internal"

/-- The cause with its structure shown, as a diagnosis of a fault gives it. -/
def diagnosis : WorkflowError → String
  | lookup (.notFound what) => s!"Lookup(NotFound({Text.quote what}))"
  | lookup (.transport reason) => s!"Lookup(Transport({reason}))"
  | e => s!"{e.kind}({e.message})"

end WorkflowError

inductive RequestError where
  | badRequest (reason : String)
  | workflow (error : WorkflowError)
  | internal (fault : Fault)
deriving DecidableEq

def RequestError.message : RequestError → String
  | badRequest reason => s!"bad request: {reason}"
  | workflow e => e.message
  | internal f => f.message

/-- Why a message was not applied. A malformed one will not do better when it comes again; a refused one has been
answered already. -/
inductive ConsumerError where
  | malformed (reason : String)
  | rejected (error : WorkflowError)
  | internal (diagnosis : String)
deriving DecidableEq

namespace ConsumerError

def ofRequest : RequestError → ConsumerError
  | .badRequest reason => malformed reason
  | .workflow e => if e.isBusiness then rejected e else internal e.diagnosis
  | .internal f => internal f.message

def message : ConsumerError → String
  | malformed reason => s!"malformed message: {reason}"
  | rejected e => s!"rejected: {e.message}"
  | internal d => s!"internal error: {d}"

def kind : ConsumerError → String
  | malformed _ => "Malformed"
  | rejected _ => "Rejected"
  | internal _ => "Internal"

end ConsumerError

end CashShop

import CashShop.Message.Account
import CashShop.Message.Character
import CashShop.Message.Shop
import CashShop.Proofs.Encoding
import CashShop.Transport

namespace CashShop

namespace Wire

variable {α : Type} {entries : List (String × Json)} {name : String}

theorem optional_eq_some {d : Decoder α} {j : Json} {a : α} (hj : j ≠ .null) (hd : d j = .ok a) :
    optional d j = .ok (some a) := by
  cases j with
  | null => exact absurd rfl hj
  | bool b | int n | double x | str s | arr items | obj fields => exact congrArg (Except.map some) hd

namespace Record

theorem reads_omissible {d : Decoder α} {f : α → Json} {o : Option α}
    (hv : (occurrences name entries 0).map Prod.snd = (o.map f).toList)
    (hd : ∀ a, optional d (f a) = .ok (some a)) : (omissible name d).Reads entries o := by
  unfold omissible fieldD
  cases o with
  | none =>
    apply reads_absent
    exact List.map_eq_nil_iff.1 hv
  | some a =>
    obtain ⟨⟨i, v⟩, ho, rfl⟩ := List.map_eq_singleton_iff.1 hv
    exact reads_present ho (hd a)

end Record

theorem optional_item (i : ItemId) : optional item (itemJson i) = .ok (some i) :=
  optional_eq_some (by simp [itemJson]) (item_json i)

theorem optional_transaction (t : TransactionId) : optional transaction (transactionJson t) = .ok (some t) :=
  optional_eq_some (by simp [transactionJson]) (transaction_json t)

theorem optional_string (s : String) : optional string (.str s) = .ok (some s) :=
  optional_eq_some (by simp) rfl

theorem tagged_characterBody {β : Type} {kinds : String → Option (Record Json α)} {other : Option α} {kind : String}
    {f : CharacterId → β → α} {body : Decoder β} {j : Json} {b : β} (c : CharacterId)
    (hr : kinds kind = some (f <$> Record.field "characterId" character <*> Record.field "body" body))
    (hb : body j = .ok b) {a : α} (ha : f c b = a) :
    tagged kinds other (.obj [("body", j), ("characterId", characterJson c), ("type", .str kind)]) = .ok a := by
  subst ha
  apply tagged_of_reads rfl hr
  apply Record.Reads.seq
  · exact .map f (Record.reads_field rfl (character_json c))
  · exact Record.reads_field rfl hb

end Wire

open Wire Record

namespace AccountEvent

theorem status_name (s : AccountStatus) : named isNull (fun s => some (.ofName s)) (.str s.name) = .ok s := by
  cases s <;> rfl

theorem name_json (n : Option String) : optional string (Json.ofOption .str n) = .ok n := by
  cases n with
  | none => rfl
  | some s => exact optional_string s

theorem decode_toJson (e : AccountEvent) : decode e.toJson = .ok e :=
  Reads.decode (.seq (.seq (.map _ (reads_field rfl (account_json _))) (reads_present rfl (name_json _)))
    (reads_field rfl (status_name _)))

end AccountEvent

namespace ShopCommand

theorem purchaseOrder_json (o : PurchaseOrder) : purchaseOrder (.obj <| ("currency", .ofUInt32 o.currency) ::
    ((o.idempotencyKey.map fun k => ("idempotencyKey", Json.str k)).toList ++
      [("serialNumber", serialJson o.serial)])) = .ok o := by
  obtain ⟨currency, number, key⟩ := o
  cases key with
  | none | some k =>
    apply Reads.decode
    exact .seq (.seq (.map _ (reads_field rfl (uint32_toNat currency))) (reads_field rfl (serial_json number)))
      (reads_omissible (f := .str) rfl optional_string)

theorem tabOrder_json (currency : UInt32) (tab : UInt8) :
    tabOrder (.obj [("currency", .ofUInt32 currency), ("inventoryType", .int tab.toNat)]) = .ok (currency, tab) :=
  Reads.decode (.seq (.map _ (reads_field rfl (uint32_toNat _))) (reads_field rfl (uint8_toNat _)))

theorem couponOrder_json (currency : UInt32) (s : SerialNumber) :
    couponOrder (.obj [("currency", .ofUInt32 currency), ("serialNumber", serialJson s)]) = .ok (currency, s) :=
  Reads.decode (.seq (.map _ (reads_field rfl (uint32_toNat _))) (reads_field rfl (serial_json _)))

theorem moveOrder_json (o : MoveOrder) : moveOrder (.obj [("inventoryType", .int o.tab.toNat),
    ("serialNumber", cashIdJson o.cashId), ("slot", .int o.slot.toInt)]) = .ok o :=
  Reads.decode (.seq (.seq (.map _ (reads_field rfl (cashId_json _))) (reads_field rfl (uint8_toNat _)))
    (reads_field rfl (int16_toInt _)))

theorem decode_toJson (c : ShopCommand) : decode c.toJson = .ok c := by
  cases c with
  | purchase c o => exact tagged_characterBody c rfl (purchaseOrder_json o) rfl
  | increaseByType c currency t => exact tagged_characterBody c rfl (tabOrder_json currency t) rfl
  | increaseByItem c currency s => exact tagged_characterBody c rfl (couponOrder_json currency s) rfl
  | move c o => exact tagged_characterBody c rfl (moveOrder_json o) rfl
  | unsupported => rfl

end ShopCommand

namespace ShopEvent

theorem purchaseNotice_json (n : PurchaseNotice) : purchaseNotice (.obj [("assetId", assetJson n.asset),
    ("compartmentId", compartmentJson n.compartment), ("itemId", itemJson n.item), ("price", .ofUInt32 n.price),
    ("templateId", templateJson n.template)]) = .ok n :=
  Reads.decode (.seq (.seq (.seq (.seq (.map _ (reads_field rfl (template_json _)))
    (reads_field rfl (uint32_toNat _))) (reads_field rfl (compartment_json _)))
    (reads_field rfl (asset_json _))) (reads_field rfl (item_json _)))

theorem capacityNotice_json (n : CapacityNotice) : capacityNotice (.obj [("amount", .ofUInt32 n.amount),
    ("capacity", .ofUInt32 n.capacity), ("inventoryType", tabJson n.tab)]) = .ok n :=
  Reads.decode (.seq (.seq (.map _ (reads_field rfl (tab_json _))) (reads_field rfl (uint32_toNat _)))
    (reads_field rfl (uint32_toNat _)))

theorem movedNotice_json (n : MovedNotice) : movedNotice (.obj [("compartmentId", compartmentJson n.compartment),
    ("slot", .int n.slot.toInt)]) = .ok n :=
  Reads.decode (.seq (.map _ (reads_field rfl (compartment_json _))) (reads_field rfl (int16_toInt _)))

theorem errorNotice_json (code : ErrorCode) : errorNotice (.obj [("error", .str code.name)]) = .ok code :=
  Reads.decode (.map _ (reads_field rfl (errorCode_name _ _)))

theorem decode_toJson (e : ShopEvent) : decode e.toJson = .ok e := by
  cases e with
  | purchase c n => exact tagged_characterBody c rfl (purchaseNotice_json n) rfl
  | capacityIncreased c n => exact tagged_characterBody c rfl (capacityNotice_json n) rfl
  | moved c n => exact tagged_characterBody c rfl (movedNotice_json n) rfl
  | error c code => exact tagged_characterBody c rfl (errorNotice_json code) rfl

end ShopEvent

namespace CompartmentCommand

theorem handoffBody_json (h : Handoff) : handoffBody (.obj [("compartmentId", compartmentJson h.compartment),
    ("itemId", itemJson h.item), ("transactionId", transactionJson h.transaction)])
      = .ok (h.transaction, h.compartment, h.item) :=
  Reads.decode (.seq (.seq (.map _ (reads_field rfl (transaction_json _))) (reads_field rfl (compartment_json _)))
    (reads_field rfl (item_json _)))

theorem reads_handoff (h : Handoff) : handoff.Reads [("accountId", accountJson h.account),
    ("body", .obj [("compartmentId", compartmentJson h.compartment), ("itemId", itemJson h.item),
      ("transactionId", transactionJson h.transaction)]),
    ("compartmentType", lineJson h.line)] h :=
  .seq (.seq (.map _ (reads_field rfl (account_json _))) (reads_field rfl (line_json _)))
    (reads_field rfl (handoffBody_json h))

theorem decode_toJson (c : CompartmentCommand) : decode c.toJson = .ok c := by
  cases c with
  | accept h | release h => exact tagged_of_reads rfl rfl (.map _ (reads_handoff h))
  | unsupported => rfl

end CompartmentCommand

namespace InventoryEvent

theorem decode_toJson (e : InventoryEvent) : decode e.toJson = .ok e := by
  cases e with
  | created a | deleted a => exact tagged_of_reads rfl rfl (.map _ (reads_field rfl (account_json a)))

end InventoryEvent

namespace ItemCommand

theorem createBody_json (t : TemplateId) (quantity : UInt32) (buyer : CharacterId) :
    createBody (.obj [("purchasedBy", characterJson buyer), ("quantity", .ofUInt32 quantity),
      ("templateId", templateJson t)]) = .ok (t, quantity, buyer) :=
  Reads.decode (.seq (.seq (.map _ (reads_field rfl (template_json _))) (reads_field rfl (uint32_toNat _)))
    (reads_field rfl (character_json _)))

theorem decode_toJson (c : ItemCommand) : decode c.toJson = .ok c := by
  cases c with
  | create g =>
    exact tagged_characterBody g.character rfl (createBody_json g.template g.quantity g.purchasedBy) rfl
  | unsupported => rfl

end ItemCommand

namespace CharacterCommand

theorem amountBody_json (n : UInt32) : amountBody (.obj [("amount", .ofUInt32 n)]) = .ok n :=
  Reads.decode (.map _ (reads_field rfl (uint32_toNat _)))

theorem moveBody_json (slot : Int16) (i : ItemId) (t : TransactionId) :
    moveBody (.obj [("cashItemId", itemJson i), ("slot", .int slot.toInt), ("transactionId", transactionJson t)])
      = .ok (slot, i, t) :=
  Reads.decode (.seq (.seq (.map _ (reads_field rfl (int16_toInt _))) (reads_field rfl (item_json _)))
    (reads_field rfl (transaction_json _)))

theorem decode_toJson (c : CharacterCommand) : decode c.toJson = .ok c := by
  cases c with
  | increaseCapacity c t amount =>
    exact tagged_of_reads rfl rfl (.seq (.seq (.map _ (reads_field rfl (character_json c)))
      (reads_field rfl (tab_json t))) (reads_field rfl (amountBody_json amount)))
  | moveItem c t slot i txn =>
    exact tagged_of_reads rfl rfl (.seq (.seq (.map _ (reads_field rfl (character_json c)))
      (reads_field rfl (tab_json t))) (reads_field rfl (moveBody_json slot i txn)))

end CharacterCommand

namespace CharacterEvent

theorem movedBody_json (b : ItemMoved) : movedBody (.obj ([("cashItemId", itemJson b.item),
    ("slot", .int b.slot.toInt)] ++ optionField "transactionId" (b.transaction.map transactionJson))) = .ok b := by
  obtain ⟨i, slot, txn⟩ := b
  cases txn with
  | none | some t =>
    apply Reads.decode
    exact .seq (.seq (.map _ (reads_field rfl (item_json i))) (reads_field rfl (int16_toInt slot)))
      (reads_omissible (f := transactionJson) rfl optional_transaction)

theorem failureBody_json (b : InventoryFailure) : failureBody (.obj (optionField "cashItemId" (b.item.map itemJson) ++
    ("errorCode", .str b.code) :: optionField "transactionId" (b.transaction.map transactionJson))) = .ok b := by
  obtain ⟨code, i, txn⟩ := b
  cases i with
  | none | some i =>
    cases txn with
    | none | some t =>
      apply Reads.decode
      exact .seq (.seq (.map _ (reads_field (d := string) rfl rfl))
        (reads_omissible (f := itemJson) rfl optional_item))
        (reads_omissible (f := transactionJson) rfl optional_transaction)

theorem decode_toJson (e : CharacterEvent) : decode e.toJson = .ok e := by
  cases e with
  | itemMoved c k b =>
    exact tagged_of_reads rfl rfl (.seq (.seq (.map _ (reads_field rfl (character_json c)))
      (reads_field rfl (compartment_json k))) (reads_field rfl (movedBody_json b)))
  | error c k b =>
    exact tagged_of_reads rfl rfl (.seq (.seq (.map _ (reads_field rfl (character_json c)))
      (reads_field rfl (compartment_json k))) (reads_field rfl (failureBody_json b)))
  | other => rfl

end CharacterEvent

namespace Topic

def Content : Topic → Type
  | accountStatus => AccountEvent
  | shopCommand => ShopCommand
  | shopStatus => ShopEvent
  | compartmentCommand => CompartmentCommand
  | compartmentStatus => CompartmentEvent
  | inventoryStatus => InventoryEvent
  | itemCommand => ItemCommand
  | itemStatus => ItemEvent
  | characterCommand => CharacterCommand
  | characterStatus => CharacterEvent
  | walletStatus => WalletEvent

def encode : (t : Topic) → t.Content → Json
  | accountStatus => AccountEvent.toJson
  | shopCommand => ShopCommand.toJson
  | shopStatus => ShopEvent.toJson
  | compartmentCommand => CompartmentCommand.toJson
  | compartmentStatus => CompartmentEvent.toJson
  | inventoryStatus => InventoryEvent.toJson
  | itemCommand => ItemCommand.toJson
  | itemStatus => ItemEvent.toJson
  | characterCommand => CharacterCommand.toJson
  | characterStatus => CharacterEvent.toJson
  | walletStatus => WalletEvent.toJson

def decode : (t : Topic) → Decoder t.Content
  | accountStatus => AccountEvent.decode
  | shopCommand => ShopCommand.decode
  | shopStatus => ShopEvent.decode
  | compartmentCommand => CompartmentCommand.decode
  | compartmentStatus => CompartmentEvent.decode
  | inventoryStatus => InventoryEvent.decode
  | itemCommand => ItemCommand.decode
  | itemStatus => ItemEvent.decode
  | characterCommand => CharacterCommand.decode
  | characterStatus => CharacterEvent.decode
  | walletStatus => WalletEvent.decode

def message (t : Topic) (key : String) (v : t.Content) : Message := ⟨key, t.encode v⟩

theorem decode_encode (t : Topic) (v : t.Content) : t.decode (t.encode v) = .ok v := by
  cases t with
  | accountStatus => exact AccountEvent.decode_toJson v
  | shopCommand => exact ShopCommand.decode_toJson v
  | shopStatus => exact ShopEvent.decode_toJson v
  | compartmentCommand => exact CompartmentCommand.decode_toJson v
  | compartmentStatus => exact CompartmentEvent.decode_toJson v
  | inventoryStatus => exact InventoryEvent.decode_toJson v
  | itemCommand => exact ItemCommand.decode_toJson v
  | itemStatus => exact ItemEvent.decode_toJson v
  | characterCommand => exact CharacterCommand.decode_toJson v
  | characterStatus => exact CharacterEvent.decode_toJson v
  | walletStatus => exact WalletEvent.decode_toJson v

/-- Whatever is written as a message, under any key, is read back. So a value that can be read, in whatever spelling,
has a normal spelling: writing what was read and reading that again makes no difference. -/
theorem round_trip (t : Topic) :
    (∀ (key : String) (v : t.Content), t.decode (t.message key v).value = .ok v) ∧
    ∀ (key : String) (j : Json), ((t.decode j).bind fun v => t.decode (t.message key v).value) = t.decode j := by
  have hread : ∀ key (v : t.Content), t.decode (t.message key v).value = .ok v := fun _ v => t.decode_encode v
  refine ⟨hread, ?_⟩
  intro key j
  cases hj : t.decode j with
  | error e => rfl
  | ok v => exact hread key v

example : (inventoryStatus.decode (.arr [.str "CREATED", .int 7])).map inventoryStatus.encode =
    .ok (.obj [("accountId", .int 7), ("type", .str "CREATED")]) := rfl

end Topic

end CashShop

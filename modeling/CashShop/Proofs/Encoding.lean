import CashShop.Message.Account
import CashShop.Message.Compartment
import CashShop.Message.Item
import CashShop.Proofs.Work

namespace CashShop

namespace Wire

variable {α β : Type} {j : Json} {lo hi n : Int}

theorem intWithin_eq_ok : intWithin lo hi j = .ok n ↔ j = .int n ∧ lo ≤ n ∧ n ≤ hi := by
  cases j with
  | int m =>
    rw [intWithin, Json.int.injEq]
    split
    · rename_i hm
      rw [Except.ok.injEq]
      exact ⟨fun h => ⟨h, h ▸ hm⟩, And.left⟩
    · rename_i hm
      refine ⟨nofun, ?_⟩
      rintro ⟨rfl, hn⟩
      exact absurd hn hm
  | _ => simp [intWithin]

theorem map_intWithin_eq_ok {ofNat : Nat → α} {toNat : α → Nat} {size : Nat} (hlt : ∀ a, toNat a < size)
    (hleft : ∀ a, ofNat (toNat a) = a) (hright : ∀ n < size, toNat (ofNat n) = n) {a : α} :
    ((intWithin 0 (size - 1) j).map fun n => ofNat n.toNat) = .ok a ↔ j = .int (toNat a) := by
  refine map_eq_ok.trans ⟨?_, ?_⟩
  · rintro ⟨n, hn, rfl⟩
    obtain ⟨rfl, hlo, hhi⟩ := intWithin_eq_ok.1 hn
    rw [hright _ (by omega), Int.toNat_of_nonneg hlo]
  · rintro rfl
    have ha := hlt a
    exact ⟨toNat a, intWithin_eq_ok.2 ⟨rfl, by omega, by omega⟩, by rw [Int.toNat_natCast, hleft]⟩

theorem uint8_eq_ok {u : UInt8} : uint8 j = .ok u ↔ j = .int u.toNat :=
  map_intWithin_eq_ok UInt8.toNat_lt (fun _ => UInt8.ofNat_toNat) fun _ hn => UInt8.toNat_ofNat_of_lt' hn

theorem uint16_eq_ok {u : UInt16} : uint16 j = .ok u ↔ j = .int u.toNat :=
  map_intWithin_eq_ok UInt16.toNat_lt (fun _ => UInt16.ofNat_toNat) fun _ hn => UInt16.toNat_ofNat_of_lt' hn

theorem uint32_eq_ok {u : UInt32} : uint32 j = .ok u ↔ j = .int u.toNat :=
  map_intWithin_eq_ok UInt32.toNat_lt (fun _ => UInt32.ofNat_toNat) fun _ hn => UInt32.toNat_ofNat_of_lt' hn

theorem uint32_toNat (n : UInt32) : uint32 (.int n.toNat) = .ok n := uint32_eq_ok.2 rfl

theorem uint16_toNat (n : UInt16) : uint16 (.int n.toNat) = .ok n := uint16_eq_ok.2 rfl

theorem uint8_toNat (n : UInt8) : uint8 (.int n.toNat) = .ok n := uint8_eq_ok.2 rfl

theorem int64_toInt (n : Int64) : int64 (.int n.toInt) = .ok n := by
  rw [int64, intWithin_eq_ok.2 ⟨rfl, n.minValue_le_toInt, n.toInt_le⟩]
  simp [Except.map]

theorem int16_toInt (n : Int16) : int16 (.int n.toInt) = .ok n := by
  rw [int16, intWithin_eq_ok.2 ⟨rfl, n.minValue_le_toInt, n.toInt_le⟩]
  simp [Except.map]

theorem map_uint32 (f : UInt32 → α) (n : UInt32) : (uint32 (.int n.toNat)).map f = .ok (f n) := by
  rw [uint32_toNat]
  rfl

theorem map_uuid (f : Uuid → α) (u : Uuid) : (uuid (.str u.text)).map f = .ok (f u) := by
  rw [uuid, Uuid.parse?_text]
  rfl

theorem account_json (a : AccountId) : account (accountJson a) = .ok a := map_uint32 _ _

theorem character_json (c : CharacterId) : character (characterJson c) = .ok c := map_uint32 _ _

theorem item_json (i : ItemId) : item (itemJson i) = .ok i := map_uint32 _ _

theorem template_json (t : TemplateId) : template (templateJson t) = .ok t := map_uint32 _ _

theorem serial_json (s : SerialNumber) : serial (serialJson s) = .ok s := map_uint32 _ _

theorem asset_json (a : AssetId) : asset (assetJson a) = .ok a := map_uuid _ _

theorem compartment_json (c : CompartmentId) : compartment (compartmentJson c) = .ok c := map_uuid _ _

theorem transaction_json (t : TransactionId) : transaction (transactionJson t) = .ok t := map_uuid _ _

theorem cashId_json (c : CashId) : cashId (cashIdJson c) = .ok c := by
  rw [cashId, cashIdJson, int64_toInt]
  rfl

theorem line_json (l : ClassLine) : line (lineJson l) = .ok l := by
  simp [line, lineJson, uint8_toNat, ClassLine.ofCode?_code, bind, Except.bind]

theorem tab_json (t : Tab) : tab (tabJson t) = .ok t := by
  simp [tab, tabJson, uint8_toNat, Tab.ofCode?_code, bind, Except.bind]

theorem errorCode_name (payload : Json → Bool) (c : ErrorCode) : errorCode payload (.str c.name) = .ok c := by
  cases c <;> rfl

namespace Record

variable {entries : List (String × Json)} {name : String} {v : Json} {i : Nat} {a : α}

/-- The reader finds among the entries what it needs, and reads this value from them. -/
def Reads (r : Record Json α) (entries : List (String × Json)) (a : α) : Prop :=
  ∀ i, r.read (.keyed entries) i = .ok a

theorem reads_present {d : Decoder α} {absent beyond : Option α} (hv : occurrences name entries 0 = [(i, v)])
    (hd : d v = .ok a) : (fieldOr name d absent beyond).Reads entries a := by
  intro j
  simp only [fieldOr, hv, hd, ranked]

theorem reads_absent {d : Decoder α} {beyond : Option α} (hv : occurrences name entries 0 = []) :
    (fieldOr name d (some a) beyond).Reads entries a := by
  intro j
  simp only [fieldOr, hv]

theorem reads_field {d : Decoder α} (hv : occurrences name entries 0 = [(i, v)]) (hd : d v = .ok a) :
    (field name d).Reads entries a := reads_present hv hd

theorem Reads.map {r : Record Json α} (f : α → β) (h : r.Reads entries a) : (f <$> r).Reads entries (f a) := by
  intro i
  change both (.ok f) (r.read (.keyed entries) (i + 0)) = _
  rw [h]
  rfl

theorem Reads.seq {f : α → β} {r : Record Json (α → β)} {x : Record Json α} (hf : r.Reads entries f)
    (h : x.Reads entries a) : (r <*> x).Reads entries (f a) := by
  intro i
  change both (r.read (.keyed entries) i) (x.read (.keyed entries) (i + r.size)) = _
  rw [hf, h]
  rfl

theorem Reads.run {r : Record Json α} (h : r.Reads entries a) : r.run (.keyed entries) = .ok a := by
  rw [Record.run, h]

theorem Reads.decode {r : Record Json α} (h : r.Reads entries a) : r.decode (.obj entries) = .ok a := h.run

end Record

theorem tagged_of_reads {kinds : String → Option (Record Json α)} {other : Option α} {entries : List (String × Json)}
    {kind : String} {r : Record Json α} {a : α} (hkind : entries.lookup tagKey = some (.str kind))
    (hr : kinds kind = some r) (h : r.Reads (entries.filter fun f => f.1 ≠ tagKey) a) :
    tagged kinds other (.obj entries) = .ok a := by
  simp only [tagged, hkind, hr]
  exact h.run

end Wire

open Wire Record

namespace WalletEvent

theorem balances_json (w : Wallet) : balances (.obj [("credit", .ofUInt32 w.credit), ("points", .ofUInt32 w.points),
    ("prepaid", .ofUInt32 w.prepaid)]) = .ok (w.credit, w.points, w.prepaid) :=
  Reads.decode (.seq (.seq (.map _ (reads_field rfl (uint32_toNat _))) (reads_field rfl (uint32_toNat _)))
    (reads_field rfl (uint32_toNat _)))

theorem reads_wallet {w : Wallet} {entries : List (String × Json)} {i j : Nat}
    (ha : occurrences "accountId" entries 0 = [(i, accountJson w.account)])
    (hb : occurrences "body" entries 0 = [(j, .obj [("credit", .ofUInt32 w.credit), ("points", .ofUInt32 w.points),
      ("prepaid", .ofUInt32 w.prepaid)])]) : wallet.Reads entries w :=
  .seq (.map _ (reads_field ha (account_json _))) (reads_field hb (balances_json w))

theorem decode_toJson (e : WalletEvent) : decode e.toJson = .ok e := by
  cases e with
  | created w | updated w => exact tagged_of_reads rfl rfl (.map _ (reads_wallet rfl rfl))
  | deleted a => exact tagged_of_reads rfl rfl (.map _ (reads_field rfl (account_json _)))

end WalletEvent

namespace CompartmentEvent

theorem reads_ref {r : CompartmentRef} {entries : List (String × Json)} {i j k : Nat}
    (ha : occurrences "accountId" entries 0 = [(i, accountJson r.account)])
    (hc : occurrences "compartmentId" entries 0 = [(j, compartmentJson r.compartment)])
    (hl : occurrences "compartmentType" entries 0 = [(k, lineJson r.line)]) : ref.Reads entries r :=
  .seq (.seq (.map _ (reads_field ha (account_json _))) (reads_field hc (compartment_json _)))
    (reads_field hl (line_json _))

theorem capacityBody_json (n : UInt32) : capacityBody (.obj [("capacity", .ofUInt32 n)]) = .ok n :=
  Reads.decode (.map _ (reads_field rfl (uint32_toNat _)))

theorem transactionBody_json (t : TransactionId) :
    transactionBody (.obj [("transactionId", transactionJson t)]) = .ok t :=
  Reads.decode (.map _ (reads_field rfl (transaction_json _)))

theorem errorBody_json (code : ErrorCode) (t : TransactionId) :
    errorBody (.obj [("errorCode", .str code.name), ("transactionId", transactionJson t)]) = .ok (code, t) :=
  Reads.decode (.seq (.map _ (reads_field rfl (errorCode_name _ _)))
    (reads_field rfl (transaction_json _)))

theorem decode_toJson (e : CompartmentEvent) : decode e.toJson = .ok e := by
  cases e with
  | created r n | updated r n =>
    exact tagged_of_reads rfl rfl (.seq (.map _ (reads_ref rfl rfl rfl)) (reads_field rfl (capacityBody_json n)))
  | deleted r => exact tagged_of_reads rfl rfl (.map _ (reads_ref rfl rfl rfl))
  | accepted r t | released r t =>
    exact tagged_of_reads rfl rfl (.seq (.map _ (reads_ref rfl rfl rfl)) (reads_field rfl (transactionBody_json t)))
  | error r code t =>
    exact tagged_of_reads rfl rfl (.seq (.map _ (reads_ref rfl rfl rfl)) (reads_field rfl (errorBody_json code t)))

end CompartmentEvent

namespace ItemEvent

theorem noticeBody_json (n : ItemNotice) : noticeBody (.obj [("cashId", cashIdJson n.cashId),
    ("flag", .int n.flag.toNat), ("purchasedBy", characterJson n.purchasedBy), ("quantity", .ofUInt32 n.quantity),
    ("templateId", templateJson n.template)]) = .ok n :=
  Reads.decode (.seq (.seq (.seq (.seq (.map _ (reads_field rfl (cashId_json _)))
    (reads_field rfl (template_json _))) (reads_field rfl (uint32_toNat _)))
    (reads_field rfl (character_json _))) (reads_field rfl (uint16_toNat _)))

theorem decode_toJson (e : ItemEvent) : decode e.toJson = .ok e := by
  cases e with
  | created i n =>
    exact tagged_of_reads rfl rfl
      (.seq (.map _ (reads_field rfl (item_json _))) (reads_field rfl (noticeBody_json n)))

end ItemEvent

end CashShop

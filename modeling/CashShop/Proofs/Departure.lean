import CashShop.Proofs.Filing

namespace CashShop

open Work

theorem Tab.exists_code_eq_iff {n : UInt8} : (∃ t : Tab, t.code = n) ↔ 1 ≤ n ∧ n ≤ 5 := by
  constructor
  · rintro ⟨t, rfl⟩
    cases t <;> decide
  · rintro ⟨hlo, hhi⟩
    rw [UInt8.le_iff_toNat_le] at hlo hhi
    have hcases : n.toNat = 1 ∨ n.toNat = 2 ∨ n.toNat = 3 ∨ n.toNat = 4 ∨ n.toNat = 5 := by
      simp only [UInt8.reduceToNat] at hlo hhi
      omega
    obtain h | h | h | h | h := hcases
    · exact ⟨.equip, UInt8.toNat.inj h.symm⟩
    · exact ⟨.use, UInt8.toNat.inj h.symm⟩
    · exact ⟨.setup, UInt8.toNat.inj h.symm⟩
    · exact ⟨.etc, UInt8.toNat.inj h.symm⟩
    · exact ⟨.cash, UInt8.toNat.inj h.symm⟩

/-- What the search for a cash id finds is an asset of the compartment whose item has it. -/
theorem Draft.of_findByCashId? {d : Draft} {k : Compartment} {cash : CashId} {v : AssetView}
    (h : (d.compartmentView k).findByCashId? cash = some v) :
    .listAssets ∉ d.base.faults ∧ .readItem ∉ d.base.faults ∧ v.asset ∈ d.tables.assets ∧
      v.asset.compartment = k.id ∧ ∃ x, d.tables.items.get? v.asset.item = some x ∧ x.cashId = cash := by
  have hmem := List.mem_of_find?_eq_some h
  have hholds := List.find?_some h
  rw [listed_compartmentView] at hmem
  split at hmem
  · cases hmem
  · rename_i hl
    obtain ⟨a, ha, rfl⟩ := List.mem_map.1 hmem
    obtain ⟨hr, hx⟩ := holds_assetView.1 hholds
    obtain ⟨hin, hk⟩ := List.mem_filter.1 ha
    exact ⟨hl, hr, hin, of_decide_eq_true hk, hx⟩

namespace Transfer

variable {s : Service} {b : CharacterId} {o : MoveOrder} {tab : Tab} {i : ItemId}

/-- The order of the character is to move this item into this tab: the item has the cash id, and an asset places it in
the compartment of the character's account for the character's class line. -/
structure Asks (s : Service) (b : CharacterId) (o : MoveOrder) (tab : Tab) (i : ItemId) : Prop where
  tab : tab.code = o.tab
  placed : ∃ ch k, s.directory b false = .ok ch ∧ s.store.tables.Allots ch.account (.ofJob ch.job) k ∧
    ∃ a ∈ s.store.tables.assets, a.compartment = k.id ∧ a.item = i
  named : ∃ x, s.store.tables.items.get? i = some x ∧ x.cashId = o.cashId

theorem locate_eq_ok (h : locate s b o = .ok (tab, i)) : resolveTab o.tab = .ok tab ∧ ∃ ch k v,
    s.character b false = .ok ch ∧
      (Draft.begin s.store).compartmentOf? ch.account (ClassLine.ofJob ch.job) = some k ∧
        ((Draft.begin s.store).compartmentView k).findByCashId? o.cashId = some v ∧ v.asset.item = i := by
  rw [locate, bind_eq_ok] at h
  obtain ⟨tab', htab, h⟩ := h
  rw [bind_eq_ok] at h
  obtain ⟨ch, hch, h⟩ := h
  dsimp only at h
  cases hk : (Draft.begin s.store).compartmentOf? ch.account (ClassLine.ofJob ch.job) with
  | none =>
    rw [hk] at h
    cases h
  | some k =>
    simp only [hk] at h
    cases hv : ((Draft.begin s.store).compartmentView k).findByCashId? o.cashId with
    | none =>
      rw [hv] at h
      cases h
    | some v =>
      rw [hv] at h
      cases h
      exact ⟨htab, ch, k, v, hch, hk, hv, rfl⟩

theorem locate_of_found {ch : Character} {k : Compartment} {v : AssetView} (htab : resolveTab o.tab = .ok tab)
    (hch : s.character b false = .ok ch)
    (hk : (Draft.begin s.store).compartmentOf? ch.account (ClassLine.ofJob ch.job) = some k)
    (hv : ((Draft.begin s.store).compartmentView k).findByCashId? o.cashId = some v) :
    locate s b o = .ok (tab, v.asset.item) := by
  rw [locate, htab, hch]
  simp only [bind, Except.bind, hk, hv]
  rfl

/-- The search looks at the item that the order asks for, and at no other. -/
theorem locate_eq_ok_iff (hf : s.store.tables.Filed) (hd : s.store.tables.DistinctCashIds) :
    locate s b o = .ok (tab, i) ↔
      .listAssets ∉ s.store.faults ∧ .readItem ∉ s.store.faults ∧ Asks s b o tab i := by
  constructor
  · intro h
    obtain ⟨htab, ch, k, v, hch, hk, hv, rfl⟩ := locate_eq_ok h
    obtain ⟨hl, hr, hin, hvk, hx⟩ := Draft.of_findByCashId? hv
    exact ⟨hl, hr, resolveTab_eq_ok.1 htab,
      ⟨ch, k, Service.character_eq_ok.1 hch, (hf.compartmentOf?_eq_some_iff rfl).1 hk, v.asset, hin, hvk, rfl⟩, hx⟩
  · rintro ⟨hl, hr, htab, ⟨ch, k, hch, hk, a, ha, hak, rfl⟩, x, hx, hcash⟩
    have hk' := (hf.compartmentOf?_eq_some_iff (d := Draft.begin s.store) rfl).2 hk
    cases hv : ((Draft.begin s.store).compartmentView k).findByCashId? o.cashId with
    | none =>
      obtain (h | ⟨h, -⟩) | hno := Draft.findByCashId?_eq_none.1 hv
      · exact absurd h hl
      · exact absurd h hr
      · exact absurd hcash (hno a ha hak x hx)
    | some v =>
      obtain ⟨-, -, -, -, y, hy, hcash'⟩ := Draft.of_findByCashId? hv
      rw [locate_of_found (resolveTab_eq_ok.2 htab) (Service.character_eq_ok.2 hch) hk' hv,
        hd _ _ _ _ hy hx (hcash'.trans hcash.symm)]

end Transfer

namespace Service

variable {s : Service} {amb : Ambient} {b : CharacterId} {o : MoveOrder}

theorem of_move_ok {ans : Answer} (h : (s.call amb (.move b o)).1 = .ok ans) : ∃ tab i,
    ans = .started ⟨i, amb.transaction⟩ ∧ Transfer.locate s b o = .ok (tab, i) ∧
      s.reservations.live? i amb.now = none ∧ s.transport.refuses .characterCommand = false := by
  cases hl : Transfer.locate s b o with
  | error e =>
    rw [call_move_of_not_located hl] at h
    cases h
  | ok found =>
    obtain ⟨tab, i⟩ := found
    cases hr : s.reservations.live? i amb.now with
    | some r =>
      rw [call_move_of_live hl hr] at h
      cases h
    | none =>
      cases ht : s.transport.refuses .characterCommand with
      | true =>
        rw [call_move_of_refused hl hr ht] at h
        cases h
      | false =>
        rw [call_move_of_sent hl hr ht] at h
        cases h
        exact ⟨tab, i, rfl, rfl, hr, rfl⟩

theorem live?_of_move_error {e : WorkflowError} (h : (s.call amb (.move b o)).1 = .error e) :
    (s.call amb (.move b o)).2.store = s.store ∧ ∀ i t, amb.now ≤ t →
      (s.call amb (.move b o)).2.reservations.live? i t = s.reservations.live? i t := by
  cases hl : Transfer.locate s b o with
  | error e =>
    rw [call_move_of_not_located hl]
    exact ⟨rfl, fun _ _ _ => rfl⟩
  | ok found =>
    obtain ⟨tab, i⟩ := found
    cases hr : s.reservations.live? i amb.now with
    | some r =>
      rw [call_move_of_live hl hr]
      exact ⟨rfl, fun _ _ _ => rfl⟩
    | none =>
      cases ht : s.transport.refuses .characterCommand with
      | true =>
        rw [call_move_of_refused hl hr ht]
        refine ⟨rfl, fun j t hle => ?_⟩
        change ((s.reservations.enter i b (some amb.transaction) amb.now).release i).live? j t = _
        rw [Reservations.enter_release, Reservations.live?_release]
        split
        · rename_i hj
          rw [hj, Reservations.live?_later hr hle]
        · rfl
      | false =>
        rw [call_move_of_sent hl hr ht] at h
        cases h

/-- In a state with rows under their own ids and distinct cash ids, whatever is reserved, refused and failing: an order
to move an item that is answered with success has found the item that it asks for unreserved, has reserved it for its
transaction and for the time to live, and has sent one command; it has changed no table and no key, and the reservation
of no other item. One that fails has changed no table and no key, and every item has the same live reservation as
before. While nothing fails and nothing is refused, it succeeds exactly if the item it asks for is there and not
reserved. -/
theorem move_reserves_or_leaves_free (hf : s.store.tables.Filed) (hd : s.store.tables.DistinctCashIds) (amb : Ambient)
    (b : CharacterId) (o : MoveOrder) :
    let s' := (s.call amb (.move b o)).2
    let r : Reservation := ⟨b, some amb.transaction, amb.now + s.reservations.ttl⟩
    (∀ ans, (s.call amb (.move b o)).1 = .ok ans → ∃ tab i, ans = .started ⟨i, amb.transaction⟩ ∧
      Transfer.Asks s b o tab i ∧ s.reservations.live? i amb.now = none ∧
      (∀ t, s'.reservations.live? i t = if t < amb.now + s.reservations.ttl then some r else none) ∧
      (∀ j, j ≠ i → s'.reservations.entries.get? j = s.reservations.entries.get? j) ∧
      s'.transport = s.transport.log ⟨.characterCommand,
        [⟨toString b, (CharacterCommand.moveItem b tab o.slot i amb.transaction).toJson⟩], true⟩ ∧
      s'.store = s.store) ∧
    (∀ e, (s.call amb (.move b o)).1 = .error e →
      s'.store = s.store ∧ ∀ i t, amb.now ≤ t → s'.reservations.live? i t = s.reservations.live? i t) ∧
    (s.store.faults = [] → s.transport.Works → ((∃ ans, (s.call amb (.move b o)).1 = .ok ans) ↔
      (1 ≤ o.tab ∧ o.tab ≤ 5) ∧ ∃ ch k a x, s.directory b false = .ok ch ∧
        s.store.tables.Allots ch.account (.ofJob ch.job) k ∧ a ∈ s.store.tables.assets ∧ a.compartment = k.id ∧
        s.store.tables.items.get? a.item = some x ∧ x.cashId = o.cashId ∧
        s.reservations.live? a.item amb.now = none)) := by
  intro s' r
  refine ⟨fun ans hans => ?_, fun e he => live?_of_move_error he, fun hfaults hworks => ?_⟩
  · obtain ⟨tab, i, rfl, hl, hr, ht⟩ := of_move_ok hans
    have hs' : s' = _ := congrArg Prod.snd (call_move_of_sent hl hr ht)
    refine ⟨tab, i, rfl, ((Transfer.locate_eq_ok_iff hf hd).1 hl).2.2, hr, fun t => ?_, fun j hj => ?_, ?_, ?_⟩
    · rw [hs']
      change (s.reservations.enter i b (some amb.transaction) amb.now).live? i t = _
      simp [Reservations.live?, Reservation.isLive, Option.filter, r]
    · rw [hs']
      change (s.reservations.enter i b (some amb.transaction) amb.now).entries.get? j = _
      rw [Reservations.get?_enter, if_neg hj]
    · rw [hs']
      rfl
    · rw [hs']
      rfl
  · have ht : s.transport.refuses .characterCommand = false := hworks.refuses _
    constructor
    · rintro ⟨ans, hans⟩
      obtain ⟨tab, i, -, hl, hr, -⟩ := of_move_ok hans
      obtain ⟨-, -, htab, ⟨ch, k, hch, hk, a, ha, hak, rfl⟩, x, hx, hcash⟩ :=
        (Transfer.locate_eq_ok_iff hf hd).1 hl
      exact ⟨Tab.exists_code_eq_iff.1 ⟨tab, htab⟩, ch, k, a, x, hch, hk, ha, hak, hx, hcash, hr⟩
    · rintro ⟨hcode, ch, k, a, x, hch, hk, ha, hak, hx, hcash, hr⟩
      obtain ⟨tab, htab⟩ := Tab.exists_code_eq_iff.2 hcode
      have hasks : Transfer.Asks s b o tab a.item := ⟨htab, ⟨ch, k, hch, hk, a, ha, hak, rfl⟩, x, hx, hcash⟩
      have hl := (Transfer.locate_eq_ok_iff hf hd).2 ⟨by simp [hfaults], by simp [hfaults], hasks⟩
      exact ⟨_, congrArg Prod.fst (call_move_of_sent hl hr ht)⟩

theorem move_reserves_or_leaves_free_sold : sold.store.tables.Filed ∧ sold.store.tables.DistinctCashIds ∧
    sold.store.faults = [] ∧ sold.transport.Works ∧
      ∃ ans, (sold.call .opening (.move ⟨7⟩ ⟨⟨1⟩, 1, 3⟩)).1 = .ok ans := by
  have hf : sold.store.tables.Filed := by decide
  have hd : sold.store.tables.DistinctCashIds := by decide
  have hfaults : sold.store.faults = [] := by decide
  have hworks : sold.transport.Works := by decide
  refine ⟨hf, hd, hfaults, hworks,
    ((move_reserves_or_leaves_free hf hd .opening ⟨7⟩ ⟨⟨1⟩, 1, 3⟩).2.2 hfaults hworks).2 ⟨by decide, ?_⟩⟩
  exact ⟨_, ⟨⟨.ofNat 1⟩, ⟨1⟩, .explorer, 55⟩, ⟨⟨.ofNat 1⟩, ⟨.ofNat 1⟩, ⟨1⟩⟩, _, rfl, ⟨rfl, rfl, rfl⟩, by decide, rfl,
    rfl, rfl, rfl⟩

end Service

end CashShop

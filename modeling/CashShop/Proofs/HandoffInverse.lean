import CashShop.Proofs.HandoffScope
import CashShop.Proofs.Hold
import CashShop.Proofs.Occupancy
import CashShop.Proofs.Reply
import Mathlib.Data.List.Nodup

namespace CashShop

open Work

namespace Tables

/-- The compartment exists; the first placement of the item, if it has one, is in it, and otherwise there is room. -/
structure Admits (t : Tables) (h : Handoff) (k : Compartment) : Prop where
  known : t.compartments.get? h.compartment = some k
  inside : ∀ x, t.assets.find? (·.item = h.item) = some x → x.compartment = h.compartment
  room : t.assets.find? (·.item = h.item) = none → occupancy t.assets h.compartment < k.capacity.toNat

def Lodges (t : Tables) (h : Handoff) : Prop :=
  (t.compartments.get? h.compartment).isSome = true ∧ ∃ x ∈ t.assets, x.compartment = h.compartment ∧ x.item = h.item

def lodged? (t : Tables) (h : Handoff) : Option Asset :=
  (t.assets.filter (·.compartment = h.compartment)).find? (·.item = h.item)

variable {t : Tables} {h : Handoff} {x : Asset}

theorem of_lodged? (hx : t.lodged? h = some x) : x ∈ t.assets ∧ x.compartment = h.compartment ∧ x.item = h.item := by
  obtain ⟨hmem, hcompartment⟩ := List.mem_filter.1 (List.mem_of_find?_eq_some hx)
  exact ⟨hmem, of_decide_eq_true hcompartment, by simpa using List.find?_some hx⟩

theorem lodges_iff : t.Lodges h ↔
    (t.compartments.get? h.compartment).isSome = true ∧ ∃ x, t.lodged? h = some x := by
  refine and_congr_right fun _ => ⟨?_, fun ⟨x, hx⟩ => ⟨x, of_lodged? hx⟩⟩
  rintro ⟨x, hx, hcompartment, hitem⟩
  exact Option.isSome_iff_exists.1 (List.find?_isSome.2 ⟨x, List.mem_filter.2 ⟨hx, by simpa using hcompartment⟩,
    by simpa using hitem⟩)

theorem filter_id_ne_eq_erase {xs : List Asset} (hids : (xs.map (·.id)).Nodup) (hx : x ∈ xs) :
    xs.filter (fun y => y.id ≠ x.id) = xs.erase x := by
  rw [(List.Nodup.of_map _ hids).erase_eq_filter]
  refine List.filter_congr fun y hy => ?_
  have hinj : y.id = x.id ↔ y = x := ⟨fun he => List.inj_on_of_nodup_map hids hy hx he, congrArg _⟩
  by_cases he : y = x <;> simp [hinj, he]

end Tables

namespace Service

variable {s : Service} {amb amb' : Ambient} {h : Handoff} {x : Asset} {a : Answer}

theorem works_tell (hbus : s.transport.Works) (account : AccountId) (e : CompartmentEvent) :
    (s.tell account e).transport.Works := by
  change Transport.Works (((Outbox.empty.put .compartmentStatus ⟨toString account, e.toJson⟩).flush
    Transport.publish s.transport).2)
  rwa [Transport.flush_put]

theorem call_accept_of_held (hk : (s.store.tables.compartments.get? h.compartment).isSome = true)
    (hx : s.store.tables.assets.find? (·.item = h.item) = some x) (hin : x.compartment = h.compartment)
    (hf : .commit ∉ s.store.faults) : s.call amb (.accept h) =
      (.ok (.accepted x), s.tell h.account (.accepted h.ref h.transaction)) := by
  have hy : Yields (h.acceptWork amb) (Draft.begin s.store) x _ :=
    Handoff.yields_acceptWork.2 ⟨hk, .inl ⟨hx, hin, rfl⟩⟩
  rw [call, accept, run_of_kept hy rfl hf]
  rfl

def holding (s : Service) (h : Handoff) (x : Asset) : Service :=
  tell { s with store := { s.store with tables := { s.store.tables with assets := s.store.tables.assets ++ [x] } } }
    h.account (.accepted h.ref h.transaction)

theorem call_accept_of_room {k : Compartment} (hk : s.store.tables.compartments.get? h.compartment = some k)
    (hnone : s.store.tables.assets.find? (·.item = h.item) = none)
    (hroom : occupancy s.store.tables.assets h.compartment < k.capacity.toNat) (hf : s.store.faults = []) :
    s.call amb (.accept h) = (.ok (.accepted ⟨amb.asset, h.compartment, h.item⟩),
      s.holding h ⟨amb.asset, h.compartment, h.item⟩) := by
  have hno (p : FaultPoint) : p ∉ s.store.faults := by simp [hf]
  have hy : Yields (h.acceptWork amb) (Draft.begin s.store) ⟨amb.asset, h.compartment, h.item⟩ _ :=
    Handoff.yields_acceptWork.2 ⟨Option.isSome_iff_exists.2 ⟨k, hk⟩,
      .inr ⟨hnone, k, hk, hno _, hroom, hno _, rfl, rfl⟩⟩
  rw [call, accept, run_of_kept hy rfl (hno _)]
  rfl

theorem call_release_of_lodged (hl : s.reservations.live? h.item amb.now = none)
    (hk : (s.store.tables.compartments.get? h.compartment).isSome = true) (hx : s.store.tables.lodged? h = some x)
    (hf : s.store.faults = []) : (s.call amb (.release h)).1 = .ok (.released x) ∧ (s.call amb (.release h)).2.store =
      { s.store with tables := { s.store.tables with
        assets := s.store.tables.assets.filter fun y => y.id ≠ x.id } } := by
  have hno (p : FaultPoint) : p ∉ s.store.faults := by simp [hf]
  have hy : Yields h.releaseWork (Draft.begin s.store) x _ := Handoff.yields_releaseWork.2 ⟨hk, hno _, hx, rfl⟩
  have hrun := run_of_kept (s := { s with reservations := s.reservations.release h.item }) hy
    (k := fun _ => true) rfl (hno _)
  rw [call, release, Reservations.isReserved_of_free hl]
  simp only [Bool.false_eq_true, if_false, perform, hrun]
  exact ⟨rfl, rfl⟩

theorem held_of_accepted (hok : (s.call amb (.accept h)).1 = .ok (.accepted x)) :
    ((s.call amb (.accept h)).2.store.tables.compartments.get? h.compartment).isSome = true ∧
      (s.call amb (.accept h)).2.store.tables.assets.find? (·.item = h.item) = some x ∧
      x.compartment = h.compartment ∧ (s.call amb (.accept h)).2.store.faults = s.store.faults := by
  obtain ⟨d, commits, store, -⟩ := committed_of_done hok rfl (by simp) (by simp)
  rw [store]
  cases commits with
  | acceptHeld known held inside => exact ⟨known, held, inside, rfl⟩
  | accept known unplaced =>
    refine ⟨Option.isSome_iff_exists.2 ⟨_, known⟩, ?_, rfl, rfl⟩
    change (s.store.tables.assets ++ [_]).find? _ = _
    have hnone : s.store.tables.assets.find? (·.item = h.item) = none := unplaced
    simp [List.find?_append, hnone]

theorem accept_ok_iff (hf : s.store.faults = []) :
    (∃ a, (s.call amb (.accept h)).1 = .ok a) ↔ ∃ k, s.store.tables.Admits h k := by
  constructor
  · rintro ⟨a, hok⟩
    obtain ⟨x, -, rfl⟩ := answered_eq_ok.1 hok
    obtain ⟨d, commits, -⟩ := committed_of_done hok rfl (by simp) (by simp)
    cases commits with
    | acceptHeld known held inside =>
      obtain ⟨k, hk⟩ := Option.isSome_iff_exists.1 known
      have hx : s.store.tables.assets.find? (·.item = h.item) = some x := held
      refine ⟨k, hk, fun y hy => ?_, fun hnone => ?_⟩
      · obtain rfl : x = y := Option.some.inj (hx.symm.trans hy)
        exact inside
      · rw [hx] at hnone
        cases hnone
    | @accept _ k known unplaced room =>
      have hnone : s.store.tables.assets.find? (·.item = h.item) = none := unplaced
      refine ⟨k, known, fun y hy => ?_, fun _ => room⟩
      rw [hnone] at hy
      cases hy
  · rintro ⟨k, known, inside, room⟩
    cases hx : s.store.tables.assets.find? (·.item = h.item) with
    | some x =>
      have hk : (s.store.tables.compartments.get? h.compartment).isSome = true :=
        Option.isSome_iff_exists.2 ⟨k, known⟩
      rw [call_accept_of_held hk hx (inside x hx) (by simp [hf])]
      exact ⟨_, rfl⟩
    | none =>
      rw [call_accept_of_room known hx (room hx) hf]
      exact ⟨_, rfl⟩

theorem release_ok_iff (hf : s.store.faults = []) : (s.call amb (.release h)).1 = .ok a ↔
    s.reservations.live? h.item amb.now = none ∧
      (s.store.tables.compartments.get? h.compartment).isSome = true ∧
      ∃ x, s.store.tables.lodged? h = some x ∧ a = .released x := by
  constructor
  · intro hok
    cases hl : s.reservations.live? h.item amb.now with
    | some r =>
      rw [call_release_of_live hl] at hok
      cases hok
    | none =>
      obtain ⟨x, -, rfl⟩ := answered_eq_ok.1 hok
      obtain ⟨d, commits, -⟩ := committed_of_done hok rfl (by simp) (by simp)
      cases commits with
      | release known _ _ held => exact ⟨rfl, known, x, held, rfl⟩
  · rintro ⟨hl, hk, x, hx, rfl⟩
    exact (call_release_of_lodged hl hk hx hf).1

/-- The new placement is the only asset with its id, so that releasing the item takes out what accepting it has put
in. -/
theorem release_of_holding {k : Compartment} {now : Instant} (hf : s.store.faults = [])
    (hk : s.store.tables.compartments.get? h.compartment = some k) (hnone : ¬ s.store.tables.Places h.item)
    (hin : x.compartment = h.compartment) (hitem : x.item = h.item)
    (hfresh : ∀ y ∈ s.store.tables.assets, y.id ≠ x.id) (hl : s.reservations.live? h.item now = none)
    (hnow : now ≤ amb'.now) : ((s.holding h x).call amb' (.release h)).1 = .ok (.released x) ∧
      ((s.holding h x).call amb' (.release h)).2.store = s.store := by
  have hx : (s.holding h x).store.tables.lodged? h = some x := by
    have hout : (s.store.tables.assets.filter (·.compartment = h.compartment)).find? (·.item = h.item) = none :=
      List.find?_eq_none.2 fun y hy => by simpa using Tables.not_places_iff.1 hnone y (List.mem_filter.1 hy).1
    change ((s.store.tables.assets ++ [x]).filter _).find? _ = _
    simp [List.filter_append, List.find?_append, hout, hin, hitem]
  have hkept : (s.store.tables.assets ++ [x]).filter (fun y => y.id ≠ x.id) = s.store.tables.assets := by
    rw [List.filter_append, List.filter_eq_self.2 fun y hy => decide_eq_true (hfresh y hy)]
    simp
  obtain ⟨hok, hstore⟩ := call_release_of_lodged (s := s.holding h x) (Reservations.live?_later hl hnow)
    (Option.isSome_iff_exists.2 ⟨k, hk⟩) hx hf
  have hassets : (s.holding h x).store.tables.assets = s.store.tables.assets ++ [x] := rfl
  rw [hassets, hkept] at hstore
  exact ⟨hok, hstore⟩

/-- In a state in which nothing fails and the ids of assets are distinct, on a transport that refuses nothing: an item
that has been accepted can be accepted again at once, with the same answer and without a change of the store, and this
is announced once more. If it was placed nowhere and is not reserved, releasing it answers the asset by which it has been
accepted and leaves the store as it was before. To accept an item succeeds exactly if the compartment admits it; to
release one succeeds exactly if it is not reserved and the compartment holds it, and takes out one asset, by which the
compartment holds the item, and nothing else. -/
theorem handoffs_repeat_and_undo (hf : s.store.faults = []) (hbus : s.transport.Works)
    (hids : (s.store.tables.assets.map (·.id)).Nodup) (hfresh : ∀ y ∈ s.store.tables.assets, y.id ≠ amb.asset)
    (h : Handoff) :
    let s' := (s.call amb (.accept h)).2
    (∀ a amb', (s.call amb (.accept h)).1 = .ok a →
      (s'.call amb' (.accept h)).1 = .ok a ∧ (s'.call amb' (.accept h)).2.store = s'.store ∧
      (s'.call amb' (.accept h)).2.transport.carried =
        s'.transport.carried ++ [⟨.compartmentStatus, [h.acceptedMessage], true⟩]) ∧
    (∀ a amb' now, (s.call amb (.accept h)).1 = .ok a → ¬ s.store.tables.Places h.item →
      s.reservations.live? h.item now = none → now ≤ amb'.now →
      ∃ x, a = .accepted x ∧ (s'.call amb' (.release h)).1 = .ok (.released x) ∧
        (s'.call amb' (.release h)).2.store = s.store) ∧
    ((∃ a, (s.call amb (.accept h)).1 = .ok a) ↔ ∃ k, s.store.tables.Admits h k) ∧
    ((∃ a, (s.call amb (.release h)).1 = .ok a) ↔
      s.reservations.live? h.item amb.now = none ∧ s.store.tables.Lodges h) ∧
    ∀ a, (s.call amb (.release h)).1 = .ok a → ∃ x ∈ s.store.tables.assets, a = .released x ∧
      x.compartment = h.compartment ∧ x.item = h.item ∧ (s.call amb (.release h)).2.store =
        { s.store with tables := { s.store.tables with assets := s.store.tables.assets.erase x } } := by
  intro s'
  refine ⟨fun a amb' hok => ?_, fun a amb' now hok hnone hl hnow => ?_, accept_ok_iff hf, ?_, fun a hok => ?_⟩
  · obtain ⟨x, -, rfl⟩ := answered_eq_ok.1 hok
    obtain ⟨hk, hx, hin, hfaults⟩ := held_of_accepted hok
    obtain ⟨-, -, event, -, -, -, -, -, -, htold⟩ := exists_of_handoff_ok rfl hok
    have hworks : s'.transport.Works := htold ▸ works_tell hbus h.account event
    have hcommit : .commit ∉ s'.store.faults := by
      rw [hfaults, hf]
      exact List.not_mem_nil
    have hagain : s'.call amb' (.accept h) = _ := call_accept_of_held hk hx hin hcommit
    refine ⟨by rw [hagain], by rw [hagain]; rfl, ?_⟩
    rw [hagain, tell, carried_announce, hworks.refuses, if_neg Bool.false_ne_true]
    rfl
  · obtain ⟨k, known, -, room⟩ := (accept_ok_iff hf).1 ⟨a, hok⟩
    have hfind : s.store.tables.assets.find? (·.item = h.item) = none :=
      List.find?_eq_none.2 fun y hy => by simpa using Tables.not_places_iff.1 hnone y hy
    have haccept : s.call amb (.accept h) = _ := call_accept_of_room known hfind (room hfind) hf
    have hs' : s' = s.holding h ⟨amb.asset, h.compartment, h.item⟩ := congrArg Prod.snd haccept
    rw [haccept] at hok
    rw [hs']
    exact ⟨_, (Except.ok.inj hok).symm, release_of_holding hf known hnone rfl rfl hfresh hl hnow⟩
  · constructor
    · rintro ⟨a, hok⟩
      obtain ⟨hl, hk, x, hx, -⟩ := (release_ok_iff hf).1 hok
      exact ⟨hl, Tables.lodges_iff.2 ⟨hk, x, hx⟩⟩
    · rintro ⟨hl, hlodges⟩
      obtain ⟨hk, x, hx⟩ := Tables.lodges_iff.1 hlodges
      exact ⟨_, (release_ok_iff hf).2 ⟨hl, hk, x, hx, rfl⟩⟩
  · obtain ⟨hl, hk, x, hx, rfl⟩ := (release_ok_iff hf).1 hok
    obtain ⟨hmem, hcompartment, hitem⟩ := Tables.of_lodged? hx
    refine ⟨x, hmem, rfl, hcompartment, hitem, ?_⟩
    rw [(call_release_of_lodged hl hk hx hf).2, Tables.filter_id_ne_eq_erase hids hmem]

def parcel : Handoff := ⟨⟨1⟩, .explorer, ⟨.ofNat 9⟩, ⟨.ofNat 1⟩, ⟨2⟩⟩

theorem handoffs_repeat_and_undo_parcel :
    let amb := { Ambient.opening with asset := ⟨.ofNat 2⟩ }
    let s' := (sold.call amb (.accept parcel)).2
    sold.store.faults = [] ∧ sold.transport.Works ∧ (sold.store.tables.assets.map (·.id)).Nodup ∧
      (∀ y ∈ sold.store.tables.assets, y.id ≠ amb.asset) ∧ s'.store ≠ sold.store ∧
      (s'.call amb (.release parcel)).2.store = sold.store := by
  intro amb s'
  have hbus : sold.transport.Works := by decide
  have hids : (sold.store.tables.assets.map (·.id)).Nodup := by decide
  have hfresh : ∀ y ∈ sold.store.tables.assets, y.id ≠ amb.asset := by decide
  have hok : (sold.call amb (.accept parcel)).1 = .ok (.accepted ⟨⟨.ofNat 2⟩, ⟨.ofNat 1⟩, ⟨2⟩⟩) := by rfl
  obtain ⟨-, hundo, -⟩ := handoffs_repeat_and_undo rfl hbus hids hfresh parcel
  obtain ⟨-, -, -, hstore⟩ := hundo _ amb amb.now hok (by unfold Tables.Places; decide) rfl (Int.le_refl _)
  exact ⟨rfl, hbus, hids, hfresh, by decide, hstore⟩

end Service

end CashShop

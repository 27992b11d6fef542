import CashShop.Proofs.AssetFlow
import CashShop.Proofs.Delivery
import CashShop.Proofs.Hold
import Mathlib.Data.List.Nodup

namespace CashShop

def Event.Answers (e : Event) (i : ItemId) (t : TransactionId) : Prop :=
  ∃ amb c u, e.call? = some (amb, c) ∧ c.callback? = some (i, u) ∧ (u = none ∨ u = some t)

namespace Service

variable {s : Service} {e : Event} {amb : Ambient} {c : Call} {i : ItemId} {t : TransactionId} {r : Reservation}

def Evicts (s : Service) (e : Event) (i : ItemId) : Prop :=
  ∃ acc, e.Deletes acc ∧ ∃ k ∈ s.store.tables.compartments.values, k.account = acc ∧
    ∃ x ∈ s.store.tables.assets, x.compartment = k.id ∧ x.item = i

/-- The item is reserved for the transaction, and the reservation outlasts everything that the event does. -/
structure Holds (s : Service) (e : Event) (i : ItemId) (t : TransactionId) (r : Reservation) : Prop where
  reserved : s.reservations.entries.get? i = some r
  transaction : r.transaction = some t
  unexpired : ∀ now, e.reading? = some now → now < r.expiresAt

theorem Holds.live (h : s.Holds e i t r) (hc : e.call? = some (amb, c)) :
    s.reservations.live? i amb.now = some r :=
  Reservations.live?_eq_some_iff.2 ⟨h.reserved, h.unexpired amb.now (Event.reading?_of_call? hc)⟩

theorem Holds.opposes {u : Option TransactionId} (h : s.Holds e i t r) (ha : ¬ e.Answers i t)
    (hc : e.call? = some (amb, c)) (hb : c.callback? = some (i, u)) : s.reservations.Opposes i u amb.now := by
  refine ⟨r, h.live hc, Bool.eq_false_iff.2 ?_⟩
  intro hm
  exact ha ⟨amb, c, u, hc, hb, (Reservations.answeredBy_iff h.transaction).1 hm⟩

theorem reservation_kept_step (h : s.Holds e i t r) (ha : ¬ e.Answers i t) :
    (s.step e).reservations.entries.get? i = some r := by
  obtain hk | ⟨now, hn, hexp⟩ | hset := held_step (e := e) h.reserved
  · exact hk
  · exact absurd (h.unexpired now hn) (Int.not_lt.2 hexp)
  · obtain ⟨amb, c, u, hc, hb, -, hm⟩ := settled?_eq_some_iff.1 hset
    exact absurd ⟨amb, c, u, hc, hb, (Reservations.answeredBy_iff h.transaction).1 hm⟩ ha

theorem asset_kept_step {x : Asset} (hids : (s.store.tables.assets.map (·.id)).Nodup) (h : s.Holds e i t r)
    (ha : ¬ e.Answers i t) (hev : ¬ s.Evicts e i) (hx : x ∈ s.store.tables.assets) (hi : x.item = i) :
    x ∈ (s.step e).store.tables.assets := by
  cases hans : s.answer? e with
  | none => rwa [assets_step_of_no_answer hans]
  | some y =>
    obtain ⟨c, a⟩ := y
    obtain ⟨amb, hc, hr⟩ := answer?_eq_some_iff.1 hans
    have hkept : c.clears s.store.tables a x = false := by
      refine Bool.eq_false_iff.2 ?_
      intro hclears
      obtain ⟨acc, rfl, k, hk, hacc, hin⟩ | ⟨hd, y, rfl, rfl, hid⟩ | ⟨m, rfl, rfl, hitem⟩ := Call.clears_cases hclears
      · exact hev ⟨acc, ⟨amb, hc⟩, k, hk, hacc, x, hx, hin, hi⟩
      ·
        obtain ⟨z, hz, hy, -, hitem⟩ := exists_of_release_ok hr
        cases hz
        obtain rfl := List.inj_on_of_nodup_map hids hx hy hid
        have hl := h.live hc
        rw [← hi, hitem] at hl
        rw [call_release_of_live hl] at hr
        cases hr
      · obtain ⟨hno, -⟩ := moved_applied_iff.1 hr
        rw [← hitem, hi] at hno
        exact hno (h.opposes ha hc (by rw [Call.callback?, ← hitem, hi]))
    rw [step_of_call? hc, assets_call hr]
    exact List.mem_append_left _ (List.mem_filter.2 ⟨hx, by simp [hkept]⟩)

/-- The call leaves the store and the reservations as they are, and tells of nothing but an error. -/
def Repels (s : Service) (amb : Ambient) (c : Call) (e : WorkflowError) : Prop :=
  (s.call amb c).1 = .error e ∧ (s.call amb c).2.store = s.store ∧
    (s.call amb c).2.reservations = s.reservations ∧ s.transport.Apologizes (s.call amb c).2.transport

theorem repels_release {hd : Handoff} (hl : s.reservations.live? hd.item amb.now = some r) :
    s.Repels amb (.release hd) (.itemAlreadyReserved hd.item) := by
  rw [Repels, call_release_of_live hl]
  exact ⟨rfl, rfl, rfl, apologizes_answerHandoffError s hd .itemAlreadyReserved⟩

theorem repels_move {b : CharacterId} {o : MoveOrder} {tab : Tab} (hloc : Transfer.locate s b o = .ok (tab, i))
    (hl : s.reservations.live? i amb.now = some r) : s.Repels amb (.move b o) (.itemAlreadyReserved i) := by
  rw [Repels, call_move_of_live hloc hl]
  exact ⟨rfl, rfl, rfl, apologizes_reportFailure s b (.itemAlreadyReserved i)⟩

/-- An item in flight belongs to its transfer. From an empty store, whatever has happened as long as the ids of new
assets are fresh: while an item is reserved for a transaction, an event before the expiry that is neither an answer to
this transaction nor the end of the account around the item leaves its reservation and its placements alone. To release
the item or to order it away again is refused, and an answer for another transaction is dropped; nothing comes of
either. -/
theorem custody_of_item_in_flight (s : Service) (n : Nat) {h : List Event} (hfresh : (s.renewed n).FreshAssetIds h)
    (hr : ((s.renewed n).after h).reservations.entries.get? i = some r) (ht : r.transaction = some t) :
    (∀ e, (∀ now, e.reading? = some now → now < r.expiresAt) → ¬ e.Answers i t → ¬ ((s.renewed n).after h).Evicts e i →
      (((s.renewed n).after h).step e).reservations.entries.get? i = some r ∧
        ∀ x ∈ ((s.renewed n).after h).store.tables.assets, x.item = i →
          x ∈ (((s.renewed n).after h).step e).store.tables.assets) ∧
    ∀ amb, amb.now < r.expiresAt →
      (∀ hd, hd.item = i → ((s.renewed n).after h).Repels amb (.release hd) (.itemAlreadyReserved i)) ∧
      (∀ b o tab, Transfer.locate ((s.renewed n).after h) b o = .ok (tab, i) →
        ((s.renewed n).after h).Repels amb (.move b o) (.itemAlreadyReserved i)) ∧
      ∀ c u, c.callback? = some (i, some u) → u ≠ t → ((s.renewed n).after h).call amb c =
        (.ok (.callback .dropped), ((s.renewed n).after h).count .callbacksDropped) := by
  constructor
  · intro e hnow ha hev
    have hids := nodup_ids_after (s := s.renewed n) List.nodup_nil hfresh
    have hholds : ((s.renewed n).after h).Holds e i t r := ⟨hr, ht, hnow⟩
    exact ⟨reservation_kept_step hholds ha, fun x hx hi => asset_kept_step hids hholds ha hev hx hi⟩
  · intro amb hnow
    have hl : ((s.renewed n).after h).reservations.live? i amb.now = some r :=
      Reservations.live?_eq_some_iff.2 ⟨hr, hnow⟩
    refine ⟨?_, fun b o tab hloc => repels_move hloc hl, ?_⟩
    · rintro hd rfl
      exact repels_release hl
    · intro c u hb hu
      refine call_callback_of_opposes hb ⟨r, hl, Bool.eq_false_iff.2 ?_⟩
      intro hm
      obtain hm | hm := (Reservations.answeredBy_iff ht).1 hm
      · cases hm
      · exact hu (Option.some.inj hm)

def departure : List Event := [
  .call .opening (.accountCreated ⟨1⟩),
  .fund ⟨⟨1⟩, 1000, 0, 0⟩,
  .call .opening (.purchase ⟨7⟩ ⟨1, ⟨20⟩, none⟩),
  .call .opening (.move ⟨7⟩ ⟨⟨1⟩, 1, 3⟩)]

theorem custody_of_departure : (kiosk.renewed 1).FreshAssetIds departure ∧
    (((kiosk.renewed 1).after departure).step (.sweep 299999)).reservations.entries.get? ⟨1⟩ =
      some ⟨⟨7⟩, some ⟨.ofNat 1⟩, 300000⟩ := by
  have hfresh : (kiosk.renewed 1).FreshAssetIds departure := by decide
  have hr : ((kiosk.renewed 1).after departure).reservations.entries.get? ⟨1⟩ =
      some ⟨⟨7⟩, some ⟨.ofNat 1⟩, 300000⟩ := by decide
  refine ⟨hfresh, ((custody_of_item_in_flight kiosk 1 hfresh hr rfl).1 (.sweep 299999) ?_ ?_ ?_).1⟩
  · rintro now ⟨⟩
    decide
  · rintro ⟨amb, c, u, hc, -⟩
    cases hc
  · rintro ⟨acc, ⟨amb, hc⟩, -⟩
    cases hc

end Service

end CashShop

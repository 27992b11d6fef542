import CashShop.Proofs.Commit
import CashShop.Proofs.Hold
import CashShop.Session

namespace CashShop

theorem Instant.isDated_of_addDays? {t e : Instant} {days : Int} (h : t.addDays? days = some e) : e.IsDated :=
  (addDays?_eq_some_iff.1 h).2

/-- What is reserved at this reading of the clock expires at an instant that has a date. -/
def Settings.LeavesDate (c : Settings) (now : Instant) : Prop :=
  now.IsDated ∧ Instant.IsDated (now + (c.reservationTtlSeconds * 1000 : Nat))

theorem Settings.LeavesDate.ttl_le {c : Settings} {now : Instant} (h : c.LeavesDate now) :
    (c.reservationTtlSeconds * 1000 : Nat) ≤ Int64.maxValue.toInt := by
  calc ((c.reservationTtlSeconds * 1000 : Nat) : Int)
      = now + (c.reservationTtlSeconds * 1000 : Nat) - now := by omega
    _ ≤ Instant.latest - Instant.earliest := Int.sub_le_sub h.2.2 h.1.1
    _ ≤ Int64.maxValue.toInt := by decide

namespace Reservations

def Dated (rs : Reservations) : Prop := ∀ i r, rs.entries.get? i = some r → r.expiresAt.IsDated

variable {rs : Reservations} {i : ItemId} {now : Instant}

theorem ttl_ofTtl {ms : Nat} (h : ms ≤ Int64.maxValue.toInt) : (ofTtl ms).ttl = ms := if_pos h

theorem Dated.release (h : rs.Dated) (i : ItemId) : (rs.release i).Dated := by
  intro j r hj
  rw [get?_release] at hj
  split at hj
  · cases hj
  · exact h j r hj

theorem Dated.enter (h : rs.Dated) (hnow : (now + rs.ttl).IsDated) (i : ItemId) (b : CharacterId)
    (t : Option TransactionId) : (rs.enter i b t now).Dated := by
  intro j r hj
  rw [get?_enter] at hj
  split at hj
  · cases hj
    exact hnow
  · exact h j r hj

theorem Dated.isReserved (h : rs.Dated) (i : ItemId) (now : Instant) : (rs.isReserved i now).2.Dated := by
  unfold Reservations.isReserved
  split
  · exact h
  · exact h.release i

theorem Dated.releaseMatching (h : rs.Dated) (i : ItemId) (t : Option TransactionId) (now : Instant) :
    (rs.releaseMatching i t now).2.Dated := by
  unfold Reservations.releaseMatching
  split
  · exact h.release i
  · split
    · exact h.release i
    · exact h

theorem Dated.sweep (h : rs.Dated) (now : Instant) : (rs.sweep now).2.Dated := by
  intro i r hi
  rw [get?_sweep] at hi
  exact h i r (Option.filter_eq_some_iff.1 hi).1

end Reservations

def Tables.Dated (t : Tables) : Prop := ∀ i x, t.items.get? i = some x → x.expiration.IsDated

theorem Tables.Dated.of_same {t t' : Tables} (h : t.Dated) (hi : t'.items = t.items) : t'.Dated := by
  intro i x hx
  rw [hi] at hx
  exact h i x hx

theorem Draft.dated_enterItem {d : Draft} {n : NewItem} (h : d.tables.Dated) (hn : n.expiration.IsDated) :
    (d.enterItem n).tables.Dated := by
  intro i x hx
  change (d.tables.items.insert _ _).get? i = some x at hx
  rw [Table.get?_insert] at hx
  split at hx
  · cases hx
    exact hn
  · exact h i x hx

variable {s : Service} {amb : Ambient} {c : Call} {a : Answer} {d : Draft} {e : Event}

theorem Commits.dated (h : Commits s amb c a d) (hs : s.store.tables.Dated) : d.tables.Dated := by
  cases h with
  | accountCreated _ opened =>
    have hopened := congrArg Tables.items (Draft.frame_openInventory opened).2.2
    exact hs.of_same hopened
  | accountDeleted acc =>
    have hclosed := congrArg Tables.items (Draft.frame_closeInventory ((Draft.begin s.store).dropWallet acc) acc).2.2
    have hdropped := congrArg Tables.items (Draft.frame_dropWallet (Draft.begin s.store) acc).2.2
    exact hs.of_same (hclosed.trans hdropped)
  | @purchase b o t w k cash expiration terms deliverable =>
    exact (Draft.dated_enterItem (d := Draft.begin s.store) (n := t.newItem cash expiration) hs
      (Instant.isDated_of_addDays? deliverable.dated)).of_same rfl
  | grant _ dated => exact Draft.dated_enterItem (d := Draft.begin s.store) hs (Instant.isDated_of_addDays? dated)
  | widening | acceptHeld | accept | release | moved => exact hs

namespace Service

structure Dated (s : Service) : Prop where
  items : s.store.tables.Dated
  reservations : s.reservations.Dated

theorem Claims.dated {rs : Reservations} (h : Claims s amb c rs) (hs : s.reservations.Dated)
    (hnow : (amb.now + s.reservations.ttl).IsDated) : rs.Dated := by
  cases h with
  | untouched => exact hs
  | asked => exact hs.isReserved _ _
  | taken => exact hs.enter hnow _ _ _
  | returned => exact (hs.enter hnow _ _ _).release _
  | answered => exact hs.releaseMatching _ _ _

theorem dated_call (hs : s.Dated) (hnow : (amb.now + s.reservations.ttl).IsDated) (c : Call) : (s.call amb c).2.Dated where
  items := by
    cases hr : (s.call amb c).1 with
    | error e => exact (store_call_of_error hr).symm ▸ hs.items
    | ok a =>
      obtain ⟨d, commits, hstore⟩ | ⟨-, hstore⟩ := call_cases hr
      · exact (congrArg Store.tables hstore).symm ▸ commits.dated hs.items
      · exact hstore.symm ▸ hs.items
  reservations := (claims_call s amb c).dated hs.reservations hnow

theorem dated_step_of_no_call (hc : e.call? = none) (hs : s.Dated) : (s.step e).Dated where
  items := by
    obtain ⟨-, htables | ⟨w, -, htables⟩⟩ := s.books_step_of_no_call hc
    · exact htables.symm ▸ hs.items
    · exact htables.symm ▸ hs.items.of_same rfl
  reservations := by
    obtain h | ⟨now, -, h⟩ := reservations_step_of_no_call (s := s) hc
    · exact h.symm ▸ hs.reservations
    · exact h.symm ▸ hs.reservations.sweep now

theorem dated_after {h : List Event} (hs : s.Dated)
    (hclock : ∀ e ∈ h, ∀ now, e.reading? = some now → (now + s.reservations.ttl).IsDated) : (s.after h).Dated := by
  induction h generalizing s with
  | nil => exact hs
  | cons e h ih =>
    have hstep : (s.step e).Dated := by
      cases hc : e.call? with
      | none => exact dated_step_of_no_call hc hs
      | some x =>
        rw [step_of_call? hc]
        exact dated_call hs (hclock e List.mem_cons_self _ (Event.reading?_of_call? hc)) x.2
    exact ih hstep fun x hx now hnow => s.ttl_step e ▸ hclock x (List.mem_cons_of_mem e hx) now hnow

/-- If the settings leave a date for each reading of the clock, then every instant that the service keeps has one: whatever
happens, no reservation and no item expires out of range. An item that would is not made, whatever the settings say. -/
theorem instants_have_dates (c : Config) (ask : String → Remote.Exchange) {h : List Event}
    (hclock : ∀ e ∈ h, ∀ now, e.reading? = some now → c.settings.LeavesDate now) :
    ((ofConfig c ask).after h).Dated := by
  have hempty : (ofConfig c ask).Dated := {
    items := fun _ _ hx => nomatch hx
    reservations := fun _ _ hr => nomatch hr }
  apply dated_after hempty
  intro e he now hnow
  have hdate := hclock e he now hnow
  change Instant.IsDated (now + (Reservations.ofTtl _).ttl)
  rw [Reservations.ttl_ofTtl hdate.ttl_le]
  exact hdate.2

end Service

end CashShop

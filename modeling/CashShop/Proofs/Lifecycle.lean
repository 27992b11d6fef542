import CashShop.Proofs.Reconciliation
import CashShop.Proofs.RoundTrip
import CashShop.Proofs.Tenancy
import Mathlib.Data.List.Chain

namespace CashShop

open Work

inductive Lifecycle where
  | created
  | deleted
deriving DecidableEq

namespace Lifecycle

structure Alternates (l : List Lifecycle) : Prop where
  starts : ∀ x ∈ l.head?, x = created
  turns : l.IsChain (· ≠ ·)

def due (l : List Lifecycle) : Lifecycle := if l.getLast? = some created then deleted else created

/-- What is told while something that may have been present comes to be present or not. -/
inductive Follows : List Lifecycle → Bool → Bool → Prop where
  | same (b : Bool) : Follows [] b b
  | created : Follows [.created] false true
  | deleted : Follows [.deleted] true false

structure InStep (l : List Lifecycle) (present : Bool) : Prop where
  alternates : Alternates l
  due : due l = if present then .deleted else .created

variable {l k : List Lifecycle} {x : Lifecycle} {b b' : Bool}

theorem alternates_nil : Alternates [] := ⟨by simp, .nil⟩

theorem Alternates.of_append (h : Alternates (l ++ k)) : Alternates l := by
  refine ⟨fun x hx => h.starts x ?_, h.turns.left_of_append⟩
  rw [List.head?_append, hx]
  rfl

theorem alternates_concat : Alternates (l ++ [x]) ↔ Alternates l ∧ x = due l := by
  obtain rfl | ⟨l', y, rfl⟩ := l.eq_nil_or_concat'
  · constructor
    · intro h
      exact ⟨alternates_nil, h.starts x rfl⟩
    · rintro ⟨-, rfl⟩
      exact ⟨by simp [due], .singleton _⟩
  · have hdue : x = due (l' ++ [y]) ↔ y ≠ x := by cases x <;> cases y <;> simp [due]
    rw [hdue]
    constructor
    · intro h
      exact ⟨h.of_append, (List.isChain_append.1 h.turns).2.2 y (by simp) x rfl⟩
    · rintro ⟨h, hne⟩
      refine ⟨fun z hz => h.starts z ?_, List.isChain_append.2 ⟨h.turns, .singleton x, ?_⟩⟩
      · rwa [List.head?_append_of_ne_nil _ (by simp)] at hz
      · simpa using hne

theorem InStep.follow (h : InStep l b) (hk : Follows k b b') : InStep (l ++ k) b' := by
  cases hk with
  | same => rwa [List.append_nil]
  | created => exact ⟨alternates_concat.2 ⟨h.alternates, h.due.symm⟩, by simp [Lifecycle.due]⟩
  | deleted => exact ⟨alternates_concat.2 ⟨h.alternates, h.due.symm⟩, by simp [Lifecycle.due]⟩

end Lifecycle

def WalletEvent.lifecycle? (a : AccountId) : WalletEvent → Option Lifecycle
  | created w => if w.account = a then some .created else none
  | updated _ => none
  | deleted b => if b = a then some .deleted else none

def InventoryEvent.lifecycle? (a : AccountId) : InventoryEvent → Option Lifecycle
  | created b => if b = a then some .created else none
  | deleted b => if b = a then some .deleted else none

def Topic.lifecycle? (topic : Topic) (a : AccountId) (m : Message) : Option Lifecycle :=
  match topic with
  | .walletStatus => (WalletEvent.decode m.value).toOption.bind (·.lifecycle? a)
  | .inventoryStatus => (InventoryEvent.decode m.value).toOption.bind (·.lifecycle? a)
  | _ => none

def Transport.life (t : Transport) (topic : Topic) (a : AccountId) : List Lifecycle :=
  (t.delivered topic).filterMap (topic.lifecycle? a)

def Draft.life (d : Draft) (topic : Topic) (a : AccountId) : List Lifecycle :=
  (d.outbox.batch topic).filterMap (topic.lifecycle? a)

def Topic.IsVital (topic : Topic) : Prop := topic = .walletStatus ∨ topic = .inventoryStatus

variable {s : Service} {amb : Ambient} {c : Call} {x : Answer} {d d' : Draft} {a b : AccountId} {topic : Topic}
  {e : Event} {h : List Event}

section Reading

variable {key : String}

@[simp] theorem lifecycle?_wallet (a : AccountId) (v : WalletEvent) :
    Topic.walletStatus.lifecycle? a ⟨key, v.toJson⟩ = v.lifecycle? a := by
  rw [Topic.lifecycle?, WalletEvent.decode_toJson]
  rfl

@[simp] theorem lifecycle?_inventory (a : AccountId) (v : InventoryEvent) :
    Topic.inventoryStatus.lifecycle? a ⟨key, v.toJson⟩ = v.lifecycle? a := by
  rw [Topic.lifecycle?, InventoryEvent.decode_toJson]
  rfl

end Reading

namespace Draft

theorem life_eq_of_batch (h : d'.outbox.batch topic = d.outbox.batch topic) (a : AccountId) :
    d'.life topic a = d.life topic a := by
  rw [life, h, life]

theorem life_put (d : Draft) (u : Topic) (m : Message) (topic : Topic) (a : AccountId) :
    (d.put u m).life topic a = d.life topic a ++ if u = topic then (topic.lifecycle? a m).toList else [] := by
  rw [life, batch_put, List.filterMap_append, life]
  congr 1
  split
  · cases hm : topic.lifecycle? a m <;> simp [hm]
  · rfl

theorem life_put_other (d : Draft) {u : Topic} (m : Message) (hu : u ≠ topic) (a : AccountId) :
    (d.put u m).life topic a = d.life topic a := by
  rw [life_put, if_neg hu, List.append_nil]

theorem life_setWallet (d : Draft) (w : Wallet) (a : AccountId) : (d.setWallet w).life topic a = d.life topic a := by
  by_cases ht : topic = .walletStatus
  · rw [ht, setWallet, life_put, lifecycle?_wallet]
    exact List.append_nil _
  · exact life_put_other _ _ (Ne.symm ht) a

theorem life_openInventory (ht : topic.IsVital) {capacity : UInt32} {id : ClassLine → CompartmentId}
    (h : d.openInventory b capacity id = .ok d') (a : AccountId) : d'.life topic a = d.life topic a := by
  refine life_eq_of_batch (batch_foldlM_open ?_ h) a
  obtain rfl | rfl := ht <;> decide

theorem life_closeInventory (ht : topic.IsVital) (d : Draft) (b a : AccountId) :
    (d.closeInventory b).life topic a = d.life topic a := by
  refine life_eq_of_batch (batch_foldl_close ?_ _ d) a
  obtain rfl | rfl := ht <;> decide

theorem life_dropWallet (d : Draft) (b a : AccountId) : (d.dropWallet b).life .walletStatus a =
    d.life .walletStatus a ++ if d.tables.wallets.contains b = true ∧ b = a then [.deleted] else [] := by
  unfold dropWallet
  cases hc : d.tables.wallets.contains b with
  | false => simp [life]
  | true =>
    rw [if_pos rfl, life_put, if_pos rfl, lifecycle?_wallet, WalletEvent.lifecycle?]
    by_cases hb : b = a <;> simp [hb, life]

end Draft

namespace Commits

theorem life_accountCreated (ht : topic.IsVital) {capacity : UInt32} {id : ClassLine → CompartmentId}
    (opened : ((Draft.begin s.store).enterWallet (.empty b)).openInventory b capacity id = .ok d) (a : AccountId) :
    (d.put .inventoryStatus ⟨toString b, (InventoryEvent.created b).toJson⟩).life topic a =
      if b = a then [.created] else [] := by
  have hbegin : (Draft.begin s.store).life topic a = [] := rfl
  have hentered := Draft.life_put (Draft.begin s.store) .walletStatus
    ⟨toString b, (WalletEvent.created (.empty b)).toJson⟩ topic a
  rw [hbegin, List.nil_append] at hentered
  have hopened : d.life topic a = _ := (Draft.life_openInventory ht opened a).trans hentered
  rw [Draft.life_put, hopened]
  obtain rfl | rfl := ht
  · by_cases hb : b = a <;> simp [WalletEvent.lifecycle?, Wallet.empty, hb]
  · by_cases hb : b = a <;> simp [InventoryEvent.lifecycle?, hb]

theorem life_eq_nil (h : Commits s amb c x d) (ht : topic.IsVital) (hcreated : ∀ b, c ≠ .accountCreated b)
    (hdeleted : ∀ b, c ≠ .accountDeleted b) (a : AccountId) : d.life topic a = [] := by
  have hbegin : (Draft.begin s.store).life topic a = [] := rfl
  have hother {u : Topic} (hu : ¬ u.IsVital) (d : Draft) (m : Message) : (d.put u m).life topic a = d.life topic a :=
    d.life_put_other m (by rintro rfl; exact hu ht) a
  cases h with
  | @accountCreated b => exact absurd rfl (hcreated b)
  | accountDeleted b => exact absurd rfl (hdeleted b)
  | purchase =>
    rw [Purchase.delivered, hother (by simp [Topic.IsVital])]
    change Draft.life (Draft.enterItem _ _) topic a = []
    rw [Draft.enterItem, hother (by simp [Topic.IsVital])]
    exact (Draft.life_setWallet _ _ a).trans hbegin
  | widening =>
    rw [Widening.requested, hother (by simp [Topic.IsVital]), hother (by simp [Topic.IsVital]), Draft.life_setWallet,
      hbegin]
  | grant => exact (hother (by simp [Topic.IsVital]) _ _).trans hbegin
  | acceptHeld | accept | release | moved => exact (hother (by simp [Topic.IsVital]) _ _).trans hbegin

theorem life_wallet_accountDeleted (s : Service) (b a : AccountId) :
    ((((Draft.begin s.store).dropWallet b).closeInventory b).put .inventoryStatus
      ⟨toString b, (InventoryEvent.deleted b).toJson⟩).life .walletStatus a =
        if s.store.tables.wallets.contains b = true ∧ b = a then [.deleted] else [] := by
  rw [Draft.life_put_other _ _ (by decide), Draft.life_closeInventory (.inl rfl), Draft.life_dropWallet]
  rfl

theorem life_inventory_accountDeleted (s : Service) (b a : AccountId) :
    ((((Draft.begin s.store).dropWallet b).closeInventory b).put .inventoryStatus
      ⟨toString b, (InventoryEvent.deleted b).toJson⟩).life .inventoryStatus a =
        if b = a then [.deleted] else [] := by
  have hdropped : ((Draft.begin s.store).dropWallet b).life .inventoryStatus a = [] :=
    Draft.life_eq_of_batch (Draft.batch_dropWallet (by decide) _ b) a
  rw [Draft.life_put, if_pos rfl, Draft.life_closeInventory (.inr rfl), hdropped, lifecycle?_inventory,
    InventoryEvent.lifecycle?]
  by_cases hb : b = a <;> simp [hb]

theorem contains (h : Commits s amb c x d) (hcreated : ∀ b, c ≠ .accountCreated b)
    (hdeleted : ∀ b, c ≠ .accountDeleted b) (a : AccountId) :
    d.tables.wallets.contains a = s.store.tables.wallets.contains a := by
  cases h with
  | @accountCreated b => exact absurd rfl (hcreated b)
  | accountDeleted b => exact absurd rfl (hdeleted b)
  | purchase _ deliverable =>
    exact Table.contains_insert_of_contains _ (by rw [Wallet.account_spend]; exact deliverable.known) a
  | widening _ _ _ feasible =>
    exact Table.contains_insert_of_contains _ (by rw [Wallet.account_spend]; exact feasible.known) a
  | grant | acceptHeld | accept | release | moved => rfl

end Commits

namespace Transport

variable {t t' : Transport}

theorem life_of_carried {ps : List Publication} (h : t'.carried = t.carried ++ ps) (topic : Topic) (a : AccountId) :
    t'.life topic a = t.life topic a ++ (Outbox.batch ⟨heard ps⟩ topic).filterMap (topic.lifecycle? a) := by
  rw [life, delivered_of_carried h, List.filterMap_append, life]

theorem life_of_publications (h : t'.carried = t.carried ++ d.outbox.publications) (topic : Topic) (a : AccountId) :
    t'.life topic a = t.life topic a ++ d.life topic a := by
  rw [life_of_carried h, Outbox.batch_heard, Draft.life]

theorem life_of_asides {ps : List Publication} (h : t'.carried = t.carried ++ ps)
    (hps : ∀ m ∈ heard ps, IsAside m.1 m.2) (ht : topic.IsVital) (a : AccountId) : t'.life topic a = t.life topic a := by
  have hnone : Outbox.batch ⟨heard ps⟩ topic = [] := by
    simp only [Outbox.batch, List.map_eq_nil_iff, List.filter_eq_nil_iff, decide_eq_true_eq]
    rintro ⟨u, m⟩ hm rfl
    have haside := hps _ hm
    obtain rfl | rfl := ht
    · cases haside with
      | error error => cases error
    · cases haside with
      | error error => cases error
  rw [life_of_carried h, hnone, List.filterMap_nil, List.append_nil]

end Transport

namespace Service

/-- The event deletes the account, although it has no wallet, and the deletion is committed. -/
def DeletesNothing (s : Service) (a : AccountId) (e : Event) : Prop :=
  e.Deletes a ∧ .commit ∉ s.store.faults ∧ s.store.tables.wallets.get? a = none

instance (s : Service) (a : AccountId) (e : Event) : Decidable (s.DeletesNothing a e) :=
  have : Decidable (e.Deletes a) :=
    decidable_of_iff (e.call?.map (·.2) = some (.accountDeleted a)) (by simp [Event.Deletes])
  inferInstanceAs (Decidable (_ ∧ _ ∧ _))

/-- What the event makes known of the life of the account. Its wallet and its inventory are told of alike, unless the
event deletes nothing. -/
structure Reveals (s : Service) (a : AccountId) (e : Event) (k : List Lifecycle) : Prop where
  wallet : (s.step e).transport.life .walletStatus a = s.transport.life .walletStatus a ++ k
  inventory : ¬ s.DeletesNothing a e →
    (s.step e).transport.life .inventoryStatus a = s.transport.life .inventoryStatus a ++ k
  stray : s.DeletesNothing a e →
    (s.step e).transport.life .inventoryStatus a = s.transport.life .inventoryStatus a ++ [.deleted]
  follows : Lifecycle.Follows k (s.store.tables.wallets.contains a) ((s.step e).store.tables.wallets.contains a)

theorem reveals_nothing (hlife : ∀ topic : Topic, topic.IsVital →
      (s.step e).transport.life topic a = s.transport.life topic a)
    (hpresent : (s.step e).store.tables.wallets.contains a = s.store.tables.wallets.contains a)
    (hnot : ¬ s.DeletesNothing a e) : s.Reveals a e [] where
  wallet := by rw [hlife _ (.inl rfl), List.append_nil]
  inventory _ := by rw [hlife _ (.inr rfl), List.append_nil]
  stray h := absurd h hnot
  follows := by
    rw [hpresent]
    exact .same _

theorem call_accountDeleted_of_fault (hf : .commit ∈ s.store.faults) :
    s.call amb (.accountDeleted b) = (.error (.internal (.injected .commit)), s.count .workflowErrors) := by
  have hbase := (.accountDeleted b : Commits s amb _ _ _).base
  rw [call, accountDeleted, run_of_commit_fault (AccountId.yields_deleteHoldings (u := ()).2 rfl) rfl (by rwa [hbase])]
  rfl

theorem reveals_accountDeleted (hbus : s.transport.Works) (hc : e.call? = some (amb, .accountDeleted b))
    (a : AccountId) : ∃ k, s.Reveals a e k := by
  have hdeletes : e.Deletes a ↔ b = a := by simp [Event.Deletes, hc]
  by_cases hf : FaultPoint.commit ∈ s.store.faults
  · have hstep : s.step e = s.count .workflowErrors := by rw [step_of_call? hc, call_accountDeleted_of_fault hf]
    exact ⟨[], reveals_nothing (fun _ _ => by rw [hstep]; rfl) (by rw [hstep]; rfl) fun h => h.2.1 hf⟩
  have hok : (s.call amb (.accountDeleted b)).1 = .ok .deleted := by
    obtain ⟨d, -, hcall⟩ := call_accountDeleted_of_faultless amb b hf
    rw [hcall]
  obtain ⟨d, commits, hstore, htransport⟩ := committed_of_done hok rfl (by simp) (by simp)
  cases commits
  have hlife (topic : Topic) := Transport.life_of_publications (a := a)
    (htransport ▸ Transport.carried_flush hbus _) topic
  have hwallets : (s.call amb (.accountDeleted b)).2.store.tables.wallets = s.store.tables.wallets.erase b := by
    rw [hstore]
    change (((Draft.begin s.store).dropWallet b).closeInventory b).tables.wallets = _
    rw [(Draft.frame_closeInventory _ b).2.2, (Draft.frame_dropWallet _ b).2.2]
    rfl
  rw [← step_of_call? hc] at hlife hwallets
  have hwallet := hlife .walletStatus
  have hinventory := hlife .inventoryStatus
  rw [Commits.life_wallet_accountDeleted] at hwallet
  rw [Commits.life_inventory_accountDeleted] at hinventory
  by_cases hb : b = a
  · subst hb
    have hgone : (s.step e).store.tables.wallets.contains b = false := by
      rw [hwallets, Table.contains, Table.get?_erase, if_pos rfl]
      rfl
    cases hpresent : s.store.tables.wallets.contains b with
    | true =>
      refine ⟨[.deleted], ?_, fun _ => ?_, fun _ => ?_, ?_⟩
      · simpa [hpresent] using hwallet
      · simpa using hinventory
      · simpa using hinventory
      · rw [hpresent, hgone]
        exact .deleted
    | false =>
      have hnothing : s.DeletesNothing b e := ⟨hdeletes.2 rfl, hf, by simpa [Table.contains] using hpresent⟩
      refine ⟨[], ?_, absurd hnothing, fun _ => ?_, ?_⟩
      · simpa [hpresent] using hwallet
      · simpa using hinventory
      · rw [hpresent, hgone]
        exact .same _
  · refine ⟨[], reveals_nothing ?_ ?_ fun h => hb (hdeletes.1 h.1)⟩
    · rintro topic (rfl | rfl)
      · simpa [hb] using hwallet
      · simpa [hb] using hinventory
    · rw [hwallets, Table.contains, Table.get?_erase, if_neg (Ne.symm hb), Table.contains]

theorem reveals_call (hbus : s.transport.Works) (hc : e.call? = some (amb, c)) (hdeleted : ∀ b, c ≠ .accountDeleted b)
    (a : AccountId) : ∃ k, s.Reveals a e k := by
  have hnot : ¬ s.DeletesNothing a e := by
    rintro ⟨⟨amb', hc'⟩, -⟩
    cases hc.symm.trans hc'
    exact hdeleted a rfl
  obtain ⟨ps, hannounces, hcarried⟩ := call_announces hbus amb c
  rw [← step_of_call? hc] at hannounces hcarried
  cases hannounces with
  | aside store asides =>
    exact ⟨[], reveals_nothing (fun _ ht => Transport.life_of_asides hcarried asides ht a) (by rw [store]) hnot⟩
  | @committed _ d commits store =>
    have hlife (topic : Topic) := Transport.life_of_publications (a := a) hcarried topic
    by_cases hcreated : ∃ b, c = .accountCreated b
    · obtain ⟨b, rfl⟩ := hcreated
      cases commits with
      | @accountCreated _ d fresh opened =>
        have hwallets : (s.step e).store.tables.wallets = s.store.tables.wallets.insert b (.empty b) := by
          rw [store]
          exact congrArg Tables.wallets (Draft.frame_openInventory opened).2.2
        have hlife (topic : Topic) (ht : topic.IsVital) := Commits.life_accountCreated ht opened a ▸ hlife topic
        by_cases hb : b = a
        · subst hb
          simp only [if_pos] at hlife
          refine ⟨[.created], hlife _ (.inl rfl), fun _ => hlife _ (.inr rfl), fun h => absurd h hnot, ?_⟩
          rw [hwallets, Table.contains, fresh, Table.contains, Table.get?_insert, if_pos rfl]
          exact .created
        · refine ⟨[], reveals_nothing (fun topic ht => ?_) ?_ hnot⟩
          · simpa [hb] using hlife topic ht
          · rw [hwallets, Table.contains, Table.get?_insert, if_neg (Ne.symm hb), Table.contains]
      | widening asked => cases asked
    · have hcreated : ∀ b, c ≠ .accountCreated b := fun b hb => hcreated ⟨b, hb⟩
      refine ⟨[], reveals_nothing (fun topic ht => ?_) ?_ hnot⟩
      · rw [hlife, commits.life_eq_nil ht hcreated hdeleted, List.append_nil]
      · rw [store]
        exact commits.contains hcreated hdeleted a

theorem reveals_step (hbus : s.transport.Works) (e : Event) (a : AccountId) : ∃ k, s.Reveals a e k := by
  cases hc : e.call? with
  | none =>
    refine ⟨[], reveals_nothing (fun topic _ => ?_) (contains_step_of_no_call hc a) ?_⟩
    · rw [Transport.life, delivered_step_of_no_call hc, Transport.life]
    · rintro ⟨⟨amb, hc'⟩, -⟩
      cases hc.symm.trans hc'
  | some r =>
    obtain ⟨amb, c⟩ := r
    by_cases hdeleted : ∃ b, c = .accountDeleted b
    · obtain ⟨b, rfl⟩ := hdeleted
      exact reveals_accountDeleted hbus hc a
    · exact reveals_call hbus hc (fun b hb => hdeleted ⟨b, hb⟩) a

/-- The wallet announcements of the account are in step with its wallet. -/
def WalletInStep (s : Service) (a : AccountId) : Prop :=
  Lifecycle.InStep (s.transport.life .walletStatus a) (s.store.tables.wallets.contains a)

theorem Reveals.walletInStep {k : List Lifecycle} (hr : s.Reveals a e k) (hs : s.WalletInStep a) :
    (s.step e).WalletInStep a := by
  rw [WalletInStep, hr.wallet]
  exact Lifecycle.InStep.follow hs hr.follows

theorem walletInStep_after (hbus : s.NeverRefused h) (hs : s.WalletInStep a) : (s.after h).WalletInStep a := by
  refine Throughout.after (P := fun u => u.WalletInStep a) hbus (fun u e _ hu hs => ?_) hs
  obtain ⟨k, hr⟩ := reveals_step hu e a
  exact hr.walletInStep hs

theorem life_inventory_after (hbus : s.NeverRefused h) (a : AccountId) :
    ∃ k, (s.after h).transport.life .inventoryStatus a = s.transport.life .inventoryStatus a ++ k := by
  induction h generalizing s with
  | nil => exact ⟨[], (List.append_nil _).symm⟩
  | cons e h ih =>
    obtain ⟨k, hk⟩ := ih hbus.2
    obtain ⟨k', hr⟩ := reveals_step hbus.1 e a
    by_cases hnothing : s.DeletesNothing a e
    · exact ⟨_, by rw [after_cons, hk, hr.stray hnothing, List.append_assoc]⟩
    · exact ⟨_, by rw [after_cons, hk, hr.inventory hnothing, List.append_assoc]⟩

/-- A whole run: as long as nothing is deleted that is not there, the inventory is told of as the wallet is, and the
first time that it is, the inventory is out of step for good. -/
theorem inventory_alternates_after_iff (hbus : s.NeverRefused h) (hs : s.WalletInStep a)
    (hsame : s.transport.life .inventoryStatus a = s.transport.life .walletStatus a) :
    Lifecycle.Alternates ((s.after h).transport.life .inventoryStatus a) ↔
      s.Throughout (fun u e => ¬ u.DeletesNothing a e) h := by
  induction h generalizing s with
  | nil =>
    rw [after_nil, hsame]
    exact iff_of_true hs.alternates trivial
  | cons e h ih =>
    obtain ⟨k, hr⟩ := reveals_step hbus.1 e a
    by_cases hnothing : s.DeletesNothing a e
    · refine iff_of_false (fun halternates => ?_) fun hnone => hnone.1 hnothing
      obtain ⟨k', hk'⟩ := life_inventory_after hbus.2 a
      rw [after_cons, hk', hr.stray hnothing, hsame] at halternates
      have hdue := (Lifecycle.alternates_concat.1 halternates.of_append).2
      rw [hs.due, Table.contains, hnothing.2.2] at hdue
      cases hdue
    · have hsame' : (s.step e).transport.life .inventoryStatus a = (s.step e).transport.life .walletStatus a := by
        rw [hr.inventory hnothing, hr.wallet, hsame]
      exact (ih hbus.2 (hr.walletInStep hs) hsame').trans (and_iff_right hnothing).symm

/-- From an empty store, whatever happens on a bus that refuses nothing: what is told of the wallet of an account are
creations and deletions in turn. What is told of its inventory are, too, exactly if it has never been deleted without
being there. -/
theorem inventory_alternates_iff (s : Service) (n : Nat) {h : List Event} (hbus : (s.opened n).NeverRefused h)
    (a : AccountId) : Lifecycle.Alternates (((s.opened n).after h).transport.life .walletStatus a) ∧
      (Lifecycle.Alternates (((s.opened n).after h).transport.life .inventoryStatus a) ↔
        (s.opened n).Throughout (fun u e => ¬ u.DeletesNothing a e) h) := by
  have hs : (s.opened n).WalletInStep a := ⟨Lifecycle.alternates_nil, rfl⟩
  exact ⟨(walletInStep_after hbus hs).alternates, inventory_alternates_after_iff hbus hs rfl⟩

def hearOf (status : AccountStatus) : Event :=
  .message .opening .accountStatus ⟨"1", (AccountEvent.mk ⟨1⟩ (some "a") status).toJson⟩

theorem inventory_alternates_iff_renewal :
    let renewal : List Event := [hearOf .created, hearOf .created, hearOf .deleted, hearOf .created]
    (kiosk.opened 1).NeverRefused renewal ∧
      (kiosk.opened 1).Throughout (fun u e => ¬ u.DeletesNothing ⟨1⟩ e) renewal ∧
      Lifecycle.Alternates (((kiosk.opened 1).after renewal).transport.life .inventoryStatus ⟨1⟩) := by
  intro renewal
  have hbus : (kiosk.opened 1).NeverRefused renewal := by decide
  have hnone : (kiosk.opened 1).Throughout (fun u e => ¬ u.DeletesNothing ⟨1⟩ e) renewal := by decide
  exact ⟨hbus, hnone, (inventory_alternates_iff kiosk 1 hbus ⟨1⟩).2.2 hnone⟩

theorem not_alternates_redelivered :
    let redelivered : List Event := [hearOf .created, hearOf .created, hearOf .deleted, hearOf .deleted]
    (kiosk.opened 1).NeverRefused redelivered ∧
      ((kiosk.opened 1).after redelivered).transport.life .walletStatus ⟨1⟩ = [.created, .deleted] ∧
      ((kiosk.opened 1).after redelivered).transport.life .inventoryStatus ⟨1⟩ = [.created, .deleted, .deleted] ∧
      ¬ Lifecycle.Alternates (((kiosk.opened 1).after redelivered).transport.life .inventoryStatus ⟨1⟩) := by
  intro redelivered
  have hlife : ((kiosk.opened 1).after redelivered).transport.life .inventoryStatus ⟨1⟩ =
      [.created, .deleted, .deleted] := by decide
  refine ⟨by decide, by decide, hlife, ?_⟩
  rw [hlife]
  intro h
  exact absurd h.turns (by decide)

end Service

end CashShop

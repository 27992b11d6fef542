import CashShop.Proofs.Conservation
import CashShop.Proofs.Occupancy
import CashShop.Proofs.TransferCall

namespace CashShop

open Work

namespace Tables

def linesOf (t : Tables) (a : AccountId) : List ClassLine :=
  (t.compartments.values.filter (·.account = a)).map (·.line)

/-- Compartments stand under their own ids, and the accounts with a wallet are those with compartments, one for each
class line. -/
structure Furnished (t : Tables) : Prop where
  filed : ∀ c k, t.compartments.get? c = some k → k.id = c
  lines : ∀ a, (t.linesOf a).Perm (if t.wallets.contains a then ClassLine.all else [])

theorem Furnished.of_eq {t t' : Tables} (h : t.Furnished) (hk : t'.compartments = t.compartments)
    (hw : ∀ a, t'.wallets.contains a = t.wallets.contains a) : t'.Furnished := by
  constructor
  · rw [hk]
    exact h.filed
  · intro a
    rw [hw, linesOf, hk]
    exact h.lines a

theorem furnished_empty : Tables.empty.Furnished :=
  ⟨fun _ k h => (Option.some_ne_none k h.symm).elim, fun _ => .refl _⟩

/-- An account has three compartments, one for each class line, exactly if it has a wallet; every record stands under
its own id, and every asset lies in a compartment that exists. -/
structure Shaped (t : Tables) : Prop where
  wallets : t.OwnWallets
  compartments : ∀ c k, t.compartments.get? c = some k → k.id = c
  accounts : ∀ a, (t.wallets.get? a).isSome = true ∧ (t.linesOf a).Perm [.explorer, .cygnus, .legend] ∨
    t.wallets.get? a = none ∧ ∀ c k, t.compartments.get? c = some k → k.account ≠ a
  assets : ∀ x ∈ t.assets, (t.compartments.get? x.compartment).isSome = true

theorem linesOf_eq_nil_iff {t : Tables} {a : AccountId} :
    t.linesOf a = [] ↔ ∀ c k, t.compartments.get? c = some k → k.account ≠ a := by
  simp only [linesOf, List.map_eq_nil_iff, List.filter_eq_nil_iff, Table.mem_values_iff, decide_eq_true_eq]
  constructor
  · exact fun h c k hk => h k ⟨c, hk⟩
  · rintro h k ⟨c, hk⟩
    exact h c k hk

theorem linesOf_of_filter {t t' : Tables} {a : AccountId}
    (h : t'.compartments = t.compartments.filter fun _ k => k.account ≠ a) (b : AccountId) :
    t'.linesOf b = if b = a then [] else t.linesOf b := by
  rw [linesOf, h, Table.values_filter, List.filter_filter]
  by_cases hb : b = a
  · simp [hb]
  · have hkeep (k : Compartment) : (decide (k.account = b) && decide (k.account ≠ a)) = decide (k.account = b) := by
      by_cases hk : k.account = b <;> simp [hk, hb]
    rw [if_neg hb, linesOf, funext hkeep]

theorem Furnished.shaped {t : Tables} (h : t.Furnished) (own : t.OwnWallets) (hfit : Fit t.compartments t.assets) :
    t.Shaped := by
  refine ⟨own, h.filed, fun a => ?_, hfit.housed⟩
  have hlines := h.lines a
  unfold Table.contains at hlines
  cases hw : t.wallets.get? a with
  | some w =>
    rw [hw] at hlines
    exact .inl ⟨rfl, hlines⟩
  | none =>
    rw [hw] at hlines
    exact .inr ⟨rfl, linesOf_eq_nil_iff.1 hlines.eq_nil⟩

end Tables

namespace Draft

variable {d d' : Draft} {a : AccountId} {ls : List ClassLine} {k : ClassLine → Compartment}

theorem perm_values_foldlM_open (h : ls.foldlM (fun d l => d.openCompartment (k l)) d = .ok d')
    (hids : (ls.map fun l => (k l).id).Nodup) (hfree : ∀ l ∈ ls, d.tables.compartments.get? (k l).id = none) :
    d'.tables.compartments.values.Perm (ls.map k ++ d.tables.compartments.values) := by
  induction ls generalizing d with
  | nil =>
    cases h
    exact .refl _
  | cons l ls ih =>
    simp only [List.foldlM_cons, bind, Except.bind] at h
    split at h
    · cases h
    · rename_i d1 h1
      obtain ⟨-, rfl⟩ := openCompartment_eq_ok.1 h1
      obtain ⟨hl, hls⟩ := List.nodup_cons.1 hids
      refine (ih h hls fun l' hl' => ?_).trans ?_
      · have hne : (k l').id ≠ (k l).id := fun he => hl (List.mem_map.2 ⟨l', hl', he⟩)
        simpa [hne] using hfree l' (List.mem_cons_of_mem l hl')
      · exact ((Table.perm_values_insert (k l) (hfree l List.mem_cons_self)).append_left _).trans List.perm_middle

/-- The account gets a compartment for each of the class lines, and no other account any. -/
theorem perm_linesOf_foldlM_open (h : ls.foldlM (fun d l => d.openCompartment (k l)) d = .ok d')
    (hk : ∀ l, (k l).account = a ∧ (k l).line = l) (hids : (ls.map fun l => (k l).id).Nodup)
    (hfree : ∀ l ∈ ls, d.tables.compartments.get? (k l).id = none) (b : AccountId) :
    (d'.tables.linesOf b).Perm ((if b = a then ls else []) ++ d.tables.linesOf b) := by
  have hnew : ((ls.map k).filter (·.account = b)).map (·.line) = if b = a then ls else [] := by
    by_cases hb : b = a
    · simp [List.filter_map, Function.comp_def, hk, hb]
    · simp [List.filter_map, Function.comp_def, hk, Ne.symm hb, hb]
  refine (((perm_values_foldlM_open h hids hfree).filter (·.account = b)).map fun x => x.line).trans (.of_eq ?_)
  rw [List.filter_append, List.map_append, hnew]
  rfl

theorem filed_foldlM_open (h : ls.foldlM (fun d l => d.openCompartment (k l)) d = .ok d')
    (hd : ∀ c x, d.tables.compartments.get? c = some x → x.id = c) :
    ∀ c x, d'.tables.compartments.get? c = some x → x.id = c := by
  refine foldlM_open_induction (P := fun d => ∀ c x, d.tables.compartments.get? c = some x → x.id = c) h hd ?_
  intro l d1 d2 ho ih c x hx
  obtain ⟨-, rfl⟩ := openCompartment_eq_ok.1 ho
  by_cases hc : c = (k l).id
  · obtain rfl : k l = x := by simpa [hc] using hx
    exact hc.symm
  · exact ih c x (by simpa [hc] using hx)

/-- Compartments of different class lines do not stand in each other's way, under whatever ids they are opened. -/
theorem exists_foldlM_open (hk : ∀ l, (k l).account = a ∧ (k l).line = l) (hls : ls.Nodup)
    (hfree : ∀ l ∈ ls, d.compartmentOf? a l = none) :
    ∃ d', ls.foldlM (fun d l => d.openCompartment (k l)) d = .ok d' := by
  induction ls generalizing d with
  | nil => exact ⟨d, rfl⟩
  | cons l ls ih =>
    obtain ⟨hl, hls⟩ := List.nodup_cons.1 hls
    have ho : d.openCompartment (k l) = .ok _ :=
      openCompartment_eq_ok.2 ⟨by rw [(hk l).1, (hk l).2]; exact hfree l List.mem_cons_self, rfl⟩
    rw [List.foldlM_cons, ho]
    refine ih hls fun l' hl' => ?_
    simp only [compartmentOf?, tables_put, List.find?_eq_none] at hfree ⊢
    intro x hx
    obtain rfl | hx := Table.mem_values_insert hx
    · have hne : l ≠ l' := fun he => hl (he ▸ hl')
      simp [(hk l).2, hne]
    · exact hfree l' (List.mem_cons_of_mem l hl') x hx

theorem compartmentOf?_eq_none (h : d.tables.linesOf a = []) (l : ClassLine) : d.compartmentOf? a l = none := by
  rw [compartmentOf?, List.find?_eq_none]
  intro x hx
  obtain ⟨c, hc⟩ := Table.mem_values_iff.1 hx
  simp [Tables.linesOf_eq_nil_iff.1 h c x hc]

theorem mem_compartmentsOf_iff (hd : ∀ c x, d.tables.compartments.get? c = some x → x.id = c) {c : CompartmentId} :
    c ∈ (d.compartmentsOf a).map (·.id) ↔ ∃ x, d.tables.compartments.get? c = some x ∧ x.account = a := by
  simp only [compartmentsOf, List.mem_map, List.mem_filter, Table.mem_values_iff, decide_eq_true_eq]
  constructor
  · rintro ⟨x, ⟨⟨c', hx⟩, ha⟩, rfl⟩
    exact ⟨x, hd c' x hx ▸ hx, ha⟩
  · rintro ⟨x, hx, ha⟩
    exact ⟨x, ⟨⟨c, hx⟩, ha⟩, hd c x hx⟩

theorem compartments_closeInventory (hd : ∀ c x, d.tables.compartments.get? c = some x → x.id = c) (a : AccountId) :
    (d.closeInventory a).tables.compartments = d.tables.compartments.filter fun _ x => x.account ≠ a := by
  rw [(frame_closeInventory d a).2.2]
  refine Table.ext_get? fun c => ?_
  simp only [get?_foldl_erase, Table.get?_filter, mem_compartmentsOf_iff hd]
  cases d.tables.compartments.get? c with
  | none => simp
  | some x => by_cases ha : x.account = a <;> simp [ha, Option.filter]

theorem linesOf_closeInventory (hd : ∀ c x, d.tables.compartments.get? c = some x → x.id = c) (a b : AccountId) :
    (d.closeInventory a).tables.linesOf b = if b = a then [] else d.tables.linesOf b :=
  Tables.linesOf_of_filter (compartments_closeInventory hd a) b

end Draft

variable {s : Service} {amb : Ambient} {c : Call} {a : Answer} {d : Draft} {e : Event} {acc : AccountId}

theorem Commits.furnished (h : Commits s amb c a d) (hf : s.store.tables.Furnished)
    (hfresh : ∀ acc, c = .accountCreated acc → s.store.tables.wallets.get? acc = none →
      (ClassLine.all.map amb.compartment).Nodup ∧
        ∀ l ∈ ClassLine.all, s.store.tables.compartments.get? (amb.compartment l) = none) :
    d.tables.Furnished := by
  cases h with
  | @accountCreated acc d fresh opened =>
    obtain ⟨hids, hfree⟩ := hfresh acc rfl fresh
    have hwallets : d.tables.wallets = s.store.tables.wallets.insert acc (.empty acc) := by
      rw [(Draft.frame_openInventory opened).2.2]
      rfl
    rw [Draft.openInventory] at opened
    have hfiled : ∀ c x, d.tables.compartments.get? c = some x → x.id = c := Draft.filed_foldlM_open opened hf.filed
    refine ⟨hfiled, fun b => ?_⟩
    have hlines : (d.tables.linesOf b).Perm ((if b = acc then ClassLine.all else []) ++ s.store.tables.linesOf b) :=
      Draft.perm_linesOf_foldlM_open opened (fun l => ⟨rfl, rfl⟩) hids hfree b
    refine hlines.trans ?_
    have hold := hf.lines b
    rw [Draft.tables_put, hwallets, Table.contains, Table.get?_insert]
    by_cases hb : b = acc
    · subst hb
      have hnone : s.store.tables.linesOf b = [] := by simpa [Table.contains, fresh] using hold
      simp [hnone]
    · rw [if_neg hb, if_neg hb]
      exact hold
  | accountDeleted acc =>
    have hd := (Draft.frame_dropWallet (Draft.begin s.store) acc).2.2
    have hfiled : ∀ c x, ((Draft.begin s.store).dropWallet acc).tables.compartments.get? c = some x → x.id = c := by
      rw [hd]
      exact hf.filed
    have hlines (b : AccountId) : ((Draft.begin s.store).dropWallet acc).tables.linesOf b =
        s.store.tables.linesOf b := by
      rw [hd]
      rfl
    have hwallets : (((Draft.begin s.store).dropWallet acc).closeInventory acc).tables.wallets =
        s.store.tables.wallets.erase acc := by
      rw [(Draft.frame_closeInventory _ acc).2.2, hd]
      rfl
    constructor
    · intro c k hk
      rw [Draft.tables_put, Draft.compartments_closeInventory hfiled, Table.get?_filter] at hk
      exact hfiled c k (Option.filter_eq_some_iff.1 hk).1
    · intro b
      rw [Draft.tables_put, Draft.linesOf_closeInventory hfiled, hlines, hwallets, Table.contains, Table.get?_erase]
      by_cases hb : b = acc
      · simp [hb]
      · rw [if_neg hb, if_neg hb]
        exact hf.lines b
  | purchase _ deliverable =>
    exact hf.of_eq rfl fun b => Table.contains_insert_of_contains _
      (by rw [Wallet.account_spend]; exact deliverable.known) b
  | widening _ _ _ feasible =>
    exact hf.of_eq rfl fun b => Table.contains_insert_of_contains _
      (by rw [Wallet.account_spend]; exact feasible.known) b
  | grant | acceptHeld | accept | release | moved => exact hf.of_eq rfl fun _ => rfl

namespace Service

theorem furnished_call (hf : s.store.tables.Furnished)
    (hfresh : ∀ acc, c = .accountCreated acc → s.store.tables.wallets.get? acc = none →
      (ClassLine.all.map amb.compartment).Nodup ∧
        ∀ l ∈ ClassLine.all, s.store.tables.compartments.get? (amb.compartment l) = none) :
    (s.call amb c).2.store.tables.Furnished := by
  obtain ⟨a, d, commits, store⟩ | store := store_call s amb c
  · rw [store]
    exact commits.furnished hf hfresh
  · rwa [store]

theorem contains_step_of_no_call (hc : e.call? = none) (a : AccountId) :
    (s.step e).store.tables.wallets.contains a = s.store.tables.wallets.contains a := by
  cases e with
  | fund w =>
    rw [step]
    cases hf : s.store.fund w with
    | error e => rfl
    | ok r =>
      obtain ⟨found, store⟩ := r
      obtain ⟨hfound, rfl⟩ := Store.fund_eq_ok hf
      cases found with
      | false => rfl
      | true => exact Table.contains_insert_of_contains w hfound.symm a
  | _ =>
    obtain ⟨-, htables | ⟨w, hw, -⟩⟩ := s.books_step_of_no_call hc
    · rw [htables]
    · cases hw

theorem furnished_step (hids : s.OpensFresh e) (hf : s.store.tables.Furnished) :
    (s.step e).store.tables.Furnished := by
  cases hc : e.call? with
  | some r =>
    obtain ⟨amb, c⟩ := r
    rw [step_of_call? hc]
    refine furnished_call hf ?_
    rintro acc rfl hnone
    exact hids (amb, acc) (by simp [Event.opening?, hc]) hnone
  | none =>
    refine hf.of_eq ?_ (contains_step_of_no_call hc)
    obtain ⟨-, htables | ⟨w, -, htables⟩⟩ := s.books_step_of_no_call hc
    · rw [htables]
    · rw [htables]

theorem furnished_after {h : List Event} (hids : s.FreshCompartmentIds h) (hf : s.store.tables.Furnished) :
    (s.after h).store.tables.Furnished :=
  hids.after (P := fun s => s.store.tables.Furnished) (fun _ _ _ hids hf => furnished_step hids hf) hf

theorem call_accountCreated_of_unfurnished (amb : Ambient) (hw : s.store.tables.wallets.get? acc = none)
    (hk : s.store.tables.linesOf acc = []) : (s.call amb (.accountCreated acc)).1 =
      if .commit ∈ s.store.faults then .error (.internal (.injected .commit)) else .ok (.setup .created) := by
  have hdraft : ∃ d, ((Draft.begin s.store).enterWallet (.empty acc)).openInventory acc s.settings.compartmentCapacity
      amb.compartment = .ok d :=
    Draft.exists_foldlM_open (fun l => ⟨rfl, rfl⟩) (by decide) fun l _ => Draft.compartmentOf?_eq_none hk l
  obtain ⟨d, hopen⟩ := hdraft
  have hy : Yields (AccountSetup.work acc s.settings.compartmentCapacity amb.compartment) (Draft.begin s.store)
      .created (d.put .inventoryStatus ⟨toString acc, (InventoryEvent.created acc).toJson⟩) :=
    AccountSetup.yields_work.2 (.inr ⟨hw, rfl, d, hopen, rfl⟩)
  have hbase : d.base = s.store := (Draft.frame_openInventory hopen).1
  rw [call, accountCreated]
  by_cases hf : FaultPoint.commit ∈ s.store.faults
  · rw [run_of_commit_fault hy rfl (by rwa [Draft.base_put, hbase]), if_pos hf]
    rfl
  · rw [run_of_kept hy rfl (by rwa [Draft.base_put, hbase]), if_neg hf]
    rfl

theorem call_accountDeleted_of_faultless (amb : Ambient) (acc : AccountId) (hf : .commit ∉ s.store.faults) :
    ∃ d, Commits s amb (.accountDeleted acc) .deleted d ∧
      s.call amb (.accountDeleted acc) = (.ok .deleted, publish { s with store := d.committed } d.outbox) := by
  have hc : Commits s amb (.accountDeleted acc) .deleted _ := .accountDeleted acc
  have hy : Yields acc.deleteHoldings (Draft.begin s.store) () _ := AccountId.yields_deleteHoldings.2 rfl
  refine ⟨_, hc, ?_⟩
  rw [call, accountDeleted, run_of_kept hy rfl (by rwa [hc.base])]
  rfl

/-- From an empty store, whatever happens as long as the ids of new compartments are fresh: an account has a wallet and
one compartment for each class line or none of these, every record stands under its own id, and every asset lies in a
compartment that exists. So an account without a wallet is opened, unless the commit fails. -/
theorem accounts_are_whole {n : Nat} {h : List Event} (hids : (s.renewed n).FreshCompartmentIds h) :
    ((s.renewed n).after h).store.tables.Shaped ∧
    ∀ amb acc, ((s.renewed n).after h).store.tables.wallets.get? acc = none →
      (((s.renewed n).after h).call amb (.accountCreated acc)).1 =
        if .commit ∈ ((s.renewed n).after h).store.faults then .error (.internal (.injected .commit))
        else .ok (.setup .created) := by
  have hf := furnished_after hids Tables.furnished_empty
  refine ⟨hf.shaped (ownWallets_after (fun a w hw => by cases hw) h) (fit_after hids Fit.empty), ?_⟩
  intro amb acc hw
  refine call_accountCreated_of_unfurnished amb hw ?_
  have hlines := hf.lines acc
  rw [Table.contains, hw] at hlines
  exact hlines.eq_nil

theorem accounts_are_whole_reopening : (kiosk.renewed 1).FreshCompartmentIds reopening ∧
    ((kiosk.renewed 1).after reopening).store.tables.Shaped ∧
    ((kiosk.renewed 1).after reopening).store.tables.wallets.get? ⟨2⟩ = none ∧
    (((kiosk.renewed 1).after reopening).call .opening (.accountCreated ⟨2⟩)).1 = .ok (.setup .created) := by
  have hids : (kiosk.renewed 1).FreshCompartmentIds reopening := by decide
  have hnone : ((kiosk.renewed 1).after reopening).store.tables.wallets.get? ⟨2⟩ = none := by decide
  obtain ⟨hshaped, hopens⟩ := accounts_are_whole hids
  exact ⟨hids, hshaped, hnone, hopens .opening ⟨2⟩ hnone⟩

end Service

end CashShop

import CashShop.Proofs.Commit
import CashShop.Proofs.History
import Mathlib.Data.List.Induction

namespace CashShop

def Tables.SinglePlacement (t : Tables) : Prop := (t.assets.map (·.item)).Nodup

instance (t : Tables) : Decidable t.SinglePlacement := inferInstanceAs (Decidable (t.assets.map (·.item)).Nodup)

variable {s : Service} {amb : Ambient} {c : Call} {a : Answer} {d : Draft}

/-- The assets after a call that did not fail, and the number of the latest item. -/
inductive Shelving (s : Service) (c : Call) (a : Answer) (t : Tables) : Prop where
  | fewer (p : Asset → Bool) (assets : t.assets = s.store.tables.assets.filter p)
      (numbers : s.store.tables.lastItem ≤ t.lastItem)
      (other : ∀ b o r, c = .purchase b o → a ≠ .purchase (.completed r)) : Shelving s c a t
  | bought {b : CharacterId} {o : PurchaseOrder} {r : Receipt} (call : c = .purchase b o)
      (answer : a = .purchase (.completed r)) (number : r.item = ⟨s.store.tables.lastItem + 1⟩)
      (numbered : s.store.tables.lastItem.toNat + 1 < UInt32.size)
      (assets : t.assets = s.store.tables.assets ++ [⟨r.asset, r.compartment, r.item⟩])
      (numbers : t.lastItem = s.store.tables.lastItem + 1) : Shelving s c a t
  | handed {h : Handoff} {x : Asset} (call : c = .accept h) (answer : a = .accepted x) (item : x.item = h.item)
      (unplaced : ∀ y ∈ s.store.tables.assets, y.item ≠ h.item) (assets : t.assets = s.store.tables.assets ++ [x])
      (numbers : t.lastItem = s.store.tables.lastItem) : Shelving s c a t

theorem toNat_nextNumber {n : UInt32} (h : n.toNat + 1 < UInt32.size) : (n + 1).toNat = n.toNat + 1 := by
  rw [UInt32.toNat_add]
  exact Nat.mod_eq_of_lt h

theorem Tables.get?_next {t : Tables} (h : ∀ i x, t.items.get? i = some x → i.val ≤ t.lastItem)
    (hn : t.lastItem.toNat + 1 < UInt32.size) : t.items.get? ⟨t.lastItem + 1⟩ = none := by
  by_contra hne
  obtain ⟨x, hx⟩ := Option.ne_none_iff_exists'.1 hne
  have hle := h _ x hx
  rw [UInt32.le_iff_toNat_le, toNat_nextNumber hn] at hle
  omega

theorem Shelving.of_same {t : Tables} (assets : t.assets = s.store.tables.assets)
    (numbers : s.store.tables.lastItem ≤ t.lastItem) (other : ∀ b o r, c = .purchase b o → a ≠ .purchase (.completed r)) :
    Shelving s c a t :=
  .fewer (fun _ => true) (by rw [assets, List.filter_eq_self.2 fun _ _ => rfl]) numbers other

theorem Commits.shelving (h : Commits s amb c a d) : Shelving s c a d.tables := by
  cases h with
  | accountCreated _ opened =>
    obtain ⟨-, -, ht⟩ := Draft.frame_openInventory opened
    refine .of_same ?_ ?_ (by simp)
    · rw [Draft.tables_put, ht]
      rfl
    · rw [Draft.tables_put, ht]
      exact UInt32.le_refl _
  | accountDeleted acc =>
    have ht := (Draft.frame_closeInventory ((Draft.begin s.store).dropWallet acc) acc).2.2
    have hd := (Draft.frame_dropWallet (Draft.begin s.store) acc).2.2
    rw [Draft.tables_put, ht, hd]
    exact .fewer _ rfl (UInt32.le_refl _) (by simp)
  | purchase _ deliverable => exact .bought rfl rfl rfl deliverable.numbered rfl rfl
  | widening => exact .of_same rfl (UInt32.le_refl _) (by simp)
  | grant _ _ _ numbered =>
    have hadd := toNat_nextNumber numbered
    have hle : s.store.tables.lastItem ≤ s.store.tables.lastItem + 1 := UInt32.le_iff_toNat_le.2 (by omega)
    exact .of_same rfl hle (by simp)
  | acceptHeld => exact .of_same rfl (UInt32.le_refl _) (by simp)
  | accept _ unplaced =>
    refine .handed rfl rfl rfl ?_ rfl rfl
    intro y hy
    simpa using List.find?_eq_none.1 unplaced y hy
  | release => exact .fewer _ rfl (UInt32.le_refl _) (by simp)
  | moved => exact .fewer _ rfl (UInt32.le_refl _) (by simp)

namespace Service

variable {e : Event} {i : ItemId}

theorem shelving_call (h : (s.call amb c).1 = .ok a) : Shelving s c a (s.call amb c).2.store.tables := by
  obtain ⟨d, commits, hstore⟩ | ⟨hfree, hstore⟩ := call_cases h
  · rw [hstore]
    exact commits.shelving
  · rw [hstore]
    refine .of_same rfl (UInt32.le_refl _) ?_
    rintro b o r - rfl
    cases hfree

def Reissues (s : Service) (e : Event) (i : ItemId) : Prop :=
  ∃ amb b o r, e.call? = some (amb, .purchase b o) ∧ (s.call amb (.purchase b o)).1 = .ok (.purchase (.completed r)) ∧
    r.item = i ∧ ∃ x ∈ s.store.tables.assets, x.item = i

def AcceptsUnissued (s : Service) (e : Event) (i : ItemId) : Prop :=
  ∃ amb h x, e.call? = some (amb, .accept h) ∧ (s.call amb (.accept h)).1 = .ok (.accepted x) ∧ h.item = i ∧
    s.store.tables.lastItem < i.val

/-- An event without a call, or with one that fails, does not touch the assets. -/
theorem shelving_step (s : Service) (e : Event) :
    (∃ amb c a, e.call? = some (amb, c) ∧ (s.call amb c).1 = .ok a ∧ Shelving s c a (s.step e).store.tables) ∨
    (s.step e).store.tables.assets = s.store.tables.assets ∧
      (s.step e).store.tables.lastItem = s.store.tables.lastItem ∧ ∀ i, ¬ s.Reissues e i := by
  cases hc : e.call? with
  | some r =>
    obtain ⟨amb, c⟩ := r
    rw [step_of_call? hc]
    cases hr : (s.call amb c).1 with
    | ok a => exact .inl ⟨amb, c, a, rfl, hr, shelving_call hr⟩
    | error err =>
      have hstore := store_call_of_error hr
      refine .inr ⟨by rw [hstore], by rw [hstore], ?_⟩
      rintro i ⟨amb', b, o, r, hc', hok, -, -⟩
      cases hc.symm.trans hc'
      cases hr.symm.trans hok
  | none =>
    have hno (i : ItemId) : ¬ s.Reissues e i := by
      rintro ⟨amb, b, o, r, hc', -⟩
      cases hc.symm.trans hc'
    obtain ⟨-, hs | ⟨w, -, hs⟩⟩ := s.books_step_of_no_call hc
    · exact .inr ⟨by rw [hs], by rw [hs], hno⟩
    · exact .inr ⟨by rw [hs], by rw [hs], hno⟩

/-- One event keeps single placement unless it gives out a number a second time. -/
theorem singlePlacement_step (h : s.store.tables.SinglePlacement) (hno : ∀ i, ¬ s.Reissues e i) :
    (s.step e).store.tables.SinglePlacement := by
  unfold Tables.SinglePlacement at h ⊢
  obtain ⟨amb, c, a, hc, hr, hs⟩ | ⟨hsame, -, -⟩ := s.shelving_step e
  · cases hs with
    | fewer p assets =>
      rw [assets]
      exact h.sublist (List.filter_sublist.map _)
    | @bought b o r call answer number numbered assets =>
      subst call answer
      rw [assets, List.map_append, List.map_singleton, List.nodup_append]
      refine ⟨h, by simp, ?_⟩
      intro i hi j hj
      obtain ⟨x, hx, rfl⟩ := List.mem_map.1 hi
      obtain rfl := List.mem_singleton.1 hj
      intro he
      exact hno r.item ⟨amb, b, o, r, hc, hr, rfl, x, hx, he⟩
    | @handed hd x call answer item unplaced assets =>
      rw [assets, List.map_append, List.map_singleton, List.nodup_append]
      refine ⟨h, by simp, ?_⟩
      intro i hi j hj
      obtain ⟨y, hy, rfl⟩ := List.mem_map.1 hi
      obtain rfl := List.mem_singleton.1 hj
      rw [item]
      exact unplaced y hy
  · rwa [hsame]

theorem not_singlePlacement_step (h : s.Reissues e i) : ¬ (s.step e).store.tables.SinglePlacement := by
  obtain ⟨amb, b, o, r, hc, hr, rfl, x, hx, hi⟩ := h
  rw [step_of_call? hc]
  have hs := shelving_call hr
  generalize (s.call amb (.purchase b o)).2.store.tables = t at hs ⊢
  cases hs with
  | fewer _ _ _ other => exact absurd rfl (other b o r rfl)
  | bought call answer _ _ assets =>
    cases call
    cases answer
    rw [Tables.SinglePlacement, assets, List.map_append, List.map_singleton, List.nodup_append]
    rintro ⟨-, -, hne⟩
    exact hne x.item (List.mem_map_of_mem hx) r.item (by simp) hi
  | handed call => cases call

/-- Something that is placed under a number not given out yet has been placed like this before, or is placed so now. -/
theorem unissued_step {x : Asset} (hx : x ∈ (s.step e).store.tables.assets)
    (hnum : (s.step e).store.tables.lastItem < x.item.val) :
    x ∈ s.store.tables.assets ∧ s.store.tables.lastItem < x.item.val ∨ s.AcceptsUnissued e x.item := by
  obtain ⟨amb, c, a, hc, hr, hs⟩ | ⟨hsame, hlast, -⟩ := s.shelving_step e
  · cases hs with
    | fewer p assets numbers =>
      rw [assets] at hx
      exact .inl ⟨(List.mem_filter.1 hx).1, UInt32.lt_of_le_of_lt numbers hnum⟩
    | bought _ _ number numbered assets numbers =>
      have hadd := toNat_nextNumber numbered
      rw [numbers, UInt32.lt_iff_toNat_lt, hadd] at hnum
      rw [assets] at hx
      obtain hx | hx := List.mem_append.1 hx
      · exact .inl ⟨hx, UInt32.lt_iff_toNat_lt.2 (by omega)⟩
      ·
        obtain rfl := List.mem_singleton.1 hx
        rw [number] at hnum
        simp only at hnum
        omega
    | @handed hd y call answer item unplaced assets numbers =>
      subst call answer
      rw [numbers] at hnum
      rw [assets] at hx
      obtain hx | hx := List.mem_append.1 hx
      · exact .inl ⟨hx, hnum⟩
      · obtain rfl := List.mem_singleton.1 hx
        exact .inr ⟨amb, hd, x, hc, hr, item.symm, hnum⟩
  · rw [hsame] at hx
    rw [hlast] at hnum
    exact .inl ⟨hx, hnum⟩

theorem unissued_after (s : Service) (n : Nat) (h : List Event) {x : Asset}
    (hx : x ∈ ((s.renewed n).after h).store.tables.assets)
    (hnum : ((s.renewed n).after h).store.tables.lastItem < x.item.val) :
    ∃ pre e, pre ++ [e] <+: h ∧ ((s.renewed n).after pre).AcceptsUnissued e x.item := by
  -- A placement is traced back from the end of the history to the event that made it.
  induction h using List.reverseRecOn with
  | nil => cases hx
  | append_singleton h e ih =>
    rw [after_concat] at hx hnum
    obtain ⟨hx, hnum⟩ | hacc := unissued_step hx hnum
    · obtain ⟨pre, e', hpre, hacc⟩ := ih hx hnum
      exact ⟨pre, e', hpre.trans (List.prefix_append _ _), hacc⟩
    · exact ⟨h, e, List.prefix_rfl, hacc⟩

theorem number_of_reissues (h : s.Reissues e i) : s.store.tables.lastItem < i.val := by
  obtain ⟨amb, b, o, r, -, hr, rfl, -⟩ := h
  have hs := shelving_call hr
  cases hs with
  | fewer _ _ _ other => exact absurd rfl (other b o r rfl)
  | bought call answer number numbered =>
    cases call
    cases answer
    have hadd := toNat_nextNumber numbered
    rw [number]
    exact UInt32.lt_iff_toNat_lt.2 (by simp only; omega)
  | handed call => cases call

theorem singlePlacement_after {h : List Event} (hs : s.store.tables.SinglePlacement)
    (hno : ∀ pre e i, pre ++ [e] <+: h → ¬ (s.after pre).Reissues e i) : (s.after h).store.tables.SinglePlacement := by
  induction h using List.reverseRecOn with
  | nil => exact hs
  | append_singleton h e ih =>
    rw [after_concat]
    refine singlePlacement_step (ih fun pre e' i hp => hno pre e' i (hp.trans (List.prefix_append _ _))) ?_
    exact fun i => hno h e i List.prefix_rfl

/-- A number that is placed before it is given out has come from a handoff. -/
theorem acceptsUnissued_of_reissues (s : Service) (n : Nat) {h : List Event}
    (hre : ((s.renewed n).after h).Reissues e i) :
    ∃ pre e', pre ++ [e'] <+: h ∧ ((s.renewed n).after pre).AcceptsUnissued e' i := by
  have hnum := number_of_reissues hre
  obtain ⟨-, -, -, -, -, -, -, x, hx, rfl⟩ := hre
  exact unissued_after s n h hx hnum

/-- From an empty store, whatever happens: no item ever lies in two places exactly if no purchase gives its item a
number under which something has been placed already. Such a number has come from a handoff that was carried out before
any item had that number; where no handoff does this, no item ever lies in two places. -/
theorem single_placement_iff (s : Service) (n : Nat) (h : List Event) :
    ((∀ pre, pre <+: h → ((s.renewed n).after pre).store.tables.SinglePlacement) ↔
      ∀ pre e i, pre ++ [e] <+: h → ¬ ((s.renewed n).after pre).Reissues e i) ∧
    (∀ pre e i, pre ++ [e] <+: h → ((s.renewed n).after pre).Reissues e i →
      ∃ earlier e', earlier ++ [e'] <+: pre ∧ ((s.renewed n).after earlier).AcceptsUnissued e' i) ∧
    ((∀ pre e i, pre ++ [e] <+: h → ¬ ((s.renewed n).after pre).AcceptsUnissued e i) →
      ∀ pre, pre <+: h → ((s.renewed n).after pre).store.tables.SinglePlacement) := by
  have hsingle (hno : ∀ pre e i, pre ++ [e] <+: h → ¬ ((s.renewed n).after pre).Reissues e i) (pre : List Event)
      (hp : pre <+: h) : ((s.renewed n).after pre).store.tables.SinglePlacement :=
    singlePlacement_after List.nodup_nil fun pre' e i hp' => hno pre' e i (hp'.trans hp)
  refine ⟨⟨?_, hsingle⟩, ?_, ?_⟩
  · intro hall pre e i hp hre
    have hpre := hall (pre ++ [e]) hp
    rw [after_concat] at hpre
    exact not_singlePlacement_step hre hpre
  · intro pre e i _ hre
    exact acceptsUnissued_of_reissues s n hre
  · intro hno
    refine hsingle ?_
    intro pre e i hp hre
    obtain ⟨earlier, e', he, hacc⟩ := acceptsUnissued_of_reissues s n hre
    exact hno earlier e' i (he.trans ((List.prefix_append pre [e]).trans hp)) hacc

def doublePlacement : List Event := [
  .message .opening .accountStatus ⟨"1", (AccountEvent.mk ⟨1⟩ "buyer" .created).toJson⟩,
  .fund ⟨⟨1⟩, 1000, 0, 0⟩,
  .message .opening .compartmentCommand
    ⟨"1", (CompartmentCommand.accept ⟨⟨1⟩, .cygnus, ⟨.ofNat 9⟩, ⟨.ofNat 2⟩, ⟨1⟩⟩).toJson⟩,
  .message { Ambient.opening with asset := ⟨.ofNat 2⟩ } .shopCommand
    ⟨"7", (ShopCommand.purchase ⟨7⟩ ⟨1, ⟨20⟩, none⟩).toJson⟩]

theorem not_singlePlacement_doublePlacement : ¬ (kiosk.after doublePlacement).store.tables.SinglePlacement := by
  decide

end Service

end CashShop

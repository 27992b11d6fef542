import CashShop.Proofs.Tally
import CashShop.Proofs.TransferCall

namespace CashShop

/-- The assets that a call places, by what it answers. A handoff that finds its item in place adds nothing. -/
def Call.placed (t : Tables) : Call → Answer → List Asset
  | .purchase _ _, .purchase (.completed r) => [⟨r.asset, r.compartment, r.item⟩]
  | .accept _, .accepted a => if a ∈ t.assets then [] else [a]
  | _, _ => []

def Call.clears (t : Tables) : Call → Answer → Asset → Bool
  | .accountDeleted acc, .deleted, x => t.compartments.values.any fun k => k.account = acc && k.id = x.compartment
  | .release _, .released a, x => x.id = a.id
  | .moved m, .callback .applied, x => x.item = m.moved.item
  | _, _, _ => false

def Call.handed (t : Tables) : Call → Answer → List Asset
  | .release _, .released a => [a]
  | .moved m, .callback .applied => t.assets.filter (·.item = m.moved.item)
  | _, _ => []

variable {s : Service} {e : Event} {amb : Ambient} {c : Call} {a : Answer} {d : Draft} {x : Asset} {i : ItemId}

theorem Call.filter_of_not_clears {t : Tables} (h : ∀ x, c.clears t a x = false) :
    t.assets.filter (!c.clears t a ·) = t.assets := List.filter_eq_self.2 fun x _ => by simp [h]

def Call.IsStill (t : Tables) (c : Call) (a : Answer) : Prop := (∀ x, c.clears t a x = false) ∧ c.placed t a = []

theorem Call.clears_cases {t : Tables} (h : c.clears t a x = true) :
    (∃ acc, c = .accountDeleted acc ∧ ∃ k ∈ t.compartments.values, k.account = acc ∧ x.compartment = k.id) ∨
      (∃ hd y, c = .release hd ∧ a = .released y ∧ x.id = y.id) ∨
        ∃ m, c = .moved m ∧ a = .callback .applied ∧ x.item = m.moved.item := by
  unfold Call.clears at h
  split at h
  · obtain ⟨k, hk, hx⟩ := List.any_eq_true.1 h
    simp only [Bool.and_eq_true, decide_eq_true_eq] at hx
    exact .inl ⟨_, rfl, k, hk, hx.1, hx.2.symm⟩
  · exact .inr (.inl ⟨_, _, rfl, rfl, of_decide_eq_true h⟩)
  · exact .inr (.inr ⟨_, rfl, rfl, of_decide_eq_true h⟩)
  · cases h

namespace Call.IsStill

variable {t : Tables}

theorem of_widened (t : Tables) (c : Call) (r : CapacityIncrease) : c.IsStill t (.widened r) := by
  cases c <;> exact ⟨fun _ => rfl, rfl⟩

theorem of_started (t : Tables) (c : Call) (x : TransferStarted) : c.IsStill t (.started x) := by
  cases c <;> exact ⟨fun _ => rfl, rfl⟩

theorem of_callback {r : CallbackOutcome} (h : ∀ m, c = .moved m → r ≠ .applied) : c.IsStill t (.callback r) := by
  cases c with
  | moved m =>
    cases r with
    | applied => exact absurd rfl (h m rfl)
    | dropped => exact ⟨fun _ => rfl, rfl⟩
  | _ => exact ⟨fun _ => rfl, rfl⟩

theorem of_not_isDone (h : a.isDone = false) : c.IsStill t a := by
  constructor
  · intro x
    unfold Call.clears
    split
    · cases h
    · cases h
    · cases h
    · rfl
  · unfold Call.placed
    split
    · cases h
    · cases h
    · rfl

theorem assets_eq (h : c.IsStill t a) : t.assets.filter (!c.clears t a ·) ++ c.placed t a = t.assets := by
  rw [filter_of_not_clears h.1, h.2, List.append_nil]

end Call.IsStill

theorem Commits.assets (h : Commits s amb c a d) : d.tables.assets =
    s.store.tables.assets.filter (!c.clears s.store.tables a ·) ++ c.placed s.store.tables a := by
  cases h with
  | accountCreated _ opened =>
    obtain ⟨-, -, ht⟩ := Draft.frame_openInventory opened
    rw [Draft.tables_put, ht, Call.filter_of_not_clears fun _ => rfl]
    exact (List.append_nil _).symm
  | accountDeleted acc =>
    rw [Draft.tables_put, (Draft.frame_closeInventory _ acc).2.2, (Draft.frame_dropWallet _ acc).2.2]
    have hclears (x : Asset) : (!Call.clears s.store.tables (.accountDeleted acc) .deleted x) =
        decide (x.compartment ∉ (((Draft.begin s.store).dropWallet acc).compartmentsOf acc).map (·.id)) := by
      rw [Draft.compartmentsOf, (Draft.frame_dropWallet _ acc).2.2, Bool.eq_iff_iff]
      simp [Call.clears, Draft.begin]
    simp only [hclears]
    exact (List.append_nil _).symm
  | purchase =>
    rw [Call.filter_of_not_clears fun _ => rfl]
    rfl
  | widening =>
    rw [(Call.IsStill.of_widened _ c _).assets_eq]
    rfl
  | grant =>
    rw [Call.filter_of_not_clears fun _ => rfl]
    exact (List.append_nil _).symm
  | @acceptHeld h a known held =>
    have hin : a ∈ s.store.tables.assets := List.mem_of_find?_eq_some held
    rw [Call.filter_of_not_clears fun _ => rfl]
    simp [Call.placed, hin, Draft.begin]
  | @accept h k known unplaced =>
    have hout : (⟨amb.asset, h.compartment, h.item⟩ : Asset) ∉ s.store.tables.assets := by
      intro hin
      simpa using List.find?_eq_none.1 unplaced _ hin
    rw [Call.filter_of_not_clears fun _ => rfl]
    simp [Call.placed, hout, Draft.placeAsset, Draft.begin]
  | release | moved =>
    simp only [Call.clears, ← decide_not]
    exact (List.append_nil _).symm

namespace Service

theorem assets_call (h : (s.call amb c).1 = .ok a) : (s.call amb c).2.store.tables.assets =
    s.store.tables.assets.filter (!c.clears s.store.tables a ·) ++ c.placed s.store.tables a := by
  by_cases hm : ∃ m, c = .moved m ∧ a = .callback .applied
  · obtain ⟨m, rfl, rfl⟩ := hm
    obtain ⟨ho, hp, hf⟩ := moved_applied_iff.1 h
    rw [call_moved_of_placed ho hp hf]
    exact Commits.assets (.moved hp : Commits s amb _ _ _)
  · have hend := call_ending s amb c
    rw [h] at hend
    generalize (s.call amb c).2 = s' at hend ⊢
    cases hend with
    | committed commits _ store =>
      rw [store]
      exact commits.assets
    | idle undone store => rw [store, (Call.IsStill.of_not_isDone undone).assets_eq]
    | elsewhere transfer store =>
      obtain ⟨t, rfl⟩ | rfl := transfer
      · rw [store, (Call.IsStill.of_started _ c t).assets_eq]
      · have hstill : c.IsStill s.store.tables (.callback .applied) := .of_callback fun m hc _ => hm ⟨m, hc, rfl⟩
        rw [store, hstill.assets_eq]

theorem handed_call (h : (s.call amb c).1 = .ok a) (hx : x ∈ c.handed s.store.tables a) :
    x ∈ s.store.tables.assets ∧ c.clears s.store.tables a x = true := by
  cases c with
  | release hd =>
    obtain ⟨y, rfl, hy, -, -⟩ := exists_of_release_ok h
    obtain rfl := List.mem_singleton.1 hx
    exact ⟨hy, decide_eq_true rfl⟩
  | moved m =>
    cases a with
    | callback r =>
      cases r with
      | applied => exact List.mem_filter.1 hx
      | dropped => cases hx
    | _ => cases hx
  | _ => cases hx

def placed (s : Service) (e : Event) : List Asset :=
  match s.answer? e with
  | some (c, a) => c.placed s.store.tables a
  | none => []

def handed (s : Service) (e : Event) : List Asset :=
  match s.answer? e with
  | some (c, a) => c.handed s.store.tables a
  | none => []

theorem assets_step_of_no_answer (h : s.answer? e = none) :
    (s.step e).store.tables.assets = s.store.tables.assets := by
  cases hc : e.call? with
  | some r =>
    obtain ⟨amb, c⟩ := r
    obtain ⟨err, he⟩ := answer?_eq_none_iff.1 h amb c hc
    rw [step_of_call? hc, store_call_of_error he]
  | none =>
    obtain ⟨-, hs | ⟨w, -, hs⟩⟩ := s.books_step_of_no_call hc
    · rw [hs]
    · rw [hs]

/-- One event: what it hands out is gone, what it places is added, and nothing else is. -/
theorem assets_step (s : Service) (e : Event) : ∃ keep : Asset → Bool,
    (s.step e).store.tables.assets = s.store.tables.assets.filter keep ++ s.placed e ∧
      ∀ x ∈ s.handed e, x ∈ s.store.tables.assets ∧ keep x = false := by
  unfold placed handed
  cases ha : s.answer? e with
  | none =>
    refine ⟨fun _ => true, ?_, by simp⟩
    rw [assets_step_of_no_answer ha, List.append_nil, List.filter_eq_self.2 fun _ _ => rfl]
  | some r =>
    obtain ⟨c, a⟩ := r
    obtain ⟨amb, hc, hr⟩ := answer?_eq_some_iff.1 ha
    refine ⟨(!c.clears s.store.tables a ·), ?_, ?_⟩
    · rw [step_of_call? hc]
      exact assets_call hr
    · intro x hx
      obtain ⟨hin, hclears⟩ := handed_call hr hx
      exact ⟨hin, by simp [hclears]⟩

def releases (i : ItemId) : Service → Call → Answer → Bool
  | _, .release h, _ => h.item = i
  | _, _, _ => false

def completes (i : ItemId) : Service → Call → Answer → Bool
  | _, .moved m, .callback .applied => m.moved.item = i
  | _, _, _ => false

def buys (i : ItemId) : Service → Call → Answer → Bool
  | _, .purchase _ _, .purchase (.completed r) => r.item = i
  | _, _, _ => false

def takesIn (i : ItemId) : Service → Call → Answer → Bool
  | s, .accept h, .accepted a => h.item = i ∧ a ∉ s.store.tables.assets
  | _, _, _ => false

theorem leaves_call (h : (s.call amb c).1 = .ok a) (i : ItemId) :
    (releases i s c a).toNat + (completes i s c a).toNat ≤
      (s.store.tables.assets.filter (c.clears s.store.tables a)).countP (·.item = i) := by
  have hone {x : Asset} (hx : x ∈ s.store.tables.assets) (hc : c.clears s.store.tables a x = true) (hi : x.item = i) :
      1 ≤ (s.store.tables.assets.filter (c.clears s.store.tables a)).countP (·.item = i) :=
    List.countP_pos_iff.2 ⟨x, List.mem_filter.2 ⟨hx, hc⟩, decide_eq_true hi⟩
  cases c with
  | release hd =>
    obtain ⟨y, rfl, hy, -, hitem⟩ := exists_of_release_ok h
    by_cases hi : hd.item = i
    · simpa [releases, completes, hi] using hone hy (decide_eq_true rfl) (hitem.trans hi)
    · simp [releases, completes, hi]
  | moved m =>
    obtain ⟨r, -, rfl⟩ := answered_eq_ok.1 h
    cases r with
    | applied =>
      obtain ⟨-, ⟨y, hy, hitem⟩, -⟩ := moved_applied_iff.1 h
      by_cases hi : m.moved.item = i
      · simpa [releases, completes, hi] using hone hy (decide_eq_true hitem) (hitem.trans hi)
      · simp [releases, completes, hi]
    | dropped => simp [releases, completes]
  | _ => simp [releases, completes]

theorem enters_call (h : (s.call amb c).1 = .ok a) (i : ItemId) :
    (c.placed s.store.tables a).countP (·.item = i) = (buys i s c a).toNat + (takesIn i s c a).toNat := by
  cases c with
  | purchase b o =>
    obtain ⟨outcome, -, rfl⟩ := answered_eq_ok.1 h
    cases outcome with
    | completed r => by_cases hi : r.item = i <;> simp [Call.placed, buys, takesIn, hi]
    | inventoryFull | duplicate => simp [Call.placed, buys, takesIn]
  | accept hd =>
    obtain ⟨x, rfl, hitem⟩ := exists_of_accept_ok h
    by_cases hx : x ∈ s.store.tables.assets
    · simp [Call.placed, buys, takesIn, hx]
    · by_cases hi : hd.item = i <;> simp [Call.placed, buys, takesIn, hx, hitem, hi]
  | _ => simp [Call.placed, buys, takesIn]

/-- One event: every departure of the item is paid for with one of its placements. -/
theorem flow_step (i : ItemId) (s : Service) (e : Event) :
    ends (releases i) s e + ends (completes i) s e + (s.step e).store.tables.assets.countP (·.item = i) ≤
      ends (buys i) s e + ends (takesIn i) s e + s.store.tables.assets.countP (·.item = i) := by
  unfold ends
  cases ha : s.answer? e with
  | none => simp [assets_step_of_no_answer ha]
  | some r =>
    obtain ⟨c, a⟩ := r
    obtain ⟨amb, hc, hr⟩ := answer?_eq_some_iff.1 ha
    have hsplit := List.countP_eq_countP_filter_add s.store.tables.assets (·.item = i) (c.clears s.store.tables a)
    have hout := leaves_call hr i
    have hin := enters_call hr i
    rw [step_of_call? hc, assets_call hr, List.countP_append]
    dsimp only
    omega

def placements (s : Service) : List Event → List Asset
  | [] => []
  | e :: h => s.placed e ++ (s.step e).placements h

theorem placements_append (s : Service) (h k : List Event) :
    s.placements (h ++ k) = s.placements h ++ (s.after h).placements k := by
  induction h generalizing s with
  | nil => rfl
  | cons e h ih => rw [List.cons_append, placements, placements, ih, after_cons, List.append_assoc]

def FreshAssetIds (s : Service) (h : List Event) : Prop :=
  ((s.placements h).map (·.id)).Nodup ∧ ∀ x ∈ s.store.tables.assets, ∀ y ∈ s.placements h, x.id ≠ y.id

instance (s : Service) (h : List Event) : Decidable (s.FreshAssetIds h) :=
  inferInstanceAs (Decidable (_ ∧ ∀ x ∈ s.store.tables.assets, ∀ y ∈ s.placements h, x.id ≠ y.id))

theorem mem_assets_step (hx : x ∈ (s.step e).store.tables.assets) :
    x ∈ s.store.tables.assets ∧ x ∉ s.handed e ∨ x ∈ s.placed e := by
  obtain ⟨keep, hassets, hgone⟩ := s.assets_step e
  rw [hassets] at hx
  rcases List.mem_append.1 hx with hx | hx
  · obtain ⟨hin, hkeep⟩ := List.mem_filter.1 hx
    refine .inl ⟨hin, fun hh => ?_⟩
    rw [(hgone x hh).2] at hkeep
    cases hkeep
  · exact .inr hx

theorem mem_assets_after {h : List Event} (hx : x ∈ (s.after h).store.tables.assets) :
    x ∈ s.store.tables.assets ∨ x ∈ s.placements h := by
  induction h generalizing s with
  | nil => exact .inl hx
  | cons e h ih =>
    obtain hx | hx := ih hx
    · obtain ⟨hx, -⟩ | hx := mem_assets_step hx
      · exact .inl hx
      · exact .inr (List.mem_append_left _ hx)
    · exact .inr (List.mem_append_right _ hx)

theorem FreshAssetIds.left {h k : List Event} (hfresh : s.FreshAssetIds (h ++ k)) : s.FreshAssetIds h := by
  obtain ⟨hnodup, hold⟩ := hfresh
  rw [placements_append] at hnodup hold
  rw [List.map_append] at hnodup
  exact ⟨(List.nodup_append.1 hnodup).1, fun x hx y hy => hold x hx y (List.mem_append_left _ hy)⟩

theorem FreshAssetIds.right {h k : List Event} (hfresh : s.FreshAssetIds (h ++ k)) : (s.after h).FreshAssetIds k := by
  obtain ⟨hnodup, hold⟩ := hfresh
  rw [placements_append] at hnodup hold
  rw [List.map_append] at hnodup
  obtain ⟨-, hk, hne⟩ := List.nodup_append.1 hnodup
  refine ⟨hk, ?_⟩
  intro x hx y hy
  obtain hx | hx := mem_assets_after hx
  · exact hold x hx y (List.mem_append_right _ hy)
  · exact hne _ (List.mem_map_of_mem hx) _ (List.mem_map_of_mem hy)

theorem nodup_ids_step (hids : (s.store.tables.assets.map (·.id)).Nodup) (hfresh : s.FreshAssetIds [e]) :
    ((s.step e).store.tables.assets.map (·.id)).Nodup := by
  obtain ⟨hnodup, hold⟩ := hfresh
  have hplaced : s.placements [e] = s.placed e := List.append_nil _
  rw [hplaced] at hnodup hold
  obtain ⟨keep, hassets, -⟩ := s.assets_step e
  rw [hassets, List.map_append]
  refine List.nodup_append.2 ⟨hids.sublist (List.filter_sublist.map _), hnodup, ?_⟩
  intro n hn m hm
  obtain ⟨x, hx, rfl⟩ := List.mem_map.1 hn
  obtain ⟨y, hy, rfl⟩ := List.mem_map.1 hm
  exact hold x (List.mem_filter.1 hx).1 y hy

theorem nodup_ids_after {h : List Event} (hids : (s.store.tables.assets.map (·.id)).Nodup)
    (hfresh : s.FreshAssetIds h) : ((s.after h).store.tables.assets.map (·.id)).Nodup := by
  induction h generalizing s with
  | nil => exact hids
  | cons e h ih => exact ih (nodup_ids_step hids (FreshAssetIds.left (h := [e]) hfresh)) (FreshAssetIds.right (h := [e]) hfresh)

theorem not_mem_of_handed {h : List Event} (hfresh : s.FreshAssetIds (e :: h)) (hx : x ∈ s.handed e) :
    x ∉ (s.after (e :: h)).store.tables.assets := by
  obtain ⟨keep, -, hgone⟩ := s.assets_step e
  have hnew : x ∉ s.placements (e :: h) := fun hp => hfresh.2 x (hgone x hx).1 x hp rfl
  rw [placements, List.mem_append, not_or] at hnew
  intro hback
  obtain hback | hback := mem_assets_after (s := s.step e) hback
  · obtain ⟨-, hkept⟩ | hplaced := mem_assets_step hback
    · exact hkept hx
    · exact hnew.1 hplaced
  · exact hnew.2 hback

/-- From any state, whatever happens in whatever order: an item is released, and its transfers are completed, no more
often than it was placed in the beginning, has been created by purchases, and has been accepted where it was placed
nowhere. While the ids of new assets are fresh, no placement is handed out by two events. -/
theorem departures_le_arrivals (s : Service) (h : List Event) :
    (∀ i, s.tally (releases i) h + s.tally (completes i) h ≤
      s.store.tables.assets.countP (·.item = i) + s.tally (buys i) h + s.tally (takesIn i) h) ∧
    (s.FreshAssetIds h → ∀ pre e mid e' post x, h = pre ++ e :: (mid ++ e' :: post) → x ∈ (s.after pre).handed e →
      x ∉ (s.after (pre ++ e :: mid)).handed e') := by
  constructor
  · intro i
    have hflow := total_add_le (f := fun s e => ends (releases i) s e + ends (completes i) s e)
      (g := fun s e => ends (buys i) s e + ends (takesIn i) s e)
      (v := fun s => s.store.tables.assets.countP (·.item = i)) (flow_step i) s h
    rw [total_add, total_add] at hflow
    unfold tally
    omega
  · rintro hfresh pre e mid e' post x rfl hx hx'
    rw [after_append] at hx'
    have hleft : (s.after pre).FreshAssetIds (e :: mid) := FreshAssetIds.left (k := e' :: post) hfresh.right
    obtain ⟨keep, -, hgone⟩ := ((s.after pre).after (e :: mid)).assets_step e'
    exact not_mem_of_handed hleft hx (hgone x hx').1

def roundTrip : List Event := [
  .call .opening (.release ⟨⟨1⟩, .explorer, ⟨.ofNat 8⟩, ⟨.ofNat 1⟩, ⟨1⟩⟩),
  .call { Ambient.opening with asset := ⟨.ofNat 2⟩ } (.accept ⟨⟨1⟩, .explorer, ⟨.ofNat 9⟩, ⟨.ofNat 1⟩, ⟨1⟩⟩),
  .call .opening (.move ⟨7⟩ ⟨⟨1⟩, 1, 3⟩),
  .call .opening (.moved ⟨⟨7⟩, ⟨.ofNat 30⟩, ⟨⟨1⟩, 3, some ⟨.ofNat 1⟩⟩⟩),
  .call .opening (.moved ⟨⟨7⟩, ⟨.ofNat 30⟩, ⟨⟨1⟩, 3, some ⟨.ofNat 1⟩⟩⟩)]

theorem departures_le_arrivals_roundTrip : sold.FreshAssetIds roundTrip ∧
    ⟨⟨.ofNat 2⟩, ⟨.ofNat 1⟩, ⟨1⟩⟩ ∈ (sold.after (roundTrip.take 3)).handed roundTrip[3] ∧
      ⟨⟨.ofNat 2⟩, ⟨.ofNat 1⟩, ⟨1⟩⟩ ∉ (sold.after (roundTrip.take 4)).handed roundTrip[4] := by
  have hfresh : sold.FreshAssetIds roundTrip := by decide
  have hx : ⟨⟨.ofNat 2⟩, ⟨.ofNat 1⟩, ⟨1⟩⟩ ∈ (sold.after (roundTrip.take 3)).handed roundTrip[3] := by decide
  exact ⟨hfresh, hx, (departures_le_arrivals sold roundTrip).2 hfresh (roundTrip.take 3) roundTrip[3] [] roundTrip[4] []
    _ rfl hx⟩

end Service

end CashShop

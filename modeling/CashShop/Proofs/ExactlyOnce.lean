import CashShop.Proofs.AllOrNothing

namespace CashShop

structure OrderKey where
  character : CharacterId
  key : String
deriving DecidableEq

def OrderKey.scoped (p : OrderKey) : String := Purchase.scopedKey p.character p.key

theorem OrderKey.toList_scoped (p : OrderKey) :
    p.scoped.toList = "purchase:".toList ++ (Nat.toDigits 10 p.character.val.toNat ++ ':' :: p.key.toList) := by
  have hc : toString p.character = String.ofList (Nat.toDigits 10 p.character.val.toNat) :=
    Nat.toString_eq_ofList_toDigits
  have hs : p.scoped = "purchase:" ++ toString p.character ++ ":" ++ p.key := rfl
  simp [hs, hc]

/-- A colon ends the number of the character, so that no two orders share a text, whatever their keys contain. -/
theorem OrderKey.scoped_inj {p q : OrderKey} (h : p.scoped = q.scoped) : p = q := by
  have hdigits (n : Nat) (k : List Char) :
      (Nat.toDigits 10 n ++ ':' :: k).takeWhile (·.isDigit) = Nat.toDigits 10 n := by
    rw [List.takeWhile_append_of_pos fun c hc => Nat.isDigit_of_mem_toDigits (by decide) (by decide) hc]
    simp
  have hl := congrArg String.toList h
  rw [toList_scoped, toList_scoped] at hl
  have ht := List.append_cancel_left hl
  have hn : Nat.toDigits 10 p.character.val.toNat = Nat.toDigits 10 q.character.val.toNat := by
    rw [← hdigits p.character.val.toNat p.key.toList, ht, hdigits]
  have hc : p.character = q.character := by
    have h10 := congrArg (Nat.ofDigitChars 10 · 0) hn
    simp only [Nat.ofDigitChars_ten_toDigits] at h10
    exact congrArg CharacterId.mk (UInt32.toNat.inj h10)
  have hk : p.key = q.key := by
    rw [hn] at ht
    exact String.toList_inj.1 (List.cons.inj (List.append_cancel_left ht)).2
  obtain ⟨c, k⟩ := p
  obtain ⟨c', k'⟩ := q
  simp only at hc hk
  rw [hc, hk]

def latest {α : Type} (n : Nat) (l : List α) : List α := l.drop (l.length - n)

theorem map_latest {α β : Type} (f : α → β) (n : Nat) (l : List α) : (latest n l).map f = latest n (l.map f) := by
  simp [latest, List.map_drop]

theorem mem_latest {α : Type} {n : Nat} {l : List α} {a : α} :
    a ∈ latest n l ↔ ∃ i, l[i]? = some a ∧ l.length ≤ i + n := by
  rw [latest, List.mem_iff_getElem?]
  constructor
  · rintro ⟨i, h⟩
    rw [List.getElem?_drop] at h
    exact ⟨l.length - n + i, h, by omega⟩
  · rintro ⟨i, h, hi⟩
    refine ⟨i - (l.length - n), ?_⟩
    have he : l.length - n + (i - (l.length - n)) = i := by omega
    rw [List.getElem?_drop, he, h]

/-- What has been forgotten once never comes back. -/
theorem latest_latest_append {α : Type} (n : Nat) (l : List α) (a : α) :
    latest n (latest n l ++ [a]) = latest n (l ++ [a]) := by
  by_cases h : l.length ≤ n
  · have hl : latest n l = l := by
      rw [latest, Nat.sub_eq_zero_of_le h, List.drop_zero]
    rw [hl]
  · have hlen : (latest n l).length = n := by
      rw [latest, List.length_drop]
      omega
    have happ : latest n l ++ [a] = (l ++ [a]).drop (l.length - n) := by
      rw [List.drop_append_of_le_length (Nat.sub_le _ _)]
      rfl
    rw [latest, List.length_append, hlen, happ, List.drop_drop, latest]
    congr 1
    simp
    omega

theorem KeyWindow.record_of_notMem {w : KeyWindow} {k : String} (h : k ∉ w.keys) :
    w.record k = ⟨w.capacity, latest w.capacity (w.keys ++ [k])⟩ := by
  rw [record, if_neg h]
  rfl

def Call.orderKey? : Call → Answer → Option OrderKey
  | .purchase c o, .purchase (.completed _) => o.idempotencyKey.map fun k => ⟨c, k⟩
  | _, _ => none

variable {s : Service} {amb : Ambient} {c : Call} {a : Answer} {d : Draft}

theorem Call.orderKey?_of_not_isSale (h : a.isSale = false) : c.orderKey? a = none := by
  cases c with
  | purchase c o =>
    cases a with
    | purchase outcome =>
      cases outcome with
      | completed => cases h
      | inventoryFull | duplicate => rfl
    | _ => rfl
  | _ => rfl

theorem Commits.claimed (h : Commits s amb c a d) : d.claimed = ((c.orderKey? a).map OrderKey.scoped).toList ∧
    ∀ p, c.orderKey? a = some p → p.scoped ∉ s.store.window.keys := by
  cases h with
  | accountCreated _ opened => exact ⟨(Draft.frame_openInventory opened).2.1, by simp [Call.orderKey?]⟩
  | accountDeleted acc =>
    refine ⟨?_, by simp [Call.orderKey?]⟩
    rw [Draft.claimed_put, (Draft.frame_closeInventory _ acc).2.1, (Draft.frame_dropWallet _ acc).2.1]
    rfl
  | @purchase c o t w k cash expiration terms deliverable =>
    constructor
    · change [] ++ (o.idempotencyKey.map (Purchase.scopedKey c)).toList = _
      simp only [Call.orderKey?, Option.map_map, List.nil_append]
      rfl
    · intro p hp
      obtain ⟨key, hkey, rfl⟩ := Option.map_eq_some_iff.1 hp
      exact (deliverable.unclaimed key hkey).1
  | widening => exact ⟨by cases c <;> rfl, by simp [Call.orderKey?]⟩
  | grant | acceptHeld | accept | release | moved => exact ⟨rfl, by simp [Call.orderKey?]⟩

namespace Service

def completedKey? (s : Service) (amb : Ambient) (c : Call) : Option OrderKey :=
  match (s.call amb c).1 with
  | .ok a => c.orderKey? a
  | .error _ => none

def keyedPurchases (s : Service) : List Event → List OrderKey
  | [] => []
  | e :: h => (e.call?.bind fun r => s.completedKey? r.1 r.2).toList ++ (s.step e).keyedPurchases h

theorem keyedPurchases_cons (s : Service) (e : Event) (h : List Event) :
    s.keyedPurchases (e :: h) = s.keyedPurchases [e] ++ (s.step e).keyedPurchases h := by
  simp [keyedPurchases]

theorem keyedPurchases_append (s : Service) (h k : List Event) :
    s.keyedPurchases (h ++ k) = s.keyedPurchases h ++ (s.after h).keyedPurchases k := by
  induction h generalizing s with
  | nil => rfl
  | cons e h ih =>
    rw [List.cons_append, keyedPurchases_cons, ih, keyedPurchases_cons s e h, List.append_assoc, after_cons]

theorem keyedPurchases_call (s : Service) (amb : Ambient) (c : Call) :
    s.keyedPurchases [.call amb c] = (s.completedKey? amb c).toList := by
  simp [keyedPurchases, Event.call?]

theorem completedKey?_of_not_succeeds (h : s.succeeds amb c = false) : s.completedKey? amb c = none := by
  unfold succeeds at h
  unfold completedKey?
  cases hr : (s.call amb c).1 with
  | error e => rfl
  | ok a =>
    rw [hr] at h
    exact Call.orderKey?_of_not_isSale (Answer.isSale_of_not_isDone h)

/-- A call that carries out a keyed order remembers its key, which was not remembered before. No other call changes the
window. -/
theorem window_call (s : Service) (amb : Ambient) (c : Call) :
    (s.call amb c).2.store.window =
        ((s.completedKey? amb c).map OrderKey.scoped).toList.foldl KeyWindow.record s.store.window ∧
      ∀ p, s.completedKey? amb c = some p → p.scoped ∉ s.store.window.keys := by
  unfold completedKey?
  cases hr : (s.call amb c).1 with
  | error e =>
    rw [store_call_of_error hr]
    exact ⟨rfl, by simp⟩
  | ok a =>
    obtain ⟨d, commits, hstore⟩ | ⟨hfree, hstore⟩ := call_cases hr
    · obtain ⟨hclaimed, hfree⟩ := commits.claimed
      rw [hstore, Draft.committed, hclaimed, commits.base]
      exact ⟨rfl, hfree⟩
    · have hnone := Call.orderKey?_of_not_isSale (c := c) hfree
      rw [hstore]
      exact ⟨by simp [hnone], by simp [hnone]⟩

/-- The window after a history that has carried out the orders `done`, and how far apart equal orders stand in it. -/
structure Remembers (s : Service) (n : Nat) (done : List OrderKey) : Prop where
  window : s.store.window = ⟨n, latest n (done.map OrderKey.scoped)⟩
  spaced : ∀ i j p, i < j → done[i]? = some p → done[j]? = some p → i + n < j

variable {n : Nat} {done : List OrderKey} {p : OrderKey}

theorem Remembers.scoped_mem (h : s.Remembers n done) : p.scoped ∈ s.store.window.keys ↔ p ∈ latest n done := by
  rw [h.window]
  change p.scoped ∈ latest n (done.map OrderKey.scoped) ↔ _
  rw [← map_latest, List.mem_map]
  constructor
  · rintro ⟨q, hq, he⟩
    rwa [← OrderKey.scoped_inj he]
  · intro hp
    exact ⟨p, hp, rfl⟩

/-- An order is carried out if it is not among the latest ones, and then it is the latest. -/
theorem Remembers.push {s' : Service} (h : s.Remembers n done) (hp : p.scoped ∉ s.store.window.keys)
    (hw : s'.store.window = s.store.window.record p.scoped) : s'.Remembers n (done ++ [p]) where
  window := by
    rw [hw, KeyWindow.record_of_notMem hp, h.window]
    simp only [latest_latest_append, List.map_append, List.map_cons, List.map_nil]
  spaced i j q hij hi hj := by
    have hlt : j < (done ++ [p]).length := (List.getElem?_eq_some_iff.1 hj).1
    rw [List.length_append, List.length_singleton] at hlt
    have hi' : done[i]? = some q := by
      rwa [List.getElem?_append_left (by omega)] at hi
    by_cases hlast : j < done.length
    · rw [List.getElem?_append_left hlast] at hj
      exact h.spaced i j q hij hi' hj
    · have hjl : j = done.length := by omega
      obtain rfl : p = q := by simpa [hjl] using hj
      have hnot : p ∉ latest n done := fun hm => hp (h.scoped_mem.2 hm)
      have hfar : ¬ done.length ≤ i + n := fun hle => hnot (mem_latest.2 ⟨i, hi', hle⟩)
      omega

theorem Remembers.step (h : s.Remembers n done) (e : Event) : (s.step e).Remembers n (done ++ s.keyedPurchases [e]) := by
  cases hc : e.call? with
  | some r =>
    obtain ⟨amb, c⟩ := r
    obtain ⟨hw, hfree⟩ := s.window_call amb c
    rw [keyedPurchases, hc, step_of_call? hc]
    cases hk : s.completedKey? amb c with
    | none =>
      rw [hk] at hw
      simp only [Option.bind_some, hk, keyedPurchases, Option.toList_none, List.append_nil]
      exact ⟨hw.trans h.window, h.spaced⟩
    | some p =>
      rw [hk] at hw
      simp only [Option.bind_some, hk, keyedPurchases, Option.toList_some, List.append_nil]
      exact h.push (hfree p hk) hw
  | none =>
    have hsame := (s.books_step_of_no_call hc).1
    simp only [keyedPurchases, hc, Option.bind_none, Option.toList_none, List.append_nil]
    exact ⟨hsame.trans h.window, h.spaced⟩

theorem Remembers.after (h : s.Remembers n done) (es : List Event) :
    (s.after es).Remembers n (done ++ s.keyedPurchases es) := by
  induction es generalizing s done with
  | nil => simpa [keyedPurchases] using h
  | cons e es ih =>
    rw [keyedPurchases_cons, ← List.append_assoc]
    exact ih (h.step e)

theorem remembers_renewed (s : Service) (n : Nat) : (s.renewed n).Remembers (max n 1) [] where
  window := by simp [renewed, Store.ofKeyCapacity, KeyWindow.ofCapacity, latest]
  spaced i j p _ hi := by simp at hi

def Resolves (s : Service) (c : CharacterId) (o : PurchaseOrder) : Prop :=
  (∃ lane, Currency.ofCode? o.currency = some lane) ∧ (∃ x, s.catalog o.serial = .ok x) ∧
    ∃ ch, s.directory c false = .ok ch

variable {b : CharacterId} {o : PurchaseOrder}

theorem exists_terms_iff : (∃ t, Purchase.Terms.resolve s b o = .ok t) ↔ s.Resolves b o := by
  unfold Purchase.Terms.resolve Resolves resolveCurrency commodity character
  cases Currency.ofCode? o.currency with
  | none => simp [bind, Except.bind]
  | some lane =>
    cases s.catalog o.serial with
    | error e => simpa using fun _ h => nomatch h
    | ok x =>
      cases s.directory b false with
      | error e => simpa using fun _ h => nomatch h
      | ok ch => simpa using ⟨_, rfl⟩

theorem purchase_of_remembered (amb : Ambient) (hr : s.Resolves b o)
    (hk : ∃ k ∈ o.idempotencyKey, (OrderKey.mk b k).scoped ∈ s.store.window.keys) :
    s.call amb (.purchase b o) = (.ok (.purchase .duplicate), s.count .duplicateCommands) := by
  obtain ⟨t, ht⟩ := exists_terms_iff.2 hr
  obtain ⟨k, hkey, hmem⟩ := hk
  have hy : Work.Yields (Purchase.work amb s.settings.itemExpirationDays b o.idempotencyKey t) (Draft.begin s.store)
      .duplicate (Draft.begin s.store) :=
    Purchase.yields_work_duplicate.2 ⟨⟨k, hkey, .inl hmem⟩, rfl⟩
  have hrun := run_of_not_kept (k := (·.isCompleted)) hy rfl
  rw [call, purchase, ht]
  simp only [Except.map, perform, hrun]
  rfl

theorem remembered_of_duplicate (h : (s.call amb (.purchase b o)).1 = .ok (.purchase .duplicate)) :
    s.Resolves b o ∧ ∃ k ∈ o.idempotencyKey, (OrderKey.mk b k).scoped ∈ s.store.window.keys := by
  rw [call, purchase] at h
  cases ht : Purchase.Terms.resolve s b o with
  | error e => rw [ht] at h; cases h
  | ok t =>
    refine ⟨exists_terms_iff.1 ⟨t, ht⟩, ?_⟩
    rw [ht] at h
    simp only [Except.map, perform] at h
    rcases s.run_cases (Purchase.work amb s.settings.itemExpirationDays b o.idempotencyKey t) (·.isCompleted) with
      ⟨r, d, -, hk, -, hrun⟩ | ⟨r, hrun, hr⟩
    · rw [hrun] at h
      cases r with
      | completed => cases h
      | inventoryFull | duplicate => cases hk
    · rw [hrun] at h
      cases r with
      | error e => cases h
      | ok r =>
        cases r with
        | completed | inventoryFull => cases h
        | duplicate =>
          obtain ⟨-, d, hy⟩ := hr _ rfl
          obtain ⟨⟨k, hkey, hmem⟩, -⟩ := Purchase.yields_work_duplicate.1 hy
          obtain hmem | hmem := hmem
          · exact ⟨k, hkey, hmem⟩
          · cases hmem

/-- From a fresh store, whatever happens: between two purchases under the same key of the same character at least as
many other keyed purchases are carried out as the store remembers keys. An order is a duplicate exactly if it is among
the latest that have been carried out, by this very character and under this very key, and then it leaves no trace. An
order that is not carried out is not remembered. -/
theorem keyed_purchase_exactly_once (s : Service) (n : Nat) (h : List Event) :
    (∀ i j p, i < j → ((s.renewed n).keyedPurchases h)[i]? = some p →
      ((s.renewed n).keyedPurchases h)[j]? = some p → i + max n 1 < j) ∧
    ∀ amb b o,
      ((((s.renewed n).after h).call amb (.purchase b o)).1 = .ok (.purchase .duplicate) ↔
        ((s.renewed n).after h).Resolves b o ∧ ∃ k ∈ o.idempotencyKey,
          OrderKey.mk b k ∈ latest (max n 1) ((s.renewed n).keyedPurchases h)) ∧
      ((((s.renewed n).after h).call amb (.purchase b o)).1 = .ok (.purchase .duplicate) →
        (((s.renewed n).after h).call amb (.purchase b o)).2.store = ((s.renewed n).after h).store ∧
          (((s.renewed n).after h).call amb (.purchase b o)).2.transport = ((s.renewed n).after h).transport) ∧
      (((s.renewed n).after h).succeeds amb (.purchase b o) = false →
        (((s.renewed n).after h).call amb (.purchase b o)).2.store = ((s.renewed n).after h).store ∧
          (s.renewed n).keyedPurchases (h ++ [.call amb (.purchase b o)]) = (s.renewed n).keyedPurchases h) := by
  have hrem : ((s.renewed n).after h).Remembers (max n 1) ((s.renewed n).keyedPurchases h) := by
    simpa using (remembers_renewed s n).after h
  refine ⟨hrem.spaced, fun amb b o => ⟨⟨?_, ?_⟩, ?_, ?_⟩⟩
  · intro hd
    obtain ⟨hr, k, hk, hmem⟩ := remembered_of_duplicate hd
    exact ⟨hr, k, hk, hrem.scoped_mem.1 hmem⟩
  · rintro ⟨hr, k, hk, hmem⟩
    rw [purchase_of_remembered amb hr ⟨k, hk, hrem.scoped_mem.2 hmem⟩]
  · intro hd
    obtain ⟨hr, hk⟩ := remembered_of_duplicate hd
    rw [purchase_of_remembered amb hr hk]
    exact ⟨rfl, rfl⟩
  · intro hn
    refine ⟨(apologizes_of_not_succeeds hn).1, ?_⟩
    rw [keyedPurchases_append, keyedPurchases_call, completedKey?_of_not_succeeds hn]
    simp

theorem keyed_purchase_repeated :
    (((kiosk.renewed 1).after [.call .opening (.accountCreated ⟨1⟩), .fund ⟨⟨1⟩, 1000, 0, 0⟩,
        .call .opening (.purchase ⟨7⟩ ⟨1, ⟨20⟩, some "a"⟩)]).call .opening (.purchase ⟨7⟩ ⟨1, ⟨20⟩, some "a"⟩)).1 =
      .ok (.purchase .duplicate) := by
  refine ((keyed_purchase_exactly_once kiosk 1 _).2 .opening ⟨7⟩ ⟨1, ⟨20⟩, some "a"⟩).1.2 ⟨?_, "a", rfl, by decide⟩
  exact ⟨⟨.credit, rfl⟩, ⟨_, rfl⟩, _, rfl⟩

end Service

end CashShop

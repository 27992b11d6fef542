import CashShop.Proofs.Tally
import CashShop.Proofs.Verdict

namespace CashShop

/-- The identities between the counters, the messages that have been delivered, the number of the latest item, and the
failures of commands that nobody is told about. -/
structure Reconciled (counter : Counter → Nat) (told : Topic → String → Nat) (lastItem silent : Nat) : Prop where
  purchases : counter .purchases = told .shopStatus "PURCHASE"
  capacityIncreases : counter .capacityIncreases = told .shopStatus "INVENTORY_CAPACITY_INCREASED"
  capacityCommands : counter .capacityIncreases = told .characterCommand "INCREASE_CAPACITY"
  transfersStarted : counter .transfersStarted = told .characterCommand "MOVE_CASH_ITEM"
  transfersCompleted : counter .transfersCompleted = told .shopStatus "CASH_ITEM_MOVED_TO_INVENTORY"
  items : counter .purchases + counter .itemsGranted = told .itemStatus "CREATED"
  numbers : told .itemStatus "CREATED" = lastItem
  failures : told .shopStatus "ERROR" + told .compartmentStatus "ERROR" + silent =
    counter .workflowErrors + counter .purchaseRejections + counter .transfersFailed

theorem Reconciled.add {f f' f'' : Counter → Nat} {g g' g'' : Topic → String → Nat} {l l' l'' n n' : Nat}
    (h : Reconciled f g l n) (h' : Reconciled f' g' l' n')
    (hf : ∀ k, k ≠ .reservationsExpired → f'' k = f k + f' k)
    (hg : ∀ topic kind, Watched topic kind → g'' topic kind = g topic kind + g' topic kind) (hl : l'' = l + l') :
    Reconciled f'' g'' l'' (n + n') := by
  have hshop (kind : String) : g'' .shopStatus kind = g .shopStatus kind + g' .shopStatus kind :=
    hg _ _ (by simp [Watched])
  have hcharacter (kind : String) : g'' .characterCommand kind = g .characterCommand kind + g' .characterCommand kind :=
    hg _ _ (by simp [Watched])
  have hitem : g'' .itemStatus "CREATED" = g .itemStatus "CREATED" + g' .itemStatus "CREATED" :=
    hg _ _ (by simp [Watched])
  have hcompartment : g'' .compartmentStatus "ERROR" = g .compartmentStatus "ERROR" + g' .compartmentStatus "ERROR" :=
    hg _ _ (by simp [Watched])
  constructor
  · rw [hf _ (by decide), hshop, h.purchases, h'.purchases]
  · rw [hf _ (by decide), hshop, h.capacityIncreases, h'.capacityIncreases]
  · rw [hf _ (by decide), hcharacter, h.capacityCommands, h'.capacityCommands]
  · rw [hf _ (by decide), hcharacter, h.transfersStarted, h'.transfersStarted]
  · rw [hf _ (by decide), hshop, h.transfersCompleted, h'.transfersCompleted]
  · rw [hf _ (by decide), hf _ (by decide), hitem, ← h.items, ← h'.items]
    omega
  · rw [hitem, hl, h.numbers, h'.numbers]
  · have hsum := h.failures
    have hsum' := h'.failures
    rw [hf _ (by decide), hf _ (by decide), hf _ (by decide), hshop, hcompartment]
    omega

/-- Commands that are not answered: when they fail, the failure is only counted. -/
def Call.isUnanswered : Call → Bool
  | accountCreated _ | accountDeleted _ | grant _ => true
  | _ => false

def Call.failsSilently (c : Call) : Except WorkflowError Answer → Nat
  | .error _ => c.isUnanswered.toNat
  | .ok _ => 0

namespace Posting

def raises (p : Posting) (k : Counter) : Nat := if p.counter? = some k then 1 else 0

def tells (p : Posting) (topic : Topic) (kind : String) : Nat := p.notices.count (topic, kind)

theorem raises_le (p : Posting) (k : Counter) : p.raises k ≤ 1 := by
  unfold raises
  split <;> omega

end Posting

theorem Metrics.toNat_count_post {m : Metrics} {k : Counter} (p : Posting) (hroom : (m.count k).toNat + 1 < UInt64.size) :
    ((m.post p).count k).toNat = (m.count k).toNat + p.raises k := by
  rw [post, Posting.raises]
  cases p.counter? with
  | none => rfl
  | some c =>
    by_cases hk : k = c
    · subst hk
      simp only [Option.elim_some, add, if_pos, UInt64.toNat_add, UInt64.toNat_one]
      exact Nat.mod_eq_of_lt hroom
    · simp [add, hk, Ne.symm hk]

theorem Call.reconciled_posting (c : Call) (r : Except WorkflowError Answer) :
    Reconciled (c.posting r).raises (c.posting r).tells ((c.posting r).tells .itemStatus "CREATED")
      (c.failsSilently r) := by
  cases r with
  | error e => cases c <;> constructor <;> rfl
  | ok a =>
    unfold posting
    split <;> first | contradiction | (constructor <;> rfl)

namespace Service

variable {s : Service} {e : Event} {topic : Topic} {kind : String}

def posting (s : Service) (e : Event) : Posting :=
  match e.call? with
  | some (amb, c) => c.posting (s.call amb c).1
  | none => ⟨none, []⟩

def failsSilently (s : Service) (e : Event) : Nat :=
  match e.call? with
  | some (amb, c) => c.failsSilently (s.call amb c).1
  | none => 0

theorem reconciled_posting (s : Service) (e : Event) : Reconciled (s.posting e).raises (s.posting e).tells
    ((s.posting e).tells .itemStatus "CREATED") (s.failsSilently e) := by
  unfold posting failsSilently
  cases e.call? with
  | none => constructor <;> rfl
  | some x => exact x.2.reconciled_posting _

theorem metrics_step_of_no_call (hc : e.call? = none) {k : Counter} (hk : k ≠ .reservationsExpired) :
    (s.step e).metrics.count k = s.metrics.count k := by
  cases e with
  | call => cases hc
  | message amb u m =>
    have hm : m.call? u = none := by simpa [Event.call?] using hc
    rw [step, dispatch_snd, hm]
    rfl
  | fund w =>
    rw [step]
    split <;> rfl
  | sweep now => exact if_neg hk
  | faults | transport | lookups => rfl

theorem metrics_step (s : Service) (e : Event) {k : Counter} (hk : k ≠ .reservationsExpired)
    (hroom : (s.metrics.count k).toNat + 1 < UInt64.size) :
    ((s.step e).metrics.count k).toNat = (s.metrics.count k).toNat + (s.posting e).raises k := by
  unfold posting
  cases hc : e.call? with
  | none =>
    rw [metrics_step_of_no_call hc hk]
    rfl
  | some x =>
    rw [step_of_call? hc, s.metrics_call x.1 x.2]
    exact Metrics.toNat_count_post _ hroom

theorem told_step (hbus : s.transport.Works) (e : Event) (hw : Watched topic kind) :
    (s.step e).transport.told topic kind = s.transport.told topic kind + (s.posting e).tells topic kind := by
  unfold posting
  cases hc : e.call? with
  | none =>
    change Transport.told _ _ _ = s.transport.told topic kind
    rw [Transport.told, delivered_step_of_no_call hc, Transport.told]
  | some x =>
    rw [step_of_call? hc]
    exact told_call hbus x.1 x.2 hw

theorem lastItem_step (s : Service) (e : Event) : (s.step e).store.tables.lastItem.toNat =
    s.store.tables.lastItem.toNat + (s.posting e).tells .itemStatus "CREATED" := by
  unfold posting
  cases hc : e.call? with
  | none =>
    change _ = s.store.tables.lastItem.toNat
    obtain ⟨-, htables | ⟨w, -, htables⟩⟩ := s.books_step_of_no_call hc
    · rw [htables]
    · rw [htables]
  | some x =>
    rw [step_of_call? hc]
    exact s.lastItem_call x.1 x.2

/-- The books of the service agree, if that many failures have gone untold. -/
def Reconciles (s : Service) (silent : Nat) : Prop :=
  Reconciled (fun k => (s.metrics.count k).toNat) s.transport.told s.store.tables.lastItem.toNat silent

/-- No counter is full before so many more events. -/
def HasRoom (s : Service) (n : Nat) : Prop :=
  ∀ k, k ≠ .reservationsExpired → (s.metrics.count k).toNat + n < UInt64.size

theorem HasRoom.step {n : Nat} (h : s.HasRoom (n + 1)) (e : Event) : (s.step e).HasRoom n := by
  intro k hk
  have hroom := h k hk
  have hraised := (s.posting e).raises_le k
  rw [s.metrics_step e hk (by omega)]
  omega

theorem Reconciles.step {n m : Nat} (h : s.Reconciles n) (hbus : s.transport.Works) (hroom : s.HasRoom (m + 1))
    (e : Event) : (s.step e).Reconciles (n + s.failsSilently e) := by
  apply Reconciled.add h (s.reconciled_posting e)
  · intro k hk
    have hfree := hroom k hk
    exact s.metrics_step e hk (by omega)
  · intro topic kind hw
    exact told_step hbus e hw
  · exact s.lastItem_step e

theorem Reconciles.after {n : Nat} {h : List Event} (hs : s.Reconciles n) (hbus : s.NeverRefused h)
    (hroom : s.HasRoom h.length) : (s.after h).Reconciles (n + s.total failsSilently h) := by
  induction h generalizing s n with
  | nil => exact hs
  | cons e h ih =>
    rw [total, ← Nat.add_assoc]
    exact ih (hs.step hbus.1 hroom e) hbus.2 (hroom.step e)

def opened (s : Service) (n : Nat) : Service := { s.renewed n with metrics := .zero, transport := .working }

theorem reconciles_opened (s : Service) (n : Nat) : (s.opened n).Reconciles 0 := by
  constructor <;> rfl

/-- From fresh books, whatever happens on a bus that refuses nothing, as long as it is not more than a counter holds:
sales, increases, transfers and new items are counted as often as they are told, items are numbered as they are counted,
and every failure has been counted once that has been told as an error, or that is one of a command nobody answers. -/
theorem counters_reconcile (s : Service) (n : Nat) {h : List Event} (hbus : (s.opened n).NeverRefused h)
    (hlength : h.length < UInt64.size) : ((s.opened n).after h).Reconciles ((s.opened n).total failsSilently h) := by
  have hroom : (s.opened n).HasRoom h.length := fun k _ => (Nat.zero_add h.length).symm ▸ hlength
  have hafter := (s.reconciles_opened n).after hbus hroom
  rwa [Nat.zero_add] at hafter

def trading : List Event :=
  [.call .opening (.accountCreated ⟨1⟩), .fund ⟨⟨1⟩, 1000, 0, 0⟩, .message .opening .shopCommand order,
    .call .opening (.grant ⟨⟨7⟩, ⟨5000000⟩, 1, ⟨7⟩⟩), .faults [.commit], .message .opening .shopCommand order,
    .call .opening (.grant ⟨⟨7⟩, ⟨5000000⟩, 1, ⟨7⟩⟩)]

theorem counters_reconcile_trading : (kiosk.opened 1).NeverRefused trading ∧ trading.length < UInt64.size ∧
    (kiosk.opened 1).total failsSilently trading = 1 ∧ ((kiosk.opened 1).after trading).Reconciles 1 := by
  have hbus : (kiosk.opened 1).NeverRefused trading := by decide
  have htotal : (kiosk.opened 1).total failsSilently trading = 1 := by decide
  have hlength : trading.length < UInt64.size := by decide
  have hreconciles := counters_reconcile kiosk 1 hbus hlength
  rw [htotal] at hreconciles
  exact ⟨hbus, hlength, htotal, hreconciles⟩

end Service

end CashShop

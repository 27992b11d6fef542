import CashShop.Proofs.Call
import CashShop.Proofs.Work
import CashShop.Sweeper

namespace CashShop

def Store.fund (s : Store) (w : Wallet) : Except Fault (Bool × Store) := do
  let (found, d) ← (Draft.begin s).updateWallet w
  pure (found, ← d.commit)

theorem Store.fund_eq_ok {s s' : Store} {w : Wallet} {found : Bool} (h : s.fund w = .ok (found, s')) :
    found = s.tables.wallets.contains w.account ∧
      s' = if found then { s with tables := { s.tables with wallets := s.tables.wallets.insert w.account w } }
        else s := by
  unfold Store.fund at h
  cases hu : (Draft.begin s).updateWallet w with
  | error e => simp [hu, bind, Except.bind] at h
  | ok r =>
    obtain ⟨found', d⟩ := r
    obtain ⟨-, hfound, hd⟩ := Draft.updateWallet_eq_ok.1 hu
    cases hc : d.commit with
    | error e => simp [hu, hc, bind, Except.bind] at h
    | ok s'' =>
      obtain ⟨-, hs⟩ := Draft.commit_eq_ok.1 hc
      obtain ⟨rfl, rfl⟩ : found' = found ∧ s'' = s' := by simpa [hu, hc, bind, Except.bind, pure, Except.pure] using h
      refine ⟨hfound.symm, ?_⟩
      rw [← hs, ← hd]
      cases found' <;> rfl

inductive Event where
  | call (amb : Ambient) (c : Call)
  | message (amb : Ambient) (t : Topic) (m : Message)
  | fund (w : Wallet)
  | sweep (now : Instant)
  | faults (points : List FaultPoint)
  | transport (failing : Bool) (refused : List Topic)
  | lookups (catalog : Catalog) (directory : Directory)

namespace Event

def call? : Event → Option (Ambient × Call)
  | call amb c => some (amb, c)
  | message amb t m => (m.call? t).map fun c => (amb, c)
  | _ => none

def Deletes (e : Event) (a : AccountId) : Prop := ∃ amb, e.call? = some (amb, .accountDeleted a)

def Funds (e : Event) (a : AccountId) : Prop := ∃ w, e = .fund w ∧ w.account = a

end Event

namespace Service

def step (s : Service) : Event → Service
  | .call amb c => (s.call amb c).2
  | .message amb t m => (s.dispatch amb t m).2
  | .fund w => match s.store.fund w with
    | .ok (_, store) => { s with store }
    | .error _ => s
  | .sweep now =>
    let r := sweepCounted s.reservations s.metrics now
    { s with reservations := r.1, metrics := r.2 }
  | .faults points => { s with store := { s.store with faults := points } }
  | .transport failing refused => { s with transport := { s.transport with failing, refused } }
  | .lookups catalog directory => { s with catalog, directory }

def after (s : Service) (h : List Event) : Service := h.foldl step s

@[simp] theorem after_nil (s : Service) : s.after [] = s := rfl

@[simp] theorem after_cons (s : Service) (e : Event) (h : List Event) : s.after (e :: h) = (s.step e).after h := rfl

theorem after_append (s : Service) (h k : List Event) : s.after (h ++ k) = (s.after h).after k :=
  List.foldl_append

theorem after_concat (s : Service) (h : List Event) (e : Event) : s.after (h ++ [e]) = (s.after h).step e := by
  simp [after_append]

def Throughout (p : Service → Event → Prop) : Service → List Event → Prop
  | _, [] => True
  | s, e :: h => p s e ∧ Throughout p (s.step e) h

instance decidableThroughout (p : Service → Event → Prop) [∀ s e, Decidable (p s e)] :
    ∀ s h, Decidable (Throughout p s h)
  | _, [] => isTrue trivial
  | s, e :: h => @instDecidableAnd _ _ _ (decidableThroughout p (s.step e) h)

/-- What every step preserves of which the property holds, holds in the end. -/
theorem Throughout.after {p : Service → Event → Prop} {P : Service → Prop} {s : Service} {h : List Event}
    (hp : s.Throughout p h) (hstep : ∀ s, ∀ e ∈ h, p s e → P s → P (s.step e)) (hs : P s) : P (s.after h) := by
  induction h generalizing s with
  | nil => exact hs
  | cons e h ih =>
    exact ih hp.2 (fun s e' he' => hstep s e' (List.mem_cons_of_mem _ he')) (hstep s e List.mem_cons_self hp.1 hs)

variable {s : Service} {e : Event} {amb : Ambient} {c : Call}

theorem step_of_call? (h : e.call? = some (amb, c)) : s.step e = (s.call amb c).2 := by
  cases e with
  | call amb' c' => cases h; rfl
  | message amb' t m =>
    obtain ⟨c', hc, hp⟩ := Option.map_eq_some_iff.1 h
    cases hp
    rw [step, dispatch_snd, hc, callIf]
  | fund | sweep | faults | transport | lookups => simp [Event.call?] at h

theorem books_step_of_no_call (s : Service) (h : e.call? = none) :
    (s.step e).store.window = s.store.window ∧ ((s.step e).store.tables = s.store.tables ∨
      ∃ w, e = .fund w ∧
        (s.step e).store.tables = { s.store.tables with wallets := s.store.tables.wallets.insert w.account w }) := by
  cases e with
  | call amb' c' => cases h
  | message amb' t m =>
    have hc : m.call? t = none := by simpa [Event.call?] using h
    rw [step, dispatch_snd, hc]
    exact ⟨rfl, .inl rfl⟩
  | fund w =>
    rw [step]
    cases hf : s.store.fund w with
    | error e => exact ⟨rfl, .inl rfl⟩
    | ok r =>
      obtain ⟨found, store⟩ := r
      obtain ⟨-, rfl⟩ := Store.fund_eq_ok hf
      cases found with
      | false => exact ⟨rfl, .inl rfl⟩
      | true => exact ⟨rfl, .inr ⟨w, rfl, rfl⟩⟩
  | sweep | faults | transport | lookups => exact ⟨rfl, .inl rfl⟩

def renewed (s : Service) (n : Nat) : Service := { s with store := .ofKeyCapacity n }

def stocked : Service := kiosk.after [.call .opening (.accountCreated ⟨1⟩), .fund ⟨⟨1⟩, 1000, 0, 0⟩]

def sold : Service := stocked.after [.call .opening (.purchase ⟨7⟩ ⟨1, ⟨20⟩, none⟩)]

end Service

end CashShop

import CashShop.Proofs.History

namespace CashShop.Service

variable {s : Service} {e : Event} {amb : Ambient} {c : Call} {a : Answer}

def answer? (s : Service) (e : Event) : Option (Call × Answer) :=
  e.call?.bind fun (amb, c) => (s.call amb c).1.toOption.map fun a => (c, a)

theorem answer?_eq_some_iff : s.answer? e = some (c, a) ↔
    ∃ amb, e.call? = some (amb, c) ∧ (s.call amb c).1 = .ok a := by
  have ho {x : Except WorkflowError Answer} {a : Answer} : x.toOption = some a ↔ x = .ok a := by
    cases x <;> simp [Except.toOption]
  simp only [answer?, Option.bind_eq_some_iff, Option.map_eq_some_iff, Prod.mk.injEq, ho]
  constructor
  · rintro ⟨⟨amb, c'⟩, hc, a', ha, rfl, rfl⟩
    exact ⟨amb, hc, ha⟩
  · rintro ⟨amb, hc, ha⟩
    exact ⟨(amb, c), hc, a, ha, rfl, rfl⟩

theorem answer?_eq_none_iff :
    s.answer? e = none ↔ ∀ amb c, e.call? = some (amb, c) → ∃ err, (s.call amb c).1 = .error err := by
  constructor
  · intro h amb c hc
    cases hr : (s.call amb c).1 with
    | error err => exact ⟨err, rfl⟩
    | ok a =>
      have ha : s.answer? e = some (c, a) := answer?_eq_some_iff.2 ⟨amb, hc, hr⟩
      cases h.symm.trans ha
  · intro h
    cases ha : s.answer? e with
    | none => rfl
    | some x =>
      obtain ⟨amb, hc, hr⟩ := answer?_eq_some_iff.1 ha
      obtain ⟨err, he⟩ := h amb x.1 hc
      cases hr.symm.trans he

def total (s : Service) (f : Service → Event → Nat) : List Event → Nat
  | [] => 0
  | e :: h => f s e + (s.step e).total f h

theorem total_add (s : Service) (f g : Service → Event → Nat) (h : List Event) :
    s.total (fun s e => f s e + g s e) h = s.total f h + s.total g h := by
  induction h generalizing s with
  | nil => rfl
  | cons e h ih =>
    simp only [total, ih]
    omega

/-- What every event pays for out of its own contribution and a stock `v` is paid for along the whole history. -/
theorem total_add_le {f g : Service → Event → Nat} {v : Service → Nat}
    (hstep : ∀ s e, f s e + v (s.step e) ≤ g s e + v s) (s : Service) (h : List Event) :
    s.total f h + v (s.after h) ≤ s.total g h + v s := by
  induction h generalizing s with
  | nil => simp [total]
  | cons e h ih =>
    have h1 := hstep s e
    have h2 := ih (s.step e)
    simp only [total, after_cons]
    omega

def ends (p : Service → Call → Answer → Bool) (s : Service) (e : Event) : Nat :=
  match s.answer? e with
  | some (c, a) => (p s c a).toNat
  | none => 0

def tally (s : Service) (p : Service → Call → Answer → Bool) (h : List Event) : Nat := s.total (ends p) h

end CashShop.Service

import CashShop.Proofs.Bookkeeping

namespace CashShop

def Transport.errors (t : Transport) : Nat := t.told .shopStatus "ERROR" + t.told .compartmentStatus "ERROR"

def Posting.errors (p : Posting) : Nat :=
  p.notices.count (.shopStatus, "ERROR") + p.notices.count (.compartmentStatus, "ERROR")

namespace Service

variable {s : Service} {amb : Ambient} {c : Call} {a : Answer} {b : CharacterId} {t : Topic} {m : Message}

theorem errors_call (hbus : s.transport.Works) (amb : Ambient) (c : Call) :
    (s.call amb c).2.transport.errors = s.transport.errors + (c.posting (s.call amb c).1).errors := by
  have hshop := told_call hbus amb c (show Watched .shopStatus "ERROR" by simp [Watched])
  have hcompartment := told_call hbus amb c (show Watched .compartmentStatus "ERROR" by simp [Watched])
  unfold Transport.errors Posting.errors
  omega

theorem errors_posting_of_error (hc : c.customer? = some b) (e : WorkflowError) : (c.posting (.error e)).errors = 1 := by
  cases c with
  | purchase | increaseByType | increaseByItem | move => rfl
  | _ => cases hc

theorem errors_posting_of_ok (hc : c.customer? = some b) (hr : (s.call amb c).1 = .ok a) :
    (c.posting (.ok a)).errors = if a = .purchase .inventoryFull then 1 else 0 := by
  cases c with
  | purchase b o =>
    obtain ⟨outcome, -, rfl⟩ := answered_eq_ok.1 hr
    cases outcome <;> rfl
  | increaseByType | increaseByItem | move =>
    obtain ⟨x, -, rfl⟩ := answered_eq_ok.1 hr
    rfl
  | _ => cases hc

theorem verdict_of_customer (hc : c.customer? = some b) (hr : (s.call amb c).1 = .ok a) : a.verdict = .applied := by
  cases c with
  | purchase | increaseByType | increaseByItem | move =>
    obtain ⟨x, -, rfl⟩ := answered_eq_ok.1 hr
    rfl
  | _ => cases hc

/-- A message is applied exactly if no error has been published for it, and rejected or an internal failure exactly if
one has. -/
structure VerdictAgrees (s : Service) (amb : Ambient) (t : Topic) (m : Message) : Prop where
  applied : (s.dispatch amb t m).1 = .ok .applied ↔ (s.dispatch amb t m).2.transport.errors = s.transport.errors
  failed : ((∃ e, (s.dispatch amb t m).1 = .error (.rejected e)) ∨ ∃ d, (s.dispatch amb t m).1 = .error (.internal d)) ↔
    s.transport.errors < (s.dispatch amb t m).2.transport.errors

theorem verdictAgrees_of_customer (hbus : s.transport.Works) (hm : m.call? t = some c) (hc : c.customer? = some b) :
    s.VerdictAgrees amb t m ↔ (s.call amb c).1 ≠ .ok (.purchase .inventoryFull) := by
  have hverdict : (s.dispatch amb t m).1 = _ := dispatch_fst hm
  have herrors : (s.dispatch amb t m).2.transport.errors =
      s.transport.errors + (c.posting (s.call amb c).1).errors := by
    rw [dispatch_snd, hm]
    exact errors_call hbus amb c
  cases hr : (s.call amb c).1 with
  | error e =>
    rw [hr, errors_posting_of_error hc] at herrors
    have hfailed : (∃ e, (s.dispatch amb t m).1 = .error (.rejected e)) ∨
        ∃ d, (s.dispatch amb t m).1 = .error (.internal d) := by
      rw [hverdict, hr]
      cases hb : e.isBusiness with
      | true => exact .inl ⟨e, by simp [Except.map, Except.mapError, ConsumerError.ofRequest, hb]⟩
      | false => exact .inr ⟨_, by simp [Except.map, Except.mapError, ConsumerError.ofRequest, hb]; rfl⟩
    have hunapplied : (s.dispatch amb t m).1 ≠ .ok .applied := by simp [hverdict, hr, Except.map, Except.mapError]
    refine iff_of_true ⟨iff_of_false hunapplied ?_, iff_of_true hfailed ?_⟩ (by simp)
    · omega
    · omega
  | ok a =>
    have happlied : (s.dispatch amb t m).1 = .ok .applied := by
      rw [hverdict, hr, ← verdict_of_customer hc hr]
      rfl
    rw [hr, errors_posting_of_ok hc hr] at herrors
    by_cases hfull : a = .purchase .inventoryFull
    · subst hfull
      refine iff_of_false ?_ (by simp)
      intro hagrees
      have hnone := hagrees.applied.1 happlied
      simp [herrors] at hnone
    · rw [if_neg hfull] at herrors
      have hunfailed : ¬ ((∃ e, (s.dispatch amb t m).1 = .error (.rejected e)) ∨
          ∃ d, (s.dispatch amb t m).1 = .error (.internal d)) := by
        simp [happlied]
      refine iff_of_true ⟨iff_of_true happlied herrors, iff_of_false hunfailed ?_⟩ (by simpa using hfull)
      omega

/-- The verdict on a command that is understood agrees with its answer, unless the command is an order for which the
compartment has no room. That one is told as an error, and counts as applied. -/
theorem verdictAgrees_iff {x : ShopCommand} (hbus : s.transport.Works) (amb : Ambient)
    (hx : ShopCommand.decode m.value = .ok x) (hsupported : x ≠ .unsupported) :
    s.VerdictAgrees amb .shopCommand m ↔ ∀ b o, x = .purchase b o → (s.purchase amb b o).1 ≠ .ok .inventoryFull := by
  have hm : m.call? .shopCommand = x.call? := by simp [Message.call?, hx, Except.toOption]
  cases x with
  | unsupported => exact absurd rfl hsupported
  | purchase b o =>
    rw [verdictAgrees_of_customer hbus hm rfl]
    have hfull : (s.call amb (.purchase b o)).1 = .ok (.purchase .inventoryFull) ↔
        (s.purchase amb b o).1 = .ok .inventoryFull := by
      rw [call, answered_eq_ok]
      simp
    constructor
    · rintro hroom b' o' ⟨⟩
      exact fun h => hroom (hfull.2 h)
    · intro hroom h
      exact hroom b o rfl (hfull.1 h)
  | increaseByType b currency tab =>
    rw [verdictAgrees_of_customer hbus hm rfl]
    exact iff_of_true (answered_ne (by simp)) (by simp)
  | increaseByItem b currency n =>
    rw [verdictAgrees_of_customer hbus hm rfl]
    exact iff_of_true (answered_ne (by simp)) (by simp)
  | move b o =>
    rw [verdictAgrees_of_customer hbus hm rfl]
    exact iff_of_true (answered_ne (by simp)) (by simp)

def order : Message := ⟨"7", (ShopCommand.purchase ⟨7⟩ ⟨1, ⟨20⟩, none⟩).toJson⟩

theorem verdictAgrees_iff_sale : stocked.transport.Works ∧ stocked.VerdictAgrees .opening .shopCommand order := by
  have hbus : stocked.transport.Works := by decide
  refine ⟨hbus, (verdictAgrees_iff hbus .opening (x := .purchase ⟨7⟩ ⟨1, ⟨20⟩, none⟩) rfl (by simp)).2 ?_⟩
  rintro b o ⟨⟩
  decide

def crowded : Service := ({ kiosk with settings := { Settings.initial with compartmentCapacity := 1 } }).after
  [.call .opening (.accountCreated ⟨1⟩), .fund ⟨⟨1⟩, 1000, 0, 0⟩, .message .opening .shopCommand order]

theorem not_verdictAgrees_crowded : ¬ crowded.VerdictAgrees .opening .shopCommand order := by
  intro h
  have happlied : (crowded.dispatch .opening .shopCommand order).1 = .ok .applied := by decide
  exact absurd (h.applied.1 happlied) (by decide)

end Service

end CashShop

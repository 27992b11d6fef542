import CashShop.Proofs.Refusal
import CashShop.Session

namespace CashShop

variable {α β : Type}

/-- Whoever is found is who has been asked for. -/
def Directory.Faithful (dir : Directory) : Prop := ∀ b withInventory ch, dir b withInventory = .ok ch → ch.id = b

namespace Wire.Record

variable {ν : Type} {P : α → Prop} {Q : β → Prop}

def Grants (r : Record ν α) (P : α → Prop) : Prop := ∀ fields i a, r.read fields i = .ok a → P a

theorem both_eq_ok {f : Except Failure (α → β)} {x : Except Failure α} {b : β} :
    both f x = .ok b ↔ ∃ g a, f = .ok g ∧ x = .ok a ∧ g a = b := by
  cases f with
  | ok g => cases x <;> simp [both]
  | error e =>
    cases x with
    | ok a => simp [both]
    | error e' =>
      simp only [both, reduceCtorEq, false_and, exists_false, iff_false]
      split <;> simp

theorem grants_seq {r : Record ν (α → β)} {x : Record ν α} (hr : r.Grants fun f => ∀ a, P a → Q (f a))
    (hx : x.Grants P) : (r <*> x).Grants Q := by
  intro fields i b h
  obtain ⟨g, a, hg, ha, rfl⟩ := both_eq_ok.1 h
  exact hr fields i g hg a (hx fields _ a ha)

theorem grants_map {r : Record ν α} {f : α → β} (hr : r.Grants P) (hf : ∀ a, P a → Q (f a)) : (f <$> r).Grants Q := by
  intro fields i b h
  obtain ⟨g, a, ⟨⟩, ha, rfl⟩ := both_eq_ok.1 h
  exact hf a (hr fields _ a ha)

theorem grants_true (r : Record ν α) : r.Grants fun _ => True := fun _ _ _ _ => trivial

theorem grants_field {name : String} {decode : ν → Except DecodeError α} (h : ∀ v a, decode v = .ok a → P a) :
    (field name decode).Grants P := by
  have hranked {v : ν} {i : Nat} {a : α} (hr : ranked i (decode v) = .ok a) : P a := by
    cases hd : decode v with
    | error e => simp [ranked, hd] at hr
    | ok a' =>
      obtain rfl : a' = a := by simpa [ranked, hd] using hr
      exact h v a' hd
  intro fields i a hread
  cases fields with
  | keyed entries =>
    simp only [field, fieldOr] at hread
    cases ho : occurrences name entries 0 with
    | nil => simp [ho] at hread
    | cons first rest =>
      rw [ho] at hread
      cases rest with
      | nil => exact hranked hread
      | cons second rest => cases hd : decode first.2 <;> simp [hd] at hread
  | listed items =>
    simp only [field, fieldOr] at hread
    cases hv : items[i]? with
    | none => simp [hv] at hread
    | some v =>
      rw [hv] at hread
      exact hranked hread

theorem Grants.run {r : Record ν α} (h : r.Grants P) {fields : Fields ν} {a : α} (hr : r.run fields = .ok a) : P a := by
  unfold Record.run at hr
  cases hread : r.read fields 0 with
  | error e => simp [hread] at hr
  | ok a' =>
    have ha : P a' := h fields 0 a' hread
    cases fields with
    | keyed entries =>
      obtain rfl : a' = a := by simpa [hread] using hr
      exact ha
    | listed items =>
      by_cases hs : items.length ≤ r.size
      · obtain rfl : a' = a := by simpa [hread, hs] using hr
        exact ha
      · simp [hread, hs] at hr

theorem Grants.decodeSource {r : Record Json.Source α} (h : r.Grants P) {src : Json.Source} {a : α}
    (hr : r.decodeSource src = .ok a) : P a := by
  cases src with
  | obj fields =>
    simp only [Record.decodeSource] at hr
    cases hk : textKeys fields with
    | none => simp [hk] at hr
    | some entries =>
      rw [hk] at hr
      exact h.run hr
  | arr items => exact h.run hr
  | _ => simp [Record.decodeSource] at hr

end Wire.Record

namespace Remote

open Wire Record

variable {decode : Json.Source → Except DecodeError α} {P : α → Prop}

theorem exists_of_fetch_ok {what : String} {reply : Option Reply} {a : α} (h : fetch what decode reply = .ok a) :
    ∃ src, decode src = .ok a := by
  cases reply with
  | none => cases h
  | some r =>
    simp only [fetch] at h
    split at h
    · cases h
    · split at h
      · cases h
      · split at h
        · cases h
        · cases hp : Json.Source.parse? r.text with
          | none => simp [hp] at h
          | some src =>
            cases hd : decode src with
            | error e => simp [hp, hd] at h
            | ok a' =>
              obtain rfl : a' = a := by simpa [hp, hd] using h
              exact ⟨src, hd⟩

theorem of_document_ok {included : Json.Source → Except DecodeError β} (h : ∀ v a, decode v = .ok a → P a)
    {src : Json.Source} {x : α × List β} (hx : document decode included src = .ok x) : P x.1 := by
  have hresource (v : Json.Source) (y : String × α) (hy : resource decode v = .ok y) : P y.2 := by
    refine Grants.decodeSource (P := fun y : String × α => P y.2) ?_ hy
    exact grants_seq (grants_map (grants_true _) fun _ _ _ ha => ha) (grants_field h)
  refine Grants.decodeSource (P := fun x : α × List β => P x.1) ?_ hx
  exact grants_seq (grants_map (grants_field hresource) fun y hy _ _ => hy) (grants_true _)

theorem id_of_characterAttributes {b : CharacterId} (src : Json.Source) (ch : Character)
    (h : characterAttributes b src = .ok ch) : ch.id = b :=
  Grants.decodeSource (P := fun ch : Character => ch.id = b)
    (grants_seq (grants_seq (grants_map (grants_true _) fun _ _ _ _ _ _ => rfl) (grants_true _)) (grants_true _)) h

theorem faithful_directory (ask : Exchange) : (directory ask).Faithful := by
  intro b withInventory ch h
  simp only [directory] at h
  cases hf : fetch s!"character {b}" (document (characterAttributes b) (resource compartmentAttributes))
      (ask (characterPath b withInventory)) with
  | error e => simp [hf, Except.map] at h
  | ok x =>
    obtain ⟨src, hsrc⟩ := exists_of_fetch_ok hf
    have hid : x.1.id = b := of_document_ok id_of_characterAttributes hsrc
    rw [hf] at h
    cases h
    cases withInventory <;> exact hid

end Remote

theorem Directory.faithful_ofList (cs : List Character) : (ofList cs).Faithful := by
  have hfiled : ∀ b ch, (cs.foldl (fun t c => t.insert c.id c) Table.empty).get? b = some ch → ch.id = b := by
    refine List.foldlRecOn cs _ (motive := fun t : Table CharacterId Character =>
      ∀ b ch, t.get? b = some ch → ch.id = b) (by simp) ?_
    intro t ht c _ b ch h
    by_cases hb : b = c.id
    · obtain rfl : c = ch := by simpa [hb] using h
      exact hb.symm
    · exact ht b ch (by simpa [hb] using h)
  intro b withInventory ch h
  simp only [ofList, ofTable] at h
  cases hc : (cs.foldl (fun t c => t.insert c.id c) Table.empty).get? b with
  | none => simp [hc] at h
  | some c =>
    have hid := hfiled b c hc
    rw [hc] at h
    cases h
    cases withInventory <;> exact hid

theorem Directory.Faithful.id_of_resolve {s : Service} (h : s.directory.Faithful) {b : CharacterId} {o : PurchaseOrder}
    {t : Purchase.Terms} (ht : Purchase.Terms.resolve s b o = .ok t) : t.character.id = b := by
  obtain ⟨-, -, hch⟩ := Purchase.Terms.resolve_eq_ok.1 ht
  rw [Service.character] at hch
  cases hd : s.directory b false with
  | error e =>
    rw [hd] at hch
    cases hch
  | ok ch =>
    rw [hd] at hch
    obtain rfl : ch = t.character := Except.ok.inj hch
    exact h b false _ hd

/-- However the service is configured, and whatever the other services reply. -/
theorem Service.faithful_ofConfig (c : Config) (ask : String → Remote.Exchange) :
    (Service.ofConfig c ask).directory.Faithful := by
  cases hu : c.characterUrl with
  | none =>
    simp only [ofConfig, hu, Option.map_none, Option.getD_none]
    exact Directory.faithful_ofList []
  | some url =>
    simp only [ofConfig, hu, Option.map_some, Option.getD_some]
    exact Remote.faithful_directory (ask url)

end CashShop

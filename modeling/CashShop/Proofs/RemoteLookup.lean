import CashShop.Proofs.RequestTarget
import CashShop.Proofs.ResourceDocument

namespace CashShop.Remote

open Wire Record Json

section Outcome

variable {α β : Type} {what : String} {decode : Source → Except DecodeError α} {reply : Option Reply} {a : α}

def Decodes (decode : Source → Except DecodeError α) (r : Reply) : Prop :=
  ∃ src a, Source.parse? r.text = some src ∧ decode src = .ok a

def IsFault (decode : Source → Except DecodeError α) : Option Reply → Prop
  | none => True
  | some r => r.status ≠ 404 ∧ (isStatus r.status = false ∨ (400 ≤ r.status ∧ r.status < 600) ∨ ¬ Decodes decode r)

structure FailsBy (result : Except LookupError β) (what : String) (decode : Source → Except DecodeError α)
    (reply : Option Reply) : Prop where
  notFound : ∀ w, result = .error (.notFound w) ↔ w = what ∧ ∃ r, reply = some r ∧ r.status = 404
  transport : (∃ why, result = .error (.transport why)) ↔ IsFault decode reply

theorem fetch_of_document {r : Reply} {src : Source} (hstatus : 200 ≤ r.status ∧ r.status < 300)
    (hsrc : Source.parse? r.text = some src) : fetch what decode (some r) = .ok a ↔ decode src = .ok a := by
  have hvalid : (!isStatus r.status) = false := by
    simp only [isStatus, Bool.not_eq_false', Bool.and_eq_true, decide_eq_true_eq]
    omega
  have hfound : r.status ≠ 404 := by omega
  have herror : ¬ (400 ≤ r.status ∧ r.status < 600) := by omega
  simp only [fetch, hvalid, hfound, herror, hsrc, Bool.false_eq_true, if_false, Option.map_some]
  cases decode src <;> simp

theorem fetch_cases (what : String) (decode : Source → Except DecodeError α) (r : Reply) :
    (fetch what decode (some r) = .error (.notFound what) ∧ r.status = 404) ∨
    ((∃ why, fetch what decode (some r) = .error (.transport why)) ∧ IsFault decode (some r)) ∨
    (∃ a, fetch what decode (some r) = .ok a) ∧ r.status ≠ 404 ∧ ¬ IsFault decode (some r) := by
  simp only [fetch]
  by_cases hvalid : isStatus r.status = true
  · rw [if_neg (by simp [hvalid])]
    by_cases hmissing : r.status = 404
    · rw [if_pos hmissing]
      exact .inl ⟨rfl, hmissing⟩
    · rw [if_neg hmissing]
      by_cases herror : 400 ≤ r.status ∧ r.status < 600
      · rw [if_pos herror]
        exact .inr (.inl ⟨⟨_, rfl⟩, hmissing, .inr (.inl herror)⟩)
      · rw [if_neg herror]
        have hfault : IsFault decode (some r) ↔ ¬ Decodes decode r := by simp [IsFault, hmissing, hvalid, herror]
        rw [hfault, Decodes]
        cases Source.parse? r.text with
        | none => exact .inr (.inl ⟨⟨_, rfl⟩, by simp⟩)
        | some src => cases hd : decode src with
          | error e => exact .inr (.inl ⟨⟨_, by rw [Option.map_some, hd]⟩, by simp [hd]⟩)
          | ok a => exact .inr (.inr ⟨⟨a, by rw [Option.map_some, hd]⟩, hmissing, by simp [hd]⟩)
  ·
    have hmissing : r.status ≠ 404 := by
      intro h
      rw [h] at hvalid
      exact hvalid rfl
    rw [if_pos (by simp [hvalid])]
    exact .inr (.inl ⟨⟨_, rfl⟩, hmissing, .inl (Bool.eq_false_iff.2 hvalid)⟩)

theorem failsBy_fetch : FailsBy (fetch what decode reply) what decode reply := by
  cases reply with
  | none => exact ⟨by simp [fetch], by simp [fetch, IsFault]⟩
  | some r =>
    rcases fetch_cases what decode r with ⟨hfetch, hstatus⟩ | ⟨⟨why, hfetch⟩, hfault⟩ | ⟨⟨a, hfetch⟩, hstatus, hfault⟩
    · have hfault : ¬ IsFault decode (some r) := fun h => h.1 hstatus
      exact ⟨by simp [hfetch, hstatus, eq_comm], by simp [hfetch, hfault]⟩
    · exact ⟨by simp [hfetch, hfault.1], by simp [hfetch, hfault]⟩
    · exact ⟨by simp [hfetch, hstatus], by simp [hfetch, hfault]⟩

theorem FailsBy.map {result : Except LookupError α} (h : FailsBy result what decode reply) (f : α → β) :
    FailsBy (result.map f) what decode reply := by
  have herror (e : LookupError) : result.map f = .error e ↔ result = .error e := by
    cases result <;> simp [Except.map]
  exact ⟨fun w => (herror _).trans (h.notFound w), (exists_congr fun _ => herror _).trans h.transport⟩

theorem failsBy_catalog (ask : Exchange) (n : SerialNumber) : FailsBy (catalog ask n) s!"commodity {n}"
    (document (commodityAttributes n) fun _ => .ok ()) (ask (commodityPath n)) := failsBy_fetch.map _

theorem failsBy_directory (ask : Exchange) (c : CharacterId) (withInventory : Bool) :
    FailsBy (directory ask c withInventory) s!"character {c}"
      (document (characterAttributes c) (resource compartmentAttributes)) (ask (characterPath c withInventory)) :=
  failsBy_fetch.map _

end Outcome

def NamedLast (caps : TabCapacities) (named : List (Tab × UInt32)) : Prop :=
  ∀ tab, caps.get? tab = (named.filter (·.1 = tab)).getLast?.map (·.2)

variable {caps : TabCapacities} {named : List (Tab × UInt32)} {items : List Source}

theorem namedLast_foldl (named : List (Tab × UInt32)) :
    NamedLast (named.foldl (fun t r => t.insert r.1 r.2) .empty) named := by
  induction named using List.reverseRecOn with
  | nil => exact fun _ => rfl
  | append_singleton named r ih =>
    intro tab
    rw [List.foldl_append, List.foldl_cons, List.foldl_nil, Table.get?_insert, ih tab, List.filter_append]
    by_cases htab : tab = r.1
    · simp [htab]
    · simp [htab, Ne.symm htab]

theorem NamedLast.foldl_eq (h : NamedLast caps named) : named.foldl (fun t r => t.insert r.1 r.2) .empty = caps :=
  Table.ext_get? fun tab => (namedLast_foldl named tab).trans (h tab).symm

theorem namedLast_of_perm (h : named.Perm caps.rows) : NamedLast caps named := by
  intro tab
  cases hlast : (named.filter (·.1 = tab)).getLast? with
  | none =>
    have hnone := List.filter_eq_nil_iff.1 (List.getLast?_eq_none_iff.1 hlast)
    refine Option.eq_none_iff_forall_ne_some.2 fun slots hslots => ?_
    exact hnone _ (h.mem_iff.2 ((Table.get?_eq_some_iff caps).1 hslots)) (by simp)
  | some r =>
    obtain ⟨hr, htab⟩ := List.mem_filter.1 (List.mem_of_getLast? hlast)
    have hkey : r.1 = tab := by simpa using htab
    exact (Table.get?_eq_some_iff caps).2 (hkey ▸ h.mem_iff.1 hr)

/-- What the resources tell of capacities, in their order. A compartment tells nothing if its code stands for no tab, and
neither does a resource of another kind. -/
inductive Tells : List Source → List (Tab × UInt32) → Prop
  | nil : Tells [] []
  | capacity (tab : Tab) {item attributes : Source} {name : String} {slots : UInt32} {items : List Source}
      {named : List (Tab × UInt32)} (resource : IsResource item name attributes) (kind : isCompartment name = true)
      (allots : AllotsSlots attributes tab.code.toNat slots) (rest : Tells items named) :
      Tells (item :: items) ((tab, slots) :: named)
  | unknown {item attributes : Source} {name : String} {code : Int} {slots : UInt32} {items : List Source}
      {named : List (Tab × UInt32)} (resource : IsResource item name attributes) (kind : isCompartment name = true)
      (allots : AllotsSlots attributes code slots) (unknown : ∀ tab : Tab, (tab.code.toNat : Int) ≠ code)
      (rest : Tells items named) : Tells (item :: items) named
  | other (name : String) {item : Source} {items : List Source} {named : List (Tab × UInt32)}
      (type : item.Holds "type" (.str (some name))) (kind : isCompartment name = false) (rest : Tells items named) :
      Tells (item :: items) named

/-- The resource allots slots to a code of one byte, of whatever kind it is. -/
def IsReadable (item : Source) : Prop := ∃ kind attributes, IsResource item kind attributes ∧
  ∃ (code : UInt8) (slots : UInt32), AllotsSlots attributes code.toNat slots

section Mapped

variable {α β : Type} {f : α → Except DecodeError β} {x : α} {xs : List α} {ys : List β}

theorem mapM_cons_eq_ok : (x :: xs).mapM f = .ok ys ↔ ∃ y zs, f x = .ok y ∧ xs.mapM f = .ok zs ∧ y :: zs = ys := by
  rw [List.mapM_cons]
  cases hx : f x with
  | error e => simp [bind, Except.bind]
  | ok y => cases hxs : xs.mapM f <;> simp [bind, Except.bind, pure, Except.pure]

theorem exists_mapM_eq_ok : (∃ ys, xs.mapM f = .ok ys) ↔ ∀ x ∈ xs, ∃ y, f x = .ok y := by
  induction xs with
  | nil => simp [pure, Except.pure]
  | cons x xs ih =>
    rw [List.forall_mem_cons, ← ih]
    simp only [mapM_cons_eq_ok]
    constructor
    · rintro ⟨_, y, zs, hy, hzs, rfl⟩
      exact ⟨⟨y, hy⟩, zs, hzs⟩
    · rintro ⟨⟨y, hy⟩, zs, hzs⟩
      exact ⟨_, y, zs, hy, hzs, rfl⟩

end Mapped

def named? (r : String × UInt8 × UInt32) : Option (Tab × UInt32) :=
  if isCompartment r.1 then (Tab.ofCode? r.2.1).map fun tab => (tab, r.2.2) else none

theorem capacities_eq (included : List (String × UInt8 × UInt32)) :
    capacities included = (included.filterMap named?).foldl (fun t r => t.insert r.1 r.2) .empty := by
  rw [List.foldl_filterMap, capacities]
  congr
  funext t r
  unfold named?
  cases isCompartment r.1 <;> cases Tab.ofCode? r.2.1 <;> rfl

theorem Tells.exists_fields (h : Tells items named) : ∀ item ∈ items, ∃ fields, item.fields? = some fields := by
  induction h with
  | nil => exact nofun
  | capacity _ resource _ _ _ ih => exact List.forall_mem_cons.2 ⟨resource.attributes.exists_fields, ih⟩
  | unknown resource _ _ _ _ ih => exact List.forall_mem_cons.2 ⟨resource.attributes.exists_fields, ih⟩
  | other _ type _ _ ih => exact List.forall_mem_cons.2 ⟨type.exists_fields, ih⟩

theorem Tells.exists_mapM_iff (h : Tells items named) :
    (∃ xs, items.mapM (resource compartmentAttributes) = .ok xs) ↔ ∀ item ∈ items, IsReadable item := by
  rw [exists_mapM_eq_ok]
  refine forall₂_congr fun item hitem => ?_
  obtain ⟨fields, hfields⟩ := h.exists_fields item hitem
  exact exists_resource_eq_ok hfields

theorem Tells.filterMap_eq (h : Tells items named) {xs : List (String × UInt8 × UInt32)}
    (hread : items.mapM (resource compartmentAttributes) = .ok xs) : xs.filterMap named? = named := by
  induction h generalizing xs with
  | nil =>
    obtain rfl := Except.ok.inj hread
    rfl
  | @capacity tab _ attributes name slots _ named resource kind allots _ ih =>
    obtain ⟨x, zs, hx, hzs, rfl⟩ := mapM_cons_eq_ok.1 hread
    obtain ⟨fields, hfields⟩ := resource.attributes.exists_fields
    have hitem := (resource_eq_ok hfields).2 ⟨attributes, resource, compartmentAttributes_eq_ok.2 allots⟩
    obtain rfl := Except.ok.inj (hitem.symm.trans hx)
    have hnamed : named? (name, tab.code, slots) = some (tab, slots) := by simp [named?, kind, Tab.ofCode?_code]
    rw [List.filterMap_cons_some hnamed, ih hzs]
  | @unknown _ attributes name code slots _ named resource kind allots unknown _ ih =>
    obtain ⟨⟨name', code', slots'⟩, zs, hx, hzs, rfl⟩ := mapM_cons_eq_ok.1 hread
    obtain ⟨fields, hfields⟩ := resource.attributes.exists_fields
    obtain ⟨attributes', hresource, hattributes⟩ := (resource_eq_ok hfields).1 hx
    obtain rfl := hresource.attributes.unique resource.attributes
    have hcode := (compartmentAttributes_eq_ok.1 hattributes).code_unique allots
    have hnone : Tab.ofCode? code' = none := Option.eq_none_iff_forall_ne_some.2 fun tab htab => by
      rw [← Tab.code_of_ofCode? htab] at hcode
      exact unknown tab hcode
    rw [List.filterMap_cons_none (by simp [named?, hnone]), ih hzs]
  | other name type kind _ ih =>
    obtain ⟨⟨name', code', slots'⟩, zs, hx, hzs, rfl⟩ := mapM_cons_eq_ok.1 hread
    obtain ⟨fields, hfields⟩ := type.exists_fields
    obtain ⟨attributes, hresource, -⟩ := (resource_eq_ok hfields).1 hx
    obtain rfl := hresource.kind_unique (.inr type)
    rw [List.filterMap_cons_none (by simp [named?, kind]), ih hzs]

def written (fields : List (String × Json)) : Reply := ⟨200, (Json.obj fields).render⟩

def resourceJson (kind : String) (attributes : List (String × Json)) : Json :=
  .obj [("attributes", .obj attributes), ("type", .str kind)]

def slotsJson (kind : String) (code : Int) (slots : UInt32) : Json :=
  resourceJson kind [("capacity", .ofUInt32 slots), ("type", .int code)]

def page (c : Character) (included : List Json) : List (String × Json) :=
  [("data", resourceJson "characters" [("accountId", accountJson c.account), ("jobId", .int c.job.toNat), ("name", .str c.name)]),
    ("included", .arr included)]

theorem parse?_written {fields : List (String × Json)} (h : (Json.obj fields).isPlain = true) :
    Source.parse? (written fields).text = some (Json.obj fields).source := by
  have htext : (written fields).text = (Json.obj fields).render := by
    simp [written, Reply.text, isBodiless, Json.render, Json.chars]
  rw [htext, Source.parse?, Json.render, String.toList_ofList, Json.ofChars?_chars h]

theorem isInt_source {n : Int} (hlo : -9223372036854775808 ≤ n) (hhi : n < 18446744073709551616) :
    (Json.int n).source.IsInt n := by
  rw [Source.IsInt, Json.source, Source.toJson?, toJson?_numeral hlo hhi]

theorem isResource_source (kind : String) (attributes : List (String × Json)) :
    IsResource (resourceJson kind attributes).source kind (Json.obj attributes).source := ⟨.inr rfl, rfl⟩

theorem presents_page (c : Character) (included : List Json) :
    Presents (Json.obj (page c included)).source c (Json.sourceItems included) where
  data := by
    have haccount := c.account.val.toNat_lt
    have hjob := c.job.toNat_lt
    refine ⟨_, _, _, rfl, isResource_source "characters" _, ⟨_, rfl, isInt_source ?_ ?_⟩, rfl, ⟨_, rfl, isInt_source ?_ ?_⟩⟩ <;>
      omega
  included := .inr rfl

theorem allotsSlots_source {code : Int} (hcode : -9223372036854775808 ≤ code ∧ code < 18446744073709551616)
    (slots : UInt32) : AllotsSlots (Json.obj [("capacity", .ofUInt32 slots), ("type", .int code)]).source code slots := by
  have hslots := slots.toNat_lt
  exact .keyed rfl rfl (isInt_source hcode.1 hcode.2) (isInt_source (by omega) (by omega))

structure Answers (ask : Exchange) (c : Character) (withInventory : Bool) (items : List Source) : Prop where
  reply : ∃ r src, ask (characterPath c.id withInventory) = some r ∧ (200 ≤ r.status ∧ r.status < 300) ∧
    Source.parse? r.text = some src ∧ Presents src c items
  told : ∃ caps named, c.inventory = some caps ∧ Tells items named ∧ NamedLast caps named

variable {ask : Exchange} {c : Character} {withInventory : Bool}

theorem Answers.directory_of_readable (h : Answers ask c withInventory items) (hread : ∀ item ∈ items, IsReadable item) :
    directory ask c.id withInventory = .ok (if withInventory then c else { c with inventory := none }) := by
  obtain ⟨r, src, hask, hstatus, hsrc, hpresents⟩ := h.reply
  obtain ⟨caps, named, hcaps, htells, hnamed⟩ := h.told
  obtain ⟨xs, hxs⟩ := htells.exists_mapM_iff.2 hread
  have hfetch : fetch s!"character {c.id}" (document (characterAttributes c.id) (resource compartmentAttributes)) (some r) =
      .ok ({ c with inventory := none }, xs) :=
    (fetch_of_document hstatus hsrc).2 (hpresents.document_eq_ok.2 ⟨xs, hxs, rfl⟩)
  rw [directory, hask, hfetch]
  cases withInventory with
  | false => rfl
  | true =>
    have hcapacities : capacities xs = caps := by rw [capacities_eq, htells.filterMap_eq hxs, hnamed.foldl_eq]
    simp [Except.map, hcapacities, ← hcaps]

theorem Answers.directory_of_unreadable (h : Answers ask c withInventory items)
    (hread : ∃ item ∈ items, ¬ IsReadable item) : ∃ why, directory ask c.id withInventory = .error (.transport why) := by
  obtain ⟨r, src, hask, hstatus, hsrc, hpresents⟩ := h.reply
  obtain ⟨caps, named, hcaps, htells, hnamed⟩ := h.told
  obtain ⟨item, hitem, hunreadable⟩ := hread
  have hnot : ¬ Decodes (document (characterAttributes c.id) (resource compartmentAttributes)) r := by
    rintro ⟨src', d, hsrc', hd⟩
    obtain rfl := Option.some.inj (hsrc.symm.trans hsrc')
    obtain ⟨xs, hxs, -⟩ := hpresents.document_eq_ok.1 hd
    exact hunreadable (htells.exists_mapM_iff.1 ⟨xs, hxs⟩ item hitem)
  refine (failsBy_directory ask c.id withInventory).transport.2 ?_
  rw [hask]
  exact ⟨by omega, .inr (.inr hnot)⟩

/-- Whoever the service presents is found as in a directory that holds the character. -/
def Agrees (ask : Exchange) : Prop :=
  ∀ (t : Table CharacterId Character) (c : Character) (withInventory : Bool) (items : List Source),
    t.get? c.id = some c → Answers ask c withInventory items →
      directory ask c.id withInventory = Directory.ofTable t c.id withInventory

theorem Answers.agrees_iff (h : Answers ask c withInventory items) {t : Table CharacterId Character}
    (ht : t.get? c.id = some c) :
    directory ask c.id withInventory = Directory.ofTable t c.id withInventory ↔ ∀ item ∈ items, IsReadable item := by
  have hheld : Directory.ofTable t c.id withInventory = .ok (if withInventory then c else { c with inventory := none }) := by
    rw [Directory.ofTable, ht]
  rw [hheld]
  refine ⟨fun hsame item hitem => ?_, h.directory_of_readable⟩
  by_contra hunreadable
  obtain ⟨why, hfault⟩ := h.directory_of_unreadable ⟨item, hitem, hunreadable⟩
  rw [hfault] at hsame
  cases hsame

theorem answers_page {included : List Json} {caps : TabCapacities} (named : List (Tab × UInt32))
    (hplain : (Json.obj (page c included)).isPlain = true) (hcaps : c.inventory = some caps)
    (htells : Tells (Json.sourceItems included) named) (hnamed : NamedLast caps named) :
    Answers (fun _ => some (written (page c included))) c withInventory (Json.sourceItems included) where
  reply := ⟨_, _, rfl, ⟨Nat.le_refl 200, by simp [written]⟩, parse?_written hplain, presents_page c included⟩
  told := ⟨caps, named, hcaps, htells, hnamed⟩

/-- A look-up at a service finds what a directory with the character finds just if all that the document includes can be
read as compartments; otherwise it fails by the transport. It asks for nothing but the path of the character, and fails
as look-ups in the catalog do. -/
theorem directory_agrees_iff_readable (ask : Exchange) :
    (∀ (t : Table CharacterId Character) (c : Character) (withInventory : Bool) (items : List Source),
      t.get? c.id = some c → Answers ask c withInventory items →
        (directory ask c.id withInventory = Directory.ofTable t c.id withInventory ↔ ∀ item ∈ items, IsReadable item) ∧
        ((∃ item ∈ items, ¬ IsReadable item) → ∃ why, directory ask c.id withInventory = .error (.transport why))) ∧
    (∀ (caps : TabCapacities) (named : List (Tab × UInt32)), named.Perm caps.rows → NamedLast caps named) ∧
    (∀ (base : String) (c : CharacterId) (withInventory : Bool), IsFolder base →
      requestLine base (characterPath c withInventory) = "GET " ++ (Target.ofAddress base ++
        ("characters/" ++ toString c ++ if withInventory then "?include=inventory" else ""))) ∧
    (∀ (c : CharacterId) (withInventory : Bool), directory ask c withInventory =
      directory (fun path => if path = characterPath c withInventory then ask path else none) c withInventory) ∧
    (∀ (c : CharacterId) (withInventory : Bool), FailsBy (directory ask c withInventory) s!"character {c}"
      (document (characterAttributes c) (resource compartmentAttributes)) (ask (characterPath c withInventory))) ∧
    ∀ n : SerialNumber, FailsBy (catalog ask n) s!"commodity {n}"
      (document (commodityAttributes n) fun _ => .ok ()) (ask (commodityPath n)) :=
  ⟨fun _ _ _ _ ht h => ⟨h.agrees_iff ht, h.directory_of_unreadable⟩, fun _ _ => namedLast_of_perm,
    fun _ c withInventory h => requestLine_characterPath h c withInventory,
    fun _ _ => by simp only [directory, if_pos], failsBy_directory ask, failsBy_catalog ask⟩

def atlas : Character := ⟨⟨10⟩, ⟨1⟩, "Atlas", 1100, some ((Table.empty.insert .equip 24).insert .etc 48)⟩

def holdings : List Json :=
  [slotsJson "compartments" 4 48, slotsJson "compartments" 1 20, slotsJson "compartments" 9 1, slotsJson "pets" 2 3,
    slotsJson "" 1 24]

theorem answers_holdings (withInventory : Bool) :
    Answers (fun _ => some (written (page atlas holdings))) atlas withInventory (Json.sourceItems holdings) := by
  refine answers_page [(.etc, 48), (.equip, 20), (.equip, 24)] (by decide) rfl ?_ ?_
  · refine .capacity .etc (isResource_source _ _) rfl (allotsSlots_source (by decide) 48) ?_
    refine .capacity .equip (isResource_source _ _) rfl (allotsSlots_source (by decide) 20) ?_
    refine .unknown (isResource_source _ _) rfl (allotsSlots_source (by decide) 1) (by intro tab; cases tab <;> decide) ?_
    refine .other "pets" rfl (by decide) ?_
    exact .capacity .equip (isResource_source _ _) rfl (allotsSlots_source (by decide) 24) .nil
  · intro tab
    cases tab <;> rfl

theorem directory_agrees_iff_readable_atlas :
    let ask : Exchange := fun _ => some (written (page atlas holdings))
    let t : Table CharacterId Character := Table.empty.insert atlas.id atlas
    (∀ withInventory, directory ask atlas.id withInventory = Directory.ofTable t atlas.id withInventory) ∧
      requestLine "api/" (characterPath atlas.id true) = "GET /api/characters/10?include=inventory" ∧
      NamedLast ((Table.empty.insert .equip 24).insert .etc 48) [(.etc, 48), (.equip, 24)] := by
  intro ask t
  obtain ⟨hagrees, hperm, hrequest, -⟩ := directory_agrees_iff_readable ask
  refine ⟨fun withInventory => ?_, ?_, hperm _ _ (List.Perm.swap _ _ _)⟩
  · refine (hagrees t atlas withInventory _ rfl (answers_holdings withInventory)).1.2 ?_
    simp only [holdings, Json.sourceItems, List.forall_mem_cons]
    have hread (kind : String) (code : UInt8) (slots : UInt32) : IsReadable (slotsJson kind code.toNat slots).source := by
      have hcode := code.toNat_lt
      exact ⟨kind, _, isResource_source kind _, code, slots, allotsSlots_source (by omega) slots⟩
    exact ⟨hread _ 4 48, hread _ 1 20, hread _ 9 1, hread _ 2 3, hread _ 1 24, nofun⟩
  · rw [hrequest "api/" atlas.id true ⟨fun _ h => (Option.some.inj h).symm, by decide⟩]
    rfl

def armoury : List Json :=
  [slotsJson "compartments" 1 24, slotsJson "compartments" 4 48, resourceJson "equipment" [("name", .str "sword")]]

theorem not_agrees_armoury : ¬ Agrees fun _ => some (written (page atlas armoury)) := by
  intro h
  have hanswers : Answers (fun _ => some (written (page atlas armoury))) atlas true (Json.sourceItems armoury) := by
    refine answers_page [(.equip, 24), (.etc, 48)] (by decide) rfl ?_ (namedLast_of_perm (.refl _))
    refine .capacity .equip (isResource_source _ _) rfl (allotsSlots_source (by decide) 24) ?_
    refine .capacity .etc (isResource_source _ _) rfl (allotsSlots_source (by decide) 48) ?_
    exact .other "equipment" rfl (by decide) .nil
  have hheld : (Table.empty.insert atlas.id atlas).get? atlas.id = some atlas := rfl
  have hreadable := (hanswers.agrees_iff hheld).1 (h _ _ _ _ hheld hanswers)
  obtain ⟨kind, attributes, hresource, code, slots, hallots⟩ := hreadable _ (.tail _ (.tail _ (.head _)))
  obtain rfl : attributes = (Json.obj [("name", .str "sword")]).source := hresource.attributes.unique rfl
  cases hallots with
  | keyed type => exact type.not_lacks rfl

end CashShop.Remote

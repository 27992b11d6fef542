import CashShop.Proofs.Directory
import CashShop.Proofs.Encoding
import Mathlib.Data.List.Induction

namespace CashShop

open Wire Record

def Wire.Record.valuesOf {ν : Type} (name : String) (fields : List (String × ν)) : List ν :=
  (fields.filter (·.1 = name)).map (·.2)

namespace Json.Source

def fields? : Source → Option (List (String × Source))
  | .obj fields => textKeys fields
  | _ => none

def Holds (src : Source) (name : String) (v : Source) : Prop := src.fields?.map (valuesOf name) = some [v]

def Lacks (src : Source) (name : String) : Prop := src.fields?.map (valuesOf name) = some []

def IsInt (src : Source) (n : Int) : Prop := src.toJson? 0 = some (.int n)

variable {src v w : Source} {name : String} {fields : List (String × Source)} {m n : Int}

theorem Holds.unique (hv : src.Holds name v) (hw : src.Holds name w) : v = w :=
  List.singleton_inj.1 (Option.some.inj (hv.symm.trans hw))

theorem Holds.not_lacks (h : src.Holds name v) : ¬ src.Lacks name := fun hnone =>
  List.cons_ne_nil _ _ (Option.some.inj (h.symm.trans hnone))

theorem Holds.exists_fields (h : src.Holds name v) : ∃ fields, src.fields? = some fields :=
  (Option.map_eq_some_iff.1 h).imp fun _ => And.left

theorem IsInt.unique (hm : src.IsInt m) (hn : src.IsInt n) : m = n :=
  Json.int.inj (Option.some.inj (hm.symm.trans hn))

theorem holds_iff (h : src.fields? = some fields) : src.Holds name v ↔ valuesOf name fields = [v] := by
  rw [Holds, h, Option.map_some, Option.some.injEq]

theorem lacks_iff (h : src.fields? = some fields) : src.Lacks name ↔ valuesOf name fields = [] := by
  rw [Lacks, h, Option.map_some, Option.some.injEq]

end Json.Source

namespace Wire.Record

variable {α β ν : Type} {name : String} {fields : List (String × ν)} {i : Nat} {a : α} {b : β}

theorem map_snd_occurrences (name : String) (fields : List (String × ν)) (i : Nat) :
    (occurrences name fields i).map (·.2) = valuesOf name fields := by
  induction fields generalizing i with
  | nil => rfl
  | cons f fields ih =>
    by_cases hf : f.1 = name
    · rw [occurrences, if_pos hf, List.map_cons, ih, valuesOf, valuesOf, List.filter_cons_of_pos (by simpa using hf),
        List.map_cons]
    · rw [occurrences, if_neg hf, ih, valuesOf, valuesOf, List.filter_cons_of_neg (by simpa using hf)]

theorem ranked_eq_ok {r : Except DecodeError α} : ranked i r = .ok a ↔ r = .ok a := by
  cases r <;> simp [ranked]

/-- A field is read if it stands there once and can be decoded, or if it is missing and need not be there. -/
theorem read_fieldOr_eq_ok {decode : ν → Except DecodeError α} {absent beyond : Option α} :
    (fieldOr name decode absent beyond).read (.keyed fields) i = .ok a ↔
      valuesOf name fields = [] ∧ absent = some a ∨ ∃ v, valuesOf name fields = [v] ∧ decode v = .ok a := by
  rw [← map_snd_occurrences name fields 0]
  simp only [fieldOr]
  rcases occurrences name fields 0 with _ | ⟨first, _ | ⟨second, more⟩⟩
  · cases absent <;> simp
  · simp [ranked_eq_ok]
  · cases hd : decode first.2 <;> simp [hd]

theorem read_field_eq_ok {decode : ν → Except DecodeError α} :
    (field name decode).read (.keyed fields) i = .ok a ↔ ∃ v, valuesOf name fields = [v] ∧ decode v = .ok a := by
  simp [field, read_fieldOr_eq_ok]

theorem read_fieldD_eq_ok {decode : ν → Except DecodeError α} {default : α} :
    (fieldD name decode default).read (.keyed fields) i = .ok a ↔
      valuesOf name fields = [] ∧ default = a ∨ ∃ v, valuesOf name fields = [v] ∧ decode v = .ok a := by
  simp [fieldD, read_fieldOr_eq_ok]

theorem read_field_listed_eq_ok {decode : ν → Except DecodeError α} {items : List ν} :
    (field name decode).read (.listed items) i = .ok a ↔ ∃ v, items[i]? = some v ∧ decode v = .ok a := by
  simp only [field, fieldOr]
  cases items[i]? <;> simp [ranked_eq_ok]

theorem read_seq_eq_ok {r : Record ν (α → β)} {x : Record ν α} {fs : Fields ν} : (r <*> x).read fs i = .ok b ↔
    ∃ g a, r.read fs i = .ok g ∧ x.read fs (i + r.size) = .ok a ∧ g a = b := both_eq_ok

theorem read_map_eq_ok {r : Record ν α} {f : α → β} {fs : Fields ν} : (f <$> r).read fs i = .ok b ↔
    ∃ a, r.read fs (i + 0) = .ok a ∧ f a = b := by
  refine both_eq_ok.trans ⟨?_, ?_⟩
  · rintro ⟨g, a, ⟨⟩, ha, rfl⟩
    exact ⟨a, ha, rfl⟩
  · rintro ⟨a, ha, rfl⟩
    exact ⟨f, a, rfl, ha, rfl⟩

theorem decodeSource_eq_ok {r : Record Json.Source α} {src : Json.Source} {fields : List (String × Json.Source)}
    (h : src.fields? = some fields) : r.decodeSource src = .ok a ↔ r.read (.keyed fields) 0 = .ok a := by
  cases src with
  | obj entries =>
    rw [decodeSource, show textKeys entries = some fields from h]
    simp only [run]
    cases r.read (.keyed fields) 0 <;> simp
  | _ => cases h

theorem decodeSource_arr_eq_ok {r : Record Json.Source α} {items : List Json.Source} :
    r.decodeSource (.arr items) = .ok a ↔ r.read (.listed items) 0 = .ok a ∧ items.length ≤ r.size := by
  simp only [decodeSource, run]
  cases r.read (.listed items) 0 with
  | error e => simp
  | ok a' => by_cases hlength : items.length ≤ r.size <;> simp [hlength]

theorem shape_of_decodeSource_eq_ok {r : Record Json.Source α} {src : Json.Source} (h : r.decodeSource src = .ok a) :
    (∃ fields, src.fields? = some fields) ∨ ∃ items, src = .arr items := by
  cases src with
  | obj entries =>
    cases hkeys : textKeys entries with
    | none => simp [decodeSource, hkeys] at h
    | some fields => exact .inl ⟨fields, hkeys⟩
  | arr items => exact .inr ⟨items, rfl⟩
  | _ => simp [decodeSource] at h

end Wire.Record

namespace Wire

variable {j : Json}

theorem account_eq_ok {a : AccountId} : account j = .ok a ↔ j = .int a.val.toNat := by
  rw [account, map_eq_ok]
  refine ⟨?_, fun h => ⟨a.val, uint32_eq_ok.2 h, rfl⟩⟩
  rintro ⟨u, hu, rfl⟩
  exact uint32_eq_ok.1 hu

theorem string_eq_ok {s : String} : string j = .ok s ↔ j = .str s := by
  cases j <;> simp [string]

end Wire

theorem Json.Source.toJson?_eq_str {src : Json.Source} {room : Nat} {s : String} :
    src.toJson? room = some (.str s) ↔ src = .str (some s) := by
  cases src with
  | str text => simp [toJson?]
  | num t =>
    simp only [toJson?, Numeral.toJson?, reduceCtorEq, iff_false]
    split <;> simp
  | arr | obj => simp [toJson?, Json.object]
  | _ => simp [toJson?]

namespace Remote

open Json Record

variable {α : Type} {src attributes v : Source} {kind : String}

theorem leaf_eq_ok {d : Decoder α} {a : α} : leaf d src = .ok a ↔ ∃ j, src.toJson? 0 = some j ∧ d j = .ok a := by
  rw [leaf, ofSource]
  cases src.toJson? 0 <;> simp

theorem leaf_eq_ok_of_int {d : Decoder α} {a : α} {n : Int} (h : ∀ j, d j = .ok a ↔ j = .int n) :
    leaf d src = .ok a ↔ src.IsInt n := by
  simp [leaf_eq_ok, h, Json.Source.IsInt]

theorem leaf_string {s : String} : leaf string src = .ok s ↔ src = .str (some s) := by
  simp [leaf_eq_ok, string_eq_ok, Json.Source.toJson?_eq_str]

structure IsResource (src : Source) (kind : String) (attributes : Source) : Prop where
  kind : src.Lacks "type" ∧ kind = "" ∨ src.Holds "type" (.str (some kind))
  attributes : src.Holds "attributes" attributes

theorem resource_eq_ok {fields : List (String × Source)} (h : src.fields? = some fields)
    {decode : Source → Except DecodeError α} {a : α} :
    resource decode src = .ok (kind, a) ↔ ∃ attributes, IsResource src kind attributes ∧ decode attributes = .ok a := by
  rw [resource, decodeSource_eq_ok h, read_seq_eq_ok]
  simp only [read_map_eq_ok, read_fieldD_eq_ok, read_field_eq_ok, leaf_string]
  constructor
  · rintro ⟨_, a', ⟨kind', hkind, rfl⟩, ⟨attributes, hattributes, ha⟩, heq⟩
    obtain ⟨rfl, rfl⟩ := Prod.mk.inj heq
    refine ⟨attributes, ⟨?_, (Source.holds_iff h).2 hattributes⟩, ha⟩
    rcases hkind with ⟨hnone, rfl⟩ | ⟨v, hv, rfl⟩
    · exact .inl ⟨(Source.lacks_iff h).2 hnone, rfl⟩
    · exact .inr ((Source.holds_iff h).2 hv)
  · rintro ⟨attributes, hresource, ha⟩
    refine ⟨_, a, ⟨kind, ?_, rfl⟩, ⟨attributes, (Source.holds_iff h).1 hresource.attributes, ha⟩, rfl⟩
    rcases hresource.kind with ⟨hnone, rfl⟩ | hv
    · exact .inl ⟨(Source.lacks_iff h).1 hnone, rfl⟩
    · exact .inr ⟨_, (Source.holds_iff h).1 hv, rfl⟩

theorem IsResource.kind_unique {name : String} (h : IsResource src kind attributes)
    (hname : src.Lacks "type" ∧ name = "" ∨ src.Holds "type" (.str (some name))) : kind = name := by
  rcases h.kind with ⟨hnone, rfl⟩ | hkind <;> rcases hname with ⟨hnone', rfl⟩ | hname
  · rfl
  · exact absurd hnone hname.not_lacks
  · exact absurd hnone' hkind.not_lacks
  · exact Option.some.inj (Source.str.inj (hkind.unique hname))

/-- A number of slots for a tab code, in an object or in a list of the two. -/
inductive AllotsSlots : Source → Int → UInt32 → Prop
  | keyed {attributes u v : Source} {code : Int} {slots : UInt32} (type : attributes.Holds "type" u)
      (capacity : attributes.Holds "capacity" v) (hu : u.IsInt code) (hv : v.IsInt slots.toNat) :
      AllotsSlots attributes code slots
  | listed {u v : Source} {code : Int} {slots : UInt32} (hu : u.IsInt code) (hv : v.IsInt slots.toNat) :
      AllotsSlots (.arr [u, v]) code slots

theorem AllotsSlots.code_unique {m n : Int} {slots slots' : UInt32} (h : AllotsSlots attributes m slots)
    (h' : AllotsSlots attributes n slots') : m = n := by
  cases h with
  | keyed type _ hm _ => cases h' with
    | keyed type' _ hn _ => exact hm.unique (type.unique type' ▸ hn)
    | listed => cases type
  | listed hm _ => cases h' with
    | keyed type' => cases type'
    | listed hn _ => exact hm.unique hn

theorem compartmentAttributes_eq_ok {code : UInt8} {slots : UInt32} :
    compartmentAttributes attributes = .ok (code, slots) ↔ AllotsSlots attributes code.toNat slots := by
  have hcode {v : Source} {code : UInt8} : leaf uint8 v = .ok code ↔ v.IsInt code.toNat :=
    leaf_eq_ok_of_int fun _ => uint8_eq_ok
  have hslots {v : Source} {slots : UInt32} : leaf uint32 v = .ok slots ↔ v.IsInt slots.toNat :=
    leaf_eq_ok_of_int fun _ => uint32_eq_ok
  constructor
  · intro h
    rcases shape_of_decodeSource_eq_ok h with ⟨fields, hfields⟩ | ⟨items, rfl⟩
    · rw [compartmentAttributes, decodeSource_eq_ok hfields, read_seq_eq_ok] at h
      simp only [read_map_eq_ok, read_field_eq_ok, hcode, hslots] at h
      obtain ⟨_, _, ⟨_, ⟨u, hu, hcode⟩, rfl⟩, ⟨v, hv, hslots⟩, heq⟩ := h
      obtain ⟨rfl, rfl⟩ := Prod.mk.inj heq
      exact .keyed ((Source.holds_iff hfields).2 hu) ((Source.holds_iff hfields).2 hv) hcode hslots
    · rw [compartmentAttributes, decodeSource_arr_eq_ok, read_seq_eq_ok] at h
      simp only [read_map_eq_ok, read_field_listed_eq_ok, hcode, hslots] at h
      obtain ⟨⟨_, _, ⟨_, ⟨u, hu, hcode⟩, rfl⟩, ⟨v, hv, hslots⟩, heq⟩, hlength⟩ := h
      obtain ⟨rfl, rfl⟩ := Prod.mk.inj heq
      change items.length ≤ 2 at hlength
      change items[0]? = some u at hu
      change items[1]? = some v at hv
      obtain rfl : items = [u, v] := by
        rcases items with _ | ⟨u', _ | ⟨v', _ | ⟨_, more⟩⟩⟩ <;> simp_all
      exact .listed hcode hslots
  · rintro (⟨hu, hv, hcode', hslots'⟩ | ⟨hcode', hslots'⟩)
    · obtain ⟨fields, hfields⟩ := hu.exists_fields
      rw [compartmentAttributes, decodeSource_eq_ok hfields, read_seq_eq_ok]
      simp only [read_map_eq_ok, read_field_eq_ok, hcode, hslots]
      exact ⟨_, slots, ⟨code, ⟨_, (Source.holds_iff hfields).1 hu, hcode'⟩, rfl⟩,
        ⟨_, (Source.holds_iff hfields).1 hv, hslots'⟩, rfl⟩
    · rw [compartmentAttributes, decodeSource_arr_eq_ok, read_seq_eq_ok]
      simp only [read_map_eq_ok, read_field_listed_eq_ok, hcode, hslots]
      exact ⟨⟨_, slots, ⟨code, ⟨_, rfl, hcode'⟩, rfl⟩, ⟨_, rfl, hslots'⟩, rfl⟩, Nat.le_refl 2⟩

/-- Of whatever kind the resource is, it is read just if it allots slots to a code of one byte. -/
theorem exists_resource_eq_ok {fields : List (String × Source)} (h : src.fields? = some fields) :
    (∃ r, resource compartmentAttributes src = .ok r) ↔
      ∃ kind attributes, IsResource src kind attributes ∧
        ∃ (code : UInt8) (slots : UInt32), AllotsSlots attributes code.toNat slots := by
  constructor
  · rintro ⟨⟨kind, code, slots⟩, hr⟩
    obtain ⟨attributes, hresource, hattributes⟩ := (resource_eq_ok h).1 hr
    exact ⟨kind, attributes, hresource, code, slots, compartmentAttributes_eq_ok.1 hattributes⟩
  · rintro ⟨kind, attributes, hresource, code, slots, hallots⟩
    exact ⟨_, (resource_eq_ok h).2 ⟨attributes, hresource, compartmentAttributes_eq_ok.2 hallots⟩⟩

structure Describes (attributes : Source) (c : Character) : Prop where
  account : ∃ v, attributes.Holds "accountId" v ∧ v.IsInt c.account.val.toNat
  name : attributes.Holds "name" (.str (some c.name))
  job : ∃ v, attributes.Holds "jobId" v ∧ v.IsInt c.job.toNat

/-- A document of one character, with the resources that it includes. -/
structure Presents (src : Source) (c : Character) (items : List Source) : Prop where
  data : ∃ data kind attributes, src.Holds "data" data ∧ IsResource data kind attributes ∧ Describes attributes c
  included : src.Lacks "included" ∧ items = [] ∨ src.Holds "included" (.arr items)

theorem Describes.characterAttributes_eq {c : Character} (h : Describes attributes c) :
    characterAttributes c.id attributes = .ok { c with inventory := none } := by
  obtain ⟨account, haccount, hid⟩ := h.account
  obtain ⟨job, hjob, hnumber⟩ := h.job
  obtain ⟨fields, hfields⟩ := haccount.exists_fields
  rw [Source.holds_iff hfields] at haccount hjob
  have hname := (Source.holds_iff hfields).1 h.name
  rw [characterAttributes, decodeSource_eq_ok hfields]
  simp only [read_seq_eq_ok, read_map_eq_ok, read_field_eq_ok]
  refine ⟨_, c.job, ⟨_, c.name, ⟨c.account, ⟨account, haccount, ?_⟩, rfl⟩, ⟨_, hname, leaf_string.2 rfl⟩, rfl⟩,
    ⟨job, hjob, ?_⟩, rfl⟩
  · exact (leaf_eq_ok_of_int fun _ => account_eq_ok).2 hid
  · exact (leaf_eq_ok_of_int fun _ => uint16_eq_ok).2 hnumber

theorem Presents.document_eq_ok {c : Character} {items : List Source} (h : Presents src c items)
    {decode : Source → Except DecodeError α} {d : Character × List α} :
    document (characterAttributes c.id) decode src = .ok d ↔
      ∃ xs, items.mapM decode = .ok xs ∧ d = ({ c with inventory := none }, xs) := by
  obtain ⟨data, kind, attributes, hdata, hresource, hdescribes⟩ := h.data
  obtain ⟨fields, hfields⟩ := hdata.exists_fields
  obtain ⟨inner, hinner⟩ := hresource.attributes.exists_fields
  have hread : resource (characterAttributes c.id) data = .ok (kind, { c with inventory := none }) :=
    (resource_eq_ok hinner).2 ⟨attributes, hresource, hdescribes.characterAttributes_eq⟩
  have hincluded (xs : List α) : (valuesOf "included" fields = [] ∧ [] = xs ∨
      ∃ v, valuesOf "included" fields = [v] ∧ listed decode v = .ok xs) ↔ items.mapM decode = .ok xs := by
    rcases h.included with ⟨hnone, rfl⟩ | hsome
    · simp [(Source.lacks_iff hfields).1 hnone, pure, Except.pure]
    · simp [(Source.holds_iff hfields).1 hsome, listed]
  rw [document, decodeSource_eq_ok hfields]
  simp only [read_seq_eq_ok, read_map_eq_ok, read_field_eq_ok, read_fieldD_eq_ok, hincluded,
    (Source.holds_iff hfields).1 hdata]
  constructor
  · rintro ⟨_, xs, ⟨_, ⟨v, hv, hread'⟩, rfl⟩, hxs, rfl⟩
    obtain rfl := List.singleton_inj.1 hv
    obtain rfl := Except.ok.inj (hread.symm.trans hread')
    exact ⟨xs, hxs, rfl⟩
  · rintro ⟨xs, hxs, rfl⟩
    exact ⟨_, xs, ⟨_, ⟨data, rfl, hread⟩, rfl⟩, hxs, rfl⟩

end Remote

end CashShop

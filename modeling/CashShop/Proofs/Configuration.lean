import CashShop.Config.Load
import CashShop.Proofs.Casing

namespace CashShop.Config

open Text

variable {c : Config} {url : String}

theorem fold_fold (s : String) : fold (fold s) = fold s := by
  have htrimmed : Trimmed (lowerFrom [] (trimChars s.toList)) := (trimmed_trimChars s.toList).lowerFrom []
  simp only [fold, lower, trim, String.toList_ofList]
  rw [htrimmed.trimChars_eq, lowerFrom_lowerFrom]

structure Slashed (url : String) : Prop where
  trimmed : Trimmed url.toList
  slash : url.toList.getLast? = some '/'

theorem slashed_withSlash (url : String) : Slashed (withSlash url) := by
  have htrimmed := trimmed_trimChars url.toList
  by_cases hslash : (trimChars url.toList).getLast? = some '/'
  · have hchars : (withSlash url).toList = trimChars url.toList := by simp [withSlash, hslash]
    exact ⟨hchars ▸ htrimmed, hchars ▸ hslash⟩
  · have hchars : (withSlash url).toList = trimChars url.toList ++ ['/'] := by simp [withSlash, hslash]
    refine ⟨⟨fun c hc => ?_, fun c hc => ?_⟩, by rw [hchars, List.getLast?_append]; rfl⟩
    · rw [hchars, List.head?_append, Option.or_eq_some_iff] at hc
      rcases hc with hc | ⟨-, hc⟩
      · exact htrimmed.head c hc
      · cases hc
        decide
    · rw [hchars, List.getLast?_append] at hc
      cases hc
      decide

theorem Slashed.trimChars_eq (h : Slashed url) : trimChars url.toList = url.toList := h.trimmed.trimChars_eq

theorem Slashed.ne_nil (h : Slashed url) : url.toList ≠ [] := by
  intro hnil
  have hslash := h.slash
  rw [hnil] at hslash
  cases hslash

theorem Slashed.withSlash_eq (h : Slashed url) : withSlash url = url := by
  simp only [withSlash, h.trimChars_eq, h.slash, if_true, String.ofList_toList]

theorem slashed_of_normalizeUrl {u : Option String} (h : normalizeUrl u = some url) : Slashed url := by
  cases u with
  | none => cases h
  | some v =>
    rw [normalizeUrl] at h
    split at h
    · cases h
    · cases h
      exact slashed_withSlash v

theorem normalizeUrl_of_slashed (h : Slashed url) : normalizeUrl (some url) = some url := by
  have hne : ¬ url.toList.isEmpty := by simpa using h.ne_nil
  rw [normalizeUrl, h.trimChars_eq, if_neg hne, h.withSlash_eq]

theorem normalizeUrl_normalizeUrl (u : Option String) : normalizeUrl (normalizeUrl u) = normalizeUrl u := by
  cases hu : normalizeUrl u with
  | none => rfl
  | some url => exact normalizeUrl_of_slashed (slashed_of_normalizeUrl hu)

theorem normalizeUrl_of_blank (h : ∀ c ∈ url.toList, isBlank c = true) : normalizeUrl (some url) = none := by
  have hempty : trimChars url.toList = [] := by
    rw [trimChars, trimLeft, List.dropWhile_eq_nil_iff.2 h]
    rfl
  rw [normalizeUrl, hempty]
  rfl

theorem normalize_normalize (c : Config) : c.normalize.normalize = c.normalize := by
  simp only [normalize, fold_fold, normalizeUrl_normalizeUrl, Nat.max_assoc, Nat.max_self]

/-- Paths can be appended to the URL: it is one of HTTP that ends with a slash, without white space around it. -/
structure SafeUrl (url : String) : Prop extends Slashed url where
  scheme : "http://".toList <+: url.toList ∨ "https://".toList <+: url.toList

structure Safe (c : Config) : Prop where
  sweep : 1 ≤ c.settings.reservationSweepSeconds
  ttl : c.settings.reservationSweepSeconds ≤ c.settings.reservationTtlSeconds
  capacity : 1 ≤ c.settings.compartmentCapacity.toNat ∧ c.settings.compartmentCapacity.toNat ≤ 96
  expiration : 1 ≤ c.settings.itemExpirationDays
  keyCapacity : 1 ≤ c.keyCapacity
  consumerBuffer : 1 ≤ c.settings.consumerBuffer
  logFormat : c.logFormat = "text" ∨ c.logFormat = "json"
  catalogUrl : ∀ url, c.catalogUrl = some url → SafeUrl url
  characterUrl : ∀ url, c.characterUrl = some url → SafeUrl url

theorem require_eq_ok {holds : Bool} {i : ConfigIssue} : require holds i = .ok () ↔ holds = true := by
  cases holds <;> simp [require]

theorem bind_eq_ok_unit {x : Except ConfigIssue Unit} {f : Unit → Except ConfigIssue Unit} :
    (x >>= f) = .ok () ↔ x = .ok () ∧ f () = .ok () := by
  cases x with
  | error i => simp [bind, Except.bind]
  | ok u => simp [bind, Except.bind]

theorem validateUrl_eq_ok (key : String) (h : Slashed url) : validateUrl key url = .ok () ↔ SafeUrl url := by
  have hne : ¬ url.toList.isEmpty := by simpa using h.ne_nil
  rw [validateUrl, h.trimChars_eq, if_neg hne]
  have hscheme : schemes.any (fun s => s.toList.isPrefixOf url.toList) = true ↔
      "http://".toList <+: url.toList ∨ "https://".toList <+: url.toList := by
    simp only [schemes, List.any_cons, List.any_nil, Bool.or_false, Bool.or_eq_true, List.isPrefixOf_iff_prefix]
  constructor
  · intro hok
    split at hok
    case isTrue hany => exact ⟨h, hscheme.1 hany⟩
    case isFalse => cases hok
  · intro hsafe
    rw [if_pos (hscheme.2 hsafe.scheme)]

theorem validateUrl?_eq_ok (key : String) (u : Option String) :
    validateUrl? key (normalizeUrl u) = .ok () ↔ ∀ url, normalizeUrl u = some url → SafeUrl url := by
  cases hu : normalizeUrl u with
  | none => simp [validateUrl?]
  | some url => simp [validateUrl?, validateUrl_eq_ok key (slashed_of_normalizeUrl hu)]

theorem validate_normalize_eq_ok (c : Config) : c.normalize.validate = .ok () ↔ c.normalize.Safe := by
  have hcapacity : slotCeiling.toNat = 96 := rfl
  simp only [validate, bind_eq_ok_unit, require_eq_ok, decide_eq_true_eq, Bool.and_eq_true, Bool.or_eq_true, beq_iff_eq,
    UInt32.lt_iff_toNat_lt, UInt32.le_iff_toNat_le, hcapacity]
  constructor
  · rintro ⟨-, hsweep, httl, hcapacity, hexpiration, hkeys, hformat, hcatalog, hcharacter⟩
    exact {
      sweep := hsweep
      ttl := httl
      capacity := hcapacity
      expiration := hexpiration
      keyCapacity := hkeys
      consumerBuffer := Nat.le_max_right _ 1
      logFormat := hformat
      catalogUrl := (validateUrl?_eq_ok _ _).1 hcatalog
      characterUrl := (validateUrl?_eq_ok _ _).1 hcharacter }
  · intro h
    exact ⟨Nat.lt_of_lt_of_le h.sweep h.ttl, h.sweep, h.ttl, h.capacity, h.expiration, h.keyCapacity, h.logFormat,
      (validateUrl?_eq_ok _ _).2 h.catalogUrl, (validateUrl?_eq_ok _ _).2 h.characterUrl⟩

section Environment

variable (env : String → Option String)

/-- What the variable of this name sets a field to: the value read from it, or else the value that the field has. -/
def reading {α : Type} (name : String) (read : String → Option α) (kept : α) : α := ((env name).bind read).getD kept

def withVariable (c : Config) (v : Variable) : Config :=
  match env v.name with
  | some value => v.apply value c
  | none => c

theorem override_eq_foldl (c : Config) : c.override env = Variable.all.foldl (withVariable env) c := rfl

theorem withVariable_eq {α : Type} {v : Variable} (read : String → Option α) (get : Config → α) (set : α → Config → Config)
    (happly : ∀ value c, v.apply value c = set ((read value).getD (get c)) c) (hget : ∀ c, set (get c) c = c) (c : Config) :
    withVariable env c v = set (reading env v.name read (get c)) c := by
  unfold withVariable reading
  cases env v.name with
  | none => exact (hget c).symm
  | some value => exact happly value c

theorem withVariable_numeric {α : Type} {read : String → Option α} {set : α → Settings → Settings} (name : String)
    (get : Settings → α) (hget : ∀ s, set (get s) s = s) (c : Config) :
    withVariable env c (.numeric name read set) =
      { c with settings := set (reading env name read (get c.settings)) c.settings } := by
  refine withVariable_eq env read (fun c => get c.settings) (fun n c => { c with settings := set n c.settings })
    (fun value c => ?_) (fun c => ?_) c
  · cases hread : read value <;> simp [Variable.numeric, hread, hget]
  · rw [hget]

def fieldwise (c : Config) : Config where
  logLevel := reading env "CASHSHOP_LOG_LEVEL" some c.logLevel
  logFormat := reading env "CASHSHOP_LOG_FORMAT" some c.logFormat
  catalogUrl := reading env "CASHSHOP_CATALOG_BASE_URL" (some ∘ some) c.catalogUrl
  characterUrl := reading env "CASHSHOP_CHARACTER_BASE_URL" (some ∘ some) c.characterUrl
  settings := {
    requestTimeoutSeconds := reading env "CASHSHOP_REQUEST_TIMEOUT_SECONDS" (natOf? 64) c.settings.requestTimeoutSeconds
    reservationTtlSeconds := reading env "CASHSHOP_RESERVATION_TTL_SECONDS" (natOf? 64) c.settings.reservationTtlSeconds
    reservationSweepSeconds :=
      reading env "CASHSHOP_RESERVATION_SWEEP_SECONDS" (natOf? 64) c.settings.reservationSweepSeconds
    itemExpirationDays := reading env "CASHSHOP_ITEM_EXPIRATION_DAYS" intOf? c.settings.itemExpirationDays
    compartmentCapacity :=
      .ofNat (reading env "CASHSHOP_DEFAULT_COMPARTMENT_CAPACITY" (natOf? 32) c.settings.compartmentCapacity.toNat)
    consumerBuffer := reading env "CASHSHOP_CONSUMER_BUFFER" (natOf? 64) c.settings.consumerBuffer }
  keyCapacity := reading env "CASHSHOP_IDEMPOTENCY_KEY_CAPACITY" (natOf? 64) c.keyCapacity

theorem override_eq_fieldwise (c : Config) : c.override env = fieldwise env c := by
  have hlevel (c : Config) : withVariable env c ⟨"CASHSHOP_LOG_LEVEL", fun v c => { c with logLevel := v }⟩ = _ :=
    withVariable_eq env some Config.logLevel (fun v c => { c with logLevel := v }) (fun _ _ => rfl) (fun _ => rfl) c
  have hformat (c : Config) : withVariable env c ⟨"CASHSHOP_LOG_FORMAT", fun v c => { c with logFormat := v }⟩ = _ :=
    withVariable_eq env some Config.logFormat (fun v c => { c with logFormat := v }) (fun _ _ => rfl) (fun _ => rfl) c
  have hcatalog (c : Config) :
      withVariable env c ⟨"CASHSHOP_CATALOG_BASE_URL", fun v c => { c with catalogUrl := some v }⟩ = _ :=
    withVariable_eq env (some ∘ some) Config.catalogUrl (fun u c => { c with catalogUrl := u })
      (fun _ _ => rfl) (fun _ => rfl) c
  have hcharacter (c : Config) :
      withVariable env c ⟨"CASHSHOP_CHARACTER_BASE_URL", fun v c => { c with characterUrl := some v }⟩ = _ :=
    withVariable_eq env (some ∘ some) Config.characterUrl (fun u c => { c with characterUrl := u })
      (fun _ _ => rfl) (fun _ => rfl) c
  rw [override_eq_foldl]
  simp only [Variable.all, List.foldl_cons, List.foldl_nil, hlevel, hformat, hcatalog, hcharacter]
  rw [withVariable_numeric env "CASHSHOP_REQUEST_TIMEOUT_SECONDS" Settings.requestTimeoutSeconds fun _ => rfl]
  rw [withVariable_numeric env "CASHSHOP_RESERVATION_TTL_SECONDS" Settings.reservationTtlSeconds fun _ => rfl]
  rw [withVariable_numeric env "CASHSHOP_RESERVATION_SWEEP_SECONDS" Settings.reservationSweepSeconds fun _ => rfl]
  rw [withVariable_numeric env "CASHSHOP_ITEM_EXPIRATION_DAYS" Settings.itemExpirationDays fun _ => rfl]
  rw [withVariable_numeric env "CASHSHOP_DEFAULT_COMPARTMENT_CAPACITY" (UInt32.toNat ∘ Settings.compartmentCapacity) (by simp)]
  rw [withVariable_numeric env "CASHSHOP_CONSUMER_BUFFER" Settings.consumerBuffer fun _ => rfl]
  refine (withVariable_eq env (natOf? 64) Config.keyCapacity (fun n c => { c with keyCapacity := n })
    (fun value _ => ?_) (fun _ => rfl) _).trans rfl
  cases hread : natOf? 64 value <;> simp only [hread, Option.getD_none, Option.getD_some]

theorem normalizeUrl_reading_of_blank {name value : String} {u : Option String} (hset : env name = some value)
    (hblank : ∀ c ∈ value.toList, isBlank c = true) : normalizeUrl (reading env name (some ∘ some) u) = none := by
  rw [reading, hset]
  exact normalizeUrl_of_blank hblank

end Environment

variable {file : Option String} {env : String → Option String}

theorem load_of_valid (hfile : ofFile? file = some c) (h : (fieldwise env c).normalize.validate = .ok ()) :
    load file env = .ok (fieldwise env c).normalize := by
  simp only [load, hfile, override_eq_fieldwise, h]

theorem load_of_invalid {i : ConfigIssue} (hfile : ofFile? file = some c)
    (h : (fieldwise env c).normalize.validate = .error i) : load file env = .error (.invalid i) := by
  simp only [load, hfile, override_eq_fieldwise, h]

theorem load_eq_ok (hfile : ofFile? file = some c) (c' : Config) :
    load file env = .ok c' ↔ c' = (fieldwise env c).normalize ∧ c'.Safe := by
  have hvalid := validate_normalize_eq_ok (fieldwise env c)
  cases hv : (fieldwise env c).normalize.validate with
  | ok u =>
    rw [load_of_valid hfile hv, Except.ok.injEq, eq_comm]
    exact ⟨fun h => ⟨h, h ▸ hvalid.1 hv⟩, And.left⟩
  | error i =>
    rw [load_of_invalid hfile hv]
    refine ⟨nofun, fun ⟨heq, hsafe⟩ => ?_⟩
    rw [heq, ← hvalid, hv] at hsafe
    cases hsafe

theorem load_eq_error (hfile : ofFile? file = some c) (e : ConfigError) (h : load file env = .error e) :
    ¬ (fieldwise env c).normalize.Safe := by
  intro hsafe
  rw [(load_eq_ok hfile _).2 ⟨rfl, hsafe⟩] at h
  cases h

/-- What is loaded from a readable file is the normal form of its configuration under the environment, where each field
has a variable of its own. It is safe and stands up to being normalized and validated again; only what is not safe is
refused. -/
theorem load_safe_normal_form (env : String → Option String) (hfile : ofFile? file = some c) :
    (∀ c : Config, c.normalize.normalize = c.normalize) ∧
    (∀ c', load file env = .ok c' ↔ c' = (fieldwise env c).normalize ∧ c'.Safe) ∧
    (∀ c', load file env = .ok c' → c'.normalize = c' ∧ c'.validate = .ok ()) ∧
    (∀ e, load file env = .error e → ¬ (fieldwise env c).normalize.Safe) ∧
    (∀ v, env "CASHSHOP_CATALOG_BASE_URL" = some v → (∀ d ∈ v.toList, isBlank d = true) →
      (fieldwise env c).normalize.catalogUrl = none) ∧
    (∀ v, env "CASHSHOP_CHARACTER_BASE_URL" = some v → (∀ d ∈ v.toList, isBlank d = true) →
      (fieldwise env c).normalize.characterUrl = none) := by
  refine ⟨normalize_normalize, load_eq_ok hfile, fun c' hload => ?_, load_eq_error hfile,
    fun v hset hblank => normalizeUrl_reading_of_blank env hset hblank,
    fun v hset hblank => normalizeUrl_reading_of_blank env hset hblank⟩
  obtain ⟨heq, hsafe⟩ := (load_eq_ok hfile c').1 hload
  rw [heq] at hsafe ⊢
  exact ⟨normalize_normalize _, (validate_normalize_eq_ok _).2 hsafe⟩

theorem load_safe_normal_form_overridden :
    let file := some "log_format = \" JSON \"\ncharacter_base_url = \"http://character\"\n"
    let pairs := [("CASHSHOP_CATALOG_BASE_URL", " https://catalog "), ("CASHSHOP_CHARACTER_BASE_URL", "  "),
      ("CASHSHOP_CONSUMER_BUFFER", "many")]
    let env name := pairs.lookup name
    let short name := (("CASHSHOP_RESERVATION_TTL_SECONDS", "30") :: pairs).lookup name
    let c := { initial with logFormat := " JSON ", characterUrl := some "http://character" }
    let expected := { initial with logFormat := "json", catalogUrl := some "https://catalog/" }
    ofFile? file = some c ∧ load file env = .ok expected ∧ expected.Safe ∧ ¬ (fieldwise short c).normalize.Safe := by
  intro file pairs env short c expected
  have hfile : ofFile? file = some c := by decide +kernel
  have hload : (load file env).toOption = some expected := by decide +kernel
  have hrefused : (load file short).toOption = none := by decide +kernel
  obtain ⟨-, hok, -⟩ := load_safe_normal_form env hfile
  obtain ⟨-, -, -, herror, -⟩ := load_safe_normal_form short hfile
  cases henv : load file env with
  | error e => rw [henv] at hload; cases hload
  | ok d =>
    rw [henv] at hload
    obtain rfl : d = expected := Option.some.inj hload
    cases hshort : load file short with
    | ok d => rw [hshort] at hrefused; cases hrefused
    | error e => exact ⟨hfile, rfl, ((hok expected).1 henv).2, herror e hshort⟩

end CashShop.Config

import Mathlib.Data.List.Forall2
import MediaPlane.Config

/-
  Which variables make a configuration. Six of them can be at fault, and each has a rule for what it
  may say; the rules are stated without the readers, on the characters of the text. A configuration
  is accepted exactly if every variable is absent or follows its rule, and else the fault names the
  first one that does not (`configuration_exact`). What is accepted has positive durations, a limit
  between zero and one, and room for objects. How a text is read as a double is taken as given.
-/

namespace MediaPlane

/-! ## What texts say -/

/-- Decimal digits after an optional plus, for a number from one up to the greatest of 64 bits. -/
def DenotesPositive (raw : String) (n : Nat) : Prop :=
  ∃ ds : List Char, (raw.toList = ds ∨ raw.toList = '+' :: ds) ∧ ds ≠ [] ∧
    (∀ c ∈ ds, c.isDigit = true) ∧ digitsValue ds = n ∧ 1 ≤ n ∧ n < UInt64.size

/-- A number from zero to one. -/
def Binary64.InUnit (x : Binary64) : Prop :=
  x.isNaN = false ∧ 0 ≤ x.signedUnits ∧ x.signedUnits ≤ unitsPerOne

/-- The text is read as a number from zero to one. -/
def DenotesLimit (raw : String) (x : Binary64) : Prop := Binary64.read? raw = some x ∧ x.InUnit

/-- The same character, or the two cases of one letter of the Latin alphabet. -/
def SameLetter (c d : Char) : Prop :=
  c = d ∨ ∃ k < 26, c.toNat = 'A'.toNat + k ∧ d.toNat = 'a'.toNat + k ∨
    c.toNat = 'a'.toNat + k ∧ d.toNat = 'A'.toNat + k

/-- The text is the kind's name, but for the case of its letters. -/
def DenotesProbe (raw : String) (kind : ProbeKind) : Prop :=
  List.Forall₂ SameLetter raw.toList kind.name.toList

/-! ## Letters in either case -/

theorem isUpper_eq (c : Char) : c.isUpper = decide ('A'.val ≤ c.val ∧ c.val ≤ 'Z'.val) := rfl

theorem isUpper_iff {c : Char} : c.isUpper = true ↔ 'A'.toNat ≤ c.toNat ∧ c.toNat ≤ 'Z'.toNat := by
  rw [isUpper_eq, decide_eq_true_iff, UInt32.le_iff_toNat_le, UInt32.le_iff_toNat_le]
  rfl

theorem toNat_toLower (c : Char) :
    c.toLower.toNat = if c.isUpper then c.toNat + 32 else c.toNat := by
  unfold Char.toLower
  split
  · next h =>
    rw [isUpper_eq, decide_eq_true h, if_pos rfl]
    have hlast : c.toNat ≤ 90 := UInt32.le_iff_toNat_le.mp h.2
    show (c.val + 32).toNat = c.toNat + 32
    rw [UInt32.toNat_add]
    show (c.toNat + 32) % 4294967296 = c.toNat + 32
    omega
  · next h =>
    rw [isUpper_eq, decide_eq_false h]
    rfl

/-- Making letters small tells them apart from other characters, and not from each other. -/
theorem toLower_eq_iff {c d : Char} (hd : d.isUpper = false) : c.toLower = d ↔ SameLetter c d := by
  have hfirst : 'A'.toNat = 65 := rfl
  have hlast : 'Z'.toNat = 90 := rfl
  have hsmall : 'a'.toNat = 97 := rfl
  have hd' : ¬ (65 ≤ d.toNat ∧ d.toNat ≤ 90) := by
    rw [← hfirst, ← hlast, ← isUpper_iff, hd]
    decide
  have hc := isUpper_iff (c := c)
  unfold SameLetter
  rw [← Char.toNat_inj, ← Char.toNat_inj, toNat_toLower]
  split
  · next h =>
    have hrange := hc.mp h
    constructor
    · intro heq
      exact Or.inr ⟨c.toNat - 65, by omega, Or.inl ⟨by omega, by omega⟩⟩
    · rintro (heq | ⟨k, hk, ⟨hk1, hk2⟩ | ⟨hk1, hk2⟩⟩) <;> omega
  · next h =>
    have hrange := mt hc.mpr h
    constructor
    · exact Or.inl
    · rintro (heq | ⟨k, hk, ⟨hk1, hk2⟩ | ⟨hk1, hk2⟩⟩)
      · exact heq
      · omega
      · omega

theorem map_toLower_eq_iff {cs ds : List Char} (hd : ∀ d ∈ ds, d.isUpper = false) :
    cs.map Char.toLower = ds ↔ List.Forall₂ SameLetter cs ds := by
  induction cs generalizing ds with
  | nil => cases ds <;> simp
  | cons c cs ih =>
    cases ds with
    | nil => simp
    | cons d ds =>
      rw [List.map_cons, List.cons.injEq, List.forall₂_cons,
        toLower_eq_iff (hd d List.mem_cons_self), ih fun e he => hd e (List.mem_cons_of_mem d he)]

namespace Config

variable {vars : Vars} {raw : String}

/-! ## Each reader against its rule -/

theorem positive?_eq_some_iff {n : Nat} : positive? raw = some n ↔ DenotesPositive raw n := by
  unfold positive?
  rw [Option.filter_eq_some_iff, decide_eq_true_eq, readWord?_eq_some_iff]
  constructor
  · rintro ⟨⟨hne, hdigits, hvalue, hmax⟩, hpos⟩
    refine ⟨afterPlus raw.toList, ?_, hne, hdigits, hvalue, hpos, by unfold maxWord at hmax; omega⟩
    unfold afterPlus
    split
    · next heq => exact Or.inr heq
    · exact Or.inl rfl
  · rintro ⟨ds, htext, hne, hdigits, hvalue, hpos, hlt⟩
    have hds : afterPlus raw.toList = ds := by
      rcases htext with htext | htext <;> rw [htext]
      · exact afterPlus_of_digits hdigits
      · rfl
    rw [hds]
    exact ⟨⟨hne, hdigits, hvalue, by unfold maxWord; omega⟩, hpos⟩

theorem limitInRange_iff (x : Binary64) : limitInRange x = true ↔ x.InUnit := by
  have hzero : (Binary64.ofNat 0).isNaN = false ∧ (Binary64.ofNat 0).signedUnits = 0 := by
    decide +kernel
  have hone : (Binary64.ofNat 1).isNaN = false ∧
      (Binary64.ofNat 1).signedUnits = Binary64.unitsPerOne := by decide +kernel
  unfold limitInRange Binary64.le Binary64.InUnit
  rw [hzero.1, hzero.2, hone.1, hone.2]
  cases x.isNaN <;> simp

theorem ofName?_lowercase_iff {kind : ProbeKind} :
    ProbeKind.ofName? (lowercase raw) = some kind ↔ DenotesProbe raw kind := by
  have hname : ProbeKind.ofName? (lowercase raw) = some kind ↔ lowercase raw = kind.name := by
    unfold ProbeKind.ofName?
    cases kind <;> grind [ProbeKind.name]
  have hnone : kind.name.toList.any Char.isUpper = false := by cases kind <;> decide
  have hsmall : ∀ d ∈ kind.name.toList, d.isUpper = false := by simpa using hnone
  rw [hname, ← String.toList_inj, lowercase, String.toList_map, map_toLower_eq_iff hsmall]
  rfl

/-! ## Rules -/

/-- A variable that can be at fault, and what it may say. -/
structure Rule where
  name : String
  Allows : String → Prop

/-- A variable that is absent follows every rule. -/
def Rule.Followed (rule : Rule) (vars : Vars) : Prop :=
  ∀ raw, vars rule.name = some raw → rule.Allows raw

/-- What a variable says has to denote something. -/
def Rule.denoting {α : Type} (name : String) (Denotes : String → α → Prop) : Rule where
  name := name
  Allows := fun raw => ∃ v, Denotes raw v

/-- The rules in the order in which they are looked at. -/
def rules : List Rule :=
  [.denoting "MEDIA_SESSION_TTL_SECONDS" DenotesPositive,
    .denoting "MEDIA_SESSION_SWEEP_INTERVAL_SECONDS" DenotesPositive,
    .denoting "MEDIA_REQUEST_CACHE_RETENTION_SECONDS" DenotesPositive,
    .denoting "MEDIA_REQUEST_CACHE_EVICTION_INTERVAL_SECONDS" DenotesPositive,
    .denoting "MEDIA_RESOURCE_LIMIT" DenotesLimit,
    .denoting "MEDIA_ADMISSION_PROBE" DenotesProbe]

/-- The message of the fault starts with the variable. -/
def Names (f : ConfigFault) (name : String) : Prop :=
  ∃ rest, f.message = "Invalid configuration value: " ++ (name ++ (" " ++ rest))

theorem names_of_detail {f : ConfigFault} {name : String} (start rest : String)
    (h : f.detail = name ++ (" " ++ start) ++ rest) : Names f name := by
  refine ⟨start ++ rest, ?_⟩
  unfold ConfigFault.message
  rw [h]
  simp only [String.append_assoc]

theorem names_notPositive (name raw : String) : Names (.notPositive name raw) name := by
  have htext : " must be a positive integer, got '" =
      " " ++ "must be a positive integer, got '" := by decide
  refine names_of_detail "must be a positive integer, got '" (raw ++ "'") ?_
  unfold ConfigFault.detail
  rw [htext]
  simp only [String.append_assoc]

theorem names_limitNotNumber (raw : String) :
    Names (.limitNotNumber raw) "MEDIA_RESOURCE_LIMIT" := by
  have htext : "MEDIA_RESOURCE_LIMIT is not a number: '" =
      "MEDIA_RESOURCE_LIMIT" ++ (" " ++ "is not a number: '") := by decide
  refine names_of_detail "is not a number: '" (raw ++ "'") ?_
  unfold ConfigFault.detail
  rw [htext]
  simp only [String.append_assoc]

theorem names_limitOutOfRange (x : Binary64) :
    Names (.limitOutOfRange x) "MEDIA_RESOURCE_LIMIT" := by
  have htext : "MEDIA_RESOURCE_LIMIT must be within 0.0..=1.0, got " =
      "MEDIA_RESOURCE_LIMIT" ++ (" " ++ "must be within 0.0..=1.0, got ") := by decide
  refine names_of_detail "must be within 0.0..=1.0, got " x.positional ?_
  unfold ConfigFault.detail
  rw [htext]

theorem names_unknownProbe (lowercased : String) :
    Names (.unknownProbe lowercased) "MEDIA_ADMISSION_PROBE" := by
  have htext : "MEDIA_ADMISSION_PROBE must be 'objects' or 'system', got '" =
      "MEDIA_ADMISSION_PROBE" ++ (" " ++ "must be 'objects' or 'system', got '") := by decide
  refine names_of_detail "must be 'objects' or 'system', got '" (lowercased ++ "'") ?_
  unfold ConfigFault.detail
  rw [htext]
  simp only [String.append_assoc]

/-- The fault names the first variable that does not follow its rule. -/
def FaultOfFirst (vars : Vars) (rules : List Rule) (f : ConfigFault) : Prop :=
  ∃ before rule after, rules = before ++ rule :: after ∧
    (∀ earlier ∈ before, earlier.Followed vars) ∧ ¬ rule.Followed vars ∧ Names f rule.name

/-- What a variable denotes, or the default if it is absent. -/
def Given {α : Type} (vars : Vars) (name : String) (Denotes : String → α → Prop) (default v : α) :
    Prop :=
  match vars name with
  | some raw => Denotes raw v
  | none => v = default

/-! ## Reading one variable after the other -/

/-- A variable is read if it follows its rule, and else the fault names it. -/
def Reads {α : Type} (vars : Vars) (rule : Rule) (P : α → Prop) : Except ConfigFault α → Prop
  | .ok v => rule.Followed vars ∧ P v
  | .error f => ¬ rule.Followed vars ∧ Names f rule.name

/-- Variables are read if they follow their rules, and else the fault names the first that does
not. -/
def ReadsAll {α : Type} (vars : Vars) (rules : List Rule) (P : α → Prop) :
    Except ConfigFault α → Prop
  | .ok v => (∀ rule ∈ rules, rule.Followed vars) ∧ P v
  | .error f => FaultOfFirst vars rules f

theorem ReadsAll.cons {α β : Type} {rule : Rule} {rules : List Rule} {P : α → Prop} {Q : β → Prop}
    {x : Except ConfigFault α} {k : α → Except ConfigFault β} (hx : Reads vars rule P x)
    (hk : ∀ v, P v → ReadsAll vars rules Q (k v)) : ReadsAll vars (rule :: rules) Q (x >>= k) := by
  cases x with
  | error f => exact ⟨[], rule, rules, rfl, nofun, hx.1, hx.2⟩
  | ok v =>
    have hrest := hk v hx.2
    show ReadsAll vars (rule :: rules) Q (k v)
    cases hkv : k v with
    | ok w =>
      rw [hkv] at hrest
      exact ⟨List.forall_mem_cons.mpr ⟨hx.1, hrest.1⟩, hrest.2⟩
    | error f =>
      rw [hkv] at hrest
      obtain ⟨before, later, after, rfl, hbefore, hlater⟩ := hrest
      exact ⟨rule :: before, later, after, rfl, List.forall_mem_cons.mpr ⟨hx.1, hbefore⟩, hlater⟩

/-- What a reader has to do with a text that is given. -/
def ReadsText {α : Type} (name : String) (Denotes : String → α → Prop) (raw : String) :
    Except ConfigFault α → Prop
  | .ok v => Denotes raw v
  | .error f => (∀ v, ¬ Denotes raw v) ∧ Names f name

theorem reads_of_text {α : Type} {name : String} {Denotes : String → α → Prop} {default : α}
    {x : Except ConfigFault α} (habsent : vars name = none → x = .ok default)
    (hgiven : ∀ raw, vars name = some raw → ReadsText name Denotes raw x) :
    Reads vars (.denoting name Denotes) (Given vars name Denotes default) x := by
  cases hv : vars name with
  | none =>
    rw [habsent hv]
    refine ⟨fun raw hraw => ?_, ?_⟩
    · cases hv.symm.trans hraw
    · unfold Given
      rw [hv]
  | some raw =>
    have hread := hgiven raw hv
    cases x with
    | error f =>
      refine ⟨fun hfollowed => ?_, hread.2⟩
      obtain ⟨v, hdenotes⟩ := hfollowed raw hv
      exact hread.1 v hdenotes
    | ok v =>
      refine ⟨fun raw' hraw => ?_, ?_⟩
      · cases hv.symm.trans hraw
        exact ⟨v, hread⟩
      · unfold Given
        rw [hv]
        exact hread

theorem reads_duration (vars : Vars) (name : String) (default : Nat) :
    Reads vars (.denoting name DenotesPositive) (Given vars name DenotesPositive default)
      (duration vars name default) := by
  unfold duration
  refine reads_of_text (fun hv => by rw [hv]) fun raw hv => ?_
  rw [hv]
  simp only
  split
  · next n hn => exact positive?_eq_some_iff.mp hn
  · next hn =>
    refine ⟨fun n hdenotes => ?_, names_notPositive name raw⟩
    rw [positive?_eq_some_iff.mpr hdenotes] at hn
    cases hn

theorem reads_limit (vars : Vars) :
    Reads vars (.denoting "MEDIA_RESOURCE_LIMIT" DenotesLimit)
      (Given vars "MEDIA_RESOURCE_LIMIT" DenotesLimit defaultLimit) (readLimit vars) := by
  unfold readLimit
  refine reads_of_text (fun hv => by rw [hv]) fun raw hv => ?_
  rw [hv]
  simp only
  split
  · next hnone =>
    refine ⟨fun x hdenotes => ?_, names_limitNotNumber raw⟩
    cases hnone.symm.trans hdenotes.1
  · next x hx =>
    split
    · next hrange => exact ⟨hx, (limitInRange_iff x).mp hrange⟩
    · next hrange =>
      refine ⟨fun y hdenotes => ?_, names_limitOutOfRange x⟩
      cases hx.symm.trans hdenotes.1
      exact hrange ((limitInRange_iff x).mpr hdenotes.2)

theorem reads_probe (vars : Vars) :
    Reads vars (.denoting "MEDIA_ADMISSION_PROBE" DenotesProbe)
      (Given vars "MEDIA_ADMISSION_PROBE" DenotesProbe .objects) (readProbe vars) := by
  unfold readProbe
  refine reads_of_text (fun hv => by rw [hv]) fun raw hv => ?_
  rw [hv]
  simp only
  split
  · next kind hkind => exact ofName?_lowercase_iff.mp hkind
  · next hkind =>
    refine ⟨fun kind hdenotes => ?_, names_unknownProbe (lowercase raw)⟩
    rw [ofName?_lowercase_iff.mpr hdenotes] at hkind
    cases hkind

/-! ## The whole -/

/-- The capacity that a variable gives; one that cannot be used counts as absent. -/
def GivenCapacity (vars : Vars) (n : Nat) : Prop :=
  (∃ raw, vars "MEDIA_MAX_OBJECTS" = some raw ∧ DenotesPositive raw n) ∨
    (∀ raw k, vars "MEDIA_MAX_OBJECTS" = some raw → ¬ DenotesPositive raw k) ∧ n = 10000

/-- Every setting is what its variable denotes or its default, and can be used. -/
structure Complies (vars : Vars) (c : Config) : Prop where
  sessionTtl : Given vars "MEDIA_SESSION_TTL_SECONDS" DenotesPositive 120 c.sessionTtlSeconds
  sweepInterval :
    Given vars "MEDIA_SESSION_SWEEP_INTERVAL_SECONDS" DenotesPositive 10 c.sweepIntervalSeconds
  retention :
    Given vars "MEDIA_REQUEST_CACHE_RETENTION_SECONDS" DenotesPositive 30 c.retentionSeconds
  evictionInterval :
    Given vars "MEDIA_REQUEST_CACHE_EVICTION_INTERVAL_SECONDS" DenotesPositive 5
      c.evictionIntervalSeconds
  limit : Given vars "MEDIA_RESOURCE_LIMIT" DenotesLimit defaultLimit c.limit
  probe : Given vars "MEDIA_ADMISSION_PROBE" DenotesProbe .objects c.probe
  maxObjects : GivenCapacity vars c.maxObjects
  durations_pos : 0 < c.sessionTtlSeconds ∧ 0 < c.sweepIntervalSeconds ∧ 0 < c.retentionSeconds ∧
    0 < c.evictionIntervalSeconds
  limit_inUnit : c.limit.InUnit
  maxObjects_pos : 0 < c.maxObjects

theorem Given.pos {name : String} {default n : Nat} (h : Given vars name DenotesPositive default n)
    (hdefault : 0 < default) : 0 < n := by
  unfold Given at h
  split at h
  · obtain ⟨ds, -, -, -, -, hpos, -⟩ := h
    exact hpos
  · rw [h]
    exact hdefault

theorem Given.inUnit {name : String} {x : Binary64}
    (h : Given vars name DenotesLimit defaultLimit x) : x.InUnit := by
  unfold Given at h
  split at h
  · exact h.2
  · rw [h, ← limitInRange_iff]
    decide +kernel

theorem givenCapacity_readMaxObjects (vars : Vars) : GivenCapacity vars (readMaxObjects vars) := by
  unfold readMaxObjects
  cases hv : (vars "MEDIA_MAX_OBJECTS").bind positive? with
  | none =>
    refine Or.inr ⟨fun raw k hraw hdenotes => ?_, rfl⟩
    rw [hraw, Option.bind_some, positive?_eq_some_iff.mpr hdenotes] at hv
    cases hv
  | some n =>
    obtain ⟨raw, hraw, hn⟩ := Option.bind_eq_some_iff.mp hv
    exact Or.inl ⟨raw, hraw, positive?_eq_some_iff.mp hn⟩

theorem GivenCapacity.pos {n : Nat} (h : GivenCapacity vars n) : 0 < n := by
  rcases h with ⟨raw, -, ds, -, -, -, -, hpos, -⟩ | ⟨-, rfl⟩
  · exact hpos
  · decide

theorem readsAll_ofVars (vars : Vars) (unique : String) :
    ReadsAll vars rules (Complies vars) (ofVars vars unique) := by
  refine ReadsAll.cons (reads_duration vars _ _) fun ttl httl => ?_
  refine ReadsAll.cons (reads_duration vars _ _) fun sweep hsweep => ?_
  refine ReadsAll.cons (reads_duration vars _ _) fun retention hretention => ?_
  refine ReadsAll.cons (reads_duration vars _ _) fun eviction heviction => ?_
  refine ReadsAll.cons (reads_limit vars) fun limit hlimit => ?_
  refine ReadsAll.cons (reads_probe vars) fun probe hprobe => ?_
  refine ⟨nofun, ?_⟩
  have hcapacity := givenCapacity_readMaxObjects vars
  exact
    { sessionTtl := httl, sweepInterval := hsweep, retention := hretention,
      evictionInterval := heviction, limit := hlimit, probe := hprobe, maxObjects := hcapacity,
      durations_pos := ⟨httl.pos (by decide), hsweep.pos (by decide), hretention.pos (by decide),
        heviction.pos (by decide)⟩,
      limit_inUnit := hlimit.inUnit, maxObjects_pos := hcapacity.pos }

/-- A configuration is accepted exactly if every variable follows its rule; else the fault names the
first that does not. What is accepted complies with the variables. -/
theorem configuration_exact (vars : Vars) (unique : String) :
    ((∃ c, ofVars vars unique = .ok c) ↔ ∀ rule ∈ rules, rule.Followed vars) ∧
      (∀ f, ofVars vars unique = .error f → FaultOfFirst vars rules f) ∧
      ∀ c, ofVars vars unique = .ok c → Complies vars c := by
  have h := readsAll_ofVars vars unique
  cases ho : ofVars vars unique with
  | ok c =>
    rw [ho] at h
    exact ⟨⟨fun _ => h.1, fun _ => ⟨c, rfl⟩⟩, nofun, fun d hd => Except.ok.inj hd ▸ h.2⟩
  | error f =>
    rw [ho] at h
    refine ⟨⟨fun hok => ?_, fun hall => ?_⟩, fun g hg => Except.error.inj hg ▸ h, nofun⟩
    · obtain ⟨c, hc⟩ := hok
      cases hc
    · obtain ⟨before, rule, after, heq, -, hfault, -⟩ := h
      exact absurd (hall rule (heq ▸ List.mem_append_right before List.mem_cons_self)) hfault

/-- The greatest number of 64 bits is taken, and the next one is not. -/
example :
    let vars (ttl : String) : Vars := fun name =>
      if name = "MEDIA_SESSION_TTL_SECONDS" then some ttl
      else if name = "MEDIA_ADMISSION_PROBE" then some "SysTem" else none
    (ofVars (vars "+18446744073709551615") "").toOption.map
          (fun c => (c.sessionTtlSeconds, c.probe)) = some (18446744073709551615, .system) ∧
      (ofVars (vars "18446744073709551616") "").toOption = none := by
  decide +kernel

end Config

end MediaPlane

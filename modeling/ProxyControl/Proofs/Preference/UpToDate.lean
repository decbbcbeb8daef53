import ProxyControl.Proofs.Decimal.Value
import ProxyControl.Proofs.Dictionaries
import ProxyControl.Proofs.Preference.Sameness

/-!
# Dictionaries that are up to date

A proxy dictionary is compared with the wanted one by sameness, which lets flags and numbers stand
in for each other.  So more than one dictionary counts as up to date for a port.  They are described
by a table: for each key either the value that a number must have or the text or texts that must
stand there.  A dictionary is up to date if it has these keys, no others, and meets the table.

Main results:

- Definition `PrefValue.rational?`: the exact value of a flag or a number.
- Theorem `PrefValue.sameNumber_iff`: what stands for the same number as a small integer.
- Theorem `PrefValue.sameEntries_iff_find?`: dictionaries are the same key by key.
- Definition `ProxyDict.requirements`: the table for a port.
- Structure `ProxyDict.UpToDate`: a dictionary that meets the table.
- Theorem `ProxyDict.needsWrite_eq_false_iff_upToDate`: the dictionaries that need no write.
-/

namespace ProxyControl

/-! ## Numbers -/

namespace PrefValue

/-- The exact value of a flag or a number; a flag counts as 0 or 1. -/
def rational? : PrefValue → Option ℚ
  | bool b => some (if b then 1 else 0)
  | int n => some n.toInt
  | real x => if x.isFinite then some x.toRat else none
  | _ => none

variable {v w : PrefValue}

/-- A value stands for the same number as a small integer just when it is a number of this value. -/
theorem sameNumber_iff {n : Int} (hw : w.number? = some (Binary64.ofInt n))
    (h : n.natAbs < 2 ^ 53) : v.sameNumber w = true ↔ v.rational? = some (n : ℚ) := by
  unfold sameNumber
  rw [hw]
  cases v with
  | bool b =>
      simp only [number?, rational?, Binary64.numEq_ofInt_ofInt_iff h, Option.some.injEq]
      cases b <;> simp [eq_comm]
  | int m =>
      simp only [number?, rational?, Binary64.numEq_ofInt_ofInt_iff h, Option.some.injEq,
        Int.cast_inj]
  | real x =>
      simp only [number?, rational?, Binary64.numEq_ofInt_iff h]
      by_cases hx : x.isFinite = true
      · simp [hx]
      · simp [hx]
  | _ => simp [number?, rational?]

/-- A switch is the same as the numbers 0 and 1, whatever they are written as. -/
theorem same_bool_iff (b : Bool) :
    v.same (bool b) = true ↔ v.rational? = some (if b then 1 else 0) := by
  rw [same_bool_right, sameNumber_iff rfl (by cases b <;> decide)]
  cases b <;> simp

/-- Two integers are compared exactly, which is no stricter here than as numbers. -/
theorem same_int_iff {n : Int64} (h : n.toInt.natAbs < 2 ^ 53) :
    v.same (int n) = true ↔ v.rational? = some (n.toInt : ℚ) := by
  by_cases hint : ∃ m, v = int m
  · obtain ⟨m, rfl⟩ := hint
    simp [same, rational?, Int64.toInt_inj]
  · have hnumber : v.same (int n) = v.sameNumber (int n) := by
      cases v with
      | int m => exact absurd ⟨m, rfl⟩ hint
      | _ => rfl
    rw [hnumber]
    exact sameNumber_iff rfl h

/-- The items of an array are the same as some texts just when they are these texts. -/
theorem sameItems_map_str_iff {items : List PrefValue} {texts : List String} :
    sameItems items (texts.map str) = true ↔ items = texts.map str := by
  induction texts generalizing items with
  | nil => cases items <;> simp [sameItems]
  | cons text rest ih =>
      cases items with
      | nil => simp [sameItems]
      | cons item items =>
          rw [List.map_cons, sameItems, Bool.and_eq_true, ih, same_comm, same_str_iff,
            List.cons.injEq]
          exact and_congr_left' eq_comm

/-! ## Dictionaries -/

/-- Dictionaries with the same keys are the same if they hold the same values under them. -/
theorem sameEntries_of_keys_eq {d e : PrefDict} (hd : Dict.Ordered d) (hkeys : d.keys = e.keys)
    (h : ∀ key a b, d.find? key = some a → e.find? key = some b → a.same b = true) :
    sameEntries d e = true := by
  induction d generalizing e with
  | nil =>
      cases e with
      | nil => rfl
      | cons _ _ => cases hkeys
  | cons entry d ih =>
      cases e with
      | nil => cases hkeys
      | cons other e =>
          obtain ⟨k, a⟩ := entry
          obtain ⟨l, b⟩ := other
          obtain ⟨rfl, hrest⟩ := List.cons.inj hkeys
          obtain ⟨hk, hd⟩ := List.pairwise_cons.1 hd
          have hab : a.same b = true := h k a b (by simp [Dict.find?]) (by simp [Dict.find?])
          have hothers := ih hd hrest fun key x y hx hy => by
            have hlt : k < key := hk _ (Dict.mem_of_find?_eq_some hx)
            have hne : k ≠ key := fun heq => String.lt_irrefl _ (heq ▸ hlt)
            exact h key x y (by simpa [Dict.find?, hne] using hx)
              (by simpa [Dict.find?, hne] using hy)
          simp [sameEntries, hab, hothers]

/-- Dictionaries are the same just when they hold the same values under the same keys. -/
theorem sameEntries_iff_find? {d e : PrefDict} (hd : Dict.Ordered d) (he : Dict.Ordered e) :
    sameEntries d e = true ↔
      ∀ key, Option.Rel (fun a b => a.same b = true) (d.find? key) (e.find? key) := by
  constructor
  · intro h
    clear hd he
    induction d generalizing e with
    | nil =>
        cases e with
        | nil => exact fun _ => .none
        | cons _ _ => cases h
    | cons entry d ih =>
        cases e with
        | nil => cases h
        | cons other e =>
            obtain ⟨k, a⟩ := entry
            obtain ⟨l, b⟩ := other
            simp only [sameEntries, Bool.and_eq_true, beq_iff_eq] at h
            obtain ⟨⟨rfl, hab⟩, hrest⟩ := h
            intro key
            by_cases hk : k = key
            · simpa [Dict.find?, hk] using hab
            · simpa [Dict.find?, hk] using ih hrest key
  · intro h
    apply sameEntries_of_keys_eq hd (Dict.keys_eq_of_rel hd he h)
    intro key a b ha hb
    have hab := h key
    rwa [ha, hb, Option.rel_some_some] at hab

end PrefValue

/-! ## Requirements -/

/-- What must stand under a key of an up-to-date dictionary. -/
inductive Requirement where
  /-- A flag or a number of this value, whatever its type. -/
  | number (n : Nat)
  /-- This text. -/
  | text (s : String)
  /-- The array of these texts, in this order. -/
  | texts (list : List String)

namespace Requirement

/-- A value meets a requirement. -/
def Met : Requirement → PrefValue → Prop
  | number n, v => v.rational? = some n
  | text s, v => v = .str s
  | texts list, v => v = .arr (list.map .str)

/-- The values that meet a requirement are those that are the same as a wanted value. -/
def Describes (requirement : Requirement) (wanted : PrefValue) : Prop :=
  ∀ v : PrefValue, v.same wanted = true ↔ requirement.Met v

theorem describes_false : (number 0).Describes (.bool false) := by
  intro v
  rw [PrefValue.same_bool_iff]
  simp [Met]

/-- To be the same as a small integer is to be a number of its value. -/
theorem describes_int {n : Int64} {value : Nat} (hn : n.toInt = value) (h : value < 2 ^ 53) :
    (number value).Describes (.int n) := by
  intro v
  rw [PrefValue.same_int_iff (by omega), hn]
  simp [Met]

theorem describes_str (s : String) : (text s).Describes (.str s) := by
  intro v
  rw [PrefValue.same_comm, PrefValue.same_str_iff]
  exact eq_comm

/-- To be the same as an array of texts is to be that array. -/
theorem describes_ofTexts (list : List String) : (texts list).Describes (.ofTexts list) := by
  intro v
  rw [PrefValue.ofTexts, PrefValue.same_comm, PrefValue.same_arr_iff]
  constructor
  · rintro ⟨items, rfl, h⟩
    rw [PrefValue.sameItems_comm, PrefValue.sameItems_map_str_iff] at h
    rw [Met, h]
  · rintro rfl
    exact ⟨_, rfl, PrefValue.sameItems_self _⟩

/-- No requirement is met by a value of a type that is not read. -/
theorem not_met_unreadable (requirement : Requirement) (description : String) :
    ¬ requirement.Met (.unreadable description) := by
  cases requirement <;> simp [Met, PrefValue.rational?]

end Requirement

namespace ProxyDict

/-- The keys of an up-to-date dictionary for a port, and what must stand under them. -/
def requirements (port : UInt16) : List (String × Requirement) :=
  let enabled := if port = 0 then 0 else 1
  [("HTTPEnable", .number enabled), ("HTTPSEnable", .number enabled),
    ("ProxyAutoDiscoveryEnable", .number 0), ("ProxyAutoConfigEnable", .number 0),
    ("SOCKSEnable", .number 0), ("GopherEnable", .number 0),
    ("ExceptionsList", .texts ["::1", "127.0.0.1", "localhost", "*.local"])] ++
  if port = 0 then []
  else
    [("HTTPProxy", .text "127.0.0.1"), ("HTTPPort", .number port.toNat),
      ("HTTPSProxy", .text "127.0.0.1"), ("HTTPSPort", .number port.toNat)]

theorem ordered_desired (port : UInt16) : Dict.Ordered (desired port) :=
  Dict.ordered_ofList _

/-- The wanted dictionary holds a value for each requirement, and the values that meet the
requirement are those that are the same. -/
theorem describes_desired (port : UInt16) (key : String) :
    Option.Rel (fun wanted requirement => requirement.Describes wanted)
      ((desired port).find? key) ((Dict.ofList (requirements port)).find? key) := by
  apply Dict.rel_find?_ofList
  have hoff : Requirement.Describes (.number 0) (.int 0) :=
    Requirement.describes_int (by decide) (by decide)
  have hon : Requirement.Describes (.number 1) (.int 1) :=
    Requirement.describes_int (by decide) (by decide)
  have hport : Requirement.Describes (.number port.toNat) (.ofPort port) := by
    have hlt := port.toNat_lt
    exact Requirement.describes_int (Int64.toInt_ofNat_of_lt (by omega)) (by omega)
  by_cases h : port = 0
  · simp [baseEntries, requirements, exceptions, h, hoff, Requirement.describes_false,
      Requirement.describes_ofTexts]
  · simp [baseEntries, endpointEntries, requirements, exceptions, loopbackHost, h, hon, hport,
      Requirement.describes_false, Requirement.describes_str, Requirement.describes_ofTexts]

/-- Every key is required once. -/
theorem nodup_requirements (port : UInt16) : ((requirements port).map Prod.fst).Nodup := by
  by_cases h : port = 0
  · simp [requirements, h]
  · simp [requirements, h]

/-- A dictionary has exactly the required keys, and what stands under them meets the
requirements. -/
structure UpToDate (port : UInt16) (dict : ProxyDict) : Prop where
  keys : ∀ key, key ∈ dict.keys ↔ ∃ requirement, (key, requirement) ∈ requirements port
  met : ∀ key requirement, (key, requirement) ∈ requirements port →
    ∃ value, dict.find? key = some value ∧ requirement.Met value

/-- A dictionary is up to date when it has the required keys and no others, and each value meets its
requirement. -/
theorem upToDate_iff_rel {port : UInt16} {dict : ProxyDict} :
    UpToDate port dict ↔ ∀ key, Option.Rel (fun value requirement => requirement.Met value)
      (dict.find? key) ((Dict.ofList (requirements port)).find? key) := by
  have hfind : ∀ key requirement, (key, requirement) ∈ requirements port ↔
      (Dict.ofList (requirements port)).find? key = some requirement := fun _ _ =>
    (Dict.find?_ofList_eq_some_iff (nodup_requirements port)).symm
  constructor
  · intro h key
    cases hrequired : (Dict.ofList (requirements port)).find? key with
    | none =>
        have hmissing : dict.find? key = none := by
          rw [Option.eq_none_iff_forall_ne_some]
          intro value hvalue
          obtain ⟨requirement, hmem⟩ := (h.keys key).1 (Dict.mem_keys_iff.2 ⟨value, hvalue⟩)
          rw [hfind, hrequired] at hmem
          cases hmem
        rw [hmissing]
        exact .none
    | some requirement =>
        obtain ⟨value, hvalue, hmet⟩ := h.met key requirement ((hfind key requirement).2 hrequired)
        rw [hvalue]
        exact .some hmet
  · intro h
    constructor
    · intro key
      simp only [Dict.mem_keys_iff, hfind]
      have hkey := h key
      generalize dict.find? key = value, (Dict.ofList (requirements port)).find? key = requirement
        at hkey ⊢
      cases hkey with
      | some _ => simp
      | none => simp
    · intro key requirement hmem
      have hkey := h key
      rw [(hfind key requirement).1 hmem] at hkey
      generalize dict.find? key = value at hkey ⊢
      cases hkey with
      | some hmet => exact ⟨_, rfl, hmet⟩

/-- The dictionaries in order that are the same as the wanted one are those that are up to date. -/
theorem sameEntries_desired_iff {port : UInt16} {dict : ProxyDict} (ordered : Dict.Ordered dict) :
    PrefValue.sameEntries dict (desired port) = true ↔ UpToDate port dict := by
  rw [PrefValue.sameEntries_iff_find? ordered (ordered_desired port), upToDate_iff_rel]
  apply forall_congr'
  intro key
  have hwanted := describes_desired port key
  generalize dict.find? key = value, (desired port).find? key = wanted,
    (Dict.ofList (requirements port)).find? key = requirement at hwanted ⊢
  cases hwanted with
  | some hdescribes => cases value with
    | none => simp
    | some v => simpa using hdescribes v
  | none => cases value <;> simp

/-! ## What an up-to-date dictionary holds -/

namespace UpToDate

variable {port other : UInt16} {dict : ProxyDict}

/-- It has as many entries as the wanted dictionary. -/
theorem length_eq (h : UpToDate port dict) (ordered : Dict.Ordered dict) :
    dict.length = if port = 0 then 7 else 11 := by
  have hkeys := Dict.keys_eq_of_rel ordered (Dict.ordered_ofList _) (upToDate_iff_rel.1 h)
  have hlength : dict.length = (Dict.ofList (requirements port)).length := by
    simpa [Dict.keys] using congrArg List.length hkeys
  rw [hlength, (Dict.perm_ofList (nodup_requirements port)).length_eq]
  by_cases hport : port = 0
  · simp [requirements, hport]
  · simp [requirements, hport]

/-- Each of its entries meets a requirement of its key. -/
theorem exists_met (h : UpToDate port dict) {key : String} {value : PrefValue}
    (hvalue : dict.find? key = some value) :
    ∃ requirement, (key, requirement) ∈ requirements port ∧ requirement.Met value := by
  obtain ⟨requirement, hmem⟩ := (h.keys key).1 (Dict.mem_keys_iff.2 ⟨value, hvalue⟩)
  obtain ⟨value', hvalue', hmet⟩ := h.met key requirement hmem
  rw [hvalue] at hvalue'
  cases hvalue'
  exact ⟨requirement, hmem, hmet⟩

/-- Numbers that are required under one key are equal. -/
theorem number_eq (h : UpToDate port dict) (h' : UpToDate other dict) (key : String) {m n : Nat}
    (hm : (key, .number m) ∈ requirements port) (hn : (key, .number n) ∈ requirements other) :
    m = n := by
  obtain ⟨value, hvalue, hmet⟩ := h.met key _ hm
  obtain ⟨value', hvalue', hmet'⟩ := h'.met key _ hn
  rw [hvalue] at hvalue'
  cases hvalue'
  have heq : some (m : ℚ) = some (n : ℚ) := hmet.symm.trans hmet'
  simpa using heq

/-- It is up to date for one port only: the flags tell port 0 from the others, and the port that it
names tells these apart. -/
theorem port_eq (h : UpToDate port dict) (h' : UpToDate other dict) : port = other := by
  have henabled : (if port = 0 then 0 else 1) = if other = 0 then 0 else 1 :=
    number_eq h h' "HTTPEnable" (by simp [requirements]) (by simp [requirements])
  by_cases hport : port = 0
  · by_cases hother : other = 0
    · rw [hport, hother]
    · simp [hport, hother] at henabled
  · by_cases hother : other = 0
    · simp [hport, hother] at henabled
    · have hnumber : port.toNat = other.toNat :=
        number_eq h h' "HTTPPort" (by simp [requirements, hport])
          (by simp [requirements, hother])
      exact UInt16.toNat_inj.1 hnumber

end UpToDate

/-- A service needs no write for a port just when it has a dictionary that is up to date for this
port: with exactly the seven keys of port 0 or the eleven keys of another port, and with the
required numbers, texts and list of texts under them.  An entry under any other key, or of any
other type or value, forces a write, and no dictionary is up to date for two ports. -/
theorem needsWrite_eq_false_iff_upToDate (port : UInt16) {current : Option ProxyDict}
    (ordered : ∀ dict, current = some dict → Dict.Ordered dict) :
    (needsWrite current (desired port) = false ↔
        ∃ dict, current = some dict ∧ UpToDate port dict) ∧
      (∀ dict, current = some dict → needsWrite current (desired port) = false →
        dict.length = if port = 0 then 7 else 11) ∧
      (∀ dict key value, current = some dict → dict.find? key = some value →
        (∀ requirement, (key, requirement) ∈ requirements port → ¬ requirement.Met value) →
        needsWrite current (desired port) = true) ∧
      (∀ dict key description, current = some dict →
        dict.find? key = some (.unreadable description) →
        needsWrite current (desired port) = true) ∧
      ∀ other, needsWrite current (desired port) = false →
        needsWrite current (desired other) = false → port = other := by
  have hiff : ∀ port, needsWrite current (desired port) = false ↔
      ∃ dict, current = some dict ∧ UpToDate port dict := by
    intro port
    rw [needsWrite_eq_false_iff]
    apply exists_congr
    intro dict
    apply and_congr_right
    intro hcurrent
    exact sameEntries_desired_iff (ordered dict hcurrent)
  have hforced : ∀ dict key value, current = some dict → dict.find? key = some value →
      (∀ requirement, (key, requirement) ∈ requirements port → ¬ requirement.Met value) →
      needsWrite current (desired port) = true := by
    intro dict key value hcurrent hvalue hunmet
    by_contra hfresh
    obtain ⟨dict', hcurrent', h⟩ := (hiff port).1 (Bool.eq_false_iff.2 hfresh)
    rw [hcurrent] at hcurrent'
    cases hcurrent'
    obtain ⟨requirement, hmem, hmet⟩ := h.exists_met hvalue
    exact hunmet requirement hmem hmet
  refine ⟨hiff port, ?_, hforced, ?_, ?_⟩
  · intro dict hcurrent hfresh
    obtain ⟨dict', hcurrent', h⟩ := (hiff port).1 hfresh
    rw [hcurrent] at hcurrent'
    cases hcurrent'
    exact h.length_eq (ordered dict hcurrent)
  · intro dict key description hcurrent hvalue
    exact hforced dict key _ hcurrent hvalue fun requirement _ =>
      requirement.not_met_unreadable description
  · intro other hfresh hfresh'
    obtain ⟨dict, hcurrent, h⟩ := (hiff port).1 hfresh
    obtain ⟨dict', hcurrent', h'⟩ := (hiff other).1 hfresh'
    rw [hcurrent] at hcurrent'
    cases hcurrent'
    exact h.port_eq h'

/-- A dictionary for port 1 in which flags, integers and reals stand in for each other. -/
def loose : ProxyDict :=
  Dict.ofList
    [("HTTPEnable", .real ⟨0x3FF0000000000000⟩), ("HTTPSEnable", .bool true),
      ("ProxyAutoDiscoveryEnable", .int 0), ("ProxyAutoConfigEnable", .bool false),
      ("SOCKSEnable", .real ⟨0x8000000000000000⟩), ("GopherEnable", .int 0),
      ("ExceptionsList", .ofTexts ["::1", "127.0.0.1", "localhost", "*.local"]),
      ("HTTPProxy", .str "127.0.0.1"), ("HTTPPort", .bool true),
      ("HTTPSProxy", .str "127.0.0.1"), ("HTTPSPort", .real ⟨0x3FF0000000000000⟩)]

/-- It is up to date for port 1 although a flag stands for the port, for port 2 it is not, and an
entry that is not read spoils it. -/
theorem needsWrite_eq_false_iff_upToDate_loose :
    Dict.Ordered loose ∧ needsWrite (some loose) (desired 1) = false ∧ UpToDate 1 loose ∧
      loose.length = 11 ∧ needsWrite (some loose) (desired 2) = true ∧
      needsWrite (some (loose.insert "Blob" (.unreadable "<CFData>"))) (desired 1) = true := by
  have hordered : ∀ dict, some loose = some dict → Dict.Ordered dict := by
    rintro _ ⟨⟩
    exact Dict.ordered_ofList _
  have hspoilt : ∀ dict, some (loose.insert "Blob" (.unreadable "<CFData>")) = some dict →
      Dict.Ordered dict := by
    rintro _ ⟨⟩
    exact (Dict.ordered_ofList _).insert _ _
  have hfresh : needsWrite (some loose) (desired 1) = false := by decide +kernel
  obtain ⟨hiff, hlength, -, -, hports⟩ := needsWrite_eq_false_iff_upToDate 1 hordered
  obtain ⟨-, -, -, hunreadable, -⟩ := needsWrite_eq_false_iff_upToDate 1 hspoilt
  obtain ⟨dict, hcurrent, h⟩ := hiff.1 hfresh
  cases hcurrent
  refine ⟨hordered _ rfl, hfresh, h, hlength _ rfl hfresh, ?_, ?_⟩
  · by_contra hother
    exact absurd (hports 2 hfresh (Bool.eq_false_iff.2 hother)) (by decide)
  · exact hunreadable _ "Blob" "<CFData>" rfl (Dict.find?_insert_self _ _ _)

end ProxyDict
end ProxyControl

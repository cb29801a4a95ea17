-- Which settings make a configuration, and what is wrong with the others: the
-- version, the topology, the prefix and the names of the scenarios are checked
-- in this order. A configuration that was made is fit for use, and it stays so
-- whatever topologies are asked for later.
import Mathlib.Data.String.Basic
import Testbed.Proofs.Session.Catalogue
import Testbed.Proofs.Text.Words

namespace Testbed

open Text (Blank)

namespace Config

/-! ## Prefixes -/

/-- A prefix of one to eight letters and digits, all of them ASCII. -/
structure FitsPrefix (text : String) : Prop where
  nonempty : text ≠ ""
  short : text.length ≤ 8
  plain : ∀ c ∈ text.toList, c.isAlphanum = true

/-- The first thing that is wrong with a prefix. The length is counted in bytes. -/
inductive PrefixFlawed (text : String) : PrefixFlaw → Prop
  | empty (h : text = "") : PrefixFlawed text .empty
  | tooLong (h : 8 < text.utf8ByteSize) : PrefixFlawed text .tooLong
  | badCharacter (nonempty : text ≠ "") (short : text.utf8ByteSize ≤ 8)
      (h : ∃ c ∈ text.toList, c.isAlphanum = false) : PrefixFlawed text .badCharacter

/-- A letter or digit takes one byte. -/
theorem utf8ByteSize_of_plain {text : String} (h : ∀ c ∈ text.toList, c.isAlphanum = true) :
    text.utf8ByteSize = text.length := by
  have hbytes : ∀ cs : List Char, (∀ c ∈ cs, c.isAlphanum = true) →
      String.utf8Len cs = cs.length := by
    intro cs hcs
    induction cs with
    | nil => rfl
    | cons c cs ih =>
      have hone : c.utf8Size = 1 := by
        have hc : ((c.isUpper || c.isLower) || c.isDigit) = true := hcs c List.mem_cons_self
        delta Char.isUpper Char.isLower Char.isDigit at hc
        rw [Char.utf8Size_eq_one_iff]
        grind
      rw [String.utf8Len_cons, hone, ih fun d hd => hcs d (List.mem_cons_of_mem c hd),
        List.length_cons]
  rw [← String.length_toList, ← hbytes text.toList h, ← String.utf8ByteSize_ofList,
    String.ofList_toList]

theorem fits_or_flawed (text : String) : FitsPrefix text ∨ ∃ flaw, PrefixFlawed text flaw := by
  by_cases hempty : text = ""
  · exact Or.inr ⟨_, .empty hempty⟩
  by_cases hshort : text.utf8ByteSize ≤ 8
  · by_cases hplain : ∀ c ∈ text.toList, c.isAlphanum = true
    · exact Or.inl ⟨hempty, utf8ByteSize_of_plain hplain ▸ hshort, hplain⟩
    · exact Or.inr ⟨_, .badCharacter hempty hshort (by simpa using hplain)⟩
  · exact Or.inr ⟨_, .tooLong (Nat.not_le.mp hshort)⟩

theorem prefixFlaw?_of_fits {text : String} (h : FitsPrefix text) : prefixFlaw? text = none := by
  have hbytes := utf8ByteSize_of_plain h.plain
  have hshort : ¬ maxPrefixBytes < text.utf8ByteSize := by
    rw [hbytes]
    exact Nat.not_lt.mpr h.short
  unfold prefixFlaw?
  rw [if_neg (mt String.isEmpty_iff.mp h.nonempty), if_neg hshort,
    if_neg (by simpa using h.plain)]

theorem prefixFlaw?_of_flawed {text : String} {flaw : PrefixFlaw} (h : PrefixFlawed text flaw) :
    prefixFlaw? text = some flaw := by
  unfold prefixFlaw?
  cases h with
  | empty h => rw [if_pos (String.isEmpty_iff.mpr h)]
  | tooLong h =>
    have hlong : maxPrefixBytes < text.utf8ByteSize := h
    have hnonempty : ¬ text.isEmpty = true := by
      intro hempty
      rw [String.isEmpty_iff.mp hempty] at h
      exact absurd h (by decide)
    rw [if_neg hnonempty, if_pos hlong]
  | badCharacter nonempty short h =>
    have hshort : ¬ maxPrefixBytes < text.utf8ByteSize := Nat.not_lt.mpr short
    rw [if_neg (mt String.isEmpty_iff.mp nonempty), if_neg hshort, if_pos (by simpa using h)]

/-! ## The checks one by one -/

theorem isSome_topology?_iff (name : String) :
    (Catalogue.topology? name).isSome = true ↔ name ∈ Catalogue.topologyNames := by
  constructor
  · intro h
    obtain ⟨t, ht⟩ := Option.isSome_iff_exists.mp h
    exact Catalogue.mem_topologyNames ht
  · have hall : (Catalogue.topologyNames.all fun name => (Catalogue.topology? name).isSome) =
        true := by decide +kernel
    exact List.all_eq_true.mp hall name

theorem checkTopology_ok {given : Option String}
    (h : ∀ name ∈ given, Text.trim name ∈ Catalogue.topologyNames) :
    ∃ name ∈ Catalogue.topologyNames, checkTopology given = .ok name := by
  rcases given with _ | name
  · exact ⟨_, by decide, rfl⟩
  · have hname := h name rfl
    exact ⟨_, hname, if_pos ((isSome_topology?_iff _).mpr hname)⟩

theorem checkTopology_error {name : String} (h : Text.trim name ∉ Catalogue.topologyNames) :
    checkTopology (some name) = .error (.unknownTopology (Text.trim name)) :=
  if_neg (mt (isSome_topology?_iff _).mp h)

theorem checkPrefix_ok {given : Option String}
    (h : ∀ text ∈ given, FitsPrefix (Text.trim text)) :
    ∃ name, FitsPrefix name ∧ checkPrefix given = .ok name := by
  rcases given with _ | text
  · exact ⟨"mip", ⟨by decide, by decide, List.all_eq_true.mp (by decide)⟩, by decide⟩
  · refine ⟨Text.trim text, h text rfl, ?_⟩
    simp only [checkPrefix, Option.map_some, Option.getD_some, prefixFlaw?_of_fits (h text rfl)]

theorem checkPrefix_error {text : String} {flaw : PrefixFlaw}
    (h : PrefixFlawed (Text.trim text) flaw) :
    checkPrefix (some text) = .error (.invalidPrefix flaw) := by
  simp only [checkPrefix, Option.map_some, Option.getD_some, prefixFlaw?_of_flawed h]

/-- The waits of some rows in a table that has others already. -/
def enter (rows : List (String × TimingSettings)) (table : Table String Timings) :
    Table String Timings :=
  rows.foldl (fun table row => table.insert row.1 (fillTimings row.2)) table

theorem checkTimings_ok {rows : List (String × TimingSettings)}
    (h : ∀ row ∈ rows, row.1 ∈ Catalogue.scenarioNames) :
    checkTimings rows = .ok (enter rows ∅) := by
  unfold checkTimings
  generalize (∅ : Table String Timings) = table
  induction rows generalizing table with
  | nil => rfl
  | cons row rows ih =>
    rw [List.foldlM_cons, if_pos (h row List.mem_cons_self)]
    exact ih (fun x hx => h x (List.mem_cons_of_mem row hx)) _

theorem checkTimings_error {earlier later : List (String × TimingSettings)}
    {row : String × TimingSettings} (h : ∀ row ∈ earlier, row.1 ∈ Catalogue.scenarioNames)
    (hrow : row.1 ∉ Catalogue.scenarioNames) :
    checkTimings (earlier ++ row :: later) = .error (.unknownScenario row.1) := by
  have hearlier := checkTimings_ok h
  unfold checkTimings at hearlier ⊢
  simp only [List.foldlM_append, hearlier, List.foldlM_cons, if_neg hrow, bind, Except.bind]

/-! ## Settings that are accepted -/

namespace Settings

/-- Version zero stands for none. -/
def VersionKnown (s : Settings) : Prop := s.version = 0 ∨ s.version = 1

/-- The topology, if one is given, is in the catalogue when the blanks around it are gone. -/
def TopologyKnown (s : Settings) : Prop :=
  ∀ name ∈ s.topology, Text.trim name ∈ Catalogue.topologyNames

/-- The prefix, if one is given, can be used when the blanks around it are gone. -/
def PrefixFits (s : Settings) : Prop := ∀ text ∈ s.namePrefix, FitsPrefix (Text.trim text)

structure Valid (s : Settings) : Prop where
  version : s.VersionKnown
  topology : s.TopologyKnown
  namePrefix : s.PrefixFits
  timings : ∀ row ∈ s.timings, row.1 ∈ Catalogue.scenarioNames

/-- The first thing that is wrong with the settings, with the error that says so. -/
inductive Flawed (s : Settings) : ConfigError → Prop
  | version (h : ¬ s.VersionKnown) : Flawed s (.unsupportedVersion s.version)
  | topology {name : String} (version : s.VersionKnown) (given : s.topology = some name)
      (h : Text.trim name ∉ Catalogue.topologyNames) : Flawed s (.unknownTopology (Text.trim name))
  | namePrefix {text : String} {flaw : PrefixFlaw} (version : s.VersionKnown)
      (topology : s.TopologyKnown) (given : s.namePrefix = some text)
      (h : PrefixFlawed (Text.trim text) flaw) : Flawed s (.invalidPrefix flaw)
  | timings {earlier later : List (String × TimingSettings)} {row : String × TimingSettings}
      (version : s.VersionKnown) (topology : s.TopologyKnown) (namePrefix : s.PrefixFits)
      (given : s.timings = earlier ++ row :: later)
      (known : ∀ row ∈ earlier, row.1 ∈ Catalogue.scenarioNames)
      (h : row.1 ∉ Catalogue.scenarioNames) : Flawed s (.unknownScenario row.1)

theorem valid_or_flawed (s : Settings) : s.Valid ∨ ∃ e, s.Flawed e := by
  by_cases hversion : s.VersionKnown
  · by_cases htopology : s.TopologyKnown
    · by_cases hfit : s.PrefixFits
      · rcases hfind : s.timings.find? (·.1 ∉ Catalogue.scenarioNames) with _ | row
        · exact Or.inl ⟨hversion, htopology, hfit, by simpa using hfind⟩
        · obtain ⟨hrow, earlier, later, hsplit, hknown⟩ := List.find?_eq_some_iff_append.mp hfind
          exact Or.inr ⟨_, .timings hversion htopology hfit hsplit (by simpa using hknown)
            (by simpa using hrow)⟩
      · obtain ⟨text, hgiven, hunfit⟩ : ∃ text, s.namePrefix = some text ∧
            ¬ FitsPrefix (Text.trim text) := by
          simpa [PrefixFits] using hfit
        obtain ⟨flaw, hflaw⟩ := (fits_or_flawed (Text.trim text)).resolve_left hunfit
        exact Or.inr ⟨_, .namePrefix hversion htopology hgiven hflaw⟩
    · obtain ⟨name, hgiven, hunknown⟩ : ∃ name, s.topology = some name ∧
          Text.trim name ∉ Catalogue.topologyNames := by
        simpa [TopologyKnown] using htopology
      exact Or.inr ⟨_, .topology hversion hgiven hunknown⟩
  · exact Or.inr ⟨_, .version hversion⟩

end Settings

theorem checkVersion_ok {s : Settings} (h : s.VersionKnown) : checkVersion s.version = .ok 1 :=
  if_pos h

theorem checkVersion_error {s : Settings} (h : ¬ s.VersionKnown) :
    checkVersion s.version = .error (.unsupportedVersion s.version) := if_neg h

theorem resolve_flawed {s : Settings} {e : ConfigError} (h : s.Flawed e) :
    resolve s = .error e := by
  unfold resolve
  cases h with
  | version h =>
    rw [checkVersion_error h]
    rfl
  | topology version given h =>
    rw [checkVersion_ok version, given, checkTopology_error h]
    rfl
  | namePrefix version topology given h =>
    obtain ⟨name, -, hname⟩ := checkTopology_ok topology
    rw [checkVersion_ok version, hname, given, checkPrefix_error h]
    rfl
  | timings version topology namePrefix given known h =>
    obtain ⟨name, -, hname⟩ := checkTopology_ok topology
    obtain ⟨text, -, htext⟩ := checkPrefix_ok namePrefix
    rw [checkVersion_ok version, hname, htext, given, checkTimings_error known h]
    rfl

theorem resolve_valid {s : Settings} (h : s.Valid) : ∃ topology ∈ Catalogue.topologyNames,
    ∃ namePrefix, FitsPrefix namePrefix ∧ resolve s = .ok {
      version := 1, topology, timings := enter s.timings ∅
      binDir := (nonBlank? s.binDir).getD ".", debug := s.debug.getD true
      namespaces := { namePrefix, useSudo := s.useSudo.getD true
                      terminal := nonBlank? s.terminal, logDir := s.logDir } } := by
  obtain ⟨topology, hmem, htopology⟩ := checkTopology_ok h.topology
  obtain ⟨namePrefix, hfits, hcheck⟩ := checkPrefix_ok h.namePrefix
  refine ⟨topology, hmem, namePrefix, hfits, ?_⟩
  rw [resolve, checkVersion_ok h.version, htopology, hcheck, checkTimings_ok h.timings]
  rfl

theorem valid_of_resolve {s : Settings} {c : Config} (h : resolve s = .ok c) : s.Valid := by
  rcases s.valid_or_flawed with hvalid | ⟨e, hflawed⟩
  · exact hvalid
  · rw [resolve_flawed hflawed] at h
    cases h

theorem flawed_of_resolve {s : Settings} {e : ConfigError} (h : resolve s = .error e) :
    s.Flawed e := by
  rcases s.valid_or_flawed with hvalid | ⟨e', hflawed⟩
  · obtain ⟨topology, -, namePrefix, -, hok⟩ := resolve_valid hvalid
    rw [hok] at h
    cases h
  · rw [resolve_flawed hflawed] at h
    cases h
    exact hflawed

/-! ## What a configuration is fit for -/

/-- The waits in the last row with a name. -/
def lastWaits? (rows : List (String × TimingSettings)) (name : String) : Option TimingSettings :=
  (rows.reverse.find? (·.1 = name)).map (·.2)

/-- The waits that are given for a scenario. -/
def Settings.waitsFor (s : Settings) (name : String) : TimingSettings :=
  (lastWaits? s.timings name).getD {}

/-- Every wait is the one that is given, in milliseconds, or else the usual one. -/
structure Filled (given : TimingSettings) (waits : Timings) : Prop where
  daemonReady : waits.daemonReady = (given.daemonReady.map .ofMillis).getD (.ofSeconds 1)
  convergence : waits.convergence = (given.convergence.map .ofMillis).getD (.ofSeconds 10)
  stagger : waits.stagger = (given.stagger.map .ofMillis).getD (.ofSeconds 1)
  faultAfter : waits.faultAfter = (given.faultAfter.map .ofMillis).getD (.ofSeconds 30)
  faultDuration : waits.faultDuration = (given.faultDuration.map .ofMillis).getD (.ofSeconds 20)

/-- The configuration is fit for use: its topology and all scenarios can be made, the waits are
those of the settings, a terminal has a name, and programs are named with a directory, so that
they are not looked for elsewhere. -/
structure Usable (s : Settings) (c : Config) : Prop where
  version : c.version = 1
  namePrefix : FitsPrefix c.namespaces.namePrefix
  topology : (Catalogue.topology? c.topology).isSome = true
  scenarios : ∀ name ∈ Catalogue.scenarioNames, (Catalogue.scenario? name c).isSome = true
  waits : ∀ name, Filled (s.waitsFor name) (c.timingsFor name)
  terminal : ∀ program, c.namespaces.terminal = some program → ¬ Blank program.toList
  binary : ∀ name, '/' ∈ (c.binary name).toList ∧ name.toList <:+ (c.binary name).toList

theorem waitOr_eq (default : Duration) (given : Option Nat) :
    waitOr default given = (given.map .ofMillis).getD default := by
  cases given <;> rfl

theorem filled_fillTimings (given : TimingSettings) : Filled given (fillTimings given) :=
  ⟨waitOr_eq _ _, waitOr_eq _ _, waitOr_eq _ _, waitOr_eq _ _, waitOr_eq _ _⟩

theorem lastWaits?_cons (row : String × TimingSettings) (rows : List (String × TimingSettings))
    (name : String) : lastWaits? (row :: rows) name =
      (lastWaits? rows name).or (if row.1 = name then some row.2 else none) := by
  rw [lastWaits?, List.reverse_cons, List.find?_append, Option.map_or, lastWaits?]
  by_cases hrow : row.1 = name <;> simp [hrow]

theorem get?_enter (rows : List (String × TimingSettings)) (name : String)
    (table : Table String Timings) : (enter rows table).get? name =
      ((lastWaits? rows name).map fillTimings).or (table.get? name) := by
  induction rows generalizing table with
  | nil => rfl
  | cons row rows ih =>
    change (enter rows (table.insert row.1 (fillTimings row.2))).get? name = _
    rw [ih, lastWaits?_cons, Table.get?_insert]
    by_cases hrow : row.1 = name <;> cases lastWaits? rows name <;> simp [hrow]

theorem filled_timingsFor {s : Settings} {c : Config} (h : c.timings = enter s.timings ∅)
    (name : String) : Filled (s.waitsFor name) (c.timingsFor name) := by
  have hwaits : c.timingsFor name = fillTimings (s.waitsFor name) := by
    rw [timingsFor, h, get?_enter, Settings.waitsFor, Table.get?_empty, Option.or_none]
    cases lastWaits? s.timings name <;> rfl
  rw [hwaits]
  exact filled_fillTimings _

theorem not_blank_of_nonBlank? {given : Option String} {text : String}
    (h : nonBlank? given = some text) : ¬ Blank text.toList := by
  rcases given with _ | given
  · cases h
  · simp only [nonBlank?, Option.map_some] at h
    split at h
    · cases h
    · next hne =>
      cases h
      obtain ⟨-, -, -, -, htrimmed, -⟩ := Text.exists_parts_trim given
      intro hblank
      rcases hcs : (Text.trim given).toList with _ | ⟨c, cs⟩
      · exact hne (String.isEmpty_iff.mpr (by simpa using hcs))
      · have hhead := htrimmed.1 c (by simp [hcs])
        rw [hblank c (by simp [hcs])] at hhead
        cases hhead

/-- A program is named with the directory, if there is a directory. -/
theorem binary_of_nonempty {c : Config} (h : c.binDir ≠ "") (name : String) :
    '/' ∈ (c.binary name).toList ∧ name.toList <:+ (c.binary name).toList := by
  unfold binary Path.join
  split
  · rw [String.toList_append]
    exact ⟨List.mem_append_left _ (by decide), List.suffix_append _ _⟩
  split
  · next hjoin =>
    have habsolute : name.toList.head? = some '/' := by
      simpa [Path.isAbsolute, h] using hjoin
    exact ⟨List.mem_of_mem_head? habsolute, List.suffix_refl _⟩
  split
  · next hlast =>
    rw [String.toList_append]
    exact ⟨List.mem_append_left _ (List.mem_of_getLast? hlast), List.suffix_append _ _⟩
  · simp only [String.toList_append]
    exact ⟨by simp, List.suffix_append _ _⟩

/-! ## Other topologies -/

/-- The configuration after some topologies were asked for. Where one is refused nothing
changes. -/
def retargeted (c : Config) (names : List String) : Config :=
  names.foldl (fun c name => (c.setTopology name).toOption.getD c) c

theorem Usable.setTopology {s : Settings} {c : Config} (h : Usable s c) (name : String) :
    Usable s ((c.setTopology name).toOption.getD c) := by
  by_cases htopology : (Catalogue.topology? name).isSome = true
  · rw [Config.setTopology, if_pos htopology]
    exact ⟨h.version, h.namePrefix, htopology, h.scenarios, h.waits, h.terminal, h.binary⟩
  · rw [Config.setTopology, if_neg htopology]
    exact h

theorem Usable.retargeted {s : Settings} {c : Config} (h : Usable s c) (names : List String) :
    Usable s (c.retargeted names) := by
  induction names generalizing c with
  | nil => exact h
  | cons name names ih => exact ih (h.setTopology name)

theorem usable_of_resolve {s : Settings} {c : Config} (h : resolve s = .ok c) : Usable s c := by
  obtain ⟨topology, hmem, namePrefix, hfits, hvalid⟩ := resolve_valid (valid_of_resolve h)
  obtain rfl := Except.ok.inj (hvalid.symm.trans h)
  refine ⟨rfl, hfits, (isSome_topology?_iff topology).mpr hmem, ?_, filled_timingsFor rfl, ?_, ?_⟩
  · intro name hname
    obtain ⟨scenario, hscenario⟩ := Catalogue.exists_scenario? hname _
    rw [hscenario]
    rfl
  · exact fun program hprogram => not_blank_of_nonBlank? hprogram
  · refine binary_of_nonempty ?_
    rcases hdir : nonBlank? s.binDir with _ | dir
    · exact (by decide : "." ≠ "")
    · rintro rfl
      exact absurd (by simp [Blank]) (not_blank_of_nonBlank? hdir)

/-- Settings are accepted just when the version is one or not given, the topology and the scenarios
that waits are given for are in the catalogue, and the prefix has one to eight letters and digits.
Otherwise the error is that of the first condition that does not hold. What was accepted is fit for
use, also after any topologies were asked for. -/
theorem resolves_just_the_valid (s : Settings) :
    ((∃ c, resolve s = .ok c) ↔ s.Valid) ∧ (∀ e, resolve s = .error e ↔ s.Flawed e) ∧
      ∀ c, resolve s = .ok c → ∀ names, Usable s (c.retargeted names) := by
  refine ⟨⟨?_, fun hvalid => ?_⟩, fun e => ⟨flawed_of_resolve, resolve_flawed⟩, ?_⟩
  · rintro ⟨c, h⟩
    exact valid_of_resolve h
  · obtain ⟨topology, -, namePrefix, -, h⟩ := resolve_valid hvalid
    exact ⟨_, h⟩
  · exact fun c h names => (usable_of_resolve h).retargeted names

/-- Settings with blanks around the texts and one wait are accepted, and the network without a
cycle can be chosen later, while one that does not exist cannot. With another version nothing but
the version is reported. -/
theorem resolves_just_the_valid_of_two :
    let s : Settings :=
      { topology := some " h1\t", namePrefix := some " lab2 ", binDir := some " bin/ "
        timings := [("init_h1", { convergence := some 500 })] }
    let flawed : Settings := { s with version := 2, topology := some "ring", namePrefix := some "" }
    (∃ c, resolve s = .ok c ∧ c.topology = "h1" ∧
      Usable s (c.retargeted ["h2", "ring"]) ∧ (c.retargeted ["h2", "ring"]).topology = "h2") ∧
      resolve flawed = .error (.unsupportedVersion 2) := by
  intro s flawed
  have hversion : ¬ flawed.VersionKnown := by
    unfold Settings.VersionKnown
    decide
  have hnames : (resolve s).toOption.map (fun c =>
      (c.topology, (c.retargeted ["h2", "ring"]).topology)) = some ("h1", "h2") := by
    decide +kernel
  refine ⟨?_, ((resolves_just_the_valid flawed).2.1 _).mpr (.version hversion)⟩
  rcases hresolve : resolve s with e | c
  · rw [hresolve] at hnames
    cases hnames
  · rw [hresolve] at hnames
    obtain ⟨htopology, hlater⟩ := Prod.ext_iff.mp (Option.some.inj hnames)
    exact ⟨c, rfl, htopology, (resolves_just_the_valid s).2.2 c hresolve _, hlater⟩

end Config

end Testbed

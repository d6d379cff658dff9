import LunConsole.Launch
import LunConsole.Proofs.Labels
/-!
# What a configuration has passed

A configuration comes from the standard values, from the text of a file and from the command line,
and every one that is handed out has passed `Config.validate`. The question here is what is then
known of it.

The namespace and the least number of nodes are asked for by `validate` itself, so they hold
wherever a setting came from (`validate_eq_ok_iff`). The label has a check of its own in the reader
of the command line (`Label.IsNormal`), and the standard label is a good one. The reader of files has
none: what a file gives to a setting (`Config.given?`) is taken as it is. So a configuration has a
label without a key exactly if its file says so and the command line does not say otherwise.
-/

set_option autoImplicit false

namespace LunConsole

/-! ## 1. Steps that may fail -/

theorem bind_eq_ok {ε α β : Type} {x : Except ε α} {f : α → Except ε β} {b : β} :
    (x >>= f) = .ok b ↔ ∃ a, x = .ok a ∧ f a = .ok b := by
  cases x with
  | error e => simp [bind, Except.bind]
  | ok a => simp [bind, Except.bind]

/-- An entry is read where it is given, and is the standard value where it is not. -/
theorem Yaml.Entries.orStandard_eq_ok {α : Type} {es : Yaml.Entries} {name : String}
    {standard value : α} {read : Yaml.Node → Except Yaml.Fault α}
    (h : es.orStandard name standard read = .ok value) :
    value = ((es.lookup name).bind fun n => (read n).toOption).getD standard := by
  unfold Yaml.Entries.orStandard at h
  cases hn : es.lookup name with
  | none =>
      rw [hn] at h
      exact (Except.ok.inj h).symm
  | some n =>
      rw [hn] at h
      simp only [Option.bind_some, show read n = .ok value from h, Except.toOption,
        Option.getD_some]

/-- An entry that must be there is read where it is given. -/
theorem Yaml.Entries.toOption_required {α : Type} (es : Yaml.Entries) (name : String)
    (read : Yaml.Node → Except Yaml.Fault α) :
    (es.required name read).toOption = (es.lookup name).bind fun n => (read n).toOption := by
  rw [Yaml.Entries.required]
  cases es.lookup name with
  | none => rfl
  | some n => rfl

namespace Config

/-! ## 2. Validation -/

/-- Settings under which a console can work. -/
structure IsUsable (c : Config) : Prop where
  watchedNamespace : c.watchedNamespace ≠ ""
  minNodes : 1 ≤ c.requirements.minNodes

theorem validate_eq_ok_iff {c : Config} {u : Unit} : c.validate = .ok u ↔ c.IsUsable := by
  have hnodes : c.requirements.minNodes = 0 ↔ ¬ 1 ≤ c.requirements.minNodes := by
    rw [← UInt64.toNat_inj, UInt64.le_iff_toNat_le]
    simp
  unfold validate
  split
  · rename_i hns
    exact iff_of_false nofun fun h => h.watchedNamespace (String.isEmpty_iff.mp hns)
  · rename_i hns
    split
    · rename_i hzero
      exact iff_of_false nofun fun h => hnodes.mp hzero h.minNodes
    · rename_i hpos
      refine iff_of_true rfl ⟨fun h => hns (String.isEmpty_iff.mpr h), ?_⟩
      exact Decidable.not_not.mp fun h => hpos (hnodes.mpr h)

theorem standard_isUsable : standard.IsUsable := ⟨by decide, by decide⟩

theorem standard_key : standard.storageRoleLabel.key ≠ "" := by decide

/-- A file is accepted exactly if it can be read and has settings under which a console can work.
Nothing else is asked of it. -/
theorem load_eq_ok_iff {text : String} {c : Config} :
    load text = .ok c ↔ ofText text = .ok c ∧ c.IsUsable := by
  unfold load
  cases hread : ofText text with
  | error fault => simp
  | ok d =>
      simp only [Except.ok.injEq]
      constructor
      · intro h
        cases hv : d.validate with
        | error e => simp [hv, Except.map] at h
        | ok u =>
            have hc : d = c := by simpa [hv, Except.map] using h
            exact ⟨hc, hc ▸ validate_eq_ok_iff.mp hv⟩
      · rintro ⟨rfl, husable⟩
        rw [validate_eq_ok_iff (u := ()) |>.mpr husable, Except.map]

/-! ## 3. What a file gives -/

/-- The settings that a file can give. -/
def settingNames : List String :=
  ["namespace", "storageRoleLabel", "workerNodeSelector", "requirements"]

/-- The value that the text of a file gives to a setting, if it gives one. -/
def given? {α : Type} (text name : String)
    (read : Yaml.Document → Yaml.Node → Except Yaml.Fault α) : Option α := do
  let d ← (← (Yaml.Document.read text).toOption)
  let es ← (d.entries? settingNames d.root).toOption
  let n ← es.lookup name
  (read d n).toOption

/-- Reads one of the two numbers of some requirements: it must be there. -/
def numberOfNode (name : String) (d : Yaml.Document) (n : Yaml.Node) : Except Yaml.Fault UInt64 := do
  (← d.entries? ["minNodes", "minSharedDisks"] n).required name d.count?

/-- The number that the text of a file gives to one of the requirements, if it gives one. -/
def givenNumber? (text name : String) : Option UInt64 :=
  given? text "requirements" (numberOfNode name)

/-- What the text of a file gives, over the standard values. -/
def ofGiven (text : String) : Config where
  watchedNamespace := (given? text "namespace" Yaml.Document.text?).getD standard.watchedNamespace
  storageRoleLabel := (given? text "storageRoleLabel" Label.ofNode).getD standard.storageRoleLabel
  workerNodeSelector :=
    (given? text "workerNodeSelector" Yaml.Document.text?).getD standard.workerNodeSelector
  requirements := {
    minNodes := (givenNumber? text "minNodes").getD standard.requirements.minNodes
    minSharedDisks :=
      (givenNumber? text "minSharedDisks").getD standard.requirements.minSharedDisks }

/-- Requirements are read number by number, each of them standard where it is not given. -/
theorem requirements_of_ofNode {d : Yaml.Document} {n : Yaml.Node} {r : Requirements}
    (h : Requirements.ofNode d n = .ok r) :
    r.minNodes = (numberOfNode "minNodes" d n).toOption.getD Requirements.standard.minNodes ∧
      r.minSharedDisks
        = (numberOfNode "minSharedDisks" d n).toOption.getD Requirements.standard.minSharedDisks := by
  obtain ⟨es, hes, h⟩ := bind_eq_ok.mp h
  obtain ⟨minNodes, hnodes, h⟩ := bind_eq_ok.mp h
  obtain ⟨minSharedDisks, hdisks, h⟩ := bind_eq_ok.mp h
  cases h
  have hnumber (name : String) :
      (numberOfNode name d n).toOption = (es.lookup name).bind fun m => (d.count? m).toOption := by
    rw [numberOfNode, hes, ← Yaml.Entries.toOption_required]
    rfl
  rw [hnumber, hnumber]
  exact ⟨Yaml.Entries.orStandard_eq_ok hnodes, Yaml.Entries.orStandard_eq_ok hdisks⟩

/-- So are they where they may be left out as a whole. -/
theorem requirements_of_orStandard {es : Yaml.Entries} {d : Yaml.Document} {r : Requirements}
    (h : es.orStandard "requirements" standard.requirements (Requirements.ofNode d) = .ok r) :
    let number (name : String) : Option UInt64 :=
      (es.lookup "requirements").bind fun n => (numberOfNode name d n).toOption
    r.minNodes = (number "minNodes").getD standard.requirements.minNodes ∧
      r.minSharedDisks = (number "minSharedDisks").getD standard.requirements.minSharedDisks := by
  unfold Yaml.Entries.orStandard at h
  cases hn : es.lookup "requirements" with
  | none =>
      rw [hn] at h
      cases h
      exact ⟨rfl, rfl⟩
  | some n =>
      rw [hn] at h
      exact requirements_of_ofNode h

/-- **A file that can be read** comes to what it gives, over the standard values. -/
theorem eq_ofGiven_of_ofText {text : String} {c : Config} (h : ofText text = .ok c) :
    c = ofGiven text := by
  obtain ⟨document, hread, h⟩ := bind_eq_ok.mp h
  cases document with
  | none =>
      cases h
      simp [ofGiven, givenNumber?, given?, hread, Except.toOption]
  | some d =>
      obtain ⟨es, hes, h⟩ := bind_eq_ok.mp h
      obtain ⟨watchedNamespace, hnamespace, h⟩ := bind_eq_ok.mp h
      obtain ⟨label, hlabel, h⟩ := bind_eq_ok.mp h
      obtain ⟨selector, hselector, h⟩ := bind_eq_ok.mp h
      obtain ⟨requirements, hrequirements, h⟩ := bind_eq_ok.mp h
      cases h
      have hgiven {α : Type} (name : String)
          (read : Yaml.Document → Yaml.Node → Except Yaml.Fault α) :
          given? text name read = (es.lookup name).bind fun n => (read d n).toOption := by
        simp [given?, hread, settingNames, hes, Except.toOption]
      obtain ⟨hnodes, hdisks⟩ := requirements_of_orStandard hrequirements
      rw [ofGiven, givenNumber?, givenNumber?, hgiven, hgiven, hgiven, hgiven, hgiven, ← hnodes,
        ← hdisks, ← Yaml.Entries.orStandard_eq_ok hnamespace,
        ← Yaml.Entries.orStandard_eq_ok hlabel, ← Yaml.Entries.orStandard_eq_ok hselector]

/-- A configuration from a file has a label without a key exactly if the file gives it one. -/
theorem key_of_load {text : String} {c : Config} (h : load text = .ok c) :
    c.storageRoleLabel.key = ""
      ↔ ∃ label, given? text "storageRoleLabel" Label.ofNode = some label ∧ label.key = "" := by
  rw [eq_ofGiven_of_ofText (load_eq_ok_iff.mp h).1, ofGiven]
  cases given? text "storageRoleLabel" Label.ofNode with
  | none => simp [standard_key]
  | some label => simp

end Config

/-! ## 4. The command line on top -/

namespace CommandLine

/-- The label that the command line names, or the one of the configuration under it. -/
def labelFor (commandLine : CommandLine) (config : Config) : Except ConsoleError Label :=
  match commandLine.storageRoleLabel with
  | some text => Label.parse text
  | none => .ok config.storageRoleLabel

/-- The configuration with that label and the other options put in. -/
def combined (commandLine : CommandLine) (config : Config) (label : Label) : Config where
  watchedNamespace := commandLine.watchedNamespace.getD config.watchedNamespace
  storageRoleLabel := label
  workerNodeSelector := commandLine.workerNodeSelector.getD config.workerNodeSelector
  requirements := {
    minNodes := commandLine.minNodes.getD config.requirements.minNodes
    minSharedDisks := commandLine.minSharedDisks.getD config.requirements.minSharedDisks }

@[simp] theorem combined_storageRoleLabel (commandLine : CommandLine) (config : Config)
    (label : Label) : (commandLine.combined config label).storageRoleLabel = label := rfl

/-- The options are put in at once, whether or not one of them is a label. -/
theorem override_eq (commandLine : CommandLine) (config : Config) :
    commandLine.override config = (do
      let label ← commandLine.labelFor config
      (commandLine.combined config label).validate
      return commandLine.combined config label) := by
  unfold override labelFor
  cases commandLine.storageRoleLabel <;> rfl

theorem override_eq_ok_iff {commandLine : CommandLine} {config c : Config} :
    commandLine.override config = .ok c
      ↔ ∃ label, commandLine.labelFor config = .ok label
          ∧ commandLine.combined config label = c ∧ c.IsUsable := by
  rw [override_eq, bind_eq_ok]
  refine exists_congr fun label => and_congr_right fun _ => ?_
  rw [bind_eq_ok]
  constructor
  · rintro ⟨u, hv, h⟩
    cases h
    exact ⟨rfl, Config.validate_eq_ok_iff.mp hv⟩
  · rintro ⟨rfl, husable⟩
    exact ⟨(), Config.validate_eq_ok_iff.mpr husable, rfl⟩

end CommandLine

namespace Launch

/-- The configuration under the command line: the one of the file, or the standard one where there
is no file. -/
def underlying (file : Option (Except ConsoleError String)) : Except ConsoleError Config :=
  match file with
  | some text => do Config.load (← text)
  | none => .ok .standard

theorem configure_eq (commandLine : CommandLine) (file : Option (Except ConsoleError String)) :
    configure commandLine file = underlying file >>= commandLine.override := by
  match file with
  | none => rfl
  | some (.error e) => rfl
  | some (.ok text) => rfl

theorem underlying_eq_ok_iff {file : Option (Except ConsoleError String)} {c : Config} :
    underlying file = .ok c
      ↔ file = none ∧ c = .standard
        ∨ ∃ text, file = some (.ok text) ∧ Config.load text = .ok c := by
  match file with
  | none => simp [underlying, eq_comm]
  | some (.error e) => simp [underlying, bind, Except.bind]
  | some (.ok text) => simp [underlying, bind, Except.bind]

/-- The label of a configuration that is used has no key exactly if the file gives it none and the
command line does not name a label. -/
theorem key_of_configure {commandLine : CommandLine} {file : Option (Except ConsoleError String)}
    {c : Config} (h : configure commandLine file = .ok c) :
    c.storageRoleLabel.key = ""
      ↔ commandLine.storageRoleLabel = none
        ∧ ∃ text label, file = some (.ok text)
          ∧ Config.given? text "storageRoleLabel" Label.ofNode = some label ∧ label.key = "" := by
  rw [configure_eq, bind_eq_ok] at h
  obtain ⟨config, hconfig, hoverride⟩ := h
  obtain ⟨label, hlabel, rfl, -⟩ := CommandLine.override_eq_ok_iff.mp hoverride
  unfold CommandLine.labelFor at hlabel
  cases hnamed : commandLine.storageRoleLabel with
  | some text =>
      rw [hnamed] at hlabel
      simp [(Label.parse_eq_ok_iff.mp hlabel).1.key_ne_empty]
  | none =>
      rw [hnamed] at hlabel
      cases hlabel
      obtain ⟨rfl, rfl⟩ | ⟨text, rfl, hload⟩ := underlying_eq_ok_iff.mp hconfig
      · simp [Config.standard_key]
      · simpa using Config.key_of_load hload

end Launch

/-! ## 5. Every configuration that is handed out -/

/-- What is known of every configuration that a file gives, and of every one that the program starts
with: there is a namespace, and a cluster needs a node. That the storage role has a label with a key
is known too, but for one way in: the file of the program gives a label without a key, and the
command line does not name another one. -/
theorem Config.usable_with_key_unless_file_gives_none (text : String) (commandLine : CommandLine)
    (file : Option (Except ConsoleError String)) (c : Config) :
    (Config.load text = .ok c →
      c.watchedNamespace ≠ "" ∧ 1 ≤ c.requirements.minNodes
      ∧ (c.storageRoleLabel.key = ""
        ↔ ∃ label, Config.given? text "storageRoleLabel" Label.ofNode = some label
          ∧ label.key = ""))
    ∧ (Launch.configure commandLine file = .ok c →
      c.watchedNamespace ≠ "" ∧ 1 ≤ c.requirements.minNodes
      ∧ (c.storageRoleLabel.key = ""
        ↔ commandLine.storageRoleLabel = none
          ∧ ∃ text label, file = some (.ok text)
            ∧ Config.given? text "storageRoleLabel" Label.ofNode = some label
            ∧ label.key = "")) := by
  constructor
  · intro h
    obtain ⟨hns, hnodes⟩ := (Config.load_eq_ok_iff.mp h).2
    exact ⟨hns, hnodes, Config.key_of_load h⟩
  · intro h
    obtain ⟨config, -, hoverride⟩ := bind_eq_ok.mp (Launch.configure_eq commandLine file ▸ h)
    obtain ⟨-, -, -, hns, hnodes⟩ := CommandLine.override_eq_ok_iff.mp hoverride
    exact ⟨hns, hnodes, Launch.key_of_configure h⟩

/-- The text of a file that gives the storage role a label without a key. -/
def Config.withoutKey : String := "storageRoleLabel:\n  key: \"\"\n  value: storage\n"

/-- What the file says, over the standard values. -/
def Config.keyless : Config := { standard with storageRoleLabel := ⟨"", "storage"⟩ }

/-- A command line without options. -/
def CommandLine.bare : CommandLine where
  configFile := none
  watchedNamespace := none
  storageRoleLabel := none
  workerNodeSelector := none
  minNodes := none
  minSharedDisks := none
  logLevel := "info"
  restAddress := About.restAddress

theorem eq_ok_of_toOption {ε α : Type} {x : Except ε α} {a : α}
    (h : x.toOption = some a) : x = .ok a := by
  cases x with
  | error e => cases h
  | ok b => rw [Option.some.inj h]

private theorem load_withoutKey : Config.load Config.withoutKey = .ok .keyless :=
  eq_ok_of_toOption (by decide +kernel)

private theorem configure_withoutKey :
    Launch.configure .bare (some (.ok Config.withoutKey)) = .ok .keyless :=
  eq_ok_of_toOption (by decide +kernel)

theorem Config.usable_with_key_unless_file_gives_none_withoutKey :
    (Config.load Config.withoutKey = .ok .keyless
      ∧ ∃ label, Config.given? Config.withoutKey "storageRoleLabel" Label.ofNode = some label
        ∧ label.key = "")
    ∧ Launch.configure .bare (some (.ok Config.withoutKey)) = .ok .keyless
    ∧ Config.keyless.watchedNamespace ≠ "" ∧ 1 ≤ Config.keyless.requirements.minNodes := by
  obtain ⟨hload, hconfigure⟩ := Config.usable_with_key_unless_file_gives_none Config.withoutKey
    .bare (some (.ok Config.withoutKey)) .keyless
  obtain ⟨-, -, hkey⟩ := hload load_withoutKey
  obtain ⟨hns, hnodes, -⟩ := hconfigure configure_withoutKey
  exact ⟨⟨load_withoutKey, hkey.mp rfl⟩, configure_withoutKey, hns, hnodes⟩

/-- A file that gives a label without a key is accepted, by itself and where the command line names
no label. The same label on the command line is refused. -/
theorem Config.label_without_key_in_file :
    (∃ c, Config.load Config.withoutKey = .ok c ∧ c.storageRoleLabel.key = "")
    ∧ (∃ c, Launch.configure .bare (some (.ok Config.withoutKey)) = .ok c
        ∧ c.storageRoleLabel.key = "")
    ∧ Label.parse "=storage" = .error (.configuration "label key is empty: =storage") :=
  ⟨⟨_, load_withoutKey, rfl⟩, ⟨_, configure_withoutKey, rfl⟩, by rfl⟩

end LunConsole

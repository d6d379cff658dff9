import LunConsole.Proofs.Configuration
/-!
# Where a setting comes from

A setting has three sources: the command line, the file, and its standard value, and the first of
them that speaks of it decides. Each of the five settings decides for itself. In particular the two
numbers of the requirements do, although a file gives them in one mapping: one that mentions only
one of them leaves the other one standard, and an option for one of them leaves the other one as the
file has it.

The configuration is checked twice on the way, so a start may fail for the sake of a setting that
does not come to count. The file has to be a good one by itself (`Launch.underlying_eq_ok_iff_file`)
even if the command line would mend what is wrong with it; and between the checks the label on the
command line has to be one that can be read.
-/

set_option autoImplicit false

namespace LunConsole

/-! ## 1. The file -/

namespace Config

/-- What a file gives to a setting. Where there is no file, nothing is given. -/
def givenBy? {α : Type} (file : Option String) (name : String)
    (read : Yaml.Document → Yaml.Node → Except Yaml.Fault α) : Option α :=
  file.bind fun text => given? text name read

/-- The number that a file gives to one of the requirements. -/
def numberGivenBy? (file : Option String) (name : String) : Option UInt64 :=
  file.bind fun text => givenNumber? text name

/-- What a file gives, over the standard values. -/
def ofFile (file : Option String) : Config := (file.map ofGiven).getD standard

end Config

namespace Launch

variable {file : Option String} {c : Config}

/-- **Without the command line**: the file has to be one that can be read, and good by itself. -/
theorem underlying_eq_ok_iff_file :
    underlying (file.map .ok) = .ok c ↔
      (∀ text ∈ file, ∃ d, Config.ofText text = .ok d) ∧ c = .ofFile file ∧
        (Config.ofFile file).IsUsable := by
  cases file with
  | none =>
      have hown : Config.ofFile none = .standard := rfl
      rw [Option.map_none, underlying_eq_ok_iff, hown]
      simp [Config.standard_isUsable]
  | some text =>
      have hload : underlying (Option.map .ok (some text)) = Config.load text := rfl
      have hown : Config.ofFile (some text) = .ofGiven text := rfl
      rw [hload, Config.load_eq_ok_iff, hown]
      constructor
      · rintro ⟨hread, husable⟩
        obtain rfl : c = .ofGiven text := Config.eq_ofGiven_of_ofText hread
        refine ⟨?_, rfl, husable⟩
        intro other hother
        cases hother
        exact ⟨_, hread⟩
      · rintro ⟨hread, rfl, husable⟩
        obtain ⟨d, hd⟩ := hread text rfl
        obtain rfl : d = .ofGiven text := Config.eq_ofGiven_of_ofText hd
        exact ⟨hd, husable⟩

end Launch

/-! ## 2. The command line -/

namespace CommandLine

variable {commandLine : CommandLine} {config : Config}

/-- A label that the command line names has to be one that can be read. -/
theorem exists_labelFor_eq_ok_iff :
    (∃ label, commandLine.labelFor config = .ok label) ↔
      ∀ text ∈ commandLine.storageRoleLabel, ∃ label, Label.parse text = .ok label := by
  unfold labelFor
  cases commandLine.storageRoleLabel with
  | none => simp
  | some text => simp

/-- It is the one that is taken, or else that of the configuration underneath. -/
theorem eq_of_labelFor {label : Label} (h : commandLine.labelFor config = .ok label) :
    label = (commandLine.storageRoleLabel.bind fun text => (Label.parse text).toOption).getD
      config.storageRoleLabel := by
  unfold labelFor at h
  cases hnamed : commandLine.storageRoleLabel with
  | none =>
      rw [hnamed] at h
      exact (Except.ok.inj h).symm
  | some text =>
      rw [hnamed] at h
      rw [Option.bind_some, show Label.parse text = .ok label from h]
      rfl

/-- The label does not matter for whether a console can work. -/
theorem isUsable_combined_iff {label : Label} :
    (commandLine.combined config label).IsUsable ↔
      commandLine.watchedNamespace.getD config.watchedNamespace ≠ "" ∧
        1 ≤ commandLine.minNodes.getD config.requirements.minNodes :=
  ⟨fun h => ⟨h.watchedNamespace, h.minNodes⟩, fun h => ⟨h.1, h.2⟩⟩

end CommandLine

/-! ## 3. All of it -/

namespace Launch

variable {commandLine : CommandLine} {file : Option String} {c : Config}

/-- **What a start comes to**: the command line over the file over the standard values. -/
theorem configure_eq_ok_iff :
    configure commandLine (file.map .ok) = .ok c ↔
      (∀ text ∈ file, ∃ d, Config.ofText text = .ok d) ∧ (Config.ofFile file).IsUsable ∧
        ∃ label, commandLine.labelFor (.ofFile file) = .ok label ∧
          commandLine.combined (.ofFile file) label = c ∧ c.IsUsable := by
  rw [configure_eq, bind_eq_ok]
  constructor
  · rintro ⟨own, hown, hoverride⟩
    obtain ⟨hread, rfl, husable⟩ := underlying_eq_ok_iff_file.mp hown
    exact ⟨hread, husable, CommandLine.override_eq_ok_iff.mp hoverride⟩
  · rintro ⟨hread, husable, hoverride⟩
    exact ⟨.ofFile file, underlying_eq_ok_iff_file.mpr ⟨hread, rfl, husable⟩,
      CommandLine.override_eq_ok_iff.mpr hoverride⟩

/-- A start succeeds exactly if the file, where there is one, can be read and is good by itself, the
label on the command line, where there is one, can be read, and the outcome is good as well. Each of
the five settings then is that of the command line where this gives it, else that of the file where
this gives it, and else the standard one. -/
theorem command_line_over_file_over_standard (commandLine : CommandLine) (file : Option String) :
    let own := Config.ofFile file
    ((∃ c, configure commandLine (file.map .ok) = .ok c) ↔
      (∀ text ∈ file, ∃ d, Config.ofText text = .ok d) ∧
      (own.watchedNamespace ≠ "" ∧ 1 ≤ own.requirements.minNodes) ∧
      (∀ text ∈ commandLine.storageRoleLabel, ∃ label, Label.parse text = .ok label) ∧
      commandLine.watchedNamespace.getD own.watchedNamespace ≠ "" ∧
      1 ≤ commandLine.minNodes.getD own.requirements.minNodes) ∧
    ∀ c, configure commandLine (file.map .ok) = .ok c →
      c.watchedNamespace
        = (commandLine.watchedNamespace.or
            (Config.givenBy? file "namespace" Yaml.Document.text?)).getD
          Config.standard.watchedNamespace ∧
      c.storageRoleLabel
        = ((commandLine.storageRoleLabel.bind fun text => (Label.parse text).toOption).or
            (Config.givenBy? file "storageRoleLabel" Label.ofNode)).getD
          Config.standard.storageRoleLabel ∧
      c.workerNodeSelector
        = (commandLine.workerNodeSelector.or
            (Config.givenBy? file "workerNodeSelector" Yaml.Document.text?)).getD
          Config.standard.workerNodeSelector ∧
      c.requirements.minNodes
        = (commandLine.minNodes.or (Config.numberGivenBy? file "minNodes")).getD
          Config.standard.requirements.minNodes ∧
      c.requirements.minSharedDisks
        = (commandLine.minSharedDisks.or (Config.numberGivenBy? file "minSharedDisks")).getD
          Config.standard.requirements.minSharedDisks := by
  intro own
  constructor
  · constructor
    · rintro ⟨c, hc⟩
      obtain ⟨hread, husable, label, hlabel, rfl, hgood⟩ := configure_eq_ok_iff.mp hc
      exact ⟨hread, ⟨husable.watchedNamespace, husable.minNodes⟩,
        CommandLine.exists_labelFor_eq_ok_iff.mp ⟨label, hlabel⟩,
        CommandLine.isUsable_combined_iff.mp hgood⟩
    · rintro ⟨hread, ⟨hnamespace, hnodes⟩, hnamed, hgood⟩
      obtain ⟨label, hlabel⟩ : ∃ label, commandLine.labelFor own = .ok label :=
        CommandLine.exists_labelFor_eq_ok_iff.mpr hnamed
      exact ⟨commandLine.combined own label, configure_eq_ok_iff.mpr
        ⟨hread, ⟨hnamespace, hnodes⟩, label, hlabel, rfl,
          CommandLine.isUsable_combined_iff.mpr hgood⟩⟩
  · intro c hc
    obtain ⟨-, -, label, hlabel, rfl, -⟩ := configure_eq_ok_iff.mp hc
    simp only [Option.getD_or]
    rw [CommandLine.combined_storageRoleLabel, CommandLine.eq_of_labelFor hlabel]
    -- each setting of the file by itself, over the standard one
    cases file with
    | none => exact ⟨rfl, rfl, rfl, rfl, rfl⟩
    | some text => exact ⟨rfl, rfl, rfl, rfl, rfl⟩

/-- A file that gives the namespace and one of the two numbers. -/
def mixedFile : String := "namespace: fusion\nrequirements:\n  minSharedDisks: 2\n"

/-- Options for the other number and the label. -/
def mixedOptions : CommandLine :=
  { CommandLine.bare with storageRoleLabel := some " role = data ", minNodes := some 5 }

/-- What they come to: the selector is left standard. -/
def mixedConfig : Config :=
  { Config.standard with
    watchedNamespace := "fusion", storageRoleLabel := ⟨"role", "data"⟩, requirements := ⟨5, 2⟩ }

theorem command_line_over_file_over_standard_mixed :
    configure mixedOptions (some (.ok mixedFile)) = .ok mixedConfig ∧
      "fusion" = (mixedOptions.watchedNamespace.or
        (Config.givenBy? (some mixedFile) "namespace" Yaml.Document.text?)).getD
          Config.standard.watchedNamespace ∧
      5 = (mixedOptions.minNodes.or (Config.numberGivenBy? (some mixedFile) "minNodes")).getD
        Config.standard.requirements.minNodes ∧
      2 = (mixedOptions.minSharedDisks.or
        (Config.numberGivenBy? (some mixedFile) "minSharedDisks")).getD
          Config.standard.requirements.minSharedDisks := by
  have hconfigure : configure mixedOptions (some (.ok mixedFile)) = .ok mixedConfig :=
    eq_ok_of_toOption (by decide +kernel)
  obtain ⟨hnamespace, -, -, hnodes, hdisks⟩ :=
    (command_line_over_file_over_standard mixedOptions (some mixedFile)).2 mixedConfig hconfigure
  exact ⟨hconfigure, hnamespace, hnodes, hdisks⟩

end Launch

end LunConsole

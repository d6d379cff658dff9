import LunConsole.Proofs.Console.Steps
import LunConsole.Proofs.KeptCandidates
/-!
# The derived parts of a console

The candidates, the check of the requirements, the call to action and the gauges are functions of
the snapshots, the roles and the flags of the candidates. The console keeps them all the same, and
saves work: the candidates are computed anew only for other inputs, the board is told of a check
only when it differs from the last one, and the beginning of a change brings nothing up to date.

Two properties are told apart. A console is *faithful* if what it keeps is right for what it was
computed from: the candidates for the inputs that stand beside them, the call to action for the
check that stands beside it. It is *up to date* if moreover the inputs, the check and the gauges are
those of its present state. Changing a snapshot or the roles leaves a console faithful, and
`recompute` makes a faithful console up to date (`upToDate_recompute`). So every move that ends with
`recompute` is settled at once, and of the others, the one that matters is the beginning of a
change, which is harmless because a node whose change has begun counts as what it was.
-/

set_option autoImplicit false

namespace LunConsole

/-! ## 1. Faithful consoles -/

/-- What a check makes of the call to action. -/
def RequirementCheck.cta (c : RequirementCheck) : CallToAction :=
  if c.passes then ⟨true, none⟩ else ⟨false, some c.message⟩

namespace Console

/-- What is kept is right for what it was computed from. -/
structure Faithful (c : Console) : Prop where
  /-- Up to their flags the candidates are those of the inputs kept with them. -/
  luns : ∀ i, c.candidates.inputs = some i → c.candidates.luns.selectAll false = i.candidates
  /-- The call to action is that of the check kept with it. -/
  cta : ∀ check, c.requirements = some check → c.board.cta = check.cta

/-- Nothing but the candidates, the check and the call to action matters for it. -/
theorem Faithful.congr {c c' : Console} (h : c.Faithful)
    (hcandidates : c'.candidates = c.candidates) (hrequirements : c'.requirements = c.requirements)
    (hcta : c'.board.cta = c.board.cta) : c'.Faithful := by
  constructor
  · rw [hcandidates]
    exact h.luns
  · rw [hrequirements, hcta]
    exact h.cta

/-- Taking note of a check leaves the call to action of that check, whether the board is told of it
or not. -/
theorem cta_review {c : Console} {check : RequirementCheck}
    (h : ∀ known, c.requirements = some known → c.board.cta = known.cta) :
    (c.review check).board.cta = check.cta := by
  rw [review]
  -- a check that is known already is not announced again, but then the board tells of it
  by_cases hknown : c.requirements = some check
  · rw [if_pos hknown]
    exact h check hknown
  · rw [if_neg hknown, RequirementCheck.cta]
    by_cases hpasses : check.passes = true
    · simp only [hpasses, if_true]
      rfl
    · simp only [hpasses, Bool.false_eq_true, if_false]
      rfl

/-! ## 2. Consoles that are up to date -/

/-- What is derived is that of the present state. -/
structure UpToDate (c : Console) : Prop where
  inputs : c.candidates.inputs = some c.inputs
  luns : c.candidates.luns.selectAll false = c.inputs.candidates
  requirements : c.requirements = some c.currentCheck
  cta : c.board.cta = c.currentCheck.cta
  gauges : c.metrics.gauges = c.currentGauges

theorem UpToDate.faithful {c : Console} (h : c.UpToDate) : c.Faithful := by
  constructor
  · intro i hi
    rw [h.inputs] at hi
    cases hi
    exact h.luns
  · intro check hcheck
    rw [h.requirements] at hcheck
    cases hcheck
    exact h.cta

/-- **Bringing a faithful console up to date** does so. -/
theorem upToDate_recompute {c : Console} (h : c.Faithful) : c.recompute.UpToDate := by
  have hinputs : c.recompute.inputs = c.inputs := by
    rw [inputs, inputs, recompute_discovery, recompute_disks, recompute_roles]
  -- the check does not look at anything that is set after the candidates
  have hcheck : c.recompute.currentCheck = c.refreshCandidates.currentCheck := by
    rw [currentCheck, currentCheck, recompute_config, recompute_roles, recompute_candidates]
    rfl
  have hluns : (c.candidates.refresh c.inputs).luns.selectAll false = c.inputs.candidates :=
    Candidates.selectAll_refresh h.luns
  constructor
  · rw [recompute_candidates, hinputs, Candidates.inputs_refresh]
  · rw [recompute_candidates, hinputs, hluns]
  · rw [hcheck, recompute_eq]
  · rw [hcheck, recompute_eq]
    exact cta_review (c := c.refreshCandidates) h.cta
  · -- the gauges are set last, so nothing they show changes after them
    rw [recompute]
    rfl

/-- Bringing up to date what is so already does nothing. -/
theorem UpToDate.recompute_eq {c : Console} (h : c.UpToDate) : c.recompute = c := by
  have hfresh : c.refreshCandidates = c := by
    rw [refreshCandidates, Candidates.refresh_of_eq h.inputs]
  have hreviewed : c.review c.currentCheck = c := by rw [review, if_pos h.requirements]
  rw [recompute]
  simp only [hfresh, hreviewed]
  rw [setGauges, ← h.gauges]

/-- Being up to date is a matter of what is derived, the inputs, and the storage nodes; the
snapshots and the roles count no further. -/
theorem UpToDate.congr_inputs {c c' : Console} (h : c.UpToDate) (hconfig : c'.config = c.config)
    (hinputs : c'.inputs = c.inputs) (hnodes : c'.roles.selectedNodes = c.roles.selectedNodes)
    (hcandidates : c'.candidates = c.candidates) (hrequirements : c'.requirements = c.requirements)
    (hcta : c'.board.cta = c.board.cta) (hgauges : c'.metrics.gauges = c.metrics.gauges) :
    c'.UpToDate := by
  have hcheck : c'.currentCheck = c.currentCheck := by
    rw [currentCheck, currentCheck, hconfig, hnodes, hcandidates]
  constructor
  · rw [hcandidates, hinputs, h.inputs]
  · rw [hcandidates, hinputs, h.luns]
  · rw [hrequirements, hcheck, h.requirements]
  · rw [hcta, hcheck, h.cta]
  · rw [hgauges, h.gauges, currentGauges, currentGauges, hcandidates, hnodes, hcheck]

/-- The inputs follow from the snapshots behind them and the storage nodes. -/
theorem UpToDate.congr {c c' : Console} (h : c.UpToDate) (hconfig : c'.config = c.config)
    (hdiscovery : c'.discovery = c.discovery) (hdisks : c'.disks = c.disks)
    (hnodes : c'.roles.selectedNodes = c.roles.selectedNodes)
    (hcandidates : c'.candidates = c.candidates) (hrequirements : c'.requirements = c.requirements)
    (hcta : c'.board.cta = c.board.cta) (hgauges : c'.metrics.gauges = c.metrics.gauges) :
    c'.UpToDate := by
  refine h.congr_inputs hconfig ?_ hnodes hcandidates hrequirements hcta hgauges
  rw [Console.inputs, Console.inputs, hdiscovery, hdisks, hnodes]

/-! ## 3. New consoles and moves -/

theorem upToDate_new (config : Config) (clock : Instant) : (new config clock).UpToDate := by
  refine upToDate_recompute ⟨?_, ?_⟩
  · intro i hi
    cases hi
  · intro check hcheck
    cases hcheck

/-- Telling of the error of a watch does not touch what is derived. -/
theorem Faithful.trackLoad {c : Console} (h : c.Faithful) (list : WatchedList)
    (error : Option String) : (c.trackLoad list error).Faithful := by
  cases error with
  | none => exact h.congr rfl rfl rfl
  | some error => exact h.congr rfl rfl rfl

/-- Nor does setting flags. -/
theorem Faithful.reflag {c : Console} (h : c.Faithful) {luns : LunList}
    (hflags : luns.selectAll false = c.candidates.luns.selectAll false) :
    Faithful { c with candidates := { c.candidates with luns } } := by
  refine ⟨fun i hi => ?_, h.cta⟩
  rw [hflags]
  exact h.luns i hi

theorem upToDate_beginToggle {c : Console} (h : c.UpToDate) (node : String) (enabled : Bool) :
    (c.beginToggle node enabled).1.UpToDate := by
  have hbegins := c.begins_beginToggle node enabled
  generalize c.beginToggle node enabled = result at hbegins
  cases hbegins with
  | unknown hrole => exact h
  | unchanged hrole hsettled hsame => exact h
  | underway hrole hpending => exact h
  | gone hrole hcached => exact upToDate_recompute (h.faithful.congr rfl rfl rfl)
  | begun hrole hsettled hdiffers hcached =>
      -- nothing is brought up to date here: the node counts as what it was
      exact h.congr rfl rfl rfl (NodeRoles.selectedNodes_withRole_pending hrole enabled)
        rfl rfl rfl rfl

/-- **Every move** leaves a console up to date. -/
theorem Move.upToDate {c c' : Console} (hmove : Move c c') (h : c.UpToDate) : c'.UpToDate := by
  cases hmove with
  | nodes s =>
      exact upToDate_recompute ((h.faithful.trackLoad .nodes s.error).congr rfl rfl rfl)
  | discovery s =>
      exact upToDate_recompute ((h.faithful.trackLoad .discovery s.error).congr rfl rfl rfl)
  | disks s =>
      exact upToDate_recompute ((h.faithful.trackLoad .disks s.error).congr rfl rfl rfl)
  | @selectLun _ wwn selected hselect =>
      obtain ⟨-, rfl⟩ := selectLun_eq_ok hselect
      exact upToDate_recompute (h.faithful.reflag (LunList.selectAll_select _ wwn selected false))
  | selectAllLuns selected =>
      exact upToDate_recompute (h.faithful.reflag (LunList.selectAll_selectAll _ selected false))
  | dismissAlert id => exact h.congr rfl rfl rfl rfl rfl rfl rfl rfl
  | beginToggle node enabled => exact upToDate_beginToggle h node enabled
  | settleToggle t failure =>
      cases failure with
      | none =>
          rw [settleToggle_applied]
          exact upToDate_recompute (h.faithful.congr rfl rfl rfl)
      | some e =>
          rw [settleToggle_failed]
          exact upToDate_recompute (h.faithful.congr rfl rfl rfl)
  | tellFailure title e => exact h.congr rfl rfl rfl rfl rfl rfl rfl rfl
  | slots inFlight => exact h.congr rfl rfl rfl rfl rfl rfl rfl rfl
  | tick now => exact h.congr rfl rfl rfl rfl rfl rfl rfl rfl

end Console

/-! ## 4. Runs -/

namespace Run

variable {config : Config} {clock : Instant} {r : Run}

theorem Reachable.upToDate (h : Reachable config clock r) : r.console.UpToDate := by
  obtain ⟨history, hleads⟩ := h
  exact hleads.console_induction (Console.upToDate_new config clock)
    fun _ _ hmove => hmove.upToDate

theorem Reachable.config_eq (h : Reachable config clock r) : r.console.config = config := by
  obtain ⟨history, hleads⟩ := h
  exact hleads.config_eq

theorem Reachable.check_eq (h : Reachable config clock r) :
    r.console.check
      = config.requirements.check r.console.roles.selectedNodes.length
          r.console.candidates.luns.length := by
  rw [Console.check, h.upToDate.requirements, Option.getD_some, Console.currentCheck, h.config_eq]

/-- In every state of every run the candidates, flags aside, are those of the latest snapshots and
the present storage nodes; the check is that of the numbers of these; the call to action is offered
exactly if it passes, and says otherwise what is missing; and the gauges show what there is. -/
theorem derived_parts_current (h : Reachable config clock r) :
    let c := r.console
    let nodes := c.roles.selectedNodes
    let check := config.requirements.check nodes.length c.candidates.luns.length
    c.candidates.luns.selectAll false
        = (Inputs.project c.discovery.data c.disks.data nodes).candidates.selectAll false ∧
      c.check = check ∧
      (c.board.cta.enabled = true ↔ check.passes = true) ∧
      c.board.cta.reason = (if check.passes then none else some check.message) ∧
      c.metrics.gauges =
        { sharedLuns := c.candidates.luns.length
          selectedLuns := (c.candidates.luns.filter Lun.isSelected).length
          storageNodes := nodes.length
          requirementsMet := check.passes } := by
  intro c nodes check
  have hup : c.UpToDate := h.upToDate
  have hcheck : c.currentCheck = check := by
    rw [Console.currentCheck, h.config_eq]
  refine ⟨?_, h.check_eq, ?_, ?_, ?_⟩
  · rw [hup.luns, Inputs.selectAll_candidates]
    rfl
  · rw [hup.cta, hcheck, RequirementCheck.cta]
    by_cases hpasses : check.passes = true
    · simp only [hpasses, if_true]
    · simp only [hpasses, Bool.false_eq_true, if_false]
  · rw [hup.cta, hcheck, RequirementCheck.cta]
    split_ifs with hpasses
    · rfl
    · rfl
  · rw [hup.gauges, Console.currentGauges, hcheck]
    rfl

/-- Two storage nodes, `a` and `b`, and `c`, which is none. The storage nodes see `X` and `Y`, and
`Y` is claimed. -/
def sampleSnapshots (label : Label) : List RunEvent :=
  let node := StorageNode.bearing label
  [.nodes (.ofData [node "a" true, node "b" true, node "c" false]),
    .discovery (.ofData [.listing "a" ["X", "Y"], .listing "b" ["Y", "X"], .listing "c" ["X"]]),
    .disks (.ofData [.claiming "Y"])]

/-- `X` is selected while `c` is to become a storage node. -/
def selectionDuringChange : Run :=
  ((start .standard .epoch).play (sampleSnapshots Config.standard.storageRoleLabel ++
    [.ask 0 (.toggleRole "c" true), .look 0, .ask 1 (.selectLun "X" true), .send 0])).2

theorem derived_parts_current_during_change :
    Reachable .standard .epoch selectionDuringChange ∧
      selectionDuringChange.console.metrics.gauges = ⟨1, 1, 2, false⟩ := by
  have hreachable : Reachable .standard .epoch selectionDuringChange := reachable_play _ _ _
  obtain ⟨-, -, -, -, hgauges⟩ := derived_parts_current hreachable
  refine ⟨hreachable, hgauges.trans ?_⟩
  decide +kernel

end Run

end LunConsole

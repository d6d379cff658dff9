import LunConsole.Console.Action
import LunConsole.Proofs.Roles
/-!
# What a console can do at once

Whatever happens to a console changes it in one of a few ways, the *moves*. Each is a section that
nothing else comes in between, so what is to hold of every console is shown of a new one and of each
move.

The first sections say of each operation what it leaves alone and, where it has several endings,
which ones there are.
-/

set_option autoImplicit false

namespace LunConsole

namespace Console

/-! ## 1. Bringing the derived parts up to date

`recompute` sets the candidates, the check, the board and the gauges. All else stays. -/

/-- Taking note of a check changes what is known of the requirements and the board. -/
theorem review_eq (c : Console) (check : RequirementCheck) :
    c.review check
      = { c with requirements := some check, board := (c.review check).board } := by
  rw [review]
  split_ifs with h hpasses
  · rw [← h]
  · rfl
  · rfl

theorem recompute_eq (c : Console) :
    c.recompute
      = { c with
          candidates := c.candidates.refresh c.inputs
          requirements := some c.refreshCandidates.currentCheck
          board := (c.refreshCandidates.review c.refreshCandidates.currentCheck).board
          metrics := { c.metrics with gauges := c.recompute.metrics.gauges } } := by
  rw [recompute]
  simp only [setGauges]
  rw [review_eq c.refreshCandidates]
  rfl

section Recompute

variable (c : Console)

@[simp] theorem recompute_config : c.recompute.config = c.config := by rw [recompute_eq]

@[simp] theorem recompute_nodes : c.recompute.nodes = c.nodes := by rw [recompute_eq]

@[simp] theorem recompute_discovery : c.recompute.discovery = c.discovery := by rw [recompute_eq]

@[simp] theorem recompute_disks : c.recompute.disks = c.disks := by rw [recompute_eq]

@[simp] theorem recompute_roles : c.recompute.roles = c.roles := by rw [recompute_eq]

@[simp] theorem recompute_inFlight : c.recompute.inFlight = c.inFlight := by rw [recompute_eq]

@[simp] theorem recompute_candidates :
    c.recompute.candidates = c.candidates.refresh c.inputs := by rw [recompute_eq]

end Recompute

theorem trackLoad_eq (c : Console) (list : WatchedList) (error : Option String) :
    c.trackLoad list error
      = { c with
          board := (c.trackLoad list error).board
          metrics := (c.trackLoad list error).metrics } := by
  cases error with
  | none => rfl
  | some error => rfl

section TrackLoad

variable (c : Console) (list : WatchedList) (error : Option String)

@[simp] theorem trackLoad_config : (c.trackLoad list error).config = c.config := by
  rw [trackLoad_eq]

@[simp] theorem trackLoad_nodes : (c.trackLoad list error).nodes = c.nodes := by
  rw [trackLoad_eq]

@[simp] theorem trackLoad_discovery : (c.trackLoad list error).discovery = c.discovery := by
  rw [trackLoad_eq]

@[simp] theorem trackLoad_disks : (c.trackLoad list error).disks = c.disks := by
  rw [trackLoad_eq]

@[simp] theorem trackLoad_candidates : (c.trackLoad list error).candidates = c.candidates := by
  rw [trackLoad_eq]

@[simp] theorem trackLoad_requirements :
    (c.trackLoad list error).requirements = c.requirements := by rw [trackLoad_eq]

@[simp] theorem trackLoad_failures : (c.trackLoad list error).failures = c.failures := by
  rw [trackLoad_eq]

@[simp] theorem trackLoad_roles : (c.trackLoad list error).roles = c.roles := by
  rw [trackLoad_eq]

@[simp] theorem trackLoad_inFlight : (c.trackLoad list error).inFlight = c.inFlight := by
  rw [trackLoad_eq]

end TrackLoad

@[simp] theorem applyNodes_roles (c : Console) (s : Snapshot StorageNode) :
    (c.applyNodes s).roles
      = c.roles.sync c.config.storageRoleLabel.key c.config.storageRoleLabel.value s.data := by
  rw [applyNodes, recompute_roles, trackLoad_config, trackLoad_roles]

@[simp] theorem applyNodes_inFlight (c : Console) (s : Snapshot StorageNode) :
    (c.applyNodes s).inFlight = c.inFlight := by
  rw [applyNodes, recompute_inFlight, trackLoad_inFlight]

/-- The lists that have come in are the same. -/
structure SameLists (c c' : Console) : Prop where
  nodes : c'.nodes = c.nodes
  discovery : c'.discovery = c.discovery
  disks : c'.disks = c.disks

theorem SameLists.refl (c : Console) : SameLists c c := ⟨rfl, rfl, rfl⟩

/-- What is derived is no list. -/
theorem SameLists.recompute {c c' : Console} (h : SameLists c c') : SameLists c c'.recompute := by
  constructor
  · rw [recompute_nodes, h.nodes]
  · rw [recompute_discovery, h.discovery]
  · rw [recompute_disks, h.disks]

/-- A list that comes in takes the place of the one before it. -/
theorem sameLists_applyNodes (c : Console) (s : Snapshot StorageNode) :
    SameLists { c with nodes := s } (c.applyNodes s) := by
  rw [applyNodes]
  exact .recompute ⟨rfl, trackLoad_discovery .., trackLoad_disks ..⟩

@[simp] theorem applyNodes_nodes (c : Console) (s : Snapshot StorageNode) :
    (c.applyNodes s).nodes = s := (c.sameLists_applyNodes s).nodes

theorem sameLists_applyDiscovery (c : Console) (s : Snapshot DiscoveryReport) :
    SameLists { c with discovery := s } (c.applyDiscovery s) := by
  rw [applyDiscovery]
  exact .recompute ⟨trackLoad_nodes .., rfl, trackLoad_disks ..⟩

theorem sameLists_applyDisks (c : Console) (s : Snapshot LocalDisk) :
    SameLists { c with disks := s } (c.applyDisks s) := by
  rw [applyDisks]
  exact .recompute ⟨trackLoad_nodes .., trackLoad_discovery .., rfl⟩

/-! ## 2. Settling a change -/

theorem forgetIfGone_eq (c : Console) (node : String) :
    c.forgetIfGone node
      = { c with
          roles := if (c.cached? node).isSome then c.roles else c.roles.forget node } := by
  rw [forgetIfGone]
  split_ifs
  · rfl
  · rfl

/-- The roles once the outcome of a change is known: the role of its node is settled, and the
version is superseded if the patch was applied. -/
def outcomeRoles (c : Console) (t : SentToggle) (failure : Option ConsoleError) : NodeRoles :=
  match failure with
  | some _ => c.roles.revert t.node
  | none =>
      match t.readAt with
      | some version => (c.roles.resolve t.node).supersede t.node version
      | none => c.roles.resolve t.node

/-- The roles after a change has settled: of these, a node that has left the snapshot is dropped. -/
def settledRoles (c : Console) (t : SentToggle) (failure : Option ConsoleError) : NodeRoles :=
  if (c.cached? t.node).isSome then c.outcomeRoles t failure
  else (c.outcomeRoles t failure).forget t.node

/-- What the outcome of a change makes of a role. -/
def outcomeRole (failure : Option ConsoleError) : NodeRole → NodeRole :=
  if failure.isSome then NodeRole.reverted else NodeRole.applied

@[simp] theorem isPending_outcomeRole (failure : Option ConsoleError) (role : NodeRole) :
    (outcomeRole failure role).isPending = false := by
  cases failure with
  | none => exact role.isPending_applied
  | some e => exact role.isPending_reverted

/-- The outcome of a change settles the role of its node and of no other one. -/
theorem role?_outcomeRoles (c : Console) (t : SentToggle) (failure : Option ConsoleError)
    (n : String) :
    (c.outcomeRoles t failure).role? n
      = if t.node = n then (c.roles.role? n).map (outcomeRole failure) else c.roles.role? n := by
  rw [← NodeRoles.role?_settle]
  cases failure with
  | some e => rfl
  | none =>
      simp only [outcomeRoles]
      cases t.readAt with
      | none => rfl
      | some version => exact NodeRoles.role?_supersede _ _ _ _

/-- A node that is gone is dropped: its role has just been settled, so `forget` does not hold
back. -/
theorem role?_settledRoles (c : Console) (t : SentToggle) (failure : Option ConsoleError)
    (n : String) :
    (c.settledRoles t failure).role? n
      = if t.node = n then
          if (c.cached? n).isSome then (c.roles.role? n).map (outcomeRole failure) else none
        else c.roles.role? n := by
  rw [settledRoles]
  by_cases hn : t.node = n
  · subst hn
    rw [if_pos rfl]
    split_ifs with hcached
    · rw [role?_outcomeRoles, if_pos rfl]
    · rw [NodeRoles.role?_forget]
      split_ifs with hforget
      · rfl
      · rw [role?_outcomeRoles, if_pos rfl]
        cases hrole : c.roles.role? t.node with
        | none => rfl
        | some role =>
            refine absurd ⟨rfl, NodeRoles.canForget_iff.mpr ⟨outcomeRole failure role, ?_, ?_⟩⟩
              hforget
            · rw [role?_outcomeRoles, if_pos rfl, hrole, Option.map_some]
            · exact isPending_outcomeRole failure role
  · rw [if_neg hn]
    split_ifs with hcached
    · rw [role?_outcomeRoles, if_neg hn]
    · rw [NodeRoles.role?_forget, if_neg fun h => hn h.1, role?_outcomeRoles, if_neg hn]

/-- A change that was applied sets the roles and is counted. -/
theorem settleToggle_applied (c : Console) (t : SentToggle) :
    (c.settleToggle t none).1
      = recompute { c with
          roles := c.settledRoles t none
          metrics := { c.metrics with counters := c.metrics.counters.addApplied } } := by
  simp only [settleToggle, settleApplied, settledRoles, outcomeRoles, forgetIfGone_eq, cached?]
  cases t.readAt with
  | none => rfl
  | some version => rfl

/-- A change that failed sets the roles, is counted, and the user is told. -/
theorem settleToggle_failed (c : Console) (t : SentToggle) (e : ConsoleError) :
    (c.settleToggle t (some e)).1
      = recompute (tellFailure { c with
          roles := c.settledRoles t (some e)
          metrics := { c.metrics with counters := c.metrics.counters.addRolledBack } }
          s!"Failed to update storage role of node {t.node}" e) := by
  simp only [settleToggle, settleFailed, settledRoles, outcomeRoles, forgetIfGone_eq, cached?]
  rfl

section Settle

variable (c : Console) (t : SentToggle) (failure : Option ConsoleError)

@[simp] theorem settleToggle_config : (c.settleToggle t failure).1.config = c.config := by
  cases failure with
  | none => rw [settleToggle_applied, recompute_config]
  | some e => rw [settleToggle_failed, recompute_config]; rfl

theorem sameLists_settleToggle : SameLists c (c.settleToggle t failure).1 := by
  cases failure with
  | none =>
      rw [settleToggle_applied]
      exact .recompute ⟨rfl, rfl, rfl⟩
  | some e =>
      rw [settleToggle_failed]
      exact .recompute ⟨rfl, rfl, rfl⟩

@[simp] theorem settleToggle_clock : (c.settleToggle t failure).1.clock = c.clock := by
  cases failure with
  | none => rw [settleToggle_applied, recompute_eq]
  | some e => rw [settleToggle_failed, recompute_eq]; rfl

@[simp] theorem settleToggle_inFlight :
    (c.settleToggle t failure).1.inFlight = c.inFlight := by
  cases failure with
  | none => rw [settleToggle_applied, recompute_inFlight]
  | some e => rw [settleToggle_failed, recompute_inFlight]; rfl

@[simp] theorem settleToggle_roles :
    (c.settleToggle t failure).1.roles = c.settledRoles t failure := by
  cases failure with
  | none => rw [settleToggle_applied, recompute_roles]
  | some e => rw [settleToggle_failed, recompute_roles]; rfl

end Settle

/-- A change that was applied is reported as it was asked for. -/
theorem settleToggle_none_outcome {c : Console} {t : SentToggle} {previous target : Bool}
    (hrole : c.roles.role? t.node = some (.pending previous target)) :
    (c.settleToggle t none).2 = .applied (.ofFlag target) := by
  have hresolved := NodeRoles.role?_resolve_of_pending hrole
  simp only [settleToggle, settleApplied, hresolved, Option.getD_some]

/-- A change that failed is reported with what the node was before it. -/
theorem settleToggle_some_outcome {c : Console} {t : SentToggle} {previous target : Bool}
    (hrole : c.roles.role? t.node = some (.pending previous target)) (e : ConsoleError) :
    (c.settleToggle t (some e)).2 = .rolledBack (.ofFlag previous) e.message := by
  have hreverted := NodeRoles.role?_revert_of_pending hrole
  simp only [settleToggle, settleFailed, hreverted, Option.getD_some]

/-! ## 3. Beginning a change -/

/-- The endings of a look at the state, with what each of them needs. -/
inductive Begins (c : Console) (node : String) (enabled : Bool) : Console × ToggleStart → Prop
  | unknown (hrole : c.roles.role? node = none) :
      Begins c node enabled (c, .refused (.nodeNotFound node))
  | unchanged {role : NodeRole} (hrole : c.roles.role? node = some role)
      (hsettled : role.isPending = false) (hsame : role.isSelected = enabled) :
      Begins c node enabled (c, .unchanged role)
  | gone {role : NodeRole} (hrole : c.roles.role? node = some role)
      (hcached : c.cached? node = none) :
      Begins c node enabled
        (recompute { c with roles := c.roles.forget node }, .refused (.nodeNotFound node))
  | underway {role : NodeRole} (hrole : c.roles.role? node = some role)
      (hpending : role.isPending = true) :
      Begins c node enabled (c, .refused (.toggleInFlight node))
  | begun {role : NodeRole} {copy : StorageNode} (hrole : c.roles.role? node = some role)
      (hsettled : role.isPending = false) (hdiffers : role.isSelected ≠ enabled)
      (hcached : c.cached? node = some copy) :
      Begins c node enabled
        ({ c with roles := c.roles.withRole node (.pending role.isSelected enabled) },
          .sent {
            node
            enabled
            ops := copy.labelPatch c.config.storageRoleLabel.key c.config.storageRoleLabel.value
              enabled
            readAt := copy.resourceVersion })

theorem begins_beginToggle (c : Console) (node : String) (enabled : Bool) :
    Begins c node enabled (c.beginToggle node enabled) := by
  rw [beginToggle]
  cases hrole : c.roles.role? node with
  | none => exact .unknown hrole
  | some role =>
      -- a pending node is never taken for one that is as it should be
      by_cases hsame : (!role.isPending && role.isSelected == enabled) = true
      · simp only [hsame, if_true]
        rw [Bool.and_eq_true, Bool.not_eq_true', beq_iff_eq] at hsame
        exact .unchanged hrole hsame.1 hsame.2
      · simp only [hsame, Bool.false_eq_true, if_false]
        cases hcached : c.cached? node with
        | none => exact .gone hrole hcached
        | some copy =>
            cases hpending : role.isPending with
            | true =>
                rw [NodeRoles.begin_of_pending hrole hpending]
                exact .underway hrole hpending
            | false =>
                rw [NodeRoles.begin_of_settled hrole hpending]
                refine .begun hrole hpending ?_ hcached
                rintro rfl
                simp [hpending] at hsame

/-- A look at the state claims and releases no slot. -/
theorem Begins.inFlight_eq {c c' : Console} {node : String} {enabled : Bool} {start : ToggleStart}
    (h : Begins c node enabled (c', start)) : c'.inFlight = c.inFlight := by
  cases h with
  | unknown hrole => rfl
  | unchanged hrole hsettled hsame => rfl
  | gone hrole hcached => rw [recompute_inFlight]
  | underway hrole hpending => rfl
  | begun hrole hsettled hdiffers hcached => rfl

/-- Nor does a list come in with it. -/
theorem Begins.sameLists {c c' : Console} {node : String} {enabled : Bool} {start : ToggleStart}
    (h : Begins c node enabled (c', start)) : SameLists c c' := by
  cases h with
  | unknown hrole => exact .refl c
  | unchanged hrole hsettled hsame => exact .refl c
  | gone hrole hcached => exact .recompute ⟨rfl, rfl, rfl⟩
  | underway hrole hpending => exact .refl c
  | begun hrole hsettled hdiffers hcached => exact ⟨rfl, rfl, rfl⟩

/-- A request whose slot is taken is refused. -/
theorem perform_toggleRole_of_taken {c : Console} {n : String}
    (htaken : c.inFlight.contains n = true) (enabled : Bool) :
    c.perform (.toggleRole n enabled) = (c, .ended (.refused (.toggleInFlight n))) := by
  rw [perform, startToggle, claimSlot, if_pos htaken]

/-- A request whose slot is free looks at the state, and releases the slot unless it has begun a
change. -/
theorem perform_toggleRole_of_free {c c' : Console} {n : String} {enabled : Bool}
    {start : ToggleStart} (hfree : c.inFlight.contains n = false)
    (hbegin : beginToggle { c with inFlight := c.inFlight.insert n } n enabled = (c', start)) :
    c.perform (.toggleRole n enabled) = match start with
      | .refused e => (c'.releaseSlot n, .ended (.refused e))
      | .unchanged role => (c'.releaseSlot n, .ended (.toggled (.unchanged role)))
      | .sent t => (c', .waits (.patchNode t)) := by
  have hfree' : ¬ c.inFlight.contains n = true := ne_true_of_eq_false hfree
  rw [perform, startToggle, claimSlot, if_neg hfree']
  simp only [hbegin]
  cases start with
  | refused e => rfl
  | unchanged role => rfl
  | sent t => rfl

theorem call_of_perform_toggleRole {c c' : Console} {n : String} {enabled : Bool} {call : Call}
    (h : c.perform (.toggleRole n enabled) = (c', .waits call)) : ∃ t, call = .patchNode t := by
  cases hslot : c.inFlight.contains n with
  | true =>
      rw [perform_toggleRole_of_taken hslot] at h
      cases h
  | false =>
      rcases hbegin : beginToggle { c with inFlight := c.inFlight.insert n } n enabled
        with ⟨c₁, start⟩
      rw [perform_toggleRole_of_free hslot hbegin] at h
      cases start with
      | refused e => cases h
      | unchanged role => cases h
      | sent t =>
          cases h
          exact ⟨t, rfl⟩

/-! ## 4. Moves -/

/-- What may happen to a console at once. -/
inductive Move : Console → Console → Prop
  | nodes (c : Console) (s : Snapshot StorageNode) : Move c (c.applyNodes s)
  | discovery (c : Console) (s : Snapshot DiscoveryReport) : Move c (c.applyDiscovery s)
  | disks (c : Console) (s : Snapshot LocalDisk) : Move c (c.applyDisks s)
  | selectLun {c c' : Console} {wwn : String} {selected : Bool}
      (h : c.selectLun wwn selected = .ok c') : Move c c'
  | selectAllLuns (c : Console) (selected : Bool) : Move c (c.selectAllLuns selected)
  | dismissAlert (c : Console) (id : String) : Move c (c.dismissAlert id)
  | beginToggle (c : Console) (node : String) (enabled : Bool) :
      Move c (c.beginToggle node enabled).1
  | settleToggle (c : Console) (t : SentToggle) (failure : Option ConsoleError) :
      Move c (c.settleToggle t failure).1
  | tellFailure (c : Console) (title : String) (e : ConsoleError) : Move c (c.tellFailure title e)
  /-- Slots are claimed or released. -/
  | slots (c : Console) (inFlight : NameSet) : Move c { c with inFlight }
  | tick (c : Console) (now : Instant) : Move c { c with clock := now }

theorem selectLun_eq_ok {c c' : Console} {wwn : String} {selected : Bool}
    (h : c.selectLun wwn selected = .ok c') :
    c.candidates.luns.offers wwn = true ∧
      c' = recompute { c with candidates := c.candidates.select wwn selected } := by
  rw [selectLun] at h
  split_ifs at h with hoffers
  cases h
  exact ⟨hoffers, rfl⟩

/-- The settings stay as they are. -/
theorem Move.config_eq {c c' : Console} (h : Move c c') : c'.config = c.config := by
  cases h with
  | nodes s => rw [applyNodes, recompute_config, trackLoad_config]
  | discovery s => rw [applyDiscovery, recompute_config, trackLoad_config]
  | disks s => rw [applyDisks, recompute_config, trackLoad_config]
  | selectLun hselect => rw [(selectLun_eq_ok hselect).2, recompute_config]
  | selectAllLuns selected => rw [Console.selectAllLuns, recompute_config]
  | dismissAlert id => rfl
  | beginToggle node enabled =>
      have hbegins := c.begins_beginToggle node enabled
      generalize c.beginToggle node enabled = result at hbegins
      cases hbegins with
      | unknown hrole => rfl
      | unchanged hrole hsettled hsame => rfl
      | underway hrole hpending => rfl
      | gone hrole hcached => rw [recompute_config]
      | begun hrole hsettled hdiffers hcached => rfl
  | settleToggle t failure => rw [settleToggle_config]
  | tellFailure title e => rfl
  | slots inFlight => rfl
  | tick now => rfl

/-- The calls that an action plans, and what was asked of the console for each. -/
inductive Plans (c : Console) : Action → Call → Prop
  | filesystem {name : String} {claim : FilesystemClaim}
      (hplan : c.planFilesystem name = .ok claim) :
      Plans c (.createFilesystem name) (.createFilesystem name claim)
  | cluster {cluster : Cluster} (hplan : c.planCluster = .ok cluster) :
      Plans c .createCluster (.createCluster cluster)

theorem Plans.ne_patchNode {c : Console} {action : Action} {call : Call} (h : Plans c action call)
    (t : SentToggle) : call ≠ .patchNode t := by
  cases h with
  | filesystem hplan => simp
  | cluster hplan => simp

/-- What may happen to a console while slots and roles stay as they are. -/
structure Idle (c c' : Console) : Prop where
  move : c' = c ∨ Move c c'
  roles : c'.roles = c.roles
  inFlight : c'.inFlight = c.inFlight

theorem Idle.refl (c : Console) : Idle c c := ⟨.inl rfl, rfl, rfl⟩

theorem idle_applyDiscovery (c : Console) (s : Snapshot DiscoveryReport) :
    Idle c (c.applyDiscovery s) := by
  refine ⟨.inr (.discovery c s), ?_, ?_⟩
  · rw [applyDiscovery, recompute_roles, trackLoad_roles]
  · rw [applyDiscovery, recompute_inFlight, trackLoad_inFlight]

theorem idle_applyDisks (c : Console) (s : Snapshot LocalDisk) : Idle c (c.applyDisks s) := by
  refine ⟨.inr (.disks c s), ?_, ?_⟩
  · rw [applyDisks, recompute_roles, trackLoad_roles]
  · rw [applyDisks, recompute_inFlight, trackLoad_inFlight]

theorem idle_tick (c : Console) (now : Instant) : Idle c { c with clock := now } :=
  ⟨.inr (.tick c now), rfl, rfl⟩

theorem toggleRole_or_other (action : Action) :
    (∃ node enabled, action = .toggleRole node enabled) ∨
      ∀ node enabled, action ≠ .toggleRole node enabled := by
  cases action with
  | toggleRole node enabled => exact .inl ⟨node, enabled, rfl⟩
  | _ => exact .inr (by simp)

/-- Everything but the change of a role is done at once or planned. -/
theorem perform_cases (c : Console) (action : Action)
    (haction : ∀ node enabled, action ≠ .toggleRole node enabled) :
    (∃ c' answer, c.perform action = (c', .ended answer) ∧ Idle c c') ∨
      ∃ call, c.perform action = (c, .waits call) ∧ Plans c action call := by
  cases action with
  | toggleRole node enabled => exact absurd rfl (haction node enabled)
  | selectLun wwn selected =>
      simp only [perform]
      cases h : c.selectLun wwn selected with
      | error e => exact .inl ⟨_, _, rfl, .refl c⟩
      | ok c' =>
          refine .inl ⟨_, _, rfl, .inr (.selectLun h), ?_, ?_⟩
          · rw [(selectLun_eq_ok h).2, recompute_roles]
          · rw [(selectLun_eq_ok h).2, recompute_inFlight]
  | selectAllLuns selected =>
      refine .inl ⟨_, _, rfl, .inr (.selectAllLuns c selected), ?_, ?_⟩
      · rw [Console.selectAllLuns, recompute_roles]
      · rw [Console.selectAllLuns, recompute_inFlight]
  | dismissAlert id => exact .inl ⟨_, _, rfl, .inr (.dismissAlert c id), rfl, rfl⟩
  | createFilesystem name =>
      simp only [perform]
      cases h : c.planFilesystem name with
      | ok claim => exact .inr ⟨_, rfl, .filesystem h⟩
      | error e => exact .inl ⟨_, _, rfl, .refl c⟩
  | createCluster =>
      simp only [perform]
      cases h : c.planCluster with
      | ok cluster => exact .inr ⟨_, rfl, .cluster h⟩
      | error e => exact .inl ⟨_, _, rfl, .refl c⟩

/-- No list comes in with what is done at once. -/
theorem sameLists_perform (c : Console) (action : Action)
    (haction : ∀ node enabled, action ≠ .toggleRole node enabled) :
    SameLists c (c.perform action).1 := by
  cases action with
  | toggleRole node enabled => exact absurd rfl (haction node enabled)
  | selectLun wwn selected =>
      simp only [perform]
      cases h : c.selectLun wwn selected with
      | error e => exact .refl c
      | ok c' =>
          obtain ⟨-, rfl⟩ := selectLun_eq_ok h
          exact .recompute ⟨rfl, rfl, rfl⟩
  | selectAllLuns selected => exact .recompute ⟨rfl, rfl, rfl⟩
  | dismissAlert id => exact ⟨rfl, rfl, rfl⟩
  | createFilesystem name =>
      simp only [perform]
      cases c.planFilesystem name with
      | ok claim => exact .refl c
      | error e => exact .refl c
  | createCluster =>
      simp only [perform]
      cases c.planCluster with
      | ok cluster => exact .refl c
      | error e => exact .refl c

theorem sameLists_finish (c : Console) (call : Call) (reply : Except ConsoleError call.Result) :
    SameLists c (c.finish call reply).1 := by
  cases call with
  | patchNode t =>
      obtain ⟨hnodes, hdiscovery, hdisks⟩ := sameLists_settleToggle c t _
      exact ⟨hnodes, hdiscovery, hdisks⟩
  | createFilesystem name claim =>
      cases reply with
      | ok claim => exact .refl c
      | error e => exact ⟨rfl, rfl, rfl⟩
  | createCluster cluster =>
      cases reply with
      | ok cluster => exact .refl c
      | error e => exact ⟨rfl, rfl, rfl⟩

/-- The end of a creation tells of a failure or does nothing. -/
theorem idle_finish_createFilesystem (c : Console) (name : String) (claim : FilesystemClaim)
    (reply : Except ConsoleError FilesystemClaim) :
    Idle c (c.finish (.createFilesystem name claim) reply).1 := by
  cases reply with
  | ok claim => exact .refl c
  | error e => exact ⟨.inr (.tellFailure c _ e), rfl, rfl⟩

theorem idle_finish_createCluster (c : Console) (cluster : Cluster)
    (reply : Except ConsoleError Cluster) :
    Idle c (c.finish (.createCluster cluster) reply).1 := by
  cases reply with
  | ok cluster => exact .refl c
  | error e => exact ⟨.inr (.tellFailure c _ e), rfl, rfl⟩

end Console

end LunConsole

import LunConsole.Proofs.Console.Announced
import LunConsole.Proofs.Console.Applied
import Mathlib.Logic.Equiv.Basic
/-!
# Outcomes that come in either order

Changes of two nodes may be under way at once, and it is for the API server to say which outcome
comes in first. The state in between depends on it: one set of storage nodes or another, other
candidates, another check. What the console comes to in the end does not.

For the roles this is plain, since an outcome settles the role of its own node only. The candidates
take an argument. They are computed anew for other inputs, and what the user has selected goes with
them, so the two orders have to compute equally often and end with the same list. An outcome changes
the inputs exactly if its node joins or leaves the storage nodes, and then their number changes. So
whether an outcome is a detour for the candidates does not depend on when it comes in, and two ways
round with the same detours lead to the same candidates (`Candidates.refresh_refresh_comm`).

The alerts alone keep something of the order: which of two failures has the lower number, when it
was told, and where in the list it stands.
-/

set_option autoImplicit false

namespace LunConsole

namespace Console

/-! ## 1. One outcome -/

/-- What the outcome of a change makes of a console, but for what it tells the user. -/
structure Settled (t : SentToggle) (failure : Option ConsoleError) (c d : Console) : Prop where
  config : d.config = c.config
  lists : SameLists c d
  roles : d.roles = c.settledRoles t failure
  candidates : d.candidates = c.candidates.refresh d.inputs
  inFlight : d.inFlight = c.inFlight
  failures : d.failures = c.failures + failure.toList.length
  counters : d.metrics.counters
    = if failure.isSome then c.metrics.counters.addRolledBack else c.metrics.counters.addApplied

theorem settled_settleToggle (c : Console) (t : SentToggle) (failure : Option ConsoleError) :
    Settled t failure c (c.settleToggle t failure).1 := by
  have hlists := c.sameLists_settleToggle t failure
  have hinputs : (c.settleToggle t failure).1.inputs
      = .project c.discovery.data c.disks.data (c.settledRoles t failure).selectedNodes := by
    rw [inputs, hlists.discovery, hlists.disks, settleToggle_roles]
  refine ⟨settleToggle_config _ _ _, hlists, settleToggle_roles _ _ _, ?_,
    settleToggle_inFlight _ _ _, ?_, ?_⟩
  · rw [hinputs]
    cases failure with
    | none => rw [settleToggle_applied, recompute_candidates]; rfl
    | some e => rw [settleToggle_failed, recompute_candidates]; rfl
  · cases failure with
    | none => rw [settleToggle_applied, recompute_eq]; rfl
    | some e => rw [settleToggle_failed, recompute_eq]; rfl
  · cases failure with
    | none => rw [settleToggle_applied, recompute_eq]; rfl
    | some e => rw [settleToggle_failed, recompute_eq]; rfl

/-- None of it is about the time. -/
theorem Settled.tick {t : SentToggle} {failure : Option ConsoleError} {c d : Console}
    (h : Settled t failure c d) (now : Instant) : Settled t failure c { d with clock := now } :=
  ⟨h.config, ⟨h.lists.nodes, h.lists.discovery, h.lists.disks⟩, h.roles, h.candidates, h.inFlight,
    h.failures, h.counters⟩

/-- How a change ends is a matter of the role of its node. -/
theorem settleToggle_outcome_congr {c d : Console} {t : SentToggle} {previous target : Bool}
    (hrole : c.roles.role? t.node = some (.pending previous target))
    (hsame : d.roles.role? t.node = c.roles.role? t.node) (failure : Option ConsoleError) :
    (d.settleToggle t failure).2 = (c.settleToggle t failure).2 := by
  have hrole' := hsame.trans hrole
  cases failure with
  | none => rw [settleToggle_none_outcome hrole, settleToggle_none_outcome hrole']
  | some e => rw [settleToggle_some_outcome hrole, settleToggle_some_outcome hrole']

/-! ## 2. Two outcomes -/

/-- Changes of two different nodes are under way. -/
structure BothUnderway (c : Console) (s t : SentToggle) : Prop where
  apart : s.node ≠ t.node
  left : ∃ previous, c.roles.role? s.node = some (.pending previous s.enabled)
  right : ∃ previous, c.roles.role? t.node = some (.pending previous t.enabled)

theorem BothUnderway.symm {c : Console} {s t : SentToggle} (h : BothUnderway c s t) :
    BothUnderway c t s := ⟨h.apart.symm, h.right, h.left⟩

variable {s t : SentToggle} {f g : Option ConsoleError} {c d d₁ d₂ x y : Console}

theorem SameLists.cached?_eq (h : SameLists c d) (n : String) : d.cached? n = c.cached? n := by
  rw [cached?, cached?, h.nodes]

/-- The outcome for one node leaves the role of any other. -/
theorem Settled.role?_of_ne (h : Settled s f c d) {n : String} (hn : n ≠ s.node) :
    d.roles.role? n = c.roles.role? n := by
  rw [h.roles, role?_settledRoles, if_neg hn.symm]

/-- **The roles and the guards** settle node by node, so the order does not matter. -/
theorem BothUnderway.roles_eq (h : BothUnderway c s t) (h₁ : Settled s f c d₁)
    (hx : Settled t g d₁ x) (h₂ : Settled t g c d₂) (hy : Settled s f d₂ y) :
    y.roles = x.roles := by
  obtain ⟨previous, hs⟩ := h.left
  obtain ⟨previous', ht⟩ := h.right
  have hs₂ := (h₂.role?_of_ne h.apart).trans hs
  have ht₁ := (h₁.role?_of_ne h.apart.symm).trans ht
  apply NodeRoles.eq_of_role?_of_guard?
  · intro n
    rw [hx.roles, hy.roles, role?_settledRoles, role?_settledRoles, h₁.roles, h₂.roles,
      role?_settledRoles, role?_settledRoles, h₁.lists.cached?_eq, h₂.lists.cached?_eq]
    by_cases hn : s.node = n
    · have hne : ¬ t.node = n := fun hsame => h.apart (hn.trans hsame.symm)
      simp only [hn, hne, if_true, if_false]
    · simp only [hn, if_false]
  · intro n
    rw [hx.roles, hy.roles, guard?_settledRoles ht₁, guard?_settledRoles hs₂, h₁.roles, h₂.roles,
      guard?_settledRoles hs, guard?_settledRoles ht, h₁.lists.cached?_eq, h₂.lists.cached?_eq]
    by_cases hn : s.node = n
    · have hne : ¬ t.node = n := fun hsame => h.apart (hn.trans hsame.symm)
      simp only [hn, hne, if_true, if_false]
    · simp only [hn, if_false]

/-- **Whether an outcome changes the inputs** is a matter of its own node. -/
theorem Settled.inputs_eq_iff (h : Settled s f c d) :
    d.inputs = c.inputs ↔ (d.roles.IsStorageNode s.node ↔ c.roles.IsStorageNode s.node) := by
  have hothers : ∀ m, m ≠ s.node → (d.roles.IsStorageNode m ↔ c.roles.IsStorageNode m) := by
    intro m hm
    rw [NodeRoles.IsStorageNode, NodeRoles.IsStorageNode, h.role?_of_ne hm]
  constructor
  · intro hsame
    have hcount : d.roles.selectedNodes.length = c.roles.selectedNodes.length :=
      congrArg Inputs.nodeCount hsame
    exact NodeRoles.isStorageNode_iff_of_length_eq hothers hcount
  · intro hnode
    have hselected : d.roles.selectedNodes = c.roles.selectedNodes := by
      apply NodeRoles.selectedNodes_congr
      intro m
      by_cases hm : m = s.node
      · rw [hm]
        exact hnode
      · exact hothers m hm
    rw [inputs, inputs, h.lists.discovery, h.lists.disks, hselected]

/-- So it does not depend on the outcome for another node. -/
theorem BothUnderway.inputs_eq_iff (h : BothUnderway c s t) (h₁ : Settled s f c d₁)
    (h₂ : Settled t g c d₂) (hy : Settled s f d₂ y) :
    d₁.inputs = c.inputs ↔ y.inputs = d₂.inputs := by
  have hbefore : d₂.roles.role? s.node = c.roles.role? s.node := h₂.role?_of_ne h.apart
  have hafter : y.roles.role? s.node = d₁.roles.role? s.node := by
    rw [hy.roles, h₁.roles, role?_settledRoles, role?_settledRoles, h₂.lists.cached?_eq, hbefore]
  rw [h₁.inputs_eq_iff, hy.inputs_eq_iff]
  simp only [NodeRoles.IsStorageNode, hbefore, hafter]

/-- **The candidates**, with their flags and how often they have been computed. -/
theorem BothUnderway.candidates_eq (h : BothUnderway c s t) (hup : c.UpToDate)
    (h₁ : Settled s f c d₁) (hx : Settled t g d₁ x) (h₂ : Settled t g c d₂)
    (hy : Settled s f d₂ y) : y.candidates = x.candidates := by
  have hinputs : y.inputs = x.inputs := by
    rw [inputs, inputs, hy.lists.discovery, h₂.lists.discovery, hx.lists.discovery,
      h₁.lists.discovery, hy.lists.disks, h₂.lists.disks, hx.lists.disks, h₁.lists.disks,
      h.roles_eq h₁ hx h₂ hy]
  have hleft : d₁.inputs = c.inputs ↔ x.inputs = d₂.inputs := by
    rw [h.inputs_eq_iff h₁ h₂ hy, hinputs]
  have hright : d₂.inputs = c.inputs ↔ x.inputs = d₁.inputs := h.symm.inputs_eq_iff h₂ h₁ hx
  rw [hx.candidates, h₁.candidates, hy.candidates, h₂.candidates, hinputs]
  exact (Candidates.refresh_refresh_comm hup.inputs hleft hright).symm

/-- Each outcome counts by one in its own counter, whatever the other one has counted. -/
theorem counters_comm (h₁ : Settled s f c d₁) (hx : Settled t g d₁ x) (h₂ : Settled t g c d₂)
    (hy : Settled s f d₂ y) : y.metrics.counters = x.metrics.counters := by
  rw [hx.counters, h₁.counters, hy.counters, h₂.counters]
  refine Counters.ext ?_ ?_ ?_
  · cases f <;> cases g <;> simp
  · cases f <;> cases g <;> simp
  · cases f <;> cases g <;> simp

/-- **What is derived** and what is not: consoles that are up to date are the same but for their
alerts if they are so before anything is derived. -/
theorem UpToDate.eq_but_alerts (hx : x.UpToDate) (hy : y.UpToDate) (hconfig : y.config = x.config)
    (hlists : SameLists x y) (hroles : y.roles = x.roles)
    (hcandidates : y.candidates = x.candidates) (hinFlight : y.inFlight = x.inFlight)
    (hfailures : y.failures = x.failures)
    (hcounters : y.metrics.counters = x.metrics.counters) (hclock : y.clock = x.clock) :
    y = { x with board := { x.board with alerts := y.board.alerts } } := by
  have hcheck : y.currentCheck = x.currentCheck := by
    rw [currentCheck, currentCheck, hconfig, hroles, hcandidates]
  have hrequirements : y.requirements = x.requirements := by
    rw [hy.requirements, hx.requirements, hcheck]
  have hboard : y.board = { x.board with alerts := y.board.alerts } := by
    have hcta : y.board.cta = x.board.cta := by rw [hy.cta, hx.cta, hcheck]
    exact congrArg (Board.mk y.board.alerts) hcta
  have hmetrics : y.metrics = x.metrics := by
    have hgauges : y.metrics.gauges = x.metrics.gauges := by
      rw [hy.gauges, hx.gauges, currentGauges, currentGauges, hcheck, hroles, hcandidates]
    exact congrArg₂ Metrics.mk hgauges hcounters
  obtain ⟨hnodes, hdiscovery, hdisks⟩ := hlists
  calc y = ⟨y.config, y.nodes, y.discovery, y.disks, y.roles, y.candidates, y.requirements,
            y.board, y.inFlight, y.failures, y.metrics, y.clock⟩ := rfl
    _ = ⟨x.config, x.nodes, x.discovery, x.disks, x.roles, x.candidates, x.requirements,
            { x.board with alerts := y.board.alerts }, x.inFlight, x.failures, x.metrics,
            x.clock⟩ := by
      rw [hconfig, hnodes, hdiscovery, hdisks, hroles, hcandidates, hrequirements, ← hboard,
        hinFlight, hfailures, hmetrics, hclock]

/-- Two outcomes lead to the same console in either order, but for what the user is told. -/
theorem BothUnderway.eq_but_alerts (h : BothUnderway c s t) (hup : c.UpToDate)
    (h₁ : Settled s f c d₁) (hx : Settled t g d₁ x) (h₂ : Settled t g c d₂)
    (hy : Settled s f d₂ y) (hxup : x.UpToDate) (hyup : y.UpToDate) (hclock : y.clock = x.clock) :
    y = { x with board := { x.board with alerts := y.board.alerts } } := by
  apply hxup.eq_but_alerts hyup
  · rw [hy.config, h₂.config, hx.config, h₁.config]
  · constructor
    · rw [hy.lists.nodes, h₂.lists.nodes, hx.lists.nodes, h₁.lists.nodes]
    · rw [hy.lists.discovery, h₂.lists.discovery, hx.lists.discovery, h₁.lists.discovery]
    · rw [hy.lists.disks, h₂.lists.disks, hx.lists.disks, h₁.lists.disks]
  · exact h.roles_eq h₁ hx h₂ hy
  · exact h.candidates_eq hup h₁ hx h₂ hy
  · rw [hy.inFlight, h₂.inFlight, hx.inFlight, h₁.inFlight]
  · rw [hy.failures, h₂.failures, hx.failures, h₁.failures]
    omega
  · exact counters_comm h₁ hx h₂ hy
  · exact hclock

/-! ## 3. Alerts -/

/-- The alerts of a board that are not about the requirements. -/
def otherAlerts (c : Console) : List Alert :=
  c.board.alerts.filter fun a => a.id != requirementsAlertId

/-- Taking note of a check is about the requirements only. -/
theorem otherAlerts_review (c : Console) (check : RequirementCheck) :
    (c.review check).otherAlerts = c.otherAlerts := by
  rw [otherAlerts, otherAlerts, review_board]
  split_ifs with hknown
  · rfl
  · rw [requirementsEvent]
    split_ifs with hpasses
    · simp only [Board.after, List.filter_filter, Bool.and_self]
    · exact Board.filter_raise (requirementsAlert check c.clock) c.board.alerts

theorem otherAlerts_recompute (c : Console) : c.recompute.otherAlerts = c.otherAlerts := by
  have hboard : c.recompute.board
      = (c.refreshCandidates.review c.refreshCandidates.currentCheck).board := by rw [recompute_eq]
  have hreviewed := c.refreshCandidates.otherAlerts_review c.refreshCandidates.currentCheck
  rw [otherAlerts] at hreviewed
  rw [otherAlerts, hboard]
  exact hreviewed

/-- What the user is told of a patch that failed. -/
def failureOf (t : SentToggle) (e : ConsoleError) : Failure :=
  ⟨s!"Failed to update storage role of node {t.node}", e⟩

/-- The alert about an outcome that is a failure, under its number. -/
def outcomeAlert (t : SentToggle) (failure : Option ConsoleError) (i : Nat) (now : Instant) :
    List Alert := (failure.map fun e => (failureOf t e).alert i now).toList

theorem otherAlerts_tellFailure (hnew : ∀ a ∈ c.board.alerts, a.id ≠ mutationAlertId c.failures)
    (title : String) (e : ConsoleError) :
    (c.tellFailure title e).otherAlerts
      = c.otherAlerts ++ [Failure.alert ⟨title, e⟩ c.failures c.clock] := by
  have hkept : (mutationAlertId c.failures != requirementsAlertId) = true := by
    simpa using mutationAlertId_ne_requirementsAlertId c.failures
  rw [tellFailure_eq_told hnew, otherAlerts, told, List.filter_append, otherAlerts,
    List.filter_singleton]
  simp only [Failure.alert, hkept, cond_true]

/-- **An outcome** adds its own alert at the end, if it is a failure. -/
theorem otherAlerts_settleToggle
    (hnew : ∀ a ∈ c.board.alerts, a.id ≠ mutationAlertId c.failures) (t : SentToggle)
    (failure : Option ConsoleError) :
    (c.settleToggle t failure).1.otherAlerts
      = c.otherAlerts ++ outcomeAlert t failure c.failures c.clock := by
  cases failure with
  | none =>
      rw [settleToggle_applied, otherAlerts_recompute]
      exact (List.append_nil _).symm
  | some e =>
      rw [settleToggle_failed, otherAlerts_recompute]
      exact otherAlerts_tellFailure (c := { c with
        roles := c.settledRoles t (some e)
        metrics := { c.metrics with counters := c.metrics.counters.addRolledBack } }) hnew _ e

/-- The alerts of a board are those about the requirements and the others. -/
theorem perm_otherAlerts (hdistinct : c.board.Distinct) :
    (c.otherAlerts ++ (c.board.alert? requirementsAlertId).toList).Perm c.board.alerts := by
  have hrest : (c.board.alerts.filter fun a => !(a.id != requirementsAlertId))
      = (c.board.alert? requirementsAlertId).toList := by
    rw [← hdistinct.filter_id_eq]
    apply List.filter_congr
    intro a _
    simp [bne, beq_eq_decide]
  rw [← hrest]
  exact List.filter_append_perm _ _

end Console

/-! ## 4. Alerts in either order -/

/-- The alert without its time. -/
def Alert.untimed (a : Alert) : Alert := { a with raisedAt := .epoch }

/-- The alert under another id. -/
def Alert.renamed (a : Alert) (rename : String → String) : Alert := { a with id := rename a.id }

namespace Console

variable {s t : SentToggle} {f g : Option ConsoleError} {x y : Console}

/-- The ids of failures number `n` and `n + 1` in each other's place, if both outcomes are
failures. -/
def exchange (n : Nat) (f g : Option ConsoleError) : Equiv.Perm String :=
  if f.isSome && g.isSome then Equiv.swap (mutationAlertId n) (mutationAlertId (n + 1))
  else Equiv.refl String

/-- All other ids stay. -/
theorem exchange_of_lt {n : Nat} {id : String} (h : ∀ i, id = mutationAlertId i → i < n)
    (f g : Option ConsoleError) : exchange n f g id = id := by
  rw [exchange]
  split_ifs with hboth
  · apply Equiv.swap_apply_of_ne_of_ne
    · intro hid
      exact absurd (h n hid) (Nat.lt_irrefl n)
    · intro hid
      have hlt := h (n + 1) hid
      omega
  · rfl

theorem exchange_requirementsAlertId (n : Nat) (f g : Option ConsoleError) :
    exchange n f g requirementsAlertId = requirementsAlertId :=
  exchange_of_lt (fun i hid => absurd hid.symm (mutationAlertId_ne_requirementsAlertId i)) f g

/-- **The alerts about two outcomes** stand in either order, under each other's number. -/
theorem perm_outcomeAlerts (n : Nat) (now later : Instant) {old : List Alert}
    (hold : ∀ a ∈ old, ∀ i, a.id = mutationAlertId i → i < n) :
    ((old ++ outcomeAlert t g n now ++ outcomeAlert s f (n + g.toList.length) later).map
        fun a => (a.renamed (exchange n f g)).untimed).Perm
      ((old ++ outcomeAlert s f n now ++ outcomeAlert t g (n + f.toList.length) later).map
        Alert.untimed) := by
  have hkept : (old.map fun a => (a.renamed (exchange n f g)).untimed)
      = old.map Alert.untimed := by
    apply List.map_congr_left
    intro a ha
    rw [Alert.renamed, exchange_of_lt (hold a ha)]
  simp only [List.append_assoc, List.map_append, hkept]
  apply List.Perm.append_left
  cases f with
  | none =>
      cases g with
      | none => exact .refl _
      | some e => exact .refl _
  | some e =>
      cases g with
      | none => exact .refl _
      | some e' =>
          have hfirst : exchange n (some e) (some e') (mutationAlertId n)
              = mutationAlertId (n + 1) := Equiv.swap_apply_left _ _
          have hsecond : exchange n (some e) (some e') (mutationAlertId (n + 1))
              = mutationAlertId n := Equiv.swap_apply_right _ _
          simp only [outcomeAlert, Option.map_some, Option.toList_some, List.length_singleton,
            List.singleton_append, List.map_cons, List.map_nil, Failure.alert, Alert.renamed,
            Alert.untimed, hfirst, hsecond]
          exact .swap _ _ _

/-- What a board says besides that is the same for the same check. -/
theorem perm_alerts {past past' : List (Run × RunEvent)} (hx : Run.Announced past x)
    (hy : Run.Announced past' y) (hrequirements : y.requirements = x.requirements)
    {rename : String → String} (hrename : rename requirementsAlertId = requirementsAlertId)
    (hothers : (y.otherAlerts.map fun a => (a.renamed rename).untimed).Perm
      (x.otherAlerts.map Alert.untimed)) :
    (y.board.alerts.map fun a => (a.renamed rename).untimed).Perm
      (x.board.alerts.map Alert.untimed) := by
  obtain ⟨_, hfoundx⟩ := hx.requirements
  obtain ⟨_, hfoundy⟩ := hy.requirements
  have hsame : ((y.board.alert? requirementsAlertId).toList.map
        fun a => (a.renamed rename).untimed)
      = (x.board.alert? requirementsAlertId).toList.map Alert.untimed := by
    rw [hfoundx, hfoundy, hrequirements]
    cases x.requirements.filter fun check => !check.passes with
    | none => rfl
    | some check =>
        simp only [Option.map_some, Option.toList_some, List.map_singleton, Alert.renamed,
          Alert.untimed, requirementsAlert, hrename]
  calc (y.board.alerts.map fun a => (a.renamed rename).untimed).Perm
        ((y.otherAlerts ++ (y.board.alert? requirementsAlertId).toList).map
          fun a => (a.renamed rename).untimed) := ((perm_otherAlerts hy.distinct).map _).symm
    _ = (y.otherAlerts.map fun a => (a.renamed rename).untimed)
          ++ (x.board.alert? requirementsAlertId).toList.map Alert.untimed := by
      rw [List.map_append, hsame]
    List.Perm _ ((x.otherAlerts ++ (x.board.alert? requirementsAlertId).toList).map
          Alert.untimed) := by
      rw [List.map_append]
      exact hothers.append_right _
    List.Perm _ (x.board.alerts.map Alert.untimed) := (perm_otherAlerts hx.distinct).map _

end Console

/-! ## 5. Runs -/

namespace Run

open Console

variable {config : Config} {clock : Instant} {r : Run} {i j : Nat} {s t : SentToggle}

/-- The run after the outcome of a change, at a later time. -/
def settleAt (r : Run) (i : Nat) (s : SentToggle) (f : Option ConsoleError) (later : Instant) :
    Run :=
  (r.settle i s f).withConsole { (r.settle i s f).console with clock := later }

/-- The run after the outcomes of two changes, each at its own time. -/
def settleBoth (r : Run) (i : Nat) (s : SentToggle) (f : Option ConsoleError) (later : Instant)
    (j : Nat) (t : SentToggle) (g : Option ConsoleError) : Run :=
  (r.settleAt i s f later).settle j t g

/-- An outcome is that of one request. -/
theorem requests_settleAt (r : Run) (i : Nat) (s : SentToggle) (f : Option ConsoleError)
    (later : Instant) (k : Nat) :
    (r.settleAt i s f later).requests[k]?
      = if i = k then some (.settled s.node (.toggled (r.console.settleToggle s f).2))
        else r.requests[k]? :=
  requests_withRequest (r.withConsole _) i _ k

theorem Leads.settleAt {history : List (RunEvent × List RunOutput)}
    (h : Leads config clock history r) (hi : r.requests[i]? = some (.waiting (.patchNode s)))
    (f : Option ConsoleError) (later : Instant) :
    Leads config clock (history ++ [(.settle i f, [])] ++ [(.tick later, [])])
      (r.settleAt i s f later) :=
  .step (.step h (next?_settle hi f)) rfl

/-- Both outcomes can come in, in this order as well as in the other one. -/
theorem play_settleBoth (hi : r.requests[i]? = some (.waiting (.patchNode s)))
    (hj : r.requests[j]? = some (.waiting (.patchNode t))) (hij : i ≠ j)
    (f g : Option ConsoleError) (later : Instant) :
    r.play [.settle i f, .tick later, .settle j g]
      = ([(.settle i f, []), (.tick later, []), (.settle j g, [])],
          r.settleBoth i s f later j t g) := by
  have htick : (r.settle i s f).next? (.tick later) = some (r.settleAt i s f later, []) := rfl
  have hwaiting : (r.settleAt i s f later).requests[j]? = some (.waiting (.patchNode t)) := by
    rw [requests_settleAt, if_neg hij, hj]
  simp only [play, next?_settle hi f, htick, next?_settle hwaiting g, settleBoth]

section Both

variable {history : List (RunEvent × List RunOutput)}

theorem Leads.settleBoth (h : Leads config clock history r)
    (hi : r.requests[i]? = some (.waiting (.patchNode s)))
    (hj : r.requests[j]? = some (.waiting (.patchNode t))) (hij : i ≠ j)
    (f g : Option ConsoleError) (later : Instant) :
    Leads config clock
      (history ++ [(.settle i f, []), (.tick later, []), (.settle j g, [])])
      (r.settleBoth i s f later j t g) := by
  have hplayed := h.play [.settle i f, .tick later, .settle j g]
  rwa [play_settleBoth hi hj hij] at hplayed

/-- **The answers** are the same in either order. -/
theorem requests_settleBoth (hboth : BothUnderway r.console s t) (hij : i ≠ j)
    (f g : Option ConsoleError) (later : Instant) :
    (r.settleBoth j t g later i s f).requests = (r.settleBoth i s f later j t g).requests := by
  obtain ⟨previous, hs⟩ := hboth.left
  obtain ⟨previous', ht⟩ := hboth.right
  have hs₂ := settleToggle_outcome_congr (d := (r.settleAt j t g later).console) hs
    ((settled_settleToggle r.console t g).role?_of_ne hboth.apart) f
  have ht₁ := settleToggle_outcome_congr (d := (r.settleAt i s f later).console) ht
    ((settled_settleToggle r.console s f).role?_of_ne hboth.apart.symm) g
  apply Std.ExtTreeMap.ext_getElem?
  intro k
  have hx : (r.settleBoth i s f later j t g).requests[k]? = _ :=
    requests_settleAt (r.settleAt i s f later) j t g later k
  have hy : (r.settleBoth j t g later i s f).requests[k]? = _ :=
    requests_settleAt (r.settleAt j t g later) i s f later k
  rw [hx, hy, requests_settleAt, requests_settleAt, hs₂, ht₁]
  by_cases hik : i = k
  · have hjk : j ≠ k := fun hsame => hij (hik.trans hsame.symm)
    rw [if_pos hik, if_neg hjk, if_pos hik]
  · rw [if_neg hik, if_neg hik]

/-- **The consoles** are the same but for their alerts. -/
theorem Leads.console_settleBoth (h : Leads config clock history r)
    (hi : r.requests[i]? = some (.waiting (.patchNode s)))
    (hj : r.requests[j]? = some (.waiting (.patchNode t))) (hij : i ≠ j)
    (hboth : BothUnderway r.console s t) (f g : Option ConsoleError) (later : Instant) :
    let x := (r.settleBoth i s f later j t g).console
    let y := (r.settleBoth j t g later i s f).console
    y = { x with board := { x.board with alerts := y.board.alerts } } := by
  intro x y
  have hclock : y.clock = x.clock := by
    have hleft := settleToggle_clock (r.settleAt j t g later).console s f
    have hright := settleToggle_clock (r.settleAt i s f later).console t g
    exact hleft.trans hright.symm
  exact hboth.eq_but_alerts (Reachable.upToDate ⟨_, h⟩)
    ((settled_settleToggle r.console s f).tick later) (settled_settleToggle _ t g)
    ((settled_settleToggle r.console t g).tick later) (settled_settleToggle _ s f)
    (Reachable.upToDate ⟨_, h.settleBoth hi hj hij f g later⟩)
    (Reachable.upToDate ⟨_, h.settleBoth hj hi hij.symm g f later⟩) hclock

theorem Leads.otherAlerts_settleBoth (h : Leads config clock history r)
    (hi : r.requests[i]? = some (.waiting (.patchNode s))) (f : Option ConsoleError)
    (later : Instant) (j : Nat) (t : SentToggle) (g : Option ConsoleError) :
    (r.settleBoth i s f later j t g).console.otherAlerts
      = r.console.otherAlerts ++ outcomeAlert s f r.console.failures r.console.clock
        ++ outcomeAlert t g (r.console.failures + f.toList.length) later := by
  have hbetween := (h.settleAt hi f later).new_id
  have hfirst : (r.settleAt i s f later).console.otherAlerts = _ :=
    otherAlerts_settleToggle h.new_id s f
  have hcount : (r.settleAt i s f later).console.failures = _ :=
    (settled_settleToggle r.console s f).failures
  have hboth : (r.settleBoth i s f later j t g).console.otherAlerts = _ :=
    otherAlerts_settleToggle hbetween t g
  rw [hboth, hfirst, hcount]
  rfl

/-- What has been told before stays, unless it is about the requirements. -/
theorem Leads.mem_alerts_settleBoth (h : Leads config clock history r)
    (hi : r.requests[i]? = some (.waiting (.patchNode s))) (f : Option ConsoleError)
    (later : Instant) (j : Nat) (t : SentToggle) (g : Option ConsoleError) {a : Alert}
    (ha : a ∈ r.console.board.alerts) (hid : a.id ≠ requirementsAlertId) :
    a ∈ (r.settleBoth i s f later j t g).console.board.alerts := by
  have hbefore : a ∈ r.console.otherAlerts := List.mem_filter.mpr ⟨ha, bne_iff_ne.mpr hid⟩
  have hafter : a ∈ (r.settleBoth i s f later j t g).console.otherAlerts := by
    rw [h.otherAlerts_settleBoth hi]
    exact List.mem_append_left _ (List.mem_append_left _ hbefore)
  exact (List.mem_filter.mp hafter).1

/-- **The alerts** are the same up to their order, their times, and the numbers of the two
outcomes. -/
theorem Leads.perm_alerts_settleBoth (h : Leads config clock history r)
    (hi : r.requests[i]? = some (.waiting (.patchNode s)))
    (hj : r.requests[j]? = some (.waiting (.patchNode t))) (hij : i ≠ j)
    (hboth : BothUnderway r.console s t) (f g : Option ConsoleError) (later : Instant) :
    let x := (r.settleBoth i s f later j t g).console
    let y := (r.settleBoth j t g later i s f).console
    (y.board.alerts.map fun a => (a.renamed (exchange r.console.failures f g)).untimed).Perm
      (x.board.alerts.map Alert.untimed) := by
  intro x y
  -- the alerts that stand already are about failures that have been counted
  have hold : ∀ a ∈ r.console.otherAlerts, ∀ k, a.id = mutationAlertId k →
      k < r.console.failures := by
    intro a ha k hid
    obtain ⟨past, hpast, -⟩ := h.chronicle
    exact hpast.announced.number_lt (List.mem_filter.mp ha).1 hid
  have hothers : (y.otherAlerts.map
        fun a => (a.renamed (exchange r.console.failures f g)).untimed).Perm
      (x.otherAlerts.map Alert.untimed) := by
    have hxothers : x.otherAlerts = _ := h.otherAlerts_settleBoth hi f later j t g
    have hyothers : y.otherAlerts = _ := h.otherAlerts_settleBoth hj g later i s f
    rw [hxothers, hyothers]
    exact perm_outcomeAlerts r.console.failures r.console.clock later hold
  have hconsole : y = { x with board := { x.board with alerts := y.board.alerts } } :=
    h.console_settleBoth hi hj hij hboth f g later
  have hrequirements : y.requirements = x.requirements := by rw [hconsole]
  obtain ⟨pastx, hpastx, -⟩ := (h.settleBoth hi hj hij f g later).chronicle
  obtain ⟨pasty, hpasty, -⟩ := (h.settleBoth hj hi hij.symm g f later).chronicle
  exact perm_alerts hpastx.announced hpasty.announced hrequirements
    (exchange_requirementsAlertId r.console.failures f g) hothers

end Both

/-- **In every state of every run** in which two nodes have a patch that waits for its outcome, in
the latest snapshot or not, the outcomes can come in either order, whatever they are. It makes no
difference to anything but the alerts: the roles and the versions that are superseded, the
candidates with their flags and how often they have been computed, the check of the requirements,
the call to action, the gauges and the counters, and the answers to the requests. And of the alerts
it changes no more than their order in the list, which of two new failures has which number, and
when the new ones and that about the requirements were raised. -/
theorem outcomes_for_different_nodes_commute (h : Reachable config clock r)
    (hi : r.requests[i]? = some (.waiting (.patchNode s)))
    (hj : r.requests[j]? = some (.waiting (.patchNode t))) (hnodes : s.node ≠ t.node)
    (f g : Option ConsoleError) (later : Instant) :
    let first : List RunEvent := [.settle i f, .tick later, .settle j g]
    let second : List RunEvent := [.settle j g, .tick later, .settle i f]
    let x := (r.play first).2
    let y := (r.play second).2
    (r.play first).1.map Prod.fst = first ∧ (r.play second).1.map Prod.fst = second ∧
    y.requests = x.requests ∧
    y.console = { x.console with
      board := { x.console.board with alerts := y.console.board.alerts } } ∧
    (∀ a ∈ r.console.board.alerts, a.id ≠ requirementsAlertId →
      a ∈ x.console.board.alerts ∧ a ∈ y.console.board.alerts) ∧
    (y.console.board.alerts.map
        fun a => (a.renamed (exchange r.console.failures f g)).untimed).Perm
      (x.console.board.alerts.map Alert.untimed) := by
  obtain ⟨history, hleads⟩ := h
  have hij : i ≠ j := by
    rintro rfl
    rw [hi] at hj
    cases hj
    exact hnodes rfl
  have hboth : BothUnderway r.console s t :=
    ⟨hnodes, hleads.tenured.pending i s (stage?_of_request r hi),
      hleads.tenured.pending j t (stage?_of_request r hj)⟩
  simp only [play_settleBoth hi hj hij f g later, play_settleBoth hj hi hij.symm g f later]
  refine ⟨rfl, rfl, ?_, ?_, ?_, ?_⟩
  · exact requests_settleBoth hboth hij f g later
  · exact hleads.console_settleBoth hi hj hij hboth f g later
  · intro a ha hid
    have hx := hleads.mem_alerts_settleBoth hi f later j t g ha hid
    have hy := hleads.mem_alerts_settleBoth hj g later i s f ha hid
    exact ⟨hx, hy⟩
  · exact hleads.perm_alerts_settleBoth hi hj hij hboth f g later

/-- Patches of `a` and `b` are out, and `a` has left the latest list. -/
def twoPatchesOut : Run :=
  let node := StorageNode.bearing Config.standard.storageRoleLabel
  let patch (id : Nat) (name : String) (enabled : Bool) : List RunEvent :=
    [.ask id (.toggleRole name enabled), .look id, .send id]
  ((start .standard .epoch).play (.nodes (.ofData [node "a" true, node "b" false]) ::
    (patch 0 "a" false ++ patch 1 "b" true ++ [.nodes (.ofData [node "b" false])]))).2

/-- Both fail. -/
theorem outcomes_for_different_nodes_commute_both_failing :
    ∃ s t, Reachable .standard .epoch twoPatchesOut ∧
      twoPatchesOut.requests[0]? = some (.waiting (.patchNode s)) ∧
      twoPatchesOut.requests[1]? = some (.waiting (.patchNode t)) ∧ s.node ≠ t.node ∧
      (twoPatchesOut.console.cached? s.node).isSome = false ∧
      let x := (twoPatchesOut.play
        [.settle 0 (some .noLunsSelected), .tick .epoch, .settle 1 (some .noLunsSelected)]).2
      let y := (twoPatchesOut.play
        [.settle 1 (some .noLunsSelected), .tick .epoch, .settle 0 (some .noLunsSelected)]).2
      y.console.roles = x.console.roles ∧
        (y.console.board.alerts.map fun a => (a.renamed
          (exchange 0 (some .noLunsSelected) (some .noLunsSelected))).untimed).Perm
            (x.console.board.alerts.map Alert.untimed) := by
  have hreachable : Reachable .standard .epoch twoPatchesOut := reachable_play _ _ _
  obtain ⟨hleft, hright, hslotleft, hslotright, hgone, hnone⟩ :
      (twoPatchesOut.next? (.settle 0 none)).isSome = true ∧
      (twoPatchesOut.next? (.settle 1 none)).isSome = true ∧
      twoPatchesOut.slot? 0 = some "a" ∧ twoPatchesOut.slot? 1 = some "b" ∧
      (twoPatchesOut.console.cached? "a").isSome = false ∧
      twoPatchesOut.console.failures = 0 := by decide +kernel
  -- what has been played is a long computation, and from here on it does not matter what it gives
  generalize twoPatchesOut = r at *
  obtain ⟨⟨_, _⟩, hnext⟩ := Option.isSome_iff_exists.mp hleft
  obtain ⟨⟨_, _⟩, hnext'⟩ := Option.isSome_iff_exists.mp hright
  obtain ⟨s, hi⟩ := waiting_of_next?_settle hnext
  obtain ⟨t, hj⟩ := waiting_of_next?_settle hnext'
  have hs : s.node = "a" := by
    rw [slot?_of_stage? r (stage?_of_request r hi)] at hslotleft
    exact Option.some.inj hslotleft
  have ht : t.node = "b" := by
    rw [slot?_of_stage? r (stage?_of_request r hj)] at hslotright
    exact Option.some.inj hslotright
  have hnodes : s.node ≠ t.node := by
    rw [hs, ht]
    decide
  obtain ⟨-, -, -, hconsole, -, halerts⟩ :=
    outcomes_for_different_nodes_commute hreachable hi hj hnodes (some .noLunsSelected)
      (some .noLunsSelected) .epoch
  refine ⟨s, t, hreachable, hi, hj, hnodes, hs ▸ hgone, ?_, ?_⟩
  · rw [hconsole]
  · rw [hnone] at halerts
    exact halerts

end Run

end LunConsole

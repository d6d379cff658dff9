import LunConsole.Proofs.Console.Applied
/-!
# Roles and the last list of nodes

The roles follow the label of the nodes, so one expects of every node in the last list that it has
the role that its copy there shows, or that this copy is older than the last change of the node.
That is so unless the list has overtaken a change: a list that comes in while a change of the node
is under way is passed over for this node, and when the change has settled nobody looks at the list
again. From then on the role is what the change has left, whether it was applied or not, until the
next list comes in (`overtaken_lists_not_followed`).

In all other cases the expectation holds, and in this one it is known what the role is
(`roles_follow_last_list_unless_overtaken`). The proof follows one node from the last list on
(`Since`). No further list touches its role, so its flag changes only with the patches that are
applied, and each of these was built from the copy in that list.
-/

set_option autoImplicit false

namespace LunConsole

namespace Run

open Console

variable {config : Config} {clock : Instant} {r r' : Run} {past : List (Run × RunEvent)}

/-! ## 1. From the last list on -/

/-- What a list makes of the flag of a node that it shows. -/
def shownFlag (r : Run) (copy : StorageNode) : Bool :=
  if r.console.roles.passesOver r.console.roles.superseded copy then
    ((r.console.roles.role? copy.name).map NodeRole.isSelected).getD false
  else
    copy.hasLabel r.console.config.storageRoleLabel.key r.console.config.storageRoleLabel.value

/-- What holds of a node since the list `s` came in, which found the run in the state `r₀`. -/
structure Since (r₀ : Run) (s : Snapshot StorageNode) (copy : StorageNode)
    (after : List (Run × RunEvent)) (r : Run) : Prop where
  nodes : r.console.nodes = s
  /-- The flag changes with the patches that are applied. -/
  role : ∃ role, r.console.roles.role? copy.name = some role ∧
    role.isSelected = ((lastApplied? after copy.name).map SentToggle.enabled).getD
      (r₀.shownFlag copy)
  /-- Unless a change was under way when the list came in, changes are built from its copy. -/
  built : (∀ previous target,
      r₀.console.roles.role? copy.name ≠ some (.pending previous target)) →
    (∀ i t, r.stage? i = some (.patching t) → t.node = copy.name →
      t.readAt = copy.resourceVersion) ∧
    ∀ t, lastApplied? after copy.name = some t → t.readAt = copy.resourceVersion

section Since

variable {r₀ : Run} {s : Snapshot StorageNode} {copy : StorageNode}
  {after : List (Run × RunEvent)} {e : RunEvent}

/-- The list itself leaves the node as shown, or passes it over. -/
theorem since_read (htenured : r₀.Tenured) (hmem : copy ∈ s.data)
    (hone : ∀ x ∈ s.data, x.name = copy.name → x = copy) :
    Since r₀ s copy [] (r₀.withConsole (r₀.console.applyNodes s)) := by
  constructor
  · exact applyNodes_nodes _ _
  · rw [withConsole, applyNodes_roles, NodeRoles.role?_sync_of_mem _ _ _ rfl hmem hone, shownFlag]
    by_cases hpasses : r₀.console.roles.passesOver r₀.console.roles.superseded copy = true
    · rw [if_pos hpasses, if_pos hpasses]
      cases hrole : r₀.console.roles.role? copy.name with
      | none =>
          -- only a node that is known is passed over
          rw [NodeRoles.passesOver, hrole] at hpasses
          cases hpasses
      | some role => exact ⟨role, rfl, rfl⟩
    · rw [if_neg hpasses, if_neg hpasses]
      exact ⟨_, rfl, NodeRole.isSelected_ofFlag _⟩
  · intro hsettled
    constructor
    · -- a patch of the node would have made it pending
      intro i t hpatching hname
      obtain ⟨previous, hpending⟩ := htenured.pending i t hpatching
      rw [hname] at hpending
      exact absurd hpending (hsettled previous t.enabled)
    · intro t happlied
      cases happlied

/-- What comes after the list keeps it so, as long as no other one comes in. -/
theorem Since.step (h : Since r₀ s copy after r) (htenured : r.Tenured) (hmem : copy ∈ s.data)
    (hone : ∀ x ∈ s.data, x.name = copy.name → x = copy) {outputs : List RunOutput}
    (hnext : r.next? e = some (r', outputs)) (hunread : ∀ s', e ≠ .nodes s') :
    Since r₀ s copy (after ++ [(r, e)]) r' := by
  have hturn := roleTurn_of_next? hnext
  have hcached : (r.console.cached? copy.name).isSome = true :=
    cached?_isSome_of_mem (h.nodes ▸ hmem)
  obtain ⟨role, hrole, hflag⟩ := h.role
  obtain ⟨role', hrole'⟩ := hturn.known hunread hcached hrole
  obtain ⟨known, hknown, hflag'⟩ := hturn.flag htenured hunread hrole'
  obtain rfl := Option.some.inj (hknown.symm.trans hrole)
  constructor
  · rw [nodes_of_next? hnext hunread, h.nodes]
  · refine ⟨role', hrole', ?_⟩
    rw [hflag', lastApplied?_append, lastApplied?_singleton]
    cases r.appliedTo? e copy.name with
    | none => exact hflag
    | some t => rfl
  · intro hsettled
    obtain ⟨hpatches, hlast⟩ := h.built hsettled
    constructor
    · intro i t hpatching hname
      -- a change that begins now is built from the copy that the console holds, which is the list's
      rcases hturn.patching hpatching with
        hi | ⟨known, found, -, -, -, hfound, hreadAt, -⟩
      · exact hpatches i t hi hname
      · have hdata : found ∈ s.data := h.nodes ▸ mem_of_cached? hfound
        rw [hreadAt, hone found hdata ((name_of_cached? hfound).trans hname)]
    · intro t happlied
      rw [lastApplied?_append, lastApplied?_singleton] at happlied
      cases hnow : r.appliedTo? e copy.name with
      | none =>
          rw [hnow, Option.none_or] at happlied
          exact hlast t happlied
      | some t' =>
          rw [hnow, Option.some_or] at happlied
          obtain rfl := Option.some.inj happlied
          obtain ⟨i, hpatching, hname⟩ := patching_of_appliedTo? hnow
          exact hpatches i t' hpatching hname

/-- The induction is on the run. What holds since a list is asked of every way to see its past as
ending with that list and no other one after it, so the list may be the last event itself. -/
theorem Chronicle.since (h : Chronicle config clock past r) {before : List (Run × RunEvent)}
    (hsplit : past = before ++ (r₀, .nodes s) :: after)
    (hlast : ∀ x ∈ after, ∀ s', x.2 ≠ .nodes s') (hmem : copy ∈ s.data)
    (hone : ∀ x ∈ s.data, x.name = copy.name → x = copy) :
    Chronicle config clock before r₀ ∧ Since r₀ s copy after r := by
  induction h generalizing after with
  | start => exact absurd hsplit (by simp)
  | @step past r r' e outputs hpast hnext ih =>
      rcases split_append_singleton hsplit with ⟨rfl, rfl, hread⟩ | ⟨after', rfl, rfl⟩
      · cases hread
        cases hnext
        exact ⟨hpast, since_read hpast.tenured hmem hone⟩
      · obtain ⟨hbefore, hsince⟩ :=
          ih rfl fun x hx => hlast x (List.mem_append_left _ hx)
        have hunread := hlast (r, e) (List.mem_append_right _ (List.mem_singleton_self _))
        exact ⟨hbefore, hsince.step hpast.tenured hmem hone hnext hunread⟩

end Since

/-! ## 2. Following the last list -/

/-- In every state of every run, whatever the last list was and whatever has happened since: a node
of which the list holds one copy, as lists of nodes do, is known, and

* the last change of the node was built from its copy in that list, or
* the node has the role that its copy there shows, or
* the list came in while a change of the node was under way, and then the role is the one that the
  last change since has left, and what the node was before if none has been applied since. -/
theorem roles_follow_last_list_unless_overtaken (h : Chronicle config clock past r)
    (hversioned : ∀ x ∈ past, versioned x.2 = true) {before after : List (Run × RunEvent)}
    {r₀ : Run} {s : Snapshot StorageNode} (hsplit : past = before ++ (r₀, .nodes s) :: after)
    (hlast : ∀ x ∈ after, ∀ s', x.2 ≠ .nodes s') {copy : StorageNode} (hmem : copy ∈ s.data)
    (hone : ∀ x ∈ s.data, x.name = copy.name → x = copy) :
    ∃ role, r.console.roles.role? copy.name = some role ∧
      ((∃ t, lastApplied? past copy.name = some t ∧ t.readAt = copy.resourceVersion) ∨
        role.isSelected
          = copy.hasLabel config.storageRoleLabel.key config.storageRoleLabel.value ∨
        ∃ previous target,
          r₀.console.roles.role? copy.name = some (.pending previous target) ∧
          role.isSelected
            = ((lastApplied? after copy.name).map SentToggle.enabled).getD previous) := by
  obtain ⟨hbefore, hsince⟩ := h.since hsplit hlast hmem hone
  have hconfig : r₀.console.config = config := hbefore.config_eq
  have hpast : lastApplied? past copy.name
      = (lastApplied? after copy.name).or (lastApplied? before copy.name) := by
    have hread : lastApplied? [(r₀, .nodes s)] copy.name = none := lastApplied?_singleton _ _ _
    rw [hsplit, List.append_cons, lastApplied?_append, lastApplied?_append, hread, Option.none_or]
  obtain ⟨role, hrole, hflag⟩ := hsince.role
  refine ⟨role, hrole, ?_⟩
  by_cases hpending : ∃ previous target,
      r₀.console.roles.role? copy.name = some (.pending previous target)
  · -- the list found the node pending, so it was passed over and left the flag as it was
    obtain ⟨previous, target, hpending⟩ := hpending
    refine .inr (.inr ⟨previous, target, hpending, ?_⟩)
    have hpasses : r₀.console.roles.passesOver r₀.console.roles.superseded copy = true := by
      rw [NodeRoles.passesOver, hpending]
      rfl
    rw [hflag, shownFlag, if_pos hpasses, hpending]
    rfl
  · push Not at hpending
    obtain ⟨-, hbuilt⟩ := hsince.built hpending
    cases hafter : lastApplied? after copy.name with
    | some t => exact .inl ⟨t, by rw [hpast, hafter, Option.some_or], hbuilt t hafter⟩
    | none =>
        rw [hafter] at hflag hpast
        by_cases hpasses : r₀.console.roles.passesOver r₀.console.roles.superseded copy = true
        · -- the node is settled, so it was its guard that kept the list out
          obtain ⟨version, hguard, hcopy⟩ :=
            NodeRoles.isOutdated_of_passesOver hpasses hpending
          have hguarded := hbefore.guarded fun x hx =>
            hversioned x (hsplit ▸ List.mem_append_left _ hx)
          obtain ⟨t, ht, hreadAt⟩ := hguarded.guard _ _ hguard
          exact .inl ⟨t, hpast.trans ht, hreadAt.trans hcopy.symm⟩
        · refine .inr (.inl ?_)
          rw [hflag, shownFlag, if_neg hpasses, hconfig]
          rfl

/-! ## 3. A list that overtakes a change -/

/-- A node is listed without the label, and its change is under way. -/
def changeBegins : List RunEvent :=
  [.nodes (.ofData [.bearing Config.standard.storageRoleLabel "a" false]),
    .ask 0 (.toggleRole "a" true), .look 0, .send 0]

/-- The state in which the patch is out. -/
def changeUnderWay : Run := ((start .standard .epoch).play changeBegins).2

/-- The copy of the node after somebody else has changed it. -/
def changedCopy (labelled : Bool) : StorageNode :=
  { StorageNode.bearing Config.standard.storageRoleLabel "a" labelled with
    resourceVersion := some "3" }

/-- The list that shows it. -/
def overtakingList (labelled : Bool) : Snapshot StorageNode := .ofData [changedCopy labelled]

/-- The state in which that list has come in and the patch is still out. -/
def overtaken (labelled : Bool) : Run :=
  changeUnderWay.withConsole (changeUnderWay.console.applyNodes (overtakingList labelled))

/-- The outcome comes in. -/
def changeEnds (failure : Option ConsoleError) : List RunEvent := [.settle 0 failure, .release 0]

/-- The whole past once the change has settled. -/
def overtakenPast (labelled : Bool) (failure : Option ConsoleError) : List (Run × RunEvent) :=
  (start .standard .epoch).pastOf changeBegins ++
    (changeUnderWay, .nodes (overtakingList labelled)) ::
      (overtaken labelled).pastOf (changeEnds failure)

/-- The state then. -/
def overtakenEnd (labelled : Bool) (failure : Option ConsoleError) : Run :=
  ((overtaken labelled).play (changeEnds failure)).2

theorem chronicle_overtaken (labelled : Bool) (failure : Option ConsoleError) :
    Chronicle .standard .epoch (overtakenPast labelled failure)
      (overtakenEnd labelled failure) := by
  have hbegun : Chronicle .standard .epoch ((start .standard .epoch).pastOf changeBegins)
      changeUnderWay := chronicle_play _ _ _
  have hread : changeUnderWay.next? (.nodes (overtakingList labelled))
      = some (overtaken labelled, []) := rfl
  rw [overtakenPast, List.append_cons]
  exact (Chronicle.step hbegun hread).play (changeEnds failure)

/-- The label has been set by somebody else, and the change fails: the node is taken for what it was
before. -/
theorem roles_follow_last_list_unless_overtaken_failing :
    (∀ x ∈ overtakenPast true (some .noLunsSelected), versioned x.2 = true) ∧
      ∃ role previous target,
        (overtakenEnd true (some .noLunsSelected)).console.roles.role? "a" = some role ∧
        changeUnderWay.console.roles.role? "a" = some (.pending previous target) ∧
        role.isSelected = previous := by
  have hversioned : ∀ x ∈ overtakenPast true (some .noLunsSelected), versioned x.2 = true := by
    decide +kernel
  have hlast : ∀ x ∈ (overtaken true).pastOf (changeEnds (some .noLunsSelected)),
      ∀ s', x.2 ≠ .nodes s' := by
    intro x hx s' hread
    simpa [hread, changeEnds] using mem_pastOf hx
  have hmem : changedCopy true ∈ (overtakingList true).data := List.mem_cons_self
  have hname : (changedCopy true).name = "a" := rfl
  have hnone : (lastApplied? (overtakenPast true (some .noLunsSelected)) "a").isNone = true := by
    decide +kernel
  have hunlabelled : (overtakenEnd true (some .noLunsSelected)).console.roles.role? "a"
      = some .unselected := by decide +kernel
  obtain ⟨role, hrole, ⟨t, happlied, -⟩ | hshown | ⟨previous, target, hpending, hflag⟩⟩ :=
    roles_follow_last_list_unless_overtaken
      (chronicle_overtaken true (some .noLunsSelected)) hversioned rfl hlast hmem
      (fun x hx _ => List.mem_singleton.mp hx)
  · rw [hname] at happlied
    rw [happlied] at hnone
    cases hnone
  · rw [hname, hunlabelled] at hrole
    obtain rfl := Option.some.inj hrole
    exact absurd hshown (by decide +kernel)
  · rw [hname] at hrole hpending hflag
    have hunapplied : (lastApplied? ((overtaken true).pastOf (changeEnds (some .noLunsSelected)))
        "a").map SentToggle.enabled = none := by decide +kernel
    rw [hunapplied] at hflag
    exact ⟨hversioned, role, previous, target, hrole, hpending, hflag⟩

/-- Of every settled node in the last list, the role is the one that its copy shows, or the last
change of the node was built from this copy. -/
def FollowsLastList (past : List (Run × RunEvent)) (r : Run) : Prop :=
  ∀ copy ∈ r.console.nodes.data, ∀ role, r.console.roles.role? copy.name = some role →
    role.isPending = false →
      (∃ t, lastApplied? past copy.name = some t ∧ t.readAt = copy.resourceVersion) ∨
        role.isSelected = copy.hasLabel r.console.config.storageRoleLabel.key
          r.console.config.storageRoleLabel.value

/-- Lists that overtake a change are not followed, whether the change fails or is applied: in the
one case the label that somebody else has set is missed, in the other one that it has been removed
since. -/
theorem overtaken_lists_not_followed :
    (Chronicle .standard .epoch (overtakenPast true (some .noLunsSelected))
        (overtakenEnd true (some .noLunsSelected)) ∧
      (∀ x ∈ overtakenPast true (some .noLunsSelected), versioned x.2 = true) ∧
      ¬ FollowsLastList (overtakenPast true (some .noLunsSelected))
        (overtakenEnd true (some .noLunsSelected))) ∧
    Chronicle .standard .epoch (overtakenPast false none) (overtakenEnd false none) ∧
      (∀ x ∈ overtakenPast false none, versioned x.2 = true) ∧
      ¬ FollowsLastList (overtakenPast false none) (overtakenEnd false none) := by
  refine ⟨⟨chronicle_overtaken _ _, by decide +kernel, ?_⟩,
    chronicle_overtaken _ _, by decide +kernel, ?_⟩
  · intro h
    rcases h (changedCopy true) (by decide +kernel) .unselected (by decide +kernel) rfl with
      ⟨t, happlied, -⟩ | hshown
    · have hnone : (lastApplied? (overtakenPast true (some .noLunsSelected))
          (changedCopy true).name).isNone = true := by decide +kernel
      rw [happlied] at hnone
      cases hnone
    · exact absurd hshown (by decide +kernel)
  · intro h
    rcases h (changedCopy false) (by decide +kernel) .selected (by decide +kernel) rfl with
      ⟨t, happlied, hreadAt⟩ | hshown
    · have hbuilt : (lastApplied? (overtakenPast false none) (changedCopy false).name).map
          SentToggle.readAt = some (some "1") := by decide +kernel
      rw [happlied, Option.map_some, hreadAt] at hbuilt
      exact absurd hbuilt (by decide)
    · exact absurd hshown (by decide +kernel)

end Run

end LunConsole

import LunConsole.Proofs.Console.Chronicle
import LunConsole.Proofs.Console.Tenure
import LunConsole.Proofs.Guards
/-!
# What a run does to one node

Of the events of a run three kinds touch the roles: a list of nodes is read, a request looks at the
state, and the outcome of a patch comes in (`RoleTurn`). Between two lists the flag of a node
changes only when a patch of it is reported as applied, and then to what that patch was to bring
about (`RoleTurn.flag`): a look makes the node pending, which leaves the flag as it was, and a
change that fails puts back what the look has found.

The guard of a node is set by nothing but such a report either. So a node that has a guard has been
changed, and the guard is the version from which the last change was built (`Chronicle.guarded`).
This needs that every copy of a node that is read carries a version, since a change that was built
without one sets no guard and leaves the one before it.
-/

set_option autoImplicit false

namespace LunConsole

namespace Console

/-- The guard after a change of a known node has settled: the version of the patch if it was
applied, and none if the node has left the snapshot. -/
theorem guard?_settledRoles {c : Console} {t : SentToggle} {role : NodeRole}
    (hrole : c.roles.role? t.node = some role) (failure : Option ConsoleError) (n : String) :
    (c.settledRoles t failure).guard? n
      = if t.node = n then
          if (c.cached? n).isSome then
            if failure.isNone then t.readAt.or (c.roles.guard? n) else c.roles.guard? n
          else none
        else c.roles.guard? n := by
  have houtcome (n : String) : (c.outcomeRoles t failure).guard? n
      = if t.node = n ∧ failure.isNone = true then t.readAt.or (c.roles.guard? n)
        else c.roles.guard? n := by
    cases failure with
    | some e =>
        rw [if_neg (by simp)]
        exact NodeRoles.guard?_settle _ _ _ _
    | none =>
        have hresolved : (c.roles.resolve t.node).role? t.node = some role.applied := by
          rw [NodeRoles.resolve, NodeRoles.role?_settle, if_pos rfl, hrole, Option.map_some]
        have hkept : (c.roles.resolve t.node).guard? n = c.roles.guard? n :=
          NodeRoles.guard?_settle _ _ _ _
        simp only [outcomeRoles, Option.isNone_none, and_true]
        cases t.readAt with
        | none => rw [Option.none_or, ite_self, hkept]
        | some version =>
            rw [NodeRoles.guard?_supersede_of_role? hresolved, Option.some_or, hkept]
  rw [settledRoles]
  by_cases hn : t.node = n
  · subst hn
    rw [if_pos rfl]
    by_cases hcached : (c.cached? t.node).isSome = true
    · rw [if_pos hcached, if_pos hcached, houtcome]
      simp only [true_and]
    · -- the role has just been settled, so nothing keeps the node
      have hforget : (c.outcomeRoles t failure).canForget t.node = true := by
        refine NodeRoles.canForget_iff.mpr ⟨outcomeRole failure role, ?_, ?_⟩
        · rw [role?_outcomeRoles, if_pos rfl, hrole, Option.map_some]
        · exact isPending_outcomeRole failure role
      rw [if_neg hcached, if_neg hcached, NodeRoles.guard?_forget, if_pos ⟨rfl, hforget⟩]
  · rw [if_neg hn]
    by_cases hcached : (c.cached? t.node).isSome = true
    · rw [if_pos hcached, houtcome, if_neg fun h => hn h.1]
    · rw [if_neg hcached, NodeRoles.guard?_forget, if_neg fun h => hn h.1, houtcome,
        if_neg fun h => hn h.1]

theorem name_of_cached? {c : Console} {node : String} {copy : StorageNode}
    (h : c.cached? node = some copy) : copy.name = node := by
  simpa using List.find?_some h

theorem mem_of_cached? {c : Console} {node : String} {copy : StorageNode}
    (h : c.cached? node = some copy) : copy ∈ c.nodes.data := List.mem_of_find?_eq_some h

theorem cached?_isSome_of_mem {c : Console} {copy : StorageNode} (h : copy ∈ c.nodes.data) :
    (c.cached? copy.name).isSome = true := by
  rw [cached?, List.find?_isSome]
  exact ⟨copy, h, by simp⟩

end Console

namespace Run

open Console

variable {config : Config} {clock : Instant} {r r' : Run} {e : RunEvent}
  {past : List (Run × RunEvent)} {n : String}

/-! ## 1. Patches that are reported as applied -/

/-- The change whose patch is reported as applied with this event. -/
def applied? (r : Run) : RunEvent → Option SentToggle
  | .settle id none =>
      match r.requests[id]? with
      | some (.waiting (.patchNode t)) => some t
      | _ => none
  | _ => none

/-- The same if it is a change of that node. -/
def appliedTo? (r : Run) (e : RunEvent) (n : String) : Option SentToggle :=
  (r.applied? e).filter fun t => t.node = n

/-- The last change of the node whose patch has been reported as applied. -/
def lastApplied? (past : List (Run × RunEvent)) (n : String) : Option SentToggle :=
  (past.filterMap fun x => x.1.appliedTo? x.2 n).getLast?

theorem lastApplied?_append (past later : List (Run × RunEvent)) (n : String) :
    lastApplied? (past ++ later) n = (lastApplied? later n).or (lastApplied? past n) := by
  rw [lastApplied?, List.filterMap_append, List.getLast?_append]
  rfl

theorem lastApplied?_singleton (r : Run) (e : RunEvent) (n : String) :
    lastApplied? [(r, e)] n = r.appliedTo? e n := by
  rw [lastApplied?]
  cases h : r.appliedTo? e n with
  | none => simp [h]
  | some t => simp [h]

/-! ## 2. What an event does to the roles -/

/-- The ways in which an event takes part in the roles, or does not. -/
inductive RoleTurn (r : Run) : RunEvent → Run → Prop
  | read (s : Snapshot StorageNode) : RoleTurn r (.nodes s) (r.withConsole (r.console.applyNodes s))
  | looked {id : Nat} {node : String} {enabled : Bool} {c : Console} {start : ToggleStart}
      (hclaimed : r.requests[id]? = some (.claimed node enabled))
      (hbegins : Begins r.console node enabled (c, start)) :
      RoleTurn r (.look id) ((r.withConsole c).withRequest id (afterLook node start))
  | settled {id : Nat} {t : SentToggle} {failure : Option ConsoleError}
      (hwaiting : r.requests[id]? = some (.waiting (.patchNode t))) :
      RoleTurn r (.settle id failure) (r.settle id t failure)
  | still {e : RunEvent} {r' : Run} (hunread : ∀ s, e ≠ .nodes s) (hunsettled : r.applied? e = none)
      (hroles : r'.console.roles = r.console.roles)
      (hstages : ∀ i t, r'.stage? i = some (.patching t) → r.stage? i = some (.patching t)) :
      RoleTurn r e r'

/-- A request that is not one to change a role has no patch under way. -/
theorem patching_withRequest {id : Nat} {q : Request} (hq : ∀ t, q.stage? ≠ some (.patching t))
    {i : Nat} {t : SentToggle} (h : (r.withRequest id q).stage? i = some (.patching t)) :
    r.stage? i = some (.patching t) := by
  rw [stage?_withRequest] at h
  split_ifs at h
  · exact absurd h (hq t)
  · exact h

theorem patching_without {id i : Nat} {t : SentToggle}
    (h : (r.without id).stage? i = some (.patching t)) : r.stage? i = some (.patching t) := by
  rw [stage?_without] at h
  split_ifs at h
  exact h

theorem roleTurn_of_next? {outputs : List RunOutput} (h : r.next? e = some (r', outputs)) :
    RoleTurn r e r' := by
  cases step_of_next? h with
  | nodes s => exact .read s
  | looked hclaimed hbegin hbegins => exact .looked hclaimed hbegins
  | settled hwaiting => exact .settled hwaiting
  | discovery s =>
      exact .still (by simp) rfl (idle_applyDiscovery _ s).roles fun _ _ hi => hi
  | disks s => exact .still (by simp) rfl (idle_applyDisks _ s).roles fun _ _ hi => hi
  | tick now => exact .still (by simp) rfl rfl fun _ _ hi => hi
  | refused hnew htaken => exact .still (by simp) rfl rfl fun _ _ hi => hi
  | claimed hnew hfree =>
      exact .still (by simp) rfl rfl fun _ _ =>
        patching_withRequest (r := r.withConsole _) (by simp [Request.stage?])
  | done hnew hidle => exact .still (by simp) rfl hidle.roles fun _ _ hi => hi
  | planned hnew hplans =>
      refine .still (by simp) rfl rfl fun _ _ => patching_withRequest ?_
      simp [Request.stage?_ready_of_ne hplans.ne_patchNode]
  | @sent id call hready =>
      refine .still (by simp) rfl rfl fun i t hi => ?_
      rwa [stage?_withRequest_eq r] at hi
      rw [stage?_of_request r hready, Request.stage?_waiting]
  | released hsettled =>
      exact .still (by simp) rfl rfl fun _ _ => patching_without (r := r.withConsole _)
  | abandoned hwaiting => exact .still (by simp) rfl rfl fun _ _ => patching_without
  | finished hreply hcall hwaiting hidle =>
      -- the reply to a creation is neither a list nor the outcome of a patch
      refine .still ?_ ?_ hidle.roles fun _ _ => patching_without (r := r.withConsole _)
      · rintro s rfl
        cases hreply
      · cases e with
        | settle id failure => cases hreply
        | _ => rfl

/-! ## 3. Patches under way -/

/-- A patch that is under way was so before, or it has just been built from the copy of its node
in the last snapshot. -/
theorem RoleTurn.patching (hturn : RoleTurn r e r') {i : Nat} {t : SentToggle}
    (h : r'.stage? i = some (.patching t)) :
    r.stage? i = some (.patching t) ∨
      ∃ role copy, e = .look i ∧ r.console.roles.role? t.node = some role ∧
        role.isPending = false ∧ r.console.cached? t.node = some copy ∧
        t.readAt = copy.resourceVersion ∧
        t.ops = copy.labelPatch r.console.config.storageRoleLabel.key
          r.console.config.storageRoleLabel.value t.enabled := by
  cases hturn with
  | read s => exact .inl h
  | still hunread hunsettled hroles hstages => exact .inl (hstages i t h)
  | settled hwaiting =>
      exact .inl (patching_withRequest (r := r.withConsole _) (by simp [Request.stage?]) h)
  | @looked id node enabled c start hclaimed hbegins =>
      cases start with
      | refused error =>
          exact .inl (patching_withRequest (r := r.withConsole _)
            (by simp [afterLook, Request.stage?]) h)
      | unchanged role =>
          exact .inl (patching_withRequest (r := r.withConsole _)
            (by simp [afterLook, Request.stage?]) h)
      | sent built =>
          cases hbegins with
          | @begun role copy hrole hsettled hdiffers hcached =>
              rw [stage?_withRequest] at h
              split_ifs at h with hi
              · cases h
                exact .inr ⟨role, copy, by rw [hi], hrole, hsettled, hcached, rfl, rfl⟩
              · exact .inl h

/-! ## 4. The flag of a node -/

/-- The outcome of a patch leaves the flag that was asked for or the one before. -/
theorem isSelected_outcomeRole (failure : Option ConsoleError) (previous target : Bool) :
    (outcomeRole failure (.pending previous target)).isSelected
      = if failure.isNone then target else previous := by
  cases failure with
  | none => exact NodeRole.isSelected_ofFlag target
  | some e => exact NodeRole.isSelected_ofFlag previous

theorem appliedTo?_settle {id : Nat} {t : SentToggle} {failure : Option ConsoleError}
    (hwaiting : r.requests[id]? = some (.waiting (.patchNode t))) (n : String) :
    r.appliedTo? (.settle id failure) n
      = if t.node = n ∧ failure.isNone = true then some t else none := by
  cases failure with
  | none =>
      simp only [appliedTo?, applied?, hwaiting, Option.filter_some, decide_eq_true_eq,
        Option.isNone_none, and_true]
  | some e => simp [appliedTo?, applied?]

theorem patching_of_appliedTo? {t : SentToggle} (h : r.appliedTo? e n = some t) :
    ∃ i, r.stage? i = some (.patching t) ∧ t.node = n := by
  obtain ⟨happlied, hnode⟩ := Option.filter_eq_some_iff.mp h
  cases e with
  | settle id failure =>
      cases failure with
      | none =>
          simp only [applied?] at happlied
          split at happlied
          · rename_i built hwaiting
            obtain rfl := Option.some.inj happlied
            exact ⟨id, stage?_of_request r hwaiting, by simpa using hnode⟩
          · cases happlied
      | some e => cases happlied
  | _ => cases happlied

/-- Between two lists no node is dropped that the last one shows. -/
theorem RoleTurn.known (hturn : RoleTurn r e r') (hunread : ∀ s, e ≠ .nodes s)
    (hcached : (r.console.cached? n).isSome = true) {role : NodeRole}
    (hrole : r.console.roles.role? n = some role) :
    ∃ role', r'.console.roles.role? n = some role' := by
  cases hturn with
  | read s => exact absurd rfl (hunread s)
  | still _ hunsettled hroles hstages => exact ⟨role, hroles ▸ hrole⟩
  | looked hclaimed hbegins =>
      cases hbegins with
      | unknown _ => exact ⟨role, hrole⟩
      | unchanged _ _ _ => exact ⟨role, hrole⟩
      | underway _ _ => exact ⟨role, hrole⟩
      | gone _ hgone =>
          -- only a node that the last list does not show is dropped here
          refine ⟨role, ?_⟩
          rw [withRequest, withConsole, recompute_roles, NodeRoles.role?_forget, if_neg]
          · exact hrole
          · rintro ⟨rfl, -⟩
            rw [hgone] at hcached
            cases hcached
      | begun _ _ _ _ =>
          rw [withRequest, withConsole]
          simp only [NodeRoles.role?_withRole]
          split_ifs
          · exact ⟨_, rfl⟩
          · exact ⟨role, hrole⟩
  | @settled id t failure hwaiting =>
      have hroles : (r.settle id t failure).console.roles = r.console.settledRoles t failure :=
        settleToggle_roles _ _ _
      rw [hroles, role?_settledRoles, if_pos hcached, hrole, Option.map_some]
      split_ifs
      · exact ⟨_, rfl⟩
      · exact ⟨role, rfl⟩

/-- **Between two lists the flag of a node follows the patches** that are reported as applied. -/
theorem RoleTurn.flag (hturn : RoleTurn r e r') (htenured : r.Tenured)
    (hunread : ∀ s, e ≠ .nodes s) {role' : NodeRole}
    (hrole' : r'.console.roles.role? n = some role') :
    ∃ role, r.console.roles.role? n = some role ∧
      role'.isSelected = ((r.appliedTo? e n).map SentToggle.enabled).getD role.isSelected := by
  cases hturn with
  | read s => exact absurd rfl (hunread s)
  | still _ hunsettled hroles hstages =>
      refine ⟨role', hroles ▸ hrole', ?_⟩
      rw [appliedTo?, hunsettled]
      rfl
  | looked hclaimed hbegins =>
      cases hbegins with
      | unknown _ => exact ⟨role', hrole', rfl⟩
      | unchanged _ _ _ => exact ⟨role', hrole', rfl⟩
      | underway _ _ => exact ⟨role', hrole', rfl⟩
      | gone _ _ =>
          rw [withRequest, withConsole, recompute_roles, NodeRoles.role?_forget] at hrole'
          split_ifs at hrole'
          exact ⟨role', hrole', rfl⟩
      | @begun role copy hrole hsettled hdiffers hcopy =>
          -- a pending node counts as what it was before
          rw [withRequest, withConsole] at hrole'
          simp only [NodeRoles.role?_withRole] at hrole'
          split_ifs at hrole' with hn
          · obtain rfl := Option.some.inj hrole'
            exact ⟨role, hn ▸ hrole, rfl⟩
          · exact ⟨role', hrole', rfl⟩
  | @settled id t failure hwaiting =>
      have hroles : (r.settle id t failure).console.roles = r.console.settledRoles t failure :=
        settleToggle_roles _ _ _
      rw [hroles, role?_settledRoles] at hrole'
      rw [appliedTo?_settle hwaiting]
      by_cases hn : t.node = n
      · -- the node is pending, and with its change goes what the look has found
        subst hn
        obtain ⟨previous, hpending⟩ := htenured.pending id t (stage?_of_request r hwaiting)
        refine ⟨_, hpending, ?_⟩
        rw [if_pos rfl, hpending, Option.map_some] at hrole'
        split_ifs at hrole'
        obtain rfl := Option.some.inj hrole'
        rw [isSelected_outcomeRole]
        by_cases hnone : failure.isNone = true
        · rw [if_pos hnone, if_pos ⟨rfl, hnone⟩]
          rfl
        · rw [if_neg hnone, if_neg fun h => hnone h.2]
          rfl
      · rw [if_neg hn] at hrole'
        rw [if_neg fun h => hn h.1]
        exact ⟨role', hrole', rfl⟩

/-! ## 5. The guard of a node -/

/-- Whether every copy of a node that comes in with the event carries a version. -/
def versioned : RunEvent → Bool
  | .nodes s => s.data.all fun copy => copy.resourceVersion.isSome
  | _ => true

/-- Between two lists the guard of a node that the last one shows follows the patches as well. -/
theorem RoleTurn.guard_eq (hturn : RoleTurn r e r') (htenured : r.Tenured)
    (hunread : ∀ s, e ≠ .nodes s) (hcached : (r.console.cached? n).isSome = true) :
    r'.console.roles.guard? n
      = ((r.appliedTo? e n).bind SentToggle.readAt).or (r.console.roles.guard? n) := by
  cases hturn with
  | read s => exact absurd rfl (hunread s)
  | still _ hunsettled hroles hstages =>
      rw [appliedTo?, hunsettled, hroles]
      rfl
  | looked hclaimed hbegins =>
      cases hbegins with
      | unknown _ => rfl
      | unchanged _ _ _ => rfl
      | underway _ _ => rfl
      | gone _ hgone =>
          rw [withRequest, withConsole, recompute_roles, NodeRoles.guard?_forget, if_neg]
          · rfl
          · rintro ⟨rfl, -⟩
            rw [hgone] at hcached
            cases hcached
      | begun _ _ _ _ => rfl
  | @settled id t failure hwaiting =>
      have hroles : (r.settle id t failure).console.roles = r.console.settledRoles t failure :=
        settleToggle_roles _ _ _
      obtain ⟨previous, hpending⟩ := htenured.pending id t (stage?_of_request r hwaiting)
      rw [hroles, guard?_settledRoles hpending, if_pos hcached, appliedTo?_settle hwaiting]
      by_cases hn : t.node = n
      · by_cases hnone : failure.isNone = true
        · rw [if_pos hn, if_pos hnone, if_pos ⟨hn, hnone⟩]
          rfl
        · rw [if_pos hn, if_neg hnone, if_neg fun h => hnone h.2]
          rfl
      · rw [if_neg hn, if_neg fun h => hn h.1]
        rfl

/-- A guard was there before, or it is the version of a patch that has just been applied. -/
theorem RoleTurn.guard (hturn : RoleTurn r e r') (htenured : r.Tenured)
    (hreadAt : ∀ i t, r.stage? i = some (.patching t) → t.readAt.isSome = true) {version : String}
    (h : r'.console.roles.guard? n = some version) :
    r.appliedTo? e n = none ∧ r.console.roles.guard? n = some version ∨
      ∃ t, r.appliedTo? e n = some t ∧ t.readAt = some version := by
  cases hturn with
  | read s =>
      refine .inl ⟨rfl, ?_⟩
      rw [withConsole, applyNodes_roles] at h
      exact NodeRoles.guard?_of_guard?_sync _ _ _ h
  | still _ hunsettled hroles hstages =>
      rw [appliedTo?, hunsettled]
      exact .inl ⟨rfl, hroles ▸ h⟩
  | looked hclaimed hbegins =>
      refine .inl ⟨rfl, ?_⟩
      cases hbegins with
      | unknown _ => exact h
      | unchanged _ _ _ => exact h
      | underway _ _ => exact h
      | gone _ _ =>
          rw [withRequest, withConsole, recompute_roles, NodeRoles.guard?_forget] at h
          split_ifs at h
          exact h
      | begun _ _ _ _ => exact h
  | @settled id t failure hwaiting =>
      have hpatching : r.stage? id = some (.patching t) := stage?_of_request r hwaiting
      have hroles : (r.settle id t failure).console.roles = r.console.settledRoles t failure :=
        settleToggle_roles _ _ _
      obtain ⟨previous, hpending⟩ := htenured.pending id t hpatching
      obtain ⟨built, hbuilt⟩ := Option.isSome_iff_exists.mp (hreadAt id t hpatching)
      rw [hroles, guard?_settledRoles hpending] at h
      rw [appliedTo?_settle hwaiting]
      by_cases hn : t.node = n
      · rw [if_pos hn] at h
        by_cases hnone : failure.isNone = true
        · rw [if_pos ⟨hn, hnone⟩]
          rw [if_pos hnone, hbuilt, Option.some_or] at h
          split_ifs at h
          exact .inr ⟨t, rfl, hbuilt.trans h⟩
        · rw [if_neg fun hboth => hnone hboth.2]
          rw [if_neg hnone] at h
          split_ifs at h
          exact .inl ⟨rfl, h⟩
      · rw [if_neg fun hboth => hn hboth.1]
        rw [if_neg hn] at h
        exact .inl ⟨rfl, h⟩

/-- Every version is there that a guard may be made of. -/
structure Guarded (past : List (Run × RunEvent)) (r : Run) : Prop where
  copies : ∀ copy ∈ r.console.nodes.data, copy.resourceVersion.isSome = true
  readAt : ∀ i t, r.stage? i = some (.patching t) → t.readAt.isSome = true
  guard : ∀ n version, r.console.roles.guard? n = some version →
    ∃ t, lastApplied? past n = some t ∧ t.readAt = some version

theorem Chronicle.tenured (h : Chronicle config clock past r) : r.Tenured := by
  obtain ⟨history, hleads, -⟩ := h.leads
  exact hleads.tenured

/-- **The guard of a node is the version from which its last change was built.** -/
theorem Chronicle.guarded (h : Chronicle config clock past r)
    (hversioned : ∀ x ∈ past, versioned x.2 = true) : Guarded past r := by
  induction h with
  | start =>
      have hnodes : (Run.start config clock).console.nodes = .empty := recompute_nodes _
      have hroles : (Run.start config clock).console.roles = .empty := recompute_roles _
      constructor
      · intro copy hcopy
        rw [hnodes] at hcopy
        exact absurd hcopy List.not_mem_nil
      · intro i t hpatching
        rw [stage?_start] at hpatching
        cases hpatching
      · intro n version hguard
        rw [hroles, NodeRoles.guard?_empty] at hguard
        cases hguard
  | @step past r r' e outputs hpast hnext ih =>
      have hbefore := ih fun x hx => hversioned x (List.mem_append_left _ hx)
      have hevent : versioned e = true :=
        hversioned (r, e) (List.mem_append_right _ (List.mem_singleton_self _))
      have hturn := roleTurn_of_next? hnext
      constructor
      · by_cases hread : ∃ s, e = .nodes s
        · obtain ⟨s, rfl⟩ := hread
          cases hnext
          rw [withConsole, applyNodes_nodes]
          exact List.all_eq_true.mp hevent
        · push Not at hread
          rw [nodes_of_next? hnext hread]
          exact hbefore.copies
      · intro i t hpatching
        rcases hturn.patching hpatching with
          hi | ⟨role, copy, -, -, -, hcached, hreadAt, -⟩
        · exact hbefore.readAt i t hi
        · rw [hreadAt]
          exact hbefore.copies copy (mem_of_cached? hcached)
      · intro n version hguard
        rw [lastApplied?_append, lastApplied?_singleton]
        rcases hturn.guard hpast.tenured hbefore.readAt hguard with
          ⟨hnone, hkept⟩ | ⟨t, happlied, hreadAt⟩
        · rw [hnone, Option.none_or]
          exact hbefore.guard n version hkept
        · rw [happlied, Option.some_or]
          exact ⟨t, rfl, hreadAt⟩

end Run

end LunConsole

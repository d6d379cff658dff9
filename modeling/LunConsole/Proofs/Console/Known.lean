import LunConsole.Proofs.Console.Applied
import LunConsole.Proofs.Console.Creation
import LunConsole.Proofs.Console.GivenUp
import LunConsole.Proofs.NodeLists
/-!
# Which nodes are known

Three stores speak of nodes: the last list, the roles, and the guards. They are kept by different
steps. A list brings nodes in and drops others, though none that is pending; settling a change drops
its node if the last list no longer shows it; and a look at the state drops a node that has a role
and no copy.

All the same they agree: a node has a role exactly if the last list shows it or a change of it is
under way, and only nodes with a role have a guard (`Console.Enrolled`). So the last of the three
ways to drop a node is never taken. A request that looks finds its node settled, since whoever had
made it pending would hold its slot or would have been given up with it, and a settled node is in
the last list. Hence there is a copy to build a patch from whenever one is built.
-/

set_option autoImplicit false

namespace LunConsole

/-! ## 1. Roles, guards and the last list -/

namespace Console

/-- The last list shows the node. -/
def Lists (c : Console) (n : String) : Prop := ∃ copy ∈ c.nodes.data, copy.name = n

theorem lists_iff_cached? {c : Console} {n : String} :
    c.Lists n ↔ (c.cached? n).isSome = true := by
  rw [cached?, List.find?_isSome]
  simp [Lists]

/-- Roles and guards follow the last list, but for the changes under way. -/
structure Enrolled (c : Console) : Prop where
  known : ∀ n, c.roles.Knows n ↔ c.Lists n ∨ c.roles.IsPending n
  guarded : ∀ n version, c.roles.guard? n = some version → c.roles.Knows n

variable {c c' : Console}

theorem Enrolled.congr (h : c.Enrolled) (hroles : c'.roles = c.roles)
    (hnodes : c'.nodes = c.nodes) : c'.Enrolled := by
  constructor
  · intro n
    rw [hroles, Lists, hnodes]
    exact h.known n
  · rw [hroles]
    exact h.guarded

theorem enrolled_new (config : Config) (clock : Instant) : (new config clock).Enrolled := by
  have hroles : (new config clock).roles = .empty := recompute_roles _
  have hnodes : (new config clock).nodes = .empty := recompute_nodes _
  constructor
  · intro n
    simp [hroles, Lists, hnodes, Snapshot.empty, NodeRoles.Knows, NodeRoles.IsPending]
  · intro n version hguard
    rw [hroles, NodeRoles.guard?_empty] at hguard
    cases hguard

/-- A list leaves known what it shows, whatever was known before. -/
theorem enrolled_applyNodes (c : Console) (s : Snapshot StorageNode) :
    (c.applyNodes s).Enrolled := by
  constructor
  · intro n
    rw [Lists, applyNodes_nodes, applyNodes_roles, NodeRoles.knows_sync,
      (NodeRoles.samePending_sync _ _ _ _).isPending_iff]
  · intro n version hguard
    rw [applyNodes_roles] at hguard ⊢
    exact NodeRoles.knows_of_guard?_sync hguard

/-- A settled node is in the last list. -/
theorem Enrolled.cached_of_settled (h : c.Enrolled) {n : String} {role : NodeRole}
    (hrole : c.roles.role? n = some role) (hsettled : role.isPending = false) :
    ∃ copy, c.cached? n = some copy := by
  rw [← Option.isSome_iff_exists, ← lists_iff_cached?]
  refine ((h.known n).mp ⟨role, hrole⟩).resolve_right ?_
  rintro ⟨role', hrole', hpending⟩
  rw [hrole] at hrole'
  cases hrole'
  rw [hsettled] at hpending
  cases hpending

/-- So there is nothing to be dropped for want of a copy. -/
theorem Enrolled.forget_eq (h : c.Enrolled) {node : String} (hgone : c.cached? node = none) :
    c.roles.forget node = c.roles := by
  rw [NodeRoles.forget, if_neg]
  intro hforget
  obtain ⟨role, hrole, hsettled⟩ := NodeRoles.canForget_iff.mp hforget
  obtain ⟨copy, hcopy⟩ := h.cached_of_settled hrole hsettled
  rw [hgone] at hcopy
  cases hcopy

/-- A change begins for a node that is known. -/
theorem Enrolled.begin (h : c.Enrolled) {node : String} {previous target : Bool}
    (hknown : c.roles.Knows node)
    (hroles : c'.roles = c.roles.withRole node (.pending previous target))
    (hnodes : c'.nodes = c.nodes) : c'.Enrolled := by
  have hknows (n : String) : c'.roles.Knows n ↔ c.roles.Knows n := by
    rw [hroles, NodeRoles.knows_withRole, or_iff_right_of_imp]
    rintro rfl
    exact hknown
  constructor
  · intro n
    have hbefore := h.known n
    rw [hknows, Lists, hnodes, hroles, NodeRoles.isPending_withRole_pending]
    constructor
    · exact fun hn => (hbefore.mp hn).imp_right .inr
    · rintro (hlisted | rfl | hpending)
      · exact hbefore.mpr (.inl hlisted)
      · exact hknown
      · exact hpending.knows
  · intro n version hguard
    rw [hroles, NodeRoles.guard?_withRole] at hguard
    rw [hknows]
    exact h.guarded n version hguard

/-- A change that ends leaves its node known if the last list shows it. -/
theorem Enrolled.settle (h : c.Enrolled) {t : SentToggle} {previous target : Bool}
    (hrole : c.roles.role? t.node = some (.pending previous target))
    (failure : Option ConsoleError) (hroles : c'.roles = c.settledRoles t failure)
    (hnodes : c'.nodes = c.nodes) : c'.Enrolled := by
  have hrole? (n : String) := role?_settledRoles c t failure n
  constructor
  · intro n
    rw [Lists, hnodes, ← Lists, hroles, NodeRoles.Knows, NodeRoles.IsPending, hrole?]
    -- of the node itself it is looked up whether the last list still shows it
    by_cases hn : t.node = n
    · subst hn
      rw [if_pos rfl]
      by_cases hcached : (c.cached? t.node).isSome = true
      · rw [if_pos hcached, hrole]
        exact iff_of_true ⟨_, rfl⟩ (.inl (lists_iff_cached?.mpr hcached))
      · rw [if_neg hcached]
        have hunlisted : ¬ c.Lists t.node := fun hl => hcached (lists_iff_cached?.mp hl)
        simp [hunlisted]
    · rw [if_neg hn]
      exact h.known n
  · intro n version hguard
    rw [hroles, guard?_settledRoles hrole] at hguard
    rw [hroles, NodeRoles.Knows, hrole?]
    by_cases hn : t.node = n
    · subst hn
      rw [if_pos rfl] at hguard ⊢
      split_ifs at hguard ⊢ with hcached
      · rw [hrole]
        exact ⟨_, rfl⟩
      · rw [hrole]
        exact ⟨_, rfl⟩
    · rw [if_neg hn] at hguard ⊢
      exact h.guarded n version hguard

end Console

namespace Run

open Console

variable {config : Config} {clock : Instant} {history : List (RunEvent × List RunOutput)}
  {r r' : Run} {e : RunEvent} {outputs : List RunOutput}

/-- **Every event** leaves roles and guards with the last list. -/
theorem enrolled_of_next? (hnext : r.next? e = some (r', outputs)) (htenured : r.Tenured)
    (h : r.console.Enrolled) : r'.console.Enrolled := by
  cases roleTurn_of_next? hnext with
  | read s => exact enrolled_applyNodes _ s
  | still hunread hunsettled hroles hstages =>
      exact h.congr hroles (nodes_of_next? hnext hunread)
  | @looked id node enabled c start hclaimed hbegins =>
      cases hbegins with
      | unknown hrole => exact h
      | unchanged hrole hsettled hsame => exact h
      | underway hrole hpending => exact h
      | gone hrole hgone =>
          -- only pending nodes lack a copy, and those are not dropped
          refine h.congr ?_ (recompute_nodes _)
          rw [withRequest, withConsole, recompute_roles]
          exact h.forget_eq hgone
      | begun hrole hsettled hdiffers hcached => exact h.begin ⟨_, hrole⟩ rfl rfl
  | @settled id t failure hwaiting =>
      obtain ⟨previous, hrole⟩ := htenured.pending id t (stage?_of_request r hwaiting)
      exact h.settle hrole failure (settleToggle_roles _ _ _) (sameLists_settleToggle _ _ _).nodes

theorem Leads.enrolled (h : Leads config clock history r) : r.console.Enrolled := by
  induction h with
  | start => exact enrolled_new config clock
  | step hleads hnext ih => exact enrolled_of_next? hnext hleads.tenured ih

/-! ## 2. The last list -/

/-- The list that comes in with the event. -/
def list? : RunEvent → Option (Snapshot StorageNode)
  | .nodes s => some s
  | _ => none

/-- The list of nodes that has come in last. -/
def lastList (history : List (RunEvent × List RunOutput)) : Snapshot StorageNode :=
  (history.filterMap fun x => list? x.1).getLast?.getD .empty

theorem lastList_append_singleton (history : List (RunEvent × List RunOutput)) (e : RunEvent)
    (outputs : List RunOutput) :
    lastList (history ++ [(e, outputs)]) = (list? e).getD (lastList history) := by
  rw [lastList, getLast?_filterMap_append_singleton]
  cases list? e with
  | none => rfl
  | some s => rfl

/-- The nodes that a console holds are those of the last list. -/
theorem Leads.nodes_eq (h : Leads config clock history r) : r.console.nodes = lastList history := by
  induction h with
  | start => exact recompute_nodes _
  | @step history r r' e outputs hleads hnext ih =>
      rw [lastList_append_singleton]
      by_cases hread : ∃ s, e = .nodes s
      · obtain ⟨s, rfl⟩ := hread
        cases hnext
        exact applyNodes_nodes _ _
      · push Not at hread
        have hnone : list? e = none := by
          cases e with
          | nodes s => exact absurd rfl (hread s)
          | _ => rfl
        rw [hnone, nodes_of_next? hnext hread, ih]
        rfl

/-! ## 3. Patches -/

/-- The patch was built from the labels and the version of the copy of its node in the list that was
the last one when the request looked. -/
def BuiltAtLook (config : Config) (clock : Instant) (history : List (RunEvent × List RunOutput))
    (id : Nat) (t : SentToggle) : Prop :=
  ∃ found copy, LookedAt config clock history id found ∧
    found.console.cached? t.node = some copy ∧ t.readAt = copy.resourceVersion ∧
    t.ops = copy.labelPatch config.storageRoleLabel.key config.storageRoleLabel.value t.enabled

theorem BuiltAtLook.later {id : Nat} {t : SentToggle} (h : BuiltAtLook config clock history id t)
    (he : e ≠ .look id) : BuiltAtLook config clock (history ++ [(e, outputs)]) id t := by
  obtain ⟨found, copy, hlooked, hbuilt⟩ := h
  exact ⟨found, copy, hlooked.later he, hbuilt⟩

/-- **A patch that is under way** was built when its request looked. -/
theorem Leads.built (h : Leads config clock history r) {id : Nat} {t : SentToggle}
    (hpatching : r.stage? id = some (.patching t)) : BuiltAtLook config clock history id t := by
  induction h with
  | start =>
      rw [stage?_start] at hpatching
      cases hpatching
  | @step history r r' e outputs hleads hnext ih =>
      rcases (roleTurn_of_next? hnext).patching hpatching with
        hbefore | ⟨role, copy, rfl, hrole, hsettled, hcached, hreadAt, hops⟩
      · -- a request with a patch under way looks no more
        refine (ih hbefore).later ?_
        rintro rfl
        cases happens_of_next? hnext with
        | look hclaimed =>
            rw [stage?_of_request r hclaimed] at hbefore
            cases hbefore
      · refine ⟨r, copy, lastAt_self hleads rfl, hcached, hreadAt, ?_⟩
        rw [hops, hleads.config_eq]

theorem patching_of_call? {id : Nat} {t : SentToggle} (h : r.call? id = some (.patchNode t)) :
    r.stage? id = some (.patching t) := by
  obtain ⟨q, hrequest, hcall⟩ := Option.bind_eq_some_iff.mp h
  rw [stage?_of_request r hrequest]
  cases q with
  | claimed node enabled => cases hcall
  | settled node answer => cases hcall
  | ready call =>
      cases hcall
      rfl
  | waiting call =>
      cases hcall
      rfl

/-- A request that looks finds its node settled, and if the node is known there is a copy of it. -/
theorem Leads.copy_of_claimed (h : Leads config clock history r) {id : Nat} {n : String}
    {enabled : Bool} (hclaimed : r.stage? id = some (.claimed n enabled)) {role : NodeRole}
    (hrole : r.console.roles.role? n = some role) :
    role.isPending = false ∧ ∃ copy, r.console.cached? n = some copy := by
  obtain ⟨past, hpast, -⟩ := h.chronicle
  have hsettled : role.isPending = false := by
    rw [Bool.eq_false_iff]
    exact fun hpending => hpast.locked.settled_of_claimed h.tenured hclaimed ⟨role, hrole, hpending⟩
  exact ⟨hsettled, h.enrolled.cached_of_settled hrole hsettled⟩

/-- In every run, whatever comes in and in which order:

* a node is known exactly if the last list shows it or a change of it is under way, and only known
  nodes have a guard;
* the nodes that a console holds are those of the last list;
* a settled node has a copy there, and a request that looks at a known node finds it settled, so it
  never has to drop the node for want of a copy;
* a patch that is sent was built from the labels and the version of the copy of its node in the list
  that was the last one when the request looked. -/
theorem known_nodes_listed_or_changing (h : Leads config clock history r) :
    (∀ n, r.console.roles.Knows n ↔
      (∃ copy ∈ (lastList history).data, copy.name = n) ∨ r.console.roles.IsPending n) ∧
    (∀ n version, r.console.roles.guard? n = some version → r.console.roles.Knows n) ∧
    r.console.nodes = lastList history ∧
    (∀ n role, r.console.roles.role? n = some role → role.isPending = false →
      ∃ copy ∈ (lastList history).data, r.console.cached? n = some copy ∧ copy.name = n) ∧
    (∀ id n enabled role, r.stage? id = some (.claimed n enabled) →
      r.console.roles.role? n = some role →
        role.isPending = false ∧ ∃ copy, r.console.cached? n = some copy) ∧
    ∀ e r' outputs t, r.next? e = some (r', outputs) → .called (.patchNode t) ∈ outputs →
      ∃ id, e = .send id ∧ ∃ before outs after found copy,
        history = before ++ (.look id, outs) :: after ∧ (∀ x ∈ after, x.1 ≠ .look id) ∧
        Leads config clock before found ∧ copy ∈ (lastList before).data ∧ copy.name = t.node ∧
        t.readAt = copy.resourceVersion ∧
        t.ops = copy.labelPatch config.storageRoleLabel.key config.storageRoleLabel.value
          t.enabled := by
  have henrolled := h.enrolled
  have hnodes := h.nodes_eq
  refine ⟨fun n => ?_, henrolled.guarded, hnodes, fun n role hrole hsettled => ?_,
    fun _ _ _ _ hclaimed hrole => h.copy_of_claimed hclaimed hrole,
    fun e r' outputs t hnext hcalled => ?_⟩
  · rw [← hnodes]
    exact henrolled.known n
  · obtain ⟨copy, hcopy⟩ := henrolled.cached_of_settled hrole hsettled
    rw [← hnodes]
    exact ⟨copy, mem_of_cached? hcopy, hcopy, name_of_cached? hcopy⟩
  · obtain ⟨id, he, hcall⟩ := (step_of_next? hnext).called hcalled
    obtain ⟨found, copy, ⟨before, outs, after, hsplit, hleads, -, hafter⟩, hcopy, hreadAt, hops⟩ :=
      h.built (patching_of_call? hcall)
    refine ⟨id, he, before, outs, after, found, copy, hsplit, hafter, hleads, ?_,
      name_of_cached? hcopy, hreadAt, hops⟩
    rw [← hleads.nodes_eq]
    exact mem_of_cached? hcopy

/-- Of the overlapping changes, `c` has left the list and is known for its change only, and the
patch of `a` is built from the list that no longer shows `c`. -/
theorem known_nodes_listed_or_changing_overlapping :
    Leads .standard .epoch overlappingChanges.1 overlappingChanges.2 ∧
      overlappingChanges.2.console.roles.IsPending "c" ∧
      ∃ r' t, overlappingChanges.2.next? (.send 1) = some (r', [.called (.patchNode t)]) ∧
        ∃ before copy, copy ∈ (lastList before).data ∧ copy.name = t.node ∧
          t.readAt = copy.resourceVersion := by
  have hleads : Leads .standard .epoch overlappingChanges.1 overlappingChanges.2 :=
    leads_play _ _ _
  obtain ⟨hknown, -, -, -, -, hsent⟩ := known_nodes_listed_or_changing hleads
  have hsends : ∃ r' t,
      overlappingChanges.2.next? (.send 1) = some (r', [.called (.patchNode t)]) := by
    have hready : (overlappingChanges.2.next? (.send 1)).isSome = true := by decide +kernel
    have hstage : (overlappingChanges.2.stage? 1).isSome = true := by decide +kernel
    obtain ⟨⟨r', outputs⟩, hnext⟩ := Option.isSome_iff_exists.mp hready
    cases happens_of_next? hnext with
    | @send _ call hrequest =>
        rw [stage?_of_request _ hrequest] at hstage
        cases call with
        | patchNode t => exact ⟨_, t, hnext⟩
        | createFilesystem name claim => cases hstage
        | createCluster cluster => cases hstage
  obtain ⟨r', t, hnext⟩ := hsends
  obtain ⟨-, -, before, -, -, -, copy, -, -, -, hcopy, hname, hreadAt, -⟩ :=
    hsent _ _ _ t hnext (List.mem_singleton_self _)
  refine ⟨hleads, ?_, r', t, hnext, before, copy, hcopy, hname, hreadAt⟩
  -- it is known and not in the last list
  refine ((hknown "c").mp ⟨.pending false true, by decide +kernel⟩).resolve_left ?_
  decide +kernel

end Run

end LunConsole

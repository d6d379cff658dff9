import LunConsole.Proofs.GrowingLists
import LunConsole.Proofs.Guards
import Mathlib.Data.List.Nodup
/-!
# What a list of nodes comes to

A list of nodes is taken in node by node, and on the way both the roles and the guards change, which
decide what becomes of the nodes that follow. Yet a node is touched only where it is listed itself.
What becomes of it is said here for one node at a time, and what is true of a list as a whole follows
because the roles are known by the role and the guard of each node
(`NodeRoles.eq_of_role?_of_guard?`).

A list that is read a second time finds the roles and the guards that the first reading has left, and
so for every copy of a node that it shows it must come to the same (`NodeRoles.sync_sync`). A copy
that was passed over left the role and the guard by which it is passed over again. If some copy of a
node was read the guard is gone and the node is settled, so this time all of them are read, and as
before the last one counts.

If no node is listed twice there is one copy to look at, and where it stands in the list is no matter
(`NodeRoles.sync_eq_of_perm`): role and guard afterwards are a function of the role and the guard
before and of the copy (`NodeRoles.afterCopy`).
-/

set_option autoImplicit false

namespace LunConsole

namespace NodeRoles

/-! ## 1. Known nodes -/

/-- The node has a role. -/
def Knows (r : NodeRoles) (n : String) : Prop := ∃ role, r.role? n = some role

theorem knows_iff_isSome {r : NodeRoles} {n : String} : r.Knows n ↔ (r.role? n).isSome = true :=
  Option.isSome_iff_exists.symm

theorem IsPending.knows {r : NodeRoles} {n : String} (h : r.IsPending n) : r.Knows n := by
  obtain ⟨role, hrole, -⟩ := h
  exact ⟨role, hrole⟩

theorem knows_withRole (r : NodeRoles) (node n : String) (role : NodeRole) :
    (r.withRole node role).Knows n ↔ node = n ∨ r.Knows n := by
  rw [knows_iff_isSome, knows_iff_isSome, role?_withRole]
  split_ifs with hn
  · exact iff_of_true rfl (.inl hn)
  · simp only [hn, false_or]

theorem knows_syncNode (before : NodeRoles) (key value : String) (acc : NodeRoles)
    (node : StorageNode) (n : String) :
    (before.syncNode key value acc node).Knows n ↔ node.name = n ∨ acc.Knows n := by
  rw [knows_iff_isSome, knows_iff_isSome, role?_syncNode]
  split_ifs with hn
  · exact iff_of_true rfl (.inl hn)
  · simp only [hn, false_or]

/-- However often a node is listed, once is enough for it to be known. -/
theorem knows_foldl_syncNode (before : NodeRoles) (key value : String) (nodes : List StorageNode)
    (acc : NodeRoles) (n : String) :
    (nodes.foldl (before.syncNode key value) acc).Knows n ↔
      (∃ copy ∈ nodes, copy.name = n) ∨ acc.Knows n := by
  induction nodes generalizing acc with
  | nil => simp
  | cons node nodes ih =>
      rw [List.foldl_cons, ih, knows_syncNode, List.exists_mem_cons_iff, or_left_comm, or_assoc]

/-- **What a list leaves known**: the nodes that it shows, and those with a change under way. -/
theorem knows_sync (r : NodeRoles) (key value : String) (nodes : List StorageNode) (n : String) :
    (r.sync key value nodes).Knows n ↔ (∃ copy ∈ nodes, copy.name = n) ∨ r.IsPending n := by
  have hlisted := r.knows_foldl_syncNode key value nodes ⟨∅, r.superseded⟩ n
  have hnone : ¬ NodeRoles.Knows ⟨∅, r.superseded⟩ n := by
    rintro ⟨role, hrole⟩
    simp [role?] at hrole
  simp only [hnone, or_false] at hlisted
  have hkept : ((r.role? n).filter fun role => role.isPending).isSome = true ↔ r.IsPending n := by
    rw [Option.isSome_iff_exists]
    simp only [Option.filter_eq_some_iff]
    rfl
  rw [knows_iff_isSome, role?_sync, Option.isSome_or, Bool.or_eq_true, ← knows_iff_isSome, hlisted,
    hkept]

theorem knows_of_guard?_sync {r : NodeRoles} {key value : String} {nodes : List StorageNode}
    {n version : String} (h : (r.sync key value nodes).guard? n = some version) :
    (r.sync key value nodes).Knows n := by
  rw [guard?_sync] at h
  split_ifs at h with hknown
  exact knows_iff_isSome.mpr hknown

/-! ## 2. Lists that are read twice -/

/-- The last copy of a node in a list. -/
def lastCopy? (nodes : List StorageNode) (n : String) : Option StorageNode :=
  (nodes.filter fun x => x.name = n).getLast?

theorem lastCopy?_append_singleton (nodes : List StorageNode) (x : StorageNode) (n : String) :
    lastCopy? (nodes ++ [x]) n = if x.name = n then some x else lastCopy? nodes n := by
  rw [lastCopy?, List.filter_append]
  split_ifs with hx
  · simp [hx]
  · simp [hx, lastCopy?]

theorem lastCopy?_isSome_iff {nodes : List StorageNode} {n : String} :
    (lastCopy? nodes n).isSome = true ↔ ∃ x ∈ nodes, x.name = n := by
  rw [lastCopy?, List.getLast?_isSome, ne_eq, List.filter_eq_nil_iff]
  simp

/-- Whether a copy is passed over depends on the role and the guard of its node only. -/
theorem passesOver_congr {r s : NodeRoles} {superseded superseded' : TextMap} {copy : StorageNode}
    (hrole : s.role? copy.name = r.role? copy.name)
    (hguard : superseded'[copy.name]? = superseded[copy.name]?) :
    s.passesOver superseded' copy = r.passesOver superseded copy := by
  rw [passesOver, passesOver, hrole, isOutdated_congr hguard]

/-- If one copy of a node is read, no change of the node is under way. -/
theorem settled_of_read {r : NodeRoles} {superseded : TextMap} {copy : StorageNode}
    (hread : r.passesOver superseded copy = false) {role : NodeRole}
    (hrole : r.role? copy.name = some role) : role.isPending = false := by
  rw [passesOver, hrole] at hread
  exact (Bool.or_eq_false_iff.mp hread).1

/-- Of a settled node without a guard every copy is read. -/
theorem passesOver_eq_false {r : NodeRoles} {superseded : TextMap} {copy : StorageNode}
    (hsettled : ∀ role, r.role? copy.name = some role → role.isPending = false)
    (hguard : superseded[copy.name]? = none) : r.passesOver superseded copy = false := by
  rw [passesOver]
  cases hrole : r.role? copy.name with
  | none => rfl
  | some role =>
      have hcurrent : isOutdated superseded copy = false := by
        rw [isOutdated, hguard]
      simp only [hsettled role hrole, hcurrent, Bool.or_false]

section TakingIn

variable (before : NodeRoles) (key value : String) (acc : NodeRoles) {nodes : List StorageNode}
  {n : String}

/-- A node whose copies are all passed over stays as it is. -/
theorem foldl_syncNode_of_passed
    (hpassed : ∀ x ∈ nodes, x.name = n → before.passesOver acc.superseded x = true) :
    (nodes.foldl (before.syncNode key value) acc).guard? n = acc.guard? n ∧
      (nodes.foldl (before.syncNode key value) acc).role? n
        = if (lastCopy? nodes n).isSome then before.role? n else acc.role? n := by
  induction nodes using List.reverseRecOn with
  | nil => exact ⟨rfl, rfl⟩
  | append_singleton nodes x ih =>
      obtain ⟨hnodes, hx⟩ := forall_mem_append_singleton.mp hpassed
      obtain ⟨hguard, hrole⟩ := ih hnodes
      rw [List.foldl_append, List.foldl_cons, List.foldl_nil, guard?_syncNode, role?_syncNode,
        lastCopy?_append_singleton]
      by_cases hname : x.name = n
      · have hpasses : before.passesOver
            (nodes.foldl (before.syncNode key value) acc).superseded x = true := by
          rw [← hx hname]
          exact passesOver_congr rfl (by rw [hname]; exact hguard)
        rw [if_neg (by simp [hpasses]), if_pos hname, if_pos hname, readRole_eq, if_pos hpasses,
          hname]
        exact ⟨hguard, rfl⟩
      · rw [if_neg fun h => hname h.1, if_neg hname, if_neg hname]
        exact ⟨hguard, hrole⟩

/-- If one copy of a node is read, so are all after it, and of these the last one counts. -/
theorem foldl_syncNode_of_read
    (hread : ∃ x ∈ nodes, x.name = n ∧ before.passesOver acc.superseded x = false) :
    (nodes.foldl (before.syncNode key value) acc).guard? n = none ∧
      (nodes.foldl (before.syncNode key value) acc).role? n
        = (lastCopy? nodes n).map fun copy => .ofFlag (copy.hasLabel key value) := by
  induction nodes using List.reverseRecOn with
  | nil =>
      obtain ⟨x, hx, -⟩ := hread
      exact absurd hx List.not_mem_nil
  | append_singleton nodes x ih =>
      rw [List.foldl_append, List.foldl_cons, List.foldl_nil, guard?_syncNode, role?_syncNode,
        lastCopy?_append_singleton]
      by_cases hearlier : ∃ y ∈ nodes, y.name = n ∧ before.passesOver acc.superseded y = false
      · obtain ⟨hguard, hrole⟩ := ih hearlier
        by_cases hname : x.name = n
        · obtain ⟨y, -, hy, hyread⟩ := hearlier
          have hpasses : before.passesOver
              (nodes.foldl (before.syncNode key value) acc).superseded x = false := by
            refine passesOver_eq_false (fun role hrole => ?_) (by rw [hname]; exact hguard)
            rw [hname, ← hy] at hrole
            exact settled_of_read hyread hrole
          rw [if_pos ⟨hname, hpasses⟩, if_pos hname, if_pos hname, readRole_eq]
          simp [hpasses]
        · rw [if_neg fun h => hname h.1, if_neg hname, if_neg hname]
          exact ⟨hguard, hrole⟩
      · -- all copies before this one are passed over, so it is this one that is read
        have hpassed : ∀ y ∈ nodes, y.name = n → before.passesOver acc.superseded y = true := by
          intro y hy hyn
          by_contra hyread
          exact hearlier ⟨y, hy, hyn, eq_false_of_ne_true hyread⟩
        obtain ⟨hname, hxread⟩ :=
          (exists_mem_append_singleton.mp hread).resolve_left hearlier
        obtain ⟨hguard, -⟩ := foldl_syncNode_of_passed before key value acc hpassed
        have hpasses : before.passesOver
            (nodes.foldl (before.syncNode key value) acc).superseded x = false := by
          rw [← hxread]
          exact passesOver_congr rfl (by rw [hname]; exact hguard)
        rw [if_pos ⟨hname, hpasses⟩, if_pos hname, if_pos hname, readRole_eq]
        simp [hpasses]

end TakingIn

section Sync

variable (r : NodeRoles) (key value : String) (nodes : List StorageNode) {n : String}

/-- The list leaves the role and the guard of the node as they are. -/
def Untouched (n : String) : Prop :=
  (r.sync key value nodes).role? n = r.role? n ∧ (r.sync key value nodes).guard? n = r.guard? n

variable {nodes}

/-- A list leaves a node as it is if it passes over all copies of it and shows one. -/
theorem untouched_of_passed (hlisted : ∃ x ∈ nodes, x.name = n) (hknown : r.Knows n)
    (hpassed : ∀ x ∈ nodes, x.name = n → r.passesOver r.superseded x = true) :
    r.Untouched key value nodes n := by
  obtain ⟨role, hrole⟩ := hknown
  obtain ⟨hguard, hfold⟩ :=
    r.foldl_syncNode_of_passed key value ⟨∅, r.superseded⟩ hpassed
  rw [if_pos (lastCopy?_isSome_iff.mpr hlisted), hrole] at hfold
  rw [Untouched, guard?_sync, role?_sync, hfold, Option.some_or, Option.isSome_some, if_pos rfl,
    hguard, hrole]
  exact ⟨rfl, rfl⟩

/-- And it takes the node for what its last copy shows if it reads one. -/
theorem sync_of_read
    (hread : ∃ x ∈ nodes, x.name = n ∧ r.passesOver r.superseded x = false) :
    (r.sync key value nodes).role? n
        = (lastCopy? nodes n).map (fun copy => .ofFlag (copy.hasLabel key value)) ∧
      (r.sync key value nodes).guard? n = none := by
  obtain ⟨hguard, hfold⟩ := r.foldl_syncNode_of_read key value ⟨∅, r.superseded⟩ hread
  obtain ⟨x, hx, hname, -⟩ := hread
  obtain ⟨copy, hcopy⟩ :=
    Option.isSome_iff_exists.mp (lastCopy?_isSome_iff.mpr ⟨x, hx, hname⟩)
  rw [hcopy, Option.map_some] at hfold ⊢
  rw [guard?_sync, role?_sync, hfold, Option.some_or, Option.isSome_some, if_pos rfl, hguard]
  exact ⟨rfl, rfl⟩

/-- **A change that is under way** is left as it is with its guard, whatever the list shows of its
node, if anything. -/
theorem untouched_of_pending {role : NodeRole} (hrole : r.role? n = some role)
    (hpending : role.isPending = true) : r.Untouched key value nodes n := by
  by_cases hlisted : ∃ x ∈ nodes, x.name = n
  · refine r.untouched_of_passed key value hlisted ⟨role, hrole⟩ fun x _ hname => ?_
    rw [passesOver, hname, hrole]
    simp only [hpending, Bool.true_or]
  · have habsent : ∀ x ∈ nodes, x.name ≠ n := fun x hx hname => hlisted ⟨x, hx, hname⟩
    have hkept : (r.sync key value nodes).role? n = r.role? n := by
      rw [hrole, role?_sync_of_pending hrole hpending]
    refine ⟨hkept, ?_⟩
    rw [guard?_sync_of_not_mem _ _ _ habsent, hkept, hrole, Option.isSome_some, if_pos rfl]

/-! What a list comes to when it is read again: three cases, by what the first reading made of the
node. -/

/-- After a reading the node is settled and has no guard, so all its copies are read, and the last
one counts again. -/
theorem untouched_sync_of_read
    (hread : ∃ x ∈ nodes, x.name = n ∧ r.passesOver r.superseded x = false) :
    (r.sync key value nodes).Untouched key value nodes n := by
  obtain ⟨hrole, hguard⟩ := r.sync_of_read key value hread
  obtain ⟨x, hx, hname, -⟩ := hread
  have hagain : (r.sync key value nodes).passesOver (r.sync key value nodes).superseded x
      = false := by
    refine passesOver_eq_false (fun role hknown => ?_) (by rw [hname]; exact hguard)
    rw [hname, hrole] at hknown
    obtain ⟨copy, -, rfl⟩ := Option.map_eq_some_iff.mp hknown
    exact NodeRole.isPending_ofFlag _
  obtain ⟨hrole', hguard'⟩ :=
    (r.sync key value nodes).sync_of_read key value ⟨x, hx, hname, hagain⟩
  exact ⟨hrole'.trans hrole.symm, hguard'.trans hguard.symm⟩

/-- Copies that were passed over are so again. -/
theorem untouched_sync_of_passed (hlisted : ∃ x ∈ nodes, x.name = n)
    (hpassed : ∀ x ∈ nodes, x.name = n → r.passesOver r.superseded x = true) :
    (r.sync key value nodes).Untouched key value nodes n := by
  -- only a node that is known is passed over
  have hknown : r.Knows n := by
    obtain ⟨x, hx, hname⟩ := hlisted
    have hpasses := hpassed x hx hname
    rw [passesOver, hname] at hpasses
    cases hrole : r.role? n with
    | none =>
        rw [hrole] at hpasses
        cases hpasses
    | some role => exact ⟨role, hrole⟩
  obtain ⟨hrole, hguard⟩ := r.untouched_of_passed key value hlisted hknown hpassed
  refine (r.sync key value nodes).untouched_of_passed key value hlisted ?_ fun x hx hname => ?_
  · rw [Knows, hrole]
    exact hknown
  · rw [← hpassed x hx hname]
    exact passesOver_congr (by rw [hname, hrole]) (by rw [hname]; exact hguard)

/-- A node that is not listed has been dropped, or stays for the change that is under way. -/
theorem untouched_sync_of_not_mem (habsent : ∀ x ∈ nodes, x.name ≠ n) :
    (r.sync key value nodes).Untouched key value nodes n := by
  have hrole : ((r.sync key value nodes).sync key value nodes).role? n
      = (r.sync key value nodes).role? n := by
    rw [role?_sync_of_not_mem _ _ _ habsent, role?_sync_of_not_mem _ _ _ habsent]
    cases r.role? n with
    | none => rfl
    | some role => cases hpending : role.isPending <;> simp
  refine ⟨hrole, ?_⟩
  rw [guard?_sync_of_not_mem _ _ _ habsent, hrole]
  split_ifs with hknown
  · rfl
  · rw [guard?_sync, if_neg hknown]

/-- **A list that is read a second time** changes nothing, whatever it shows, also if it shows a
node several times. -/
theorem sync_sync (nodes : List StorageNode) :
    (r.sync key value nodes).sync key value nodes = r.sync key value nodes := by
  -- the two readings are compared node by node
  suffices hnode : ∀ n, (r.sync key value nodes).Untouched key value nodes n from
    eq_of_role?_of_guard? (fun n => (hnode n).1) fun n => (hnode n).2
  intro n
  by_cases hlisted : ∃ x ∈ nodes, x.name = n
  · by_cases hread : ∃ x ∈ nodes, x.name = n ∧ r.passesOver r.superseded x = false
    · exact r.untouched_sync_of_read key value hread
    · refine r.untouched_sync_of_passed key value hlisted fun x hx hname => ?_
      by_contra hx'
      exact hread ⟨x, hx, hname, eq_false_of_ne_true hx'⟩
  · exact r.untouched_sync_of_not_mem key value fun x hx hname => hlisted ⟨x, hx, hname⟩

end Sync

/-! ## 3. Lists without repetitions -/

/-- What becomes of the role and the guard of a node when a copy of it is taken in. A change that is
under way goes on, and a copy at the version of the guard is passed over. Any other copy is read, and
the guard is gone. -/
def afterCopy (key value : String) (role : Option NodeRole) (guard : Option String)
    (copy : StorageNode) : NodeRole × Option String :=
  match role with
  | some role =>
      if role.isPending || (guard.isSome && guard == copy.resourceVersion) then (role, guard)
      else (.ofFlag (copy.hasLabel key value), none)
  | none => (.ofFlag (copy.hasLabel key value), none)

theorem isOutdated_eq (r : NodeRoles) (copy : StorageNode) :
    isOutdated r.superseded copy
      = ((r.guard? copy.name).isSome && r.guard? copy.name == copy.resourceVersion) := by
  rw [isOutdated, guard?]
  cases r.superseded[copy.name]? with
  | none => rfl
  | some stale =>
      cases copy.resourceVersion with
      | none => rfl
      | some seen => rfl

/-- Where a copy is read or passed over, that is what becomes of its node. -/
theorem afterCopy_eq (r : NodeRoles) (key value : String) (copy : StorageNode) :
    some (afterCopy key value (r.role? copy.name) (r.guard? copy.name) copy).1
        = (if r.passesOver r.superseded copy then r.role? copy.name
            else some (.ofFlag (copy.hasLabel key value))) ∧
      (afterCopy key value (r.role? copy.name) (r.guard? copy.name) copy).2
        = if r.passesOver r.superseded copy then r.guard? copy.name else none := by
  rw [passesOver, isOutdated_eq]
  cases r.role? copy.name with
  | none => exact ⟨rfl, rfl⟩
  | some role =>
      simp only [afterCopy]
      split_ifs with hpasses
      · exact ⟨rfl, rfl⟩
      · exact ⟨rfl, rfl⟩

section Distinct

variable (r : NodeRoles) (key value : String) {nodes : List StorageNode}
  (hdistinct : (nodes.map StorageNode.name).Nodup)

include hdistinct

/-- **One node**, if it is listed once. -/
theorem sync_of_mem {copy : StorageNode} (hmem : copy ∈ nodes) :
    (r.sync key value nodes).role? copy.name
        = some (afterCopy key value (r.role? copy.name) (r.guard? copy.name) copy).1 ∧
      (r.sync key value nodes).guard? copy.name
        = (afterCopy key value (r.role? copy.name) (r.guard? copy.name) copy).2 := by
  -- whatever else the list shows is of another node
  have hone : ∀ x ∈ nodes, x.name = copy.name → x = copy := fun x hx hname =>
    List.inj_on_of_nodup_map hdistinct hx hmem hname
  obtain ⟨hrole, hguard⟩ := r.afterCopy_eq key value copy
  rw [hrole, hguard]
  exact ⟨r.role?_sync_of_mem key value rfl hmem hone, r.guard?_sync_of_mem key value rfl hmem hone⟩

/-- **The order of a list** does not matter. -/
theorem sync_eq_of_perm {others : List StorageNode} (hperm : others.Perm nodes) :
    r.sync key value others = r.sync key value nodes := by
  have hdistinct' : (others.map StorageNode.name).Nodup :=
    (hperm.map StorageNode.name).nodup_iff.mpr hdistinct
  -- the two readings are compared node by node
  suffices hnode : ∀ n, (r.sync key value others).role? n = (r.sync key value nodes).role? n ∧
      (r.sync key value others).guard? n = (r.sync key value nodes).guard? n from
    eq_of_role?_of_guard? (fun n => (hnode n).1) fun n => (hnode n).2
  intro n
  by_cases hlisted : ∃ copy ∈ nodes, copy.name = n
  · obtain ⟨copy, hmem, rfl⟩ := hlisted
    obtain ⟨hrole, hguard⟩ := r.sync_of_mem key value hdistinct hmem
    obtain ⟨hrole', hguard'⟩ := r.sync_of_mem key value hdistinct' (hperm.mem_iff.mpr hmem)
    exact ⟨hrole'.trans hrole.symm, hguard'.trans hguard.symm⟩
  · have habsent : ∀ x ∈ nodes, x.name ≠ n := fun x hx hname => hlisted ⟨x, hx, hname⟩
    have habsent' : ∀ x ∈ others, x.name ≠ n := fun x hx => habsent x (hperm.mem_iff.mp hx)
    -- neither list shows it, so it is kept for its change or dropped, and its guard with it
    have hrole : (r.sync key value others).role? n = (r.sync key value nodes).role? n := by
      rw [role?_sync_of_not_mem _ _ _ habsent, role?_sync_of_not_mem _ _ _ habsent']
    refine ⟨hrole, ?_⟩
    rw [guard?_sync_of_not_mem _ _ _ habsent, guard?_sync_of_not_mem _ _ _ habsent', hrole]

end Distinct

/-- Whatever the roles and the guards are, a list that shows no node twice is taken in as well once
as twice, and as well in any other order; it leaves the changes that are under way, with their
guards; and of a node that it shows, the role and the guard afterwards are given by the role and the
guard before and by its copy in the list, and by nothing else. -/
theorem lists_taken_in_once_in_any_order_node_by_node (r : NodeRoles) (key value : String)
    (nodes : List StorageNode) (hdistinct : (nodes.map StorageNode.name).Nodup) :
    (r.sync key value nodes).sync key value nodes = r.sync key value nodes ∧
      (∀ others, others.Perm nodes → r.sync key value others = r.sync key value nodes) ∧
      (∀ n previous target, r.role? n = some (.pending previous target) →
        (r.sync key value nodes).role? n = some (.pending previous target) ∧
        (r.sync key value nodes).guard? n = r.guard? n) ∧
      ∀ copy ∈ nodes,
        (r.sync key value nodes).role? copy.name
            = some (afterCopy key value (r.role? copy.name) (r.guard? copy.name) copy).1 ∧
          (r.sync key value nodes).guard? copy.name
            = (afterCopy key value (r.role? copy.name) (r.guard? copy.name) copy).2 := by
  refine ⟨r.sync_sync key value nodes, fun others hperm => ?_, fun n previous target hrole => ?_,
    fun copy hmem => ?_⟩
  · exact r.sync_eq_of_perm key value hdistinct hperm
  · obtain ⟨hkept, hguard⟩ : r.Untouched key value nodes n :=
      r.untouched_of_pending key value hrole rfl
    exact ⟨hkept.trans hrole, hguard⟩
  · exact r.sync_of_mem key value hdistinct hmem

/-- `a` has become a storage node by a patch built from version 1, `b` is none, and a change of `c`
is under way. -/
def sampleMixed (label : Label) : NodeRoles :=
  let listed := empty.sync label.key label.value
    [.bearing label "a" false, .bearing label "b" false, .bearing label "c" false]
  let applied := ((listed.withRole "a" (.pending false true)).resolve "a").supersede "a" "1"
  applied.withRole "c" (.pending false true)

/-- The list shows `a` as it was before, and `b` and the new `d` with the label; of `c` it has
nothing. -/
theorem lists_taken_in_once_in_any_order_node_by_node_mixed :
    let label : Label := ⟨"role", "storage"⟩
    let nodes : List StorageNode :=
      [.bearing label "d" true, .bearing label "a" false, .bearing label "b" true]
    let roles := (sampleMixed label).sync label.key label.value nodes
    (nodes.map StorageNode.name).Nodup ∧
      roles.sync label.key label.value nodes = roles ∧
      (sampleMixed label).sync label.key label.value nodes.reverse = roles ∧
      roles.role? "c" = some (.pending false true) ∧
      roles.role? "a" = some .selected ∧ roles.guard? "a" = some "1" ∧
      roles.role? "b" = some .selected := by
  intro label nodes roles
  have hdistinct : (nodes.map StorageNode.name).Nodup := by decide
  obtain ⟨honce, hperm, hpending, hone⟩ :=
    lists_taken_in_once_in_any_order_node_by_node (sampleMixed label) label.key label.value nodes
      hdistinct
  refine ⟨hdistinct, honce, hperm _ nodes.reverse_perm, ?_, ?_, ?_, ?_⟩
  · exact (hpending "c" false true (by decide +kernel)).1
  · exact (hone (.bearing label "a" false) (by simp [nodes])).1.trans (by decide +kernel)
  · exact (hone (.bearing label "a" false) (by simp [nodes])).2.trans (by decide +kernel)
  · exact (hone (.bearing label "b" true) (by simp [nodes])).1.trans (by decide +kernel)

end NodeRoles

end LunConsole

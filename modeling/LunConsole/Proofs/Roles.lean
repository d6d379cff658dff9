import LunConsole.Label
import LunConsole.Role
import Mathlib.Data.List.Perm.Basic
/-!
# What happens to the roles of nodes

Each operation on the roles is said here by what it does to the role of one node. Two facts carry
most of what is built on top. The storage nodes are known as soon as it is known of every node
whether it counts as one (`selectedNodes_congr`), whatever else there is in a role. And a list of
nodes, whatever it says, neither ends nor starts a change (`samePending_sync`).
-/

set_option autoImplicit false

namespace LunConsole

/-- A node as it is first read, with a label or without. -/
def StorageNode.bearing (label : Label) (name : String) (bears : Bool) : StorageNode where
  name
  labels := if bears then .ofList [(label.key, label.value)] else ∅
  resourceVersion := some "1"

/-- A change that has been applied is no longer under way. -/
@[simp] theorem NodeRole.isPending_applied (role : NodeRole) : role.applied.isPending = false := by
  cases role with
  | pending previous target => exact isPending_ofFlag target
  | unselected => rfl
  | selected => rfl

/-- Nor is one that has been given up. -/
@[simp] theorem NodeRole.isPending_reverted (role : NodeRole) :
    role.reverted.isPending = false := by
  cases role with
  | pending previous target => exact isPending_ofFlag previous
  | unselected => rfl
  | selected => rfl

/-- A settled role is that of its flag. -/
theorem NodeRole.ofFlag_isSelected {role : NodeRole} (h : role.isPending = false) :
    ofFlag role.isSelected = role := by
  cases role with
  | pending previous target => cases h
  | unselected => rfl
  | selected => rfl

namespace NodeRoles

/-! ## 1. Storage nodes -/

/-- The node is known and counts as a storage node. -/
def IsStorageNode (r : NodeRoles) (n : String) : Prop :=
  ∃ role, r.role? n = some role ∧ role.isSelected = true

theorem mem_selectedNodes {r : NodeRoles} {n : String} :
    n ∈ r.selectedNodes ↔ r.IsStorageNode n := by
  simp only [selectedNodes, List.mem_map, List.mem_filter, Prod.exists, exists_and_right,
    exists_eq_right, Std.ExtTreeMap.mem_toList_iff_getElem?_eq_some]
  rfl

/-- The storage nodes stand in the order of their names. -/
theorem selectedNodes_ordered (r : NodeRoles) :
    r.selectedNodes.Pairwise fun a b => compare a b = .lt := by
  rw [selectedNodes, List.pairwise_map]
  exact (Std.ExtTreeMap.ordered_keys_toList (t := r.states)).filter _

/-- No storage node is listed twice. -/
theorem nodup_selectedNodes (r : NodeRoles) : r.selectedNodes.Nodup := by
  refine r.selectedNodes_ordered.imp ?_
  rintro a b hlt rfl
  rw [Std.compare_self] at hlt
  exact absurd hlt (by decide)

/-- **The storage nodes** follow from whether each node counts as one. -/
theorem selectedNodes_congr {r s : NodeRoles}
    (h : ∀ n, r.IsStorageNode n ↔ s.IsStorageNode n) : r.selectedNodes = s.selectedNodes := by
  have hperm : r.selectedNodes.Perm s.selectedNodes := by
    refine (List.perm_ext_iff_of_nodup r.nodup_selectedNodes s.nodup_selectedNodes).mpr ?_
    intro n
    rw [mem_selectedNodes, mem_selectedNodes, h]
  -- the same names, and there is only one order for them to stand in
  refine hperm.eq_of_pairwise ?_ r.selectedNodes_ordered s.selectedNodes_ordered
  intro a b _ _ hab hba
  exact absurd hba (Std.OrientedCmp.not_lt_of_lt hab)

/-- Where one node joins the storage nodes there is one more of them. -/
theorem length_selectedNodes_of_joins {r s : NodeRoles} {n : String} (hr : ¬ r.IsStorageNode n)
    (hs : s.IsStorageNode n) (hothers : ∀ m, m ≠ n → (s.IsStorageNode m ↔ r.IsStorageNode m)) :
    s.selectedNodes.length = r.selectedNodes.length + 1 := by
  have hnew : n ∉ r.selectedNodes := fun h => hr (mem_selectedNodes.mp h)
  have hperm : s.selectedNodes.Perm (n :: r.selectedNodes) := by
    have hnodup : (n :: r.selectedNodes).Nodup :=
      List.nodup_cons.mpr ⟨hnew, r.nodup_selectedNodes⟩
    refine (List.perm_ext_iff_of_nodup s.nodup_selectedNodes hnodup).mpr ?_
    intro m
    rw [List.mem_cons, mem_selectedNodes, mem_selectedNodes]
    by_cases hm : m = n
    · rw [hm]
      exact iff_of_true hs (.inl rfl)
    · rw [hothers m hm, or_iff_right hm]
  exact hperm.length_eq.trans List.length_cons

/-- So where no other node has joined or left, as many storage nodes are the same ones. -/
theorem isStorageNode_iff_of_length_eq {r s : NodeRoles} {n : String}
    (hothers : ∀ m, m ≠ n → (s.IsStorageNode m ↔ r.IsStorageNode m))
    (hlength : s.selectedNodes.length = r.selectedNodes.length) :
    s.IsStorageNode n ↔ r.IsStorageNode n := by
  by_cases hr : r.IsStorageNode n
  · refine iff_of_true ?_ hr
    by_contra hs
    have hleft := length_selectedNodes_of_joins hs hr fun m hm => (hothers m hm).symm
    omega
  · refine iff_of_false ?_ hr
    intro hs
    have hjoined := length_selectedNodes_of_joins hr hs hothers
    omega

/-! ## 2. One node at a time -/

@[simp] theorem role?_empty (n : String) : empty.role? n = none :=
  Std.ExtTreeMap.getElem?_empty

/-- The roles with the role of one node put in. -/
def withRole (r : NodeRoles) (node : String) (role : NodeRole) : NodeRoles :=
  { r with states := r.states.insert node role }

theorem role?_withRole (r : NodeRoles) (node n : String) (role : NodeRole) :
    (r.withRole node role).role? n = if node = n then some role else r.role? n := by
  simp [withRole, role?, Std.ExtTreeMap.getElem?_insert]

@[simp] theorem role?_withRole_self (r : NodeRoles) (node : String) (role : NodeRole) :
    (r.withRole node role).role? node = some role := by
  rw [role?_withRole, if_pos rfl]

theorem role?_withRole_of_ne (r : NodeRoles) {node n : String} (role : NodeRole) (h : n ≠ node) :
    (r.withRole node role).role? n = r.role? n := by
  rw [role?_withRole, if_neg (Ne.symm h)]

theorem settle_of_role? {r : NodeRoles} {node : String} {role : NodeRole}
    (h : r.role? node = some role) (f : NodeRole → NodeRole) :
    r.settle node f = r.withRole node (f role) := by
  rw [role?] at h
  rw [settle, h]
  rfl

theorem settle_of_none {r : NodeRoles} {node : String} (h : r.role? node = none)
    (f : NodeRole → NodeRole) : r.settle node f = r := by
  rw [role?] at h
  rw [settle, h]

theorem role?_settle (r : NodeRoles) (node n : String) (f : NodeRole → NodeRole) :
    (r.settle node f).role? n = if node = n then (r.role? n).map f else r.role? n := by
  cases h : r.role? node with
  | none =>
      rw [settle_of_none h]
      split_ifs with hn
      · rw [← hn, h, Option.map_none]
      · rfl
  | some role =>
      rw [settle_of_role? h, role?_withRole]
      split_ifs with hn
      · rw [← hn, h, Option.map_some]
      · rfl

/-- A change that has been applied leaves the node as it was to become. -/
theorem role?_resolve_of_pending {r : NodeRoles} {node : String} {previous target : Bool}
    (h : r.role? node = some (.pending previous target)) :
    (r.resolve node).role? node = some (.ofFlag target) := by
  rw [resolve, role?_settle, if_pos rfl, h]
  rfl

/-- A change that has been given up leaves the node as it was. -/
theorem role?_revert_of_pending {r : NodeRoles} {node : String} {previous target : Bool}
    (h : r.role? node = some (.pending previous target)) :
    (r.revert node).role? node = some (.ofFlag previous) := by
  rw [revert, role?_settle, if_pos rfl, h]
  rfl

@[simp] theorem role?_supersede (r : NodeRoles) (node version n : String) :
    (r.supersede node version).role? n = r.role? n := by
  rw [supersede]
  split_ifs
  · rfl
  · rfl

theorem canForget_iff {r : NodeRoles} {node : String} :
    r.canForget node = true ↔ ∃ role, r.role? node = some role ∧ role.isPending = false := by
  rw [canForget, role?]
  cases r.states[node]? with
  | none => simp
  | some role => simp

theorem role?_forget (r : NodeRoles) (node n : String) :
    (r.forget node).role? n
      = if node = n ∧ r.canForget node = true then none else r.role? n := by
  rw [forget]
  by_cases hf : r.canForget node = true
  · simp [hf, role?, Std.ExtTreeMap.getElem?_erase]
  · simp [hf]

/-- Nodes with a change under way are not forgotten. -/
theorem role?_forget_of_pending {r : NodeRoles} {n : String} {role : NodeRole}
    (h : r.role? n = some role) (hp : role.isPending = true) (node : String) :
    (r.forget node).role? n = some role := by
  rw [role?_forget, if_neg, h]
  rintro ⟨rfl, hf⟩
  obtain ⟨role', h', hp'⟩ := canForget_iff.mp hf
  rw [h] at h'
  cases h'
  rw [hp] at hp'
  cases hp'

theorem role?_of_role?_forget {r : NodeRoles} {node n : String} {role : NodeRole}
    (h : (r.forget node).role? n = some role) : r.role? n = some role := by
  rw [role?_forget] at h
  split_ifs at h
  exact h

/-! ## 3. The beginning of a change -/

theorem begin_of_settled {r : NodeRoles} {node : String} {role : NodeRole}
    (h : r.role? node = some role) (hp : role.isPending = false) (target : Bool) :
    r.begin node target
      = .ok (role.isSelected, r.withRole node (.pending role.isSelected target)) := by
  rw [role?] at h
  simp [NodeRoles.begin, h, hp, withRole]

theorem begin_of_pending {r : NodeRoles} {node : String} {role : NodeRole}
    (h : r.role? node = some role) (hp : role.isPending = true) (target : Bool) :
    r.begin node target = .error (.toggleInFlight node) := by
  rw [role?] at h
  simp [NodeRoles.begin, h, hp]

/-- **A change that has begun moves no storage node**: the node counts as what it was. -/
theorem selectedNodes_withRole_pending {r : NodeRoles} {node : String} {role : NodeRole}
    (h : r.role? node = some role) (target : Bool) :
    (r.withRole node (.pending role.isSelected target)).selectedNodes = r.selectedNodes := by
  refine selectedNodes_congr fun n => ?_
  by_cases hn : n = node
  · subst hn
    rw [IsStorageNode, IsStorageNode, role?_withRole_self, h]
    simp [NodeRole.isSelected]
  · rw [IsStorageNode, IsStorageNode, role?_withRole_of_ne _ _ hn]

/-! ## 4. Lists of nodes -/

/-- What a node of a list is taken for, given the roles before and the versions superseded so
far. -/
def readRole (before : NodeRoles) (key value : String) (superseded : TextMap)
    (node : StorageNode) : NodeRole :=
  match before.role? node.name with
  | some role =>
      if role.isPending || isOutdated superseded node then role
      else .ofFlag (node.hasLabel key value)
  | none => .ofFlag (node.hasLabel key value)

theorem role?_syncNode (before : NodeRoles) (key value : String) (acc : NodeRoles)
    (node : StorageNode) (n : String) :
    (before.syncNode key value acc node).role? n
      = if node.name = n then some (before.readRole key value acc.superseded node)
        else acc.role? n := by
  rw [syncNode, readRole, role?, role?]
  cases before.states[node.name]? with
  | none => simp [role?, Std.ExtTreeMap.getElem?_insert]
  | some role =>
      by_cases h : (role.isPending || isOutdated acc.superseded node) = true
      · simp [h, role?, Std.ExtTreeMap.getElem?_insert]
      · simp [h, role?, Std.ExtTreeMap.getElem?_insert]

/-- A node with a change under way is taken for what it is. -/
theorem readRole_of_pending {before : NodeRoles} {node : StorageNode} {role : NodeRole}
    (h : before.role? node.name = some role) (hp : role.isPending = true) (key value : String)
    (superseded : TextMap) : before.readRole key value superseded node = role := by
  rw [readRole, h]
  simp [hp]

/-- No node is taken for one with a change under way that is not. -/
theorem role?_of_pending_readRole {before : NodeRoles} {key value : String}
    {superseded : TextMap} {node : StorageNode}
    (hp : (before.readRole key value superseded node).isPending = true) :
    before.role? node.name = some (before.readRole key value superseded node) := by
  rw [readRole] at hp ⊢
  cases h : before.role? node.name with
  | none =>
      rw [h] at hp
      simp at hp
  | some role =>
      rw [h] at hp
      simp only at hp ⊢
      split_ifs at hp ⊢ with hr
      · rfl
      · simp at hp

/-- What a node is taken for agrees with what was known of a change of it: if a change is under way
it is the one that was known, and a change that was known goes on. -/
def AgreesOnChange (before : NodeRoles) (n : String) (role : NodeRole) : Prop :=
  (role.isPending = true → before.role? n = some role) ∧
    ∀ known, before.role? n = some known → known.isPending = true → role = known

theorem agreesOnChange_readRole (before : NodeRoles) (key value : String) (superseded : TextMap)
    (node : StorageNode) :
    before.AgreesOnChange node.name (before.readRole key value superseded node) :=
  ⟨role?_of_pending_readRole, fun _ hknown hp => readRole_of_pending hknown hp _ _ _⟩

/-- However often a node is listed, the last time it is read counts, and each time it is taken for
what agrees with the change. -/
theorem agreesOnChange_foldl_syncNode (before : NodeRoles) (key value : String)
    (nodes : List StorageNode) (acc : NodeRoles)
    (hacc : ∀ n role, acc.role? n = some role → before.AgreesOnChange n role) :
    ∀ n role, (nodes.foldl (before.syncNode key value) acc).role? n = some role →
      before.AgreesOnChange n role := by
  induction nodes generalizing acc with
  | nil => exact hacc
  | cons node nodes ih =>
      rw [List.foldl_cons]
      refine ih _ fun n role h => ?_
      rw [role?_syncNode] at h
      split_ifs at h with hn
      · subst hn
        cases h
        exact before.agreesOnChange_readRole key value acc.superseded node
      · exact hacc n role h

/-- The role of a node after a list: what was read of it, or else a change under way. -/
theorem role?_sync (r : NodeRoles) (key value : String) (nodes : List StorageNode) (n : String) :
    (r.sync key value nodes).role? n
      = ((nodes.foldl (r.syncNode key value) ⟨∅, r.superseded⟩).role? n).or
          ((r.role? n).filter fun role => role.isPending) := by
  simp [sync, role?, Std.ExtTreeMap.getElem?_union, Option.filter]

/-- What is read of the nodes of a list agrees with the changes under way. -/
theorem agreesOnChange_listed (r : NodeRoles) (key value : String) (nodes : List StorageNode)
    {n : String} {role : NodeRole}
    (h : (nodes.foldl (r.syncNode key value) ⟨∅, r.superseded⟩).role? n = some role) :
    r.AgreesOnChange n role := by
  refine r.agreesOnChange_foldl_syncNode key value nodes _ (fun n role h => ?_) n role h
  simp [role?] at h

/-- **A list of nodes does not end a change**, whether the node is listed or not. -/
theorem role?_sync_of_pending {r : NodeRoles} {n : String} {role : NodeRole}
    (h : r.role? n = some role) (hp : role.isPending = true) (key value : String)
    (nodes : List StorageNode) : (r.sync key value nodes).role? n = some role := by
  rw [role?_sync, h]
  cases hread : (nodes.foldl (r.syncNode key value) ⟨∅, r.superseded⟩).role? n with
  | none =>
      -- the node is not listed, and kept for its change
      simp [hp]
  | some read =>
      obtain ⟨-, hgoes_on⟩ := r.agreesOnChange_listed key value nodes hread
      rw [hgoes_on role h hp, Option.some_or]

/-- **A list of nodes does not begin a change.** -/
theorem role?_of_pending_sync {r : NodeRoles} {n : String} {role : NodeRole}
    {key value : String} {nodes : List StorageNode}
    (h : (r.sync key value nodes).role? n = some role) (hp : role.isPending = true) :
    r.role? n = some role := by
  rw [role?_sync] at h
  cases hread : (nodes.foldl (r.syncNode key value) ⟨∅, r.superseded⟩).role? n with
  | none =>
      rw [hread, Option.none_or] at h
      exact (Option.filter_eq_some_iff.mp h).1
  | some read =>
      rw [hread, Option.some_or] at h
      cases h
      obtain ⟨hknown, -⟩ := r.agreesOnChange_listed key value nodes hread
      exact hknown hp

/-! ## 5. Changes under way -/

/-- The same changes are under way. -/
def SamePending (r s : NodeRoles) : Prop :=
  ∀ n role, role.isPending = true → (s.role? n = some role ↔ r.role? n = some role)

theorem SamePending.refl (r : NodeRoles) : r.SamePending r := fun _ _ _ => Iff.rfl

/-- A change of the node is under way. -/
def IsPending (r : NodeRoles) (n : String) : Prop :=
  ∃ role, r.role? n = some role ∧ role.isPending = true

/-- A node whose change begins is pending, and so are those that were so before. -/
theorem isPending_withRole_pending (r : NodeRoles) (node n : String) (previous target : Bool) :
    (r.withRole node (.pending previous target)).IsPending n ↔ node = n ∨ r.IsPending n := by
  rw [IsPending, role?_withRole]
  split_ifs with hn
  · exact iff_of_true ⟨_, rfl, rfl⟩ (.inl hn)
  · simp only [hn, false_or]
    rfl

theorem SamePending.isPending_iff {r s : NodeRoles} (h : r.SamePending s) (n : String) :
    s.IsPending n ↔ r.IsPending n := by
  constructor
  · rintro ⟨role, hrole, hp⟩
    exact ⟨role, (h n role hp).mp hrole, hp⟩
  · rintro ⟨role, hrole, hp⟩
    exact ⟨role, (h n role hp).mpr hrole, hp⟩

theorem samePending_sync (r : NodeRoles) (key value : String) (nodes : List StorageNode) :
    r.SamePending (r.sync key value nodes) := fun _ _ hp =>
  ⟨fun h => role?_of_pending_sync h hp, fun h => role?_sync_of_pending h hp key value nodes⟩

theorem samePending_forget (r : NodeRoles) (node : String) : r.SamePending (r.forget node) :=
  fun _ _ hp => ⟨role?_of_role?_forget, fun h => role?_forget_of_pending h hp node⟩

end NodeRoles

end LunConsole

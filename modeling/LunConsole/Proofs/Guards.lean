import LunConsole.Proofs.Roles
/-!
# Guards against outdated reads

Beside its role a node may have a guard: the version from which the last applied patch was built. A
copy of the node at that version was read before the patch, and a list that shows it is passed over.

The question for a list is what becomes of one node, its role and its guard together. Of a node that
the list shows this depends on the copy alone, however often it is shown and whatever stands around
it (`role?_sync_of_mem`, `guard?_sync_of_mem`): a copy that is passed over leaves both as they are,
and any other one is read and clears the guard. A node that the list does not show is kept, guard
and all, only while a change of it is under way.
-/

set_option autoImplicit false

namespace LunConsole

namespace NodeRoles

/-- The version of the node that is superseded. -/
def guard? (r : NodeRoles) (node : String) : Option String := r.superseded[node]?

@[simp] theorem guard?_empty (n : String) : empty.guard? n = none := Std.ExtTreeMap.getElem?_empty

/-- The roles are known by the role and the guard of each node. -/
theorem eq_of_role?_of_guard? {r s : NodeRoles} (hrole : ∀ n, s.role? n = r.role? n)
    (hguard : ∀ n, s.guard? n = r.guard? n) : s = r := by
  have hstates : s.states = r.states := Std.ExtTreeMap.ext_getElem? hrole
  have hsuperseded : s.superseded = r.superseded := Std.ExtTreeMap.ext_getElem? hguard
  cases r
  cases s
  cases hstates
  cases hsuperseded
  rfl

/-! ## 1. One operation at a time -/

@[simp] theorem guard?_withRole (r : NodeRoles) (node n : String) (role : NodeRole) :
    (r.withRole node role).guard? n = r.guard? n := rfl

@[simp] theorem guard?_settle (r : NodeRoles) (node n : String) (f : NodeRole → NodeRole) :
    (r.settle node f).guard? n = r.guard? n := by
  cases h : r.role? node with
  | none => rw [settle_of_none h]
  | some role => rw [settle_of_role? h, guard?_withRole]

theorem guard?_supersede_of_role? {r : NodeRoles} {node : String} {role : NodeRole}
    (h : r.role? node = some role) (version n : String) :
    (r.supersede node version).guard? n = if node = n then some version else r.guard? n := by
  have hknown : r.states.contains node = true := by
    rw [Std.ExtTreeMap.contains_eq_isSome_getElem?, ← role?, h, Option.isSome_some]
  simp [supersede, hknown, guard?, Std.ExtTreeMap.getElem?_insert]

theorem guard?_forget (r : NodeRoles) (node n : String) :
    (r.forget node).guard? n
      = if node = n ∧ r.canForget node = true then none else r.guard? n := by
  rw [forget]
  by_cases hf : r.canForget node = true
  · simp [hf, guard?, Std.ExtTreeMap.getElem?_erase]
  · simp [hf]

/-! ## 2. Lists of nodes -/

/-- Whether a copy of a node says nothing new: a change of the node is under way, or the copy is
outdated. -/
def passesOver (r : NodeRoles) (superseded : TextMap) (copy : StorageNode) : Bool :=
  match r.role? copy.name with
  | some role => role.isPending || isOutdated superseded copy
  | none => false

theorem isOutdated_iff {superseded : TextMap} {copy : StorageNode} :
    isOutdated superseded copy = true ↔
      ∃ version, superseded[copy.name]? = some version ∧ copy.resourceVersion = some version := by
  rw [isOutdated]
  cases superseded[copy.name]? with
  | none => simp
  | some stale =>
      cases copy.resourceVersion with
      | none => simp
      | some seen =>
          simp only [beq_iff_eq, Option.some.injEq]
          constructor
          · rintro rfl
            exact ⟨stale, rfl, rfl⟩
          · rintro ⟨version, rfl, rfl⟩
            rfl

/-- A settled node is passed over for its guard only. -/
theorem isOutdated_of_passesOver {roles : NodeRoles} {copy : StorageNode}
    (h : roles.passesOver roles.superseded copy = true)
    (hsettled : ∀ previous target, roles.role? copy.name ≠ some (.pending previous target)) :
    ∃ version, roles.guard? copy.name = some version ∧ copy.resourceVersion = some version := by
  refine isOutdated_iff.mp ?_
  rw [passesOver] at h
  cases hrole : roles.role? copy.name with
  | none =>
      rw [hrole] at h
      cases h
  | some role =>
      rw [hrole] at h
      cases role with
      | pending previous target => exact absurd hrole (hsettled previous target)
      | unselected => exact h
      | selected => exact h

/-- Of the superseded versions only that of the node itself matters. -/
theorem isOutdated_congr {s s' : TextMap} {copy : StorageNode}
    (h : s'[copy.name]? = s[copy.name]?) : isOutdated s' copy = isOutdated s copy := by
  rw [isOutdated, isOutdated, h]

/-- A copy that is passed over leaves the role as it was, and any other one is read. -/
theorem readRole_eq (r : NodeRoles) (key value : String) (superseded : TextMap)
    (copy : StorageNode) :
    some (r.readRole key value superseded copy)
      = if r.passesOver superseded copy then r.role? copy.name
        else some (.ofFlag (copy.hasLabel key value)) := by
  rw [readRole, passesOver]
  cases r.role? copy.name with
  | none => rfl
  | some role =>
      simp only
      split_ifs with h
      · rfl
      · rfl

theorem guard?_syncNode (before : NodeRoles) (key value : String) (acc : NodeRoles)
    (copy : StorageNode) (n : String) :
    (before.syncNode key value acc copy).guard? n
      = if copy.name = n ∧ before.passesOver acc.superseded copy = false then none
        else acc.guard? n := by
  rw [syncNode, passesOver, role?]
  cases before.states[copy.name]? with
  | none => simp [guard?, Std.ExtTreeMap.getElem?_erase]
  | some role =>
      by_cases h : (role.isPending || isOutdated acc.superseded copy) = true
      · simp [h, guard?]
      · simp [h, guard?, Std.ExtTreeMap.getElem?_erase]

/-- Once a copy has been taken in, the same copy is taken in as it was: if it was passed over it is
so again, and if it was read its guard is gone. -/
theorem passesOver_syncNode (before : NodeRoles) (key value : String) (acc : NodeRoles)
    (copy : StorageNode) :
    before.passesOver (before.syncNode key value acc copy).superseded copy
      = before.passesOver acc.superseded copy := by
  have hguard := before.guard?_syncNode key value acc copy copy.name
  cases hpasses : before.passesOver acc.superseded copy with
  | true =>
      rw [if_neg (by simp [hpasses])] at hguard
      rw [← hpasses, passesOver, passesOver, isOutdated_congr hguard]
  | false =>
      rw [if_pos ⟨rfl, hpasses⟩] at hguard
      have hread : isOutdated (before.syncNode key value acc copy).superseded copy = false := by
        rw [Bool.eq_false_iff]
        intro hout
        obtain ⟨version, hversion, -⟩ := isOutdated_iff.mp hout
        rw [← guard?, hguard] at hversion
        cases hversion
      rw [passesOver] at hpasses ⊢
      rw [hread]
      cases hrole : before.role? copy.name with
      | none => rfl
      | some role =>
          rw [hrole] at hpasses
          simp only [Bool.or_eq_false_iff] at hpasses
          simp only [hpasses.1, Bool.or_false]

section OneNode

variable (before : NodeRoles) (key value : String) {n : String} {copy : StorageNode}

/-- A list that does not show a node does nothing to it. -/
theorem foldl_syncNode_of_not_mem (nodes : List StorageNode) (acc : NodeRoles)
    (habsent : ∀ x ∈ nodes, x.name ≠ n) :
    (nodes.foldl (before.syncNode key value) acc).role? n = acc.role? n ∧
      (nodes.foldl (before.syncNode key value) acc).guard? n = acc.guard? n := by
  induction nodes generalizing acc with
  | nil => exact ⟨rfl, rfl⟩
  | cons x nodes ih =>
      obtain ⟨hx, hrest⟩ := List.forall_mem_cons.mp habsent
      obtain ⟨hrole, hguard⟩ := ih (before.syncNode key value acc x) hrest
      rw [List.foldl_cons, hrole, hguard, role?_syncNode, guard?_syncNode, if_neg hx,
        if_neg fun h => hx h.1]
      exact ⟨rfl, rfl⟩

/-- A list that shows a node takes in its copy. The induction is on the list from the left, and
`acc` is what has been taken in so far. -/
theorem foldl_syncNode_of_mem (nodes : List StorageNode) (acc : NodeRoles) (hname : copy.name = n)
    (hmem : copy ∈ nodes) (hone : ∀ x ∈ nodes, x.name = n → x = copy) :
    (nodes.foldl (before.syncNode key value) acc).role? n
        = some (before.readRole key value acc.superseded copy) ∧
      (nodes.foldl (before.syncNode key value) acc).guard? n
        = if before.passesOver acc.superseded copy then acc.guard? n else none := by
  induction nodes generalizing acc with
  | nil => exact absurd hmem List.not_mem_nil
  | cons x nodes ih =>
      obtain ⟨hx, hrest⟩ := List.forall_mem_cons.mp hone
      rw [List.foldl_cons]
      have hsame := before.passesOver_syncNode key value acc copy
      by_cases hlater : copy ∈ nodes
      · obtain ⟨hrole, hguard⟩ := ih (before.syncNode key value acc x) hlater hrest
        by_cases hxn : x.name = n
        · -- the copy is shown again after this
          rw [hx hxn] at hrole hguard ⊢
          rw [hrole, hguard, readRole_eq, readRole_eq, hsame, guard?_syncNode]
          cases hpasses : before.passesOver acc.superseded copy with
          | true => simp
          | false => simp
        · have hkept : (before.syncNode key value acc x).guard? n = acc.guard? n := by
            rw [guard?_syncNode, if_neg fun h => hxn h.1]
          have hpasses : before.passesOver (before.syncNode key value acc x).superseded copy
              = before.passesOver acc.superseded copy := by
            rw [passesOver, passesOver, isOutdated_congr (hname ▸ hkept)]
          rw [hrole, hguard, readRole_eq, readRole_eq, hpasses, hkept]
          exact ⟨rfl, rfl⟩
      · -- this is the only place
        have hxcopy : copy = x := (List.mem_cons.mp hmem).resolve_right hlater
        have habsent : ∀ y ∈ nodes, y.name ≠ n := fun y hy hyn => hlater (hrest y hy hyn ▸ hy)
        obtain ⟨hrole, hguard⟩ := foldl_syncNode_of_not_mem before key value nodes
          (before.syncNode key value acc x) habsent
        rw [hrole, hguard, ← hxcopy, role?_syncNode, guard?_syncNode, if_pos hname]
        cases hpasses : before.passesOver acc.superseded copy with
        | true => simp
        | false => simp [hname]

/-- Taking in copies, however many, sets no guard. -/
theorem guard?_of_guard?_foldl {version : String} (nodes : List StorageNode) (acc : NodeRoles)
    (h : (nodes.foldl (before.syncNode key value) acc).guard? n = some version) :
    acc.guard? n = some version := by
  induction nodes generalizing acc with
  | nil => exact h
  | cons x nodes ih =>
      have hstep := ih (before.syncNode key value acc x) h
      rw [guard?_syncNode] at hstep
      split_ifs at hstep
      exact hstep

end OneNode

section Sync

variable (r : NodeRoles) (key value : String) {nodes : List StorageNode} {n : String}
  {copy : StorageNode}

theorem guard?_sync (nodes : List StorageNode) (n : String) :
    (r.sync key value nodes).guard? n
      = if ((r.sync key value nodes).role? n).isSome then
          (nodes.foldl (r.syncNode key value) ⟨∅, r.superseded⟩).guard? n
        else none := by
  rw [role?, ← Std.ExtTreeMap.contains_eq_isSome_getElem?]
  simp only [sync, guard?, Std.ExtTreeMap.getElem?_filter']
  cases (nodes.foldl (r.syncNode key value) ⟨∅, r.superseded⟩).superseded[n]? with
  | none => simp
  | some version => simp [Option.filter]

/-- **The role of a node that a list shows.** -/
theorem role?_sync_of_mem (hname : copy.name = n) (hmem : copy ∈ nodes)
    (hone : ∀ x ∈ nodes, x.name = n → x = copy) :
    (r.sync key value nodes).role? n
      = if r.passesOver r.superseded copy then r.role? n
        else some (.ofFlag (copy.hasLabel key value)) := by
  obtain ⟨hread, -⟩ := r.foldl_syncNode_of_mem key value nodes ⟨∅, r.superseded⟩ hname hmem hone
  rw [role?_sync, hread, Option.some_or, readRole_eq, hname]

/-- **The guard of a node that a list shows.** -/
theorem guard?_sync_of_mem (hname : copy.name = n) (hmem : copy ∈ nodes)
    (hone : ∀ x ∈ nodes, x.name = n → x = copy) :
    (r.sync key value nodes).guard? n
      = if r.passesOver r.superseded copy then r.guard? n else none := by
  obtain ⟨hread, hguard⟩ :=
    r.foldl_syncNode_of_mem key value nodes ⟨∅, r.superseded⟩ hname hmem hone
  rw [guard?_sync, role?_sync, hread, Option.some_or, Option.isSome_some, if_pos rfl, hguard]
  rfl

/-- A node that a list does not show is dropped, unless a change of it is under way. -/
theorem role?_sync_of_not_mem (habsent : ∀ x ∈ nodes, x.name ≠ n) :
    (r.sync key value nodes).role? n = (r.role? n).filter fun role => role.isPending := by
  obtain ⟨hunread, -⟩ :=
    r.foldl_syncNode_of_not_mem key value nodes ⟨∅, r.superseded⟩ habsent
  rw [role?_sync, hunread]
  simp [role?]

/-- And with its role it keeps or loses its guard. -/
theorem guard?_sync_of_not_mem (habsent : ∀ x ∈ nodes, x.name ≠ n) :
    (r.sync key value nodes).guard? n
      = if ((r.sync key value nodes).role? n).isSome then r.guard? n else none := by
  obtain ⟨-, hunread⟩ :=
    r.foldl_syncNode_of_not_mem key value nodes ⟨∅, r.superseded⟩ habsent
  rw [guard?_sync, hunread]
  rfl

/-- A list does not set guards. -/
theorem guard?_of_guard?_sync {version : String}
    (h : (r.sync key value nodes).guard? n = some version) : r.guard? n = some version := by
  rw [guard?_sync] at h
  split_ifs at h
  exact r.guard?_of_guard?_foldl key value nodes ⟨∅, r.superseded⟩ h

end Sync

end NodeRoles

end LunConsole

import LunConsole.Proofs.Console.Chronicle
import LunConsole.Proofs.Console.Tenure
/-!
# Changes that are given up

A request that is given up while its patch is out ends where it stands. Nobody settles the role of
its node any more, and nobody releases the slot: both is done by the request itself, after the
outcome has come in, and by nothing else. So the node stays locked, and every later request to
change its role is refused.

What is locked is known from two sides, the requests that are there and those that have been given
up in the past (`Locked`): a slot is taken exactly if a request holds it or one that held it was
given up, and a node is pending exactly if a patch of it is under way or one was given up. That this
is kept needs that no request holds the slot of a node whose change was given up, for such a request
would release the slot and settle the role. None does, since a slot is claimed only if it is free.
Once all requests have ended, what is locked is just what has been given up.
-/

set_option autoImplicit false

namespace LunConsole

namespace Run

open Console

variable {config : Config} {clock : Instant} {r r' : Run} {e : RunEvent}
  {past : List (Run × RunEvent)}

/-! ## 1. What has been given up -/

/-- A request to change the role of the node was given up while its patch was out. -/
def GivenUp (past : List (Run × RunEvent)) (n : String) : Prop :=
  ∃ s id t, (s, .abandon id) ∈ past ∧ s.requests[id]? = some (.waiting (.patchNode t)) ∧ t.node = n

/-- What has been given up stays so. -/
theorem GivenUp.later {n : String} (h : GivenUp past n) (later : List (Run × RunEvent)) :
    GivenUp (past ++ later) n := by
  obtain ⟨s, id, t, hmem, hwaiting, hnode⟩ := h
  exact ⟨s, id, t, List.mem_append_left _ hmem, hwaiting, hnode⟩

theorem givenUp_append_of_kept (hkept : e.givesUp = false) (n : String) :
    GivenUp (past ++ [(r, e)]) n ↔ GivenUp past n := by
  refine ⟨?_, fun h => h.later _⟩
  rintro ⟨s, id, t, hmem, hwaiting, hnode⟩
  rcases List.mem_append.mp hmem with hmem | hmem
  · exact ⟨s, id, t, hmem, hwaiting, hnode⟩
  · obtain ⟨rfl, rfl⟩ := Prod.mk.inj (List.mem_singleton.mp hmem)
    cases hkept

theorem givenUp_append_abandon {id : Nat} {t : SentToggle}
    (hwaiting : r.requests[id]? = some (.waiting (.patchNode t))) (n : String) :
    GivenUp (past ++ [(r, .abandon id)]) n ↔ t.node = n ∨ GivenUp past n := by
  constructor
  · rintro ⟨s, i, u, hmem, hwaiting', rfl⟩
    rcases List.mem_append.mp hmem with hmem | hmem
    · exact .inr ⟨s, i, u, hmem, hwaiting', rfl⟩
    · obtain ⟨rfl, hevent⟩ := Prod.mk.inj (List.mem_singleton.mp hmem)
      cases hevent
      rw [hwaiting] at hwaiting'
      cases hwaiting'
      exact .inl rfl
  · rintro (rfl | h)
    · exact ⟨r, id, t, List.mem_append_right _ (List.mem_singleton_self _), hwaiting, rfl⟩
    · exact h.later _

theorem not_givenUp_of_kept (h : ∀ x ∈ past, x.2.givesUp = false) (n : String) :
    ¬ GivenUp past n := by
  rintro ⟨s, id, t, hmem, -⟩
  cases h _ hmem

/-! ## 2. What is locked -/

/-- What is locked is accounted for by the requests that are there and those that were given up. -/
structure Locked (past : List (Run × RunEvent)) (r : Run) : Prop where
  taken : ∀ n, r.console.inFlight.contains n = true ↔ r.IsHeld n ∨ GivenUp past n
  pending : ∀ n, r.console.roles.IsPending n ↔ r.IsPatched n ∨ GivenUp past n
  /-- The slot of a node whose change was given up is held by nobody. -/
  unheld : ∀ n, GivenUp past n → ¬ r.IsHeld n

theorem locked_start (config : Config) (clock : Instant) : Locked [] (start config clock) := by
  have hnone (n : String) : ¬ GivenUp [] n := not_givenUp_of_kept (by simp) n
  have hinFlight : (start config clock).console.inFlight = ∅ := by
    rw [start, Console.new, recompute_inFlight]
  have hroles : (start config clock).console.roles = .empty := by
    rw [start, Console.new, recompute_roles]
  constructor
  · intro n
    rw [hinFlight, Std.ExtTreeSet.contains_empty]
    simp [IsHeld, slot?, stage?_start, hnone]
  · intro n
    simp [hroles, NodeRoles.IsPending, IsPatched, stage?_start, hnone]
  · exact fun n h => absurd h (hnone n)

/-- Events that give up no change add nothing to what has been given up. -/
theorem Locked.kept (h : Locked past r') (hkept : e.givesUp = false) :
    Locked (past ++ [(r, e)]) r' := by
  constructor
  · intro n
    rw [givenUp_append_of_kept hkept]
    exact h.taken n
  · intro n
    rw [givenUp_append_of_kept hkept]
    exact h.pending n
  · intro n
    rw [givenUp_append_of_kept hkept]
    exact h.unheld n

/-- Where slots and patches stay, and the same nodes are pending. -/
theorem Locked.congr (h : Locked past r)
    (hinFlight : r'.console.inFlight = r.console.inFlight)
    (hslots : ∀ i, r'.slot? i = r.slot? i)
    (hpending : r.console.roles.SamePending r'.console.roles)
    (hpatching : ∀ i t, r'.stage? i = some (.patching t) ↔ r.stage? i = some (.patching t)) :
    Locked past r' := by
  have hheld (n : String) : r'.IsHeld n ↔ r.IsHeld n := by simp only [IsHeld, hslots]
  constructor
  · intro n
    rw [hinFlight, hheld, h.taken]
  · intro n
    rw [hpending.isPending_iff, isPatched_congr hpatching, h.pending]
  · intro n hgiven
    rw [hheld]
    exact h.unheld n hgiven

/-- A request that has claimed its slot does not find its node pending, whoever has gone. -/
theorem Locked.settled_of_claimed (h : Locked past r) (htenured : r.Tenured) {id : Nat} {n : String}
    {enabled : Bool} (hclaimed : r.stage? id = some (.claimed n enabled)) :
    ¬ r.console.roles.IsPending n := by
  rw [h.pending]
  rintro (⟨i, t, hpatching, hnode⟩ | hgiven)
  · exact htenured.node_ne_of_claimed hclaimed hpatching hnode
  · exact h.unheld n hgiven ⟨id, slot?_of_stage? r hclaimed⟩

/-- The slot of a pending node is taken. -/
theorem Locked.taken_of_pending (h : Locked past r) {n : String}
    (hpending : r.console.roles.IsPending n) : r.console.inFlight.contains n = true := by
  rw [h.taken]
  rcases (h.pending n).mp hpending with ⟨id, t, hpatching, rfl⟩ | hgiven
  · exact .inl ⟨id, slot?_of_stage? r hpatching⟩
  · exact .inr hgiven

/-! ## 3. Turns -/

theorem Locked.claim (h : Locked past r) {id : Nat} {node : String} {enabled : Bool}
    (hnew : r.requests.contains id = false)
    (hfree : r.console.inFlight.contains node = false) :
    Locked past ((r.withConsole { r.console with inFlight := r.console.inFlight.insert node
      }).withRequest id (.claimed node enabled)) := by
  have hstage : r.stage? id = none := stage?_of_new r hnew
  have hslot : r.slot? id = none := by rw [slot?, hstage, Option.map_none]
  have hheld := isHeld_claim hslot (slot?_withRequest
    (r.withConsole { r.console with inFlight := r.console.inFlight.insert node }) id
    (.claimed node enabled))
  constructor
  · intro n
    rw [hheld, or_assoc, ← h.taken]
    simp [withRequest, withConsole, Stage.node]
  · intro n
    have hpatching := patching_iff_of_stages (r := r)
      (stage?_withRequest (r.withConsole { r.console with
        inFlight := r.console.inFlight.insert node }) id (.claimed node enabled))
      (by simp [hstage]) (by simp [Request.stage?])
    rw [isPatched_congr hpatching]
    exact h.pending n
  · intro n hgiven
    rw [hheld]
    rintro (rfl | hbefore)
    · -- a slot that somebody left taken cannot be claimed
      rw [(h.taken node).mpr (.inr hgiven)] at hfree
      cases hfree
    · exact h.unheld n hgiven hbefore

/-- A change that begins makes its node pending, and a patch of it is under way. -/
theorem Locked.begin (h : Locked past r) {id : Nat} {t : SentToggle} {role : NodeRole}
    (hclaimed : r.stage? id = some (.claimed t.node t.enabled))
    (hinFlight : r'.console.inFlight = r.console.inFlight)
    (hroles : r'.console.roles
      = r.console.roles.withRole t.node (.pending role.isSelected t.enabled))
    (hslots : ∀ i, r'.slot? i = r.slot? i)
    (hstages : ∀ i, r'.stage? i = if id = i then some (.patching t) else r.stage? i) :
    Locked past r' := by
  have hheld (n : String) : r'.IsHeld n ↔ r.IsHeld n := by simp only [IsHeld, hslots]
  have hpending (n : String) :
      r'.console.roles.IsPending n ↔ t.node = n ∨ r.console.roles.IsPending n := by
    rw [hroles, NodeRoles.isPending_withRole_pending]
  have hpatched (n : String) : r'.IsPatched n ↔ t.node = n ∨ r.IsPatched n := by
    constructor
    · rintro ⟨i, s, hpatching, rfl⟩
      rw [hstages] at hpatching
      split_ifs at hpatching
      · cases hpatching
        exact .inl rfl
      · exact .inr ⟨i, s, hpatching, rfl⟩
    · rintro (rfl | ⟨i, s, hpatching, rfl⟩)
      · exact ⟨id, t, by rw [hstages, if_pos rfl], rfl⟩
      · refine ⟨i, s, ?_, rfl⟩
        rw [hstages, if_neg, hpatching]
        rintro rfl
        rw [hclaimed] at hpatching
        cases hpatching
  constructor
  · intro n
    rw [hinFlight, hheld, h.taken]
  · intro n
    rw [hpending, hpatched, h.pending, or_assoc]
  · intro n hgiven
    rw [hheld]
    exact h.unheld n hgiven

/-- Of the patches of its node none is left when a request goes on from its own or goes away. -/
theorem Tenured.isPatched_end (h : r.Tenured) {id : Nat} {t : SentToggle} {s' : Option Stage}
    (hpatching : r.stage? id = some (.patching t))
    (hstages : ∀ i, r'.stage? i = if id = i then s' else r.stage? i)
    (hafter : ∀ u, s' ≠ some (.patching u)) (n : String) :
    r'.IsPatched n ↔ t.node ≠ n ∧ r.IsPatched n := by
  constructor
  · rintro ⟨i, u, hi, rfl⟩
    rw [hstages] at hi
    split_ifs at hi with hidi
    · exact absurd hi (hafter u)
    · exact ⟨fun hnode => hidi (h.patching_apart hpatching hi hnode), i, u, hi, rfl⟩
  · rintro ⟨hn, i, u, hi, rfl⟩
    refine ⟨i, u, ?_, rfl⟩
    rw [hstages, if_neg, hi]
    rintro rfl
    rw [hpatching] at hi
    cases hi
    exact hn rfl

/-- Settling a change settles its node, which no one has given up. -/
theorem Locked.settle (h : Locked past r) (htenured : r.Tenured) {id : Nat} {t : SentToggle}
    (hpatching : r.stage? id = some (.patching t)) (failure : Option ConsoleError) :
    Locked past (r.settle id t failure) := by
  have hinFlight : (r.settle id t failure).console.inFlight = r.console.inFlight :=
    settleToggle_inFlight _ _ _
  have hslots (i : Nat) : (r.settle id t failure).slot? i = r.slot? i := by
    refine slot?_withRequest_eq (r.withConsole _) ?_ i
    exact (slot?_of_stage? r hpatching).symm
  have hheld (n : String) : (r.settle id t failure).IsHeld n ↔ r.IsHeld n := by
    simp only [IsHeld, hslots]
  have hpending (n : String) : (r.settle id t failure).console.roles.IsPending n ↔
      t.node ≠ n ∧ r.console.roles.IsPending n := by
    have hroles : (r.settle id t failure).console.roles = r.console.settledRoles t failure :=
      settleToggle_roles _ _ _
    rw [hroles, NodeRoles.IsPending, role?_settledRoles]
    split_ifs with hn hcached
    · refine iff_of_false ?_ fun hboth => hboth.1 hn
      rintro ⟨role, hrole, hp⟩
      obtain ⟨before, -, rfl⟩ := Option.map_eq_some_iff.mp hrole
      rw [isPending_outcomeRole] at hp
      cases hp
    · exact iff_of_false (by simp) fun hboth => hboth.1 hn
    · simp only [ne_eq, hn, not_false_eq_true, true_and]
      rfl
  have hpatched (n : String) : (r.settle id t failure).IsPatched n ↔ t.node ≠ n ∧ r.IsPatched n :=
    htenured.isPatched_end hpatching (stage?_withRequest (r.withConsole _) id _)
      (by simp [Request.stage?]) n
  constructor
  · intro n
    rw [hheld, hinFlight]
    exact h.taken n
  · intro n
    -- the request that settles holds the slot, so its node is none that was given up
    have hgiven : GivenUp past n → t.node ≠ n := by
      rintro hgiven rfl
      exact h.unheld _ hgiven ⟨id, slot?_of_stage? r hpatching⟩
    rw [hpending, hpatched, h.pending]
    tauto
  · intro n hgiven
    rw [hheld]
    exact h.unheld n hgiven

theorem Locked.release (h : Locked past r) (htenured : r.Tenured) {id : Nat} {node : String}
    {answer : Answer} (hsettled : r.stage? id = some (.settled node answer)) :
    Locked past ((r.withConsole (r.console.releaseSlot node)).without id) := by
  have hslot : r.slot? id = some node := slot?_of_stage? r hsettled
  have hheld := htenured.apart.isHeld_release hslot
    (slot?_without (r.withConsole (r.console.releaseSlot node)) id)
  constructor
  · intro n
    have hgiven : GivenUp past n → node ≠ n := by
      rintro hgiven rfl
      exact h.unheld _ hgiven ⟨id, hslot⟩
    have hinFlight : ((r.withConsole (r.console.releaseSlot node)).without
        id).console.inFlight.contains n = true ↔
          node ≠ n ∧ r.console.inFlight.contains n = true := by
      simp [without, withConsole, releaseSlot]
    rw [hinFlight, hheld, h.taken]
    tauto
  · intro n
    have hpatching := patching_iff_of_stages (r := r)
      (stage?_without (r.withConsole (r.console.releaseSlot node)) id) (by simp [hsettled])
      (by simp)
    rw [isPatched_congr hpatching]
    exact h.pending n
  · intro n hgiven
    rw [hheld]
    exact fun hboth => h.unheld n hgiven hboth.2

/-- A request that is given up leaves its slot and its node as they are. -/
theorem Locked.abandon (h : Locked past r) (htenured : r.Tenured) {id : Nat} {t : SentToggle}
    (hwaiting : r.requests[id]? = some (.waiting (.patchNode t))) :
    Locked (past ++ [(r, .abandon id)]) (r.without id) := by
  have hpatching : r.stage? id = some (.patching t) := stage?_of_request r hwaiting
  have hslot : r.slot? id = some t.node := slot?_of_stage? r hpatching
  have hheld := htenured.apart.isHeld_release hslot (slot?_without r id)
  have hpatched := htenured.isPatched_end hpatching (stage?_without r id) (by simp)
  have hnode : r.IsHeld t.node ∧ r.IsPatched t.node := ⟨⟨id, hslot⟩, id, t, hpatching, rfl⟩
  constructor
  -- what the request held is from now on what was given up, and the rest is as before
  · intro n
    have htaken := h.taken n
    rw [hheld, givenUp_append_abandon hwaiting]
    by_cases hn : t.node = n
    · exact iff_of_true (htaken.mpr (.inl (hn ▸ hnode.1))) (.inr (.inl hn))
    · simp only [ne_eq, hn, not_false_eq_true, true_and, false_or]
      exact htaken
  · intro n
    have hpending := h.pending n
    rw [hpatched, givenUp_append_abandon hwaiting]
    by_cases hn : t.node = n
    · exact iff_of_true (hpending.mpr (.inl (hn ▸ hnode.2))) (.inr (.inl hn))
    · simp only [ne_eq, hn, not_false_eq_true, true_and, false_or]
      exact hpending
  · intro n
    rw [givenUp_append_abandon hwaiting, hheld]
    rintro (hn | hgiven) ⟨hother, hstill⟩
    · exact hother hn
    · exact h.unheld n hgiven hstill

/-- **Every turn in which nobody gives up** leaves what is locked accounted for. -/
theorem Turn.locked (hturn : Turn r e r') (hkept : e.givesUp = false) (htenured : r.Tenured)
    (h : Locked past r) : Locked past r' := by
  cases hturn with
  | still hevent hinFlight hpending hstages =>
      refine h.congr hinFlight (fun i => ?_) hpending fun i t => by rw [hstages]
      rw [slot?, slot?, hstages]
  | claimed hnew hfree => exact h.claim hnew hfree
  | @looked id node enabled c start hclaimed hbegins =>
      have hstage : r.stage? id = some (.claimed node enabled) := stage?_of_request r hclaimed
      have hstages := stage?_withRequest (r.withConsole c) id (afterLook node start)
      have hslots : ∀ i, ((r.withConsole c).withRequest id (afterLook node start)).slot? i
          = r.slot? i := by
        refine slot?_withRequest_eq (r.withConsole c) ?_
        rw [node_afterLook hbegins]
        exact (slot?_of_stage? r hstage).symm
      -- a look that leads to an answer begins no patch and ends none
      have hanswered {answer : Answer} (hsame : r.console.roles.SamePending c.roles)
          (hafter : afterLook node start = .settled node answer) :
          Locked past ((r.withConsole c).withRequest id (afterLook node start)) := by
        refine h.congr hbegins.inFlight_eq hslots hsame ?_
        exact patching_iff_of_stages (r := r) hstages (by simp [hstage])
          (by simp [hafter, Request.stage?])
      cases hbegins with
      | unknown hrole => exact hanswered (.refl _) rfl
      | unchanged hrole hsettled hsame => exact hanswered (.refl _) rfl
      | underway hrole hpending => exact hanswered (.refl _) rfl
      | gone hrole hcached =>
          refine hanswered ?_ rfl
          rw [recompute_roles]
          exact NodeRoles.samePending_forget _ _
      | begun hrole hsettled hdiffers hcached =>
          exact h.begin hstage rfl rfl hslots hstages
  | settled hwaiting => exact h.settle htenured (stage?_of_request r hwaiting) _
  | released hsettled => exact h.release htenured (stage?_of_request r hsettled)
  | abandoned hwaiting => cases hkept

/-! ## 4. Runs -/

theorem Chronicle.locked (h : Chronicle config clock past r) : Locked past r := by
  induction h with
  | start => exact locked_start config clock
  | @step past r r' e outputs hpast hnext ih =>
      have htenured : r.Tenured := by
        obtain ⟨history, hleads, -⟩ := hpast.leads
        exact hleads.tenured
      cases hkept : e.givesUp with
      | false =>
          exact ((step_of_next? hnext).turn.locked hkept htenured ih).kept hkept
      | true =>
          cases e with
          | abandon id =>
              cases happens_of_next? hnext with
              | abandon hwaiting => exact ih.abandon htenured hwaiting
          | _ => cases hkept

/-- A request that is refused because of a change in flight has found the slot taken or the node
pending. -/
theorem locked_of_perform_toggleRole {c : Console} {n : String} {enabled : Bool}
    (h : (c.perform (.toggleRole n enabled)).2 = .ended (.refused (.toggleInFlight n))) :
    c.inFlight.contains n = true ∨ c.roles.IsPending n := by
  cases hslot : c.inFlight.contains n with
  | true => exact .inl rfl
  | false =>
      have hbegins := begins_beginToggle { c with inFlight := c.inFlight.insert n } n enabled
      rcases hbegin : beginToggle { c with inFlight := c.inFlight.insert n } n enabled
        with ⟨c', start⟩
      rw [hbegin] at hbegins
      rw [perform_toggleRole_of_free hslot hbegin] at h
      cases hbegins with
      | unknown hrole => simp at h
      | unchanged hrole hsettled hsame => simp at h
      | gone hrole hcached => simp at h
      | @underway role hrole hpending => exact .inr ⟨role, hrole, hpending⟩
      | begun hrole hsettled hdiffers hcached => simp at h

/-- In every run a node whose change was given up stays locked: its slot is taken, the node is
pending, and every request to change its role is refused. Once all requests to change a role have
ended, nothing else is locked, and so nothing at all if none of them was given up. -/
theorem locked_exactly_if_given_up (h : Chronicle config clock past r) :
    (∀ n, GivenUp past n →
      r.console.inFlight.contains n = true ∧ r.console.roles.IsPending n ∧
        ∀ enabled, r.console.perform (.toggleRole n enabled)
          = (r.console, .ended (.refused (.toggleInFlight n)))) ∧
    ((∀ id, r.stage? id = none) →
      (∀ n, r.console.inFlight.contains n = true ↔ GivenUp past n) ∧
      (∀ n, r.console.roles.IsPending n ↔ GivenUp past n) ∧
      (∀ n enabled, (r.console.perform (.toggleRole n enabled)).2
          = .ended (.refused (.toggleInFlight n)) ↔ GivenUp past n) ∧
      ((∀ x ∈ past, x.2.givesUp = false) →
        r.console.inFlight = ∅ ∧ ∀ n, ¬ r.console.roles.IsPending n)) := by
  have hlocked := h.locked
  have htaken (n : String) (hgiven : GivenUp past n) : r.console.inFlight.contains n = true :=
    (hlocked.taken n).mpr (.inr hgiven)
  refine ⟨fun n hgiven => ⟨htaken n hgiven, (hlocked.pending n).mpr (.inr hgiven), fun enabled =>
    perform_toggleRole_of_taken (htaken n hgiven) enabled⟩, fun hended => ?_⟩
  have htaken_iff (n : String) : r.console.inFlight.contains n = true ↔ GivenUp past n := by
    simp [hlocked.taken, IsHeld, slot?, hended]
  have hpending_iff (n : String) : r.console.roles.IsPending n ↔ GivenUp past n := by
    simp [hlocked.pending, IsPatched, hended]
  refine ⟨htaken_iff, hpending_iff, fun n enabled => ⟨fun hrefused => ?_, fun hgiven => ?_⟩,
    fun hkept => ⟨?_, fun n => ?_⟩⟩
  · rcases locked_of_perform_toggleRole hrefused with ht | hp
    · exact (htaken_iff n).mp ht
    · exact (hpending_iff n).mp hp
  · rw [perform_toggleRole_of_taken (htaken n hgiven)]
  · refine Std.ExtTreeSet.eq_empty_iff_forall_contains.mpr fun n => ?_
    rw [Bool.eq_false_iff, ne_eq, htaken_iff]
    exact not_givenUp_of_kept hkept n
  · rw [hpending_iff]
    exact not_givenUp_of_kept hkept n

/-- The roles of two nodes are changed. The patch of `b` is applied, and the request for `a` is
given up. -/
def oneOfTwoGivenUp : List RunEvent :=
  let node := StorageNode.bearing Config.standard.storageRoleLabel
  [.nodes (.ofData [node "a" false, node "b" false]), .ask 0 (.toggleRole "a" true), .look 0,
    .send 0, .ask 1 (.toggleRole "b" true), .look 1, .send 1, .settle 1 none, .abandon 0,
    .release 1]

/-- Nothing is under way any more. -/
theorem stage?_oneOfTwoGivenUp (id : Nat) :
    ((start .standard .epoch).play oneOfTwoGivenUp).2.stage? id = none := by
  have hended : ((start .standard .epoch).play oneOfTwoGivenUp).2.requests = ∅ :=
    Std.ExtTreeMap.isEmpty_iff.mp (by decide +kernel)
  rw [stage?, hended, Std.ExtTreeMap.getElem?_empty, Option.bind_none]

theorem locked_exactly_if_given_up_one_of_two :
    Chronicle .standard .epoch ((start .standard .epoch).pastOf oneOfTwoGivenUp)
        ((start .standard .epoch).play oneOfTwoGivenUp).2 ∧
      (∀ id, ((start .standard .epoch).play oneOfTwoGivenUp).2.stage? id = none) ∧
      GivenUp ((start .standard .epoch).pastOf oneOfTwoGivenUp) "a" ∧
      ¬ GivenUp ((start .standard .epoch).pastOf oneOfTwoGivenUp) "b" := by
  have hpast : Chronicle .standard .epoch ((start .standard .epoch).pastOf oneOfTwoGivenUp)
      ((start .standard .epoch).play oneOfTwoGivenUp).2 := chronicle_play _ _ _
  obtain ⟨-, hended⟩ := locked_exactly_if_given_up hpast
  obtain ⟨htaken, -⟩ := hended stage?_oneOfTwoGivenUp
  refine ⟨hpast, stage?_oneOfTwoGivenUp, (htaken "a").mp (by decide +kernel), ?_⟩
  rw [← htaken]
  decide +kernel

/-- All requests have ended, `a` is in the last list, and its role cannot be changed. -/
theorem node_stays_locked :
    let r := ((start .standard .epoch).play oneOfTwoGivenUp).2
    Reachable .standard .epoch r ∧ (∀ id, r.stage? id = none) ∧
      (r.console.cached? "a").isSome = true ∧
      r.console.inFlight ≠ ∅ ∧ r.console.roles.IsPending "a" ∧
      (r.console.perform (.toggleRole "a" true)).2 = .ended (.refused (.toggleInFlight "a")) ∧
      (r.console.perform (.toggleRole "a" false)).2 = .ended (.refused (.toggleInFlight "a")) := by
  have htaken : ((start .standard .epoch).play oneOfTwoGivenUp).2.console.inFlight.contains "a"
      = true := by decide +kernel
  refine ⟨reachable_play _ _ _, stage?_oneOfTwoGivenUp, by decide +kernel, fun hempty => ?_,
    ⟨.pending false true, by decide +kernel, rfl⟩, ?_, ?_⟩
  · rw [hempty, Std.ExtTreeSet.contains_empty] at htaken
    cases htaken
  · rw [perform_toggleRole_of_taken htaken]
  · rw [perform_toggleRole_of_taken htaken]

end Run

end LunConsole

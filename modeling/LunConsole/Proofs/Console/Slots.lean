import LunConsole.Proofs.Console.Steps
/-!
# One change for each node

Two maps say which nodes have a change under way: the slots, which are claimed before the state is
looked at and released after the role has settled, and the roles, where a node is pending in
between. Neither is derived from the other, they change at different moments, and a snapshot of the
nodes may drop nodes from the roles while a patch is out.

What ties them together are the requests. A slot is taken exactly if a request holds it, and no two
requests hold the same one (`Exclusive`). A node is pending exactly if a request has a patch under
way for it, and then the role says what that request asked for and what the node was when it looked
(`Accounted`). The second needs the first: a request that looks at a node must not find it pending,
and it does not, for the request that had made it so would hold the same slot.

A request that is given up leaves its slot taken and its node pending for good, so both hold only
as long as no request is given up.
-/

set_option autoImplicit false

namespace LunConsole

open Console

/-- Whether a request is given up. -/
def RunEvent.givesUp : RunEvent → Bool
  | abandon _ => true
  | _ => false

/-! ## 1. Stages of a change -/

/-- How far a change of a role has come. -/
inductive Stage where
  | claimed (node : String) (enabled : Bool)
  /-- The patch is built, and its outcome has not been taken in. -/
  | patching (t : SentToggle)
  | settled (node : String) (answer : Answer)

/-- The node whose slot is held. -/
def Stage.node : Stage → String
  | claimed node _ | settled node _ => node
  | patching t => t.node

/-- The stage of a request, if it is one to change a role. -/
def Request.stage? : Request → Option Stage
  | claimed node enabled => some (.claimed node enabled)
  | ready (.patchNode t) | waiting (.patchNode t) => some (.patching t)
  | settled node answer => some (.settled node answer)
  | _ => none

theorem Request.stage?_ready_of_ne {call : Call} (h : ∀ t, call ≠ .patchNode t) :
    (ready call).stage? = none := by
  cases call with
  | patchNode t => exact absurd rfl (h t)
  | createFilesystem name claim => rfl
  | createCluster cluster => rfl

theorem Request.stage?_waiting (call : Call) : (waiting call).stage? = (ready call).stage? := by
  cases call with
  | patchNode t => rfl
  | createFilesystem name claim => rfl
  | createCluster cluster => rfl

namespace Run

/-- The stage of the request under this number. -/
def stage? (r : Run) (id : Nat) : Option Stage := r.requests[id]?.bind Request.stage?

/-- The node whose slot the request holds. -/
def slot? (r : Run) (id : Nat) : Option String := (r.stage? id).map Stage.node

section Stage

variable (r : Run)

@[simp] theorem stage?_withConsole (c : Console) (i : Nat) :
    (r.withConsole c).stage? i = r.stage? i := rfl

theorem stage?_of_request {id : Nat} {q : Request} (h : r.requests[id]? = some q) :
    r.stage? id = q.stage? := by
  rw [stage?, h, Option.bind_some]

theorem stage?_of_new {id : Nat} (h : r.requests.contains id = false) : r.stage? id = none := by
  rw [stage?, Std.ExtTreeMap.getElem?_eq_none_of_contains_eq_false h, Option.bind_none]

theorem stage?_withRequest (id : Nat) (q : Request) (i : Nat) :
    (r.withRequest id q).stage? i = if id = i then q.stage? else r.stage? i := by
  rw [stage?, requests_withRequest]
  split_ifs with hi
  · rfl
  · rfl

theorem stage?_without (id i : Nat) :
    (r.without id).stage? i = if id = i then none else r.stage? i := by
  rw [stage?, requests_without]
  split_ifs with hi
  · rfl
  · rfl

/-- A request that goes on may stay at its stage. -/
theorem stage?_withRequest_eq {id : Nat} {q : Request} (h : q.stage? = r.stage? id) (i : Nat) :
    (r.withRequest id q).stage? i = r.stage? i := by
  rw [stage?_withRequest]
  split_ifs with hi
  · rw [h, hi]
  · rfl

/-- No stage is lost with a request that is not one to change a role. -/
theorem stage?_without_eq {id : Nat} (h : r.stage? id = none) (i : Nat) :
    (r.without id).stage? i = r.stage? i := by
  rw [stage?_without]
  split_ifs with hi
  · rw [← hi, h]
  · rfl

theorem slot?_withRequest (id : Nat) (q : Request) (i : Nat) :
    (r.withRequest id q).slot? i = if id = i then q.stage?.map Stage.node else r.slot? i := by
  rw [slot?, stage?_withRequest]
  split_ifs with hi
  · rfl
  · rfl

theorem slot?_without (id i : Nat) :
    (r.without id).slot? i = if id = i then none else r.slot? i := by
  rw [slot?, stage?_without]
  split_ifs with hi
  · rfl
  · rfl

/-- A request that comes to another stage goes on holding the same slot. -/
theorem slot?_withRequest_eq {id : Nat} {q : Request}
    (h : q.stage?.map Stage.node = r.slot? id) (i : Nat) :
    (r.withRequest id q).slot? i = r.slot? i := by
  rw [slot?_withRequest]
  split_ifs with hi
  · rw [h, hi]
  · rfl

theorem slot?_of_stage? {id : Nat} {s : Stage} (h : r.stage? id = some s) :
    r.slot? id = some s.node := by
  rw [slot?, h, Option.map_some]

/-- A patch of the node is under way. -/
def IsPatched (n : String) : Prop := ∃ id t, r.stage? id = some (.patching t) ∧ t.node = n

/-- A request that comes to another stage, with no patch under way before or after. -/
theorem patching_iff_of_stages {r r' : Run} {id : Nat} {s' : Option Stage}
    (hstages : ∀ i, r'.stage? i = if id = i then s' else r.stage? i)
    (hbefore : ∀ t, r.stage? id ≠ some (.patching t)) (hafter : ∀ t, s' ≠ some (.patching t))
    (i : Nat) (t : SentToggle) :
    r'.stage? i = some (.patching t) ↔ r.stage? i = some (.patching t) := by
  rw [hstages]
  split_ifs with hi
  · subst hi
    exact iff_of_false (hafter t) (hbefore t)
  · rfl

/-- With the same patches under way the same nodes are patched. -/
theorem isPatched_congr {r r' : Run}
    (h : ∀ i t, r'.stage? i = some (.patching t) ↔ r.stage? i = some (.patching t)) (n : String) :
    r'.IsPatched n ↔ r.IsPatched n := by
  simp only [IsPatched, h]

end Stage

/-! ## 2. Turns

Of the steps of a run most leave every change where it is. Those that do not are the steps of the
requests to change a role. -/

/-- What a step does to the changes of roles. -/
inductive Turn (r : Run) : RunEvent → Run → Prop
  | still {e : RunEvent} {r' : Run} (hevent : ∀ id, e ≠ .look id)
      (hinFlight : r'.console.inFlight = r.console.inFlight)
      (hpending : r.console.roles.SamePending r'.console.roles)
      (hstages : ∀ i, r'.stage? i = r.stage? i) : Turn r e r'
  | claimed {id : Nat} {node : String} {enabled : Bool} (hnew : r.requests.contains id = false)
      (hfree : r.console.inFlight.contains node = false) :
      Turn r (.ask id (.toggleRole node enabled))
        ((r.withConsole { r.console with inFlight := r.console.inFlight.insert node }).withRequest
          id (.claimed node enabled))
  | looked {id : Nat} {node : String} {enabled : Bool} {c : Console} {start : ToggleStart}
      (hclaimed : r.requests[id]? = some (.claimed node enabled))
      (hbegins : Begins r.console node enabled (c, start)) :
      Turn r (.look id) ((r.withConsole c).withRequest id (afterLook node start))
  | settled {id : Nat} {t : SentToggle} {failure : Option ConsoleError}
      (hwaiting : r.requests[id]? = some (.waiting (.patchNode t))) :
      Turn r (.settle id failure) (r.settle id t failure)
  | released {id : Nat} {node : String} {answer : Answer}
      (hsettled : r.requests[id]? = some (.settled node answer)) :
      Turn r (.release id) ((r.withConsole (r.console.releaseSlot node)).without id)
  | abandoned {id : Nat} {t : SentToggle}
      (hwaiting : r.requests[id]? = some (.waiting (.patchNode t))) :
      Turn r (.abandon id) (r.without id)

theorem Turn.idle {r r' : Run} {e : RunEvent} (hevent : ∀ id, e ≠ .look id)
    (hidle : Idle r.console r'.console) (hstages : ∀ i, r'.stage? i = r.stage? i) :
    Turn r e r' := by
  refine .still hevent hidle.inFlight ?_ hstages
  rw [hidle.roles]
  exact .refl _

/-- Every step is a turn. -/
theorem Step.turn {r r' : Run} {e : RunEvent} {outputs : List RunOutput}
    (h : Step r e r' outputs) : Turn r e r' := by
  cases h with
  | nodes s =>
      -- the only step without a part in the changes that touches the roles
      refine .still (by simp) (applyNodes_inFlight _ _) ?_ fun i => rfl
      rw [withConsole, applyNodes_roles]
      exact NodeRoles.samePending_sync _ _ _ _
  | discovery s => exact .idle (by simp) (idle_applyDiscovery _ s) fun i => rfl
  | disks s => exact .idle (by simp) (idle_applyDisks _ s) fun i => rfl
  | tick now => exact .idle (by simp) (idle_tick _ now) fun i => rfl
  | refused hnew htaken => exact .idle (by simp) (.refl _) fun i => rfl
  | claimed hnew hfree => exact .claimed hnew hfree
  | done hnew hidle => exact .idle (by simp) hidle fun i => rfl
  | planned hnew hplans =>
      refine .idle (by simp) (.refl _) (stage?_withRequest_eq r ?_)
      rw [stage?_of_new r hnew, Request.stage?_ready_of_ne hplans.ne_patchNode]
  | looked hclaimed hbegin hbegins => exact .looked hclaimed hbegins
  | @sent _ call hready =>
      refine .idle (by simp) (.refl _) (stage?_withRequest_eq r ?_)
      rw [stage?_of_request r hready, Request.stage?_waiting]
  | settled hwaiting => exact .settled hwaiting
  | released hsettled => exact .released hsettled
  | abandoned hwaiting => exact .abandoned hwaiting
  | @finished _ id call c answer hreply hcall hwaiting hidle =>
      refine .idle ?_ hidle (stage?_without_eq (r.withConsole c) ?_)
      · rintro i rfl
        cases hreply
      · rw [stage?_withConsole, stage?_of_request r hwaiting, Request.stage?_waiting,
          Request.stage?_ready_of_ne hcall]

/-! ## 3. Slots -/

/-- No two requests hold the same slot. -/
def SlotsApart (r : Run) : Prop :=
  ∀ i j n, r.slot? i = some n → r.slot? j = some n → i = j

/-- A slot that no request holds may be given to one. -/
theorem SlotsApart.claim {r r' : Run} (h : r.SlotsApart) {id : Nat} {node : String}
    (hunheld : ∀ i, r.slot? i ≠ some node)
    (hslots : ∀ i, r'.slot? i = if id = i then some node else r.slot? i) : r'.SlotsApart := by
  intro i j n hi hj
  rw [hslots] at hi hj
  split_ifs at hi hj with hidi hidj hidj
  · rw [← hidi, ← hidj]
  · rw [← hi] at hj
    exact absurd hj (hunheld j)
  · rw [← hj] at hi
    exact absurd hi (hunheld i)
  · exact h i j n hi hj

/-- A request holds the slot. -/
def IsHeld (r : Run) (n : String) : Prop := ∃ id, r.slot? id = some n

/-- A request that comes to hold a slot is one holder more. -/
theorem isHeld_claim {r r' : Run} {id : Nat} {node : String} (hid : r.slot? id = none)
    (hslots : ∀ i, r'.slot? i = if id = i then some node else r.slot? i) (n : String) :
    r'.IsHeld n ↔ node = n ∨ r.IsHeld n := by
  constructor
  · rintro ⟨i, hi⟩
    rw [hslots] at hi
    split_ifs at hi
    · exact .inl (Option.some.inj hi)
    · exact .inr ⟨i, hi⟩
  · rintro (rfl | ⟨i, hi⟩)
    · exact ⟨id, by rw [hslots, if_pos rfl]⟩
    · refine ⟨i, ?_⟩
      rw [hslots, if_neg, hi]
      rintro rfl
      rw [hid] at hi
      cases hi

/-- When the holder of a slot goes, nobody is left who holds it. -/
theorem SlotsApart.isHeld_release {r r' : Run} (h : r.SlotsApart) {id : Nat} {node : String}
    (hid : r.slot? id = some node)
    (hslots : ∀ i, r'.slot? i = if id = i then none else r.slot? i) (n : String) :
    r'.IsHeld n ↔ node ≠ n ∧ r.IsHeld n := by
  constructor
  · rintro ⟨i, hi⟩
    rw [hslots] at hi
    split_ifs at hi with hidi
    refine ⟨?_, i, hi⟩
    -- a request that still holds the slot would be the one that has just gone
    rintro rfl
    exact hidi (h id i node hid hi)
  · rintro ⟨hn, i, hi⟩
    refine ⟨i, ?_⟩
    rw [hslots, if_neg, hi]
    rintro rfl
    rw [hid] at hi
    exact hn (Option.some.inj hi)

/-- A slot is taken exactly if a request holds it, and no two requests hold the same one. -/
structure Exclusive (r : Run) : Prop where
  taken : ∀ n, r.console.inFlight.contains n = true ↔ ∃ id, r.slot? id = some n
  apart : ∀ i j n, r.slot? i = some n → r.slot? j = some n → i = j

theorem Exclusive.congr {r r' : Run} (h : r.Exclusive)
    (hinFlight : r'.console.inFlight = r.console.inFlight)
    (hslots : ∀ i, r'.slot? i = r.slot? i) : r'.Exclusive := by
  constructor
  · intro n
    rw [hinFlight, h.taken]
    simp only [hslots]
  · simp only [hslots]
    exact h.apart

theorem stage?_start (config : Config) (clock : Instant) (i : Nat) :
    (start config clock).stage? i = none := by
  rw [stage?, start, Std.ExtTreeMap.getElem?_empty, Option.bind_none]

theorem exclusive_start (config : Config) (clock : Instant) : (start config clock).Exclusive := by
  have hnone (i : Nat) (n : String) : (start config clock).slot? i ≠ some n := by
    simp [slot?, stage?_start]
  have hempty : (start config clock).console.inFlight = ∅ := by
    rw [start, Console.new, recompute_inFlight]
  constructor
  · intro n
    rw [hempty, Std.ExtTreeSet.contains_empty]
    refine iff_of_false Bool.false_ne_true ?_
    rintro ⟨i, hi⟩
    exact hnone i n hi
  · intro i j n hi
    exact absurd hi (hnone i n)

/-- A slot that is free is held by no request, so it may be claimed. -/
theorem Exclusive.claim {r r' : Run} (h : r.Exclusive) {id : Nat} {node : String}
    (hid : r.slot? id = none) (hfree : r.console.inFlight.contains node = false)
    (hinFlight : ∀ n, r'.console.inFlight.contains n = true ↔
      node = n ∨ r.console.inFlight.contains n = true)
    (hslots : ∀ i, r'.slot? i = if id = i then some node else r.slot? i) : r'.Exclusive := by
  -- whoever held the slot would have made it taken
  have hunheld (i : Nat) : r.slot? i ≠ some node := by
    intro hi
    rw [(h.taken node).mpr ⟨i, hi⟩] at hfree
    cases hfree
  constructor
  · intro n
    rw [hinFlight, h.taken]
    exact (isHeld_claim hid hslots n).symm
  · exact SlotsApart.claim h.apart hunheld hslots

/-- A slot that is released was held by that request only, so no request is left that holds it. -/
theorem Exclusive.release {r r' : Run} (h : r.Exclusive) {id : Nat} {node : String}
    (hid : r.slot? id = some node)
    (hinFlight : ∀ n, r'.console.inFlight.contains n = true ↔
      node ≠ n ∧ r.console.inFlight.contains n = true)
    (hslots : ∀ i, r'.slot? i = if id = i then none else r.slot? i) : r'.Exclusive := by
  have hapart : r.SlotsApart := h.apart
  constructor
  · intro n
    rw [hinFlight, h.taken]
    exact (hapart.isHeld_release hid hslots n).symm
  · intro i j n hi hj
    rw [hslots] at hi hj
    split_ifs at hi hj with hidi hidj
    exact h.apart i j n hi hj

theorem node_afterLook {c c' : Console} {node : String} {enabled : Bool} {start : ToggleStart}
    (h : Begins c node enabled (c', start)) :
    (afterLook node start).stage?.map Stage.node = some node := by
  cases h with
  | unknown hrole => rfl
  | unchanged hrole hsettled hsame => rfl
  | gone hrole hcached => rfl
  | underway hrole hpending => rfl
  | begun hrole hsettled hdiffers hcached => rfl

/-- **Slots stay exclusive** as long as no request is given up. -/
theorem Turn.exclusive {r r' : Run} {e : RunEvent} (hturn : Turn r e r')
    (hkept : e.givesUp = false) (h : r.Exclusive) : r'.Exclusive := by
  cases hturn with
  | still hevent hinFlight hpending hstages =>
      refine h.congr hinFlight fun i => ?_
      rw [slot?, slot?, hstages]
  | @claimed id node enabled hnew hfree =>
      have hslot : r.slot? id = none := by rw [slot?, stage?_of_new r hnew, Option.map_none]
      refine h.claim hslot hfree (fun n => ?_) (slot?_withRequest _ _ _)
      simp [withRequest, withConsole]
  | @looked id node enabled c start hclaimed hbegins =>
      refine h.congr hbegins.inFlight_eq (slot?_withRequest_eq (r.withConsole c) ?_)
      rw [node_afterLook hbegins]
      exact (slot?_of_stage? r (stage?_of_request r hclaimed)).symm
  | @settled id t failure hwaiting =>
      -- the slot outlasts the change: it is held until the answer is given
      refine h.congr (settleToggle_inFlight _ _ _) (slot?_withRequest_eq (r.withConsole _) ?_)
      exact (slot?_of_stage? r (stage?_of_request r hwaiting)).symm
  | @released id node answer hsettled =>
      have hslot := slot?_of_stage? r (stage?_of_request r hsettled)
      refine h.release hslot (fun n => ?_) (slot?_without _ _)
      simp [without, withConsole, releaseSlot, Stage.node]
  | abandoned hwaiting => cases hkept

/-! ## 4. What a request saw

What a pending role remembers is what the node was when the request looked. That is a matter of the
history of the run: of the state before the last look of the request. -/

section History

variable {config : Config} {clock : Instant} {history : List (RunEvent × List RunOutput)}

/-- The state that the request found when it looked last. -/
def LookedAt (config : Config) (clock : Instant) (history : List (RunEvent × List RunOutput))
    (id : Nat) (r : Run) : Prop :=
  LastAt config clock history (fun e => e = .look id) (.look id) r

/-- The request had claimed the slot of the node to make it `enabled`, and found it settled and, as
`previous` says, a storage node or none. -/
def BeganFrom (config : Config) (clock : Instant) (history : List (RunEvent × List RunOutput))
    (id : Nat) (node : String) (enabled previous : Bool) : Prop :=
  ∃ r role, LookedAt config clock history id r ∧
    r.requests[id]? = some (.claimed node enabled) ∧
    r.console.roles.role? node = some role ∧ role.isPending = false ∧ role.isSelected = previous

theorem BeganFrom.later {id : Nat} {node : String} {enabled previous : Bool}
    (h : BeganFrom config clock history id node enabled previous) {e : RunEvent}
    {outputs : List RunOutput} (he : e ≠ .look id) :
    BeganFrom config clock (history ++ [(e, outputs)]) id node enabled previous := by
  obtain ⟨r, role, hlooked, hfound⟩ := h
  exact ⟨r, role, hlooked.later he, hfound⟩

theorem BeganFrom.unique {id : Nat} {node : String} {enabled enabled' previous previous' : Bool}
    (h : BeganFrom config clock history id node enabled previous)
    (h' : BeganFrom config clock history id node enabled' previous') : previous = previous' := by
  obtain ⟨r, role, hlooked, -, hrole, -, rfl⟩ := h
  obtain ⟨s, role', hlooked', -, hrole', -, rfl⟩ := h'
  rw [(hlooked.unique hlooked').2, hrole'] at hrole
  cases hrole
  rfl

/-! ## 5. Changes under way -/

/-- The requests account for the pending nodes. -/
structure Accounted (config : Config) (clock : Instant)
    (history : List (RunEvent × List RunOutput)) (r : Run) : Prop where
  /-- The node of a change under way is pending, and the role says what was asked for and what the
  node was. -/
  pending : ∀ id t, r.stage? id = some (.patching t) → ∃ previous,
    BeganFrom config clock history id t.node t.enabled previous ∧
      r.console.roles.role? t.node = some (.pending previous t.enabled)
  /-- No other node is pending. -/
  patching : ∀ n role, r.console.roles.role? n = some role → role.isPending = true →
    ∃ id t, r.stage? id = some (.patching t) ∧ t.node = n
  /-- No request that holds its slot is answered that the slot is taken. -/
  answers : ∀ id node n, r.stage? id ≠ some (.settled node (.refused (.toggleInFlight n)))

theorem accounted_start (config : Config) (clock : Instant) :
    Accounted config clock [] (start config clock) := by
  have hroles : (start config clock).console.roles = .empty := by
    rw [start, Console.new, recompute_roles]
  constructor
  · intro id t h
    rw [stage?_start] at h
    cases h
  · intro n role h
    rw [hroles, NodeRoles.role?_empty] at h
    cases h
  · intro id node n h
    rw [stage?_start] at h
    cases h

/-- A request that has claimed its slot does not find its node pending. -/
theorem Accounted.not_pending {r : Run} (h : Accounted config clock history r)
    (hexclusive : r.Exclusive) {id : Nat} {node : String} {enabled : Bool}
    (hclaimed : r.stage? id = some (.claimed node enabled)) {role : NodeRole}
    (hrole : r.console.roles.role? node = some role) : role.isPending = false := by
  by_contra hpending
  obtain ⟨j, t, hpatching, hnode⟩ := h.patching node role hrole (eq_true_of_ne_false hpending)
  -- both hold the slot of the node, so they are one request, at two stages
  have hj : r.slot? j = some node := by rw [slot?_of_stage? r hpatching, Stage.node, hnode]
  have hid : r.slot? id = some node := slot?_of_stage? r hclaimed
  rw [hexclusive.apart j id node hj hid, hclaimed] at hpatching
  cases hpatching

variable {r r' : Run} {e : RunEvent} {outputs : List RunOutput}

/-- A turn in which no change begins or ends. -/
theorem Accounted.turned (h : Accounted config clock history r)
    (hevent : ∀ id t, r.stage? id = some (.patching t) → e ≠ .look id)
    (hpending : r.console.roles.SamePending r'.console.roles)
    (hstages : ∀ id t, r'.stage? id = some (.patching t) ↔ r.stage? id = some (.patching t))
    (hanswers : ∀ id node n, r'.stage? id ≠ some (.settled node (.refused (.toggleInFlight n)))) :
    Accounted config clock (history ++ [(e, outputs)]) r' := by
  refine ⟨?_, ?_, hanswers⟩
  · intro id t hpatching
    rw [hstages] at hpatching
    obtain ⟨previous, hbegan, hrole⟩ := h.pending id t hpatching
    exact ⟨previous, hbegan.later (hevent id t hpatching), (hpending _ _ rfl).mpr hrole⟩
  · intro n role hrole hp
    simp only [hstages]
    exact h.patching n role ((hpending n role hp).mp hrole) hp

/-- A request that comes to another stage, with no change under way before or after. -/
theorem Accounted.advance (h : Accounted config clock history r) {id : Nat} {s' : Option Stage}
    (hevent : ∀ i, i ≠ id → e ≠ .look i)
    (hpending : r.console.roles.SamePending r'.console.roles)
    (hstages : ∀ i, r'.stage? i = if id = i then s' else r.stage? i)
    (hbefore : ∀ t, r.stage? id ≠ some (.patching t)) (hafter : ∀ t, s' ≠ some (.patching t))
    (hanswer : ∀ node n, s' ≠ some (.settled node (.refused (.toggleInFlight n)))) :
    Accounted config clock (history ++ [(e, outputs)]) r' := by
  refine h.turned ?_ hpending (patching_iff_of_stages hstages hbefore hafter) ?_
  · intro i t hpatching
    refine hevent i ?_
    rintro rfl
    exact hbefore t hpatching
  · intro i node n
    rw [hstages]
    split_ifs with hi
    · exact hanswer node n
    · exact h.answers i node n

/-- A look at the state that leads to an answer. -/
theorem Accounted.answer (h : Accounted config clock history r) {id : Nat} {node : String}
    {enabled : Bool} {answer : Answer} (hclaimed : r.stage? id = some (.claimed node enabled))
    (hpending : r.console.roles.SamePending r'.console.roles)
    (hstages : ∀ i, r'.stage? i = if id = i then some (.settled node answer) else r.stage? i)
    (hanswer : ∀ n, answer ≠ .refused (.toggleInFlight n)) :
    Accounted config clock (history ++ [(.look id, outputs)]) r' := by
  refine h.advance ?_ hpending hstages ?_ ?_ ?_
  · intro i hi heq
    exact hi (RunEvent.look.inj heq).symm
  · rw [hclaimed]
    simp
  · simp
  · intro n m heq
    cases heq
    exact hanswer m rfl

/-- A change that begins makes its node pending, with what the node was. -/
theorem Accounted.begin (h : Accounted config clock history r)
    (hleads : Leads config clock history r) {id : Nat} {t : SentToggle} {role : NodeRole}
    (hclaimed : r.requests[id]? = some (.claimed t.node t.enabled))
    (hrole : r.console.roles.role? t.node = some role) (hsettled : role.isPending = false)
    (hroles : r'.console.roles
      = r.console.roles.withRole t.node (.pending role.isSelected t.enabled))
    (hstages : ∀ i, r'.stage? i = if id = i then some (.patching t) else r.stage? i) :
    Accounted config clock (history ++ [(.look id, outputs)]) r' := by
  constructor
  · intro i s hpatching
    rw [hstages] at hpatching
    split_ifs at hpatching with hi
    · subst hi
      cases hpatching
      -- this look is the last one, and it found the state before the event
      have hlooked : LookedAt config clock (history ++ [(.look id, outputs)]) id r :=
        lastAt_self hleads rfl
      refine ⟨role.isSelected, ⟨r, role, hlooked, hclaimed, hrole, hsettled, rfl⟩, ?_⟩
      rw [hroles, NodeRoles.role?_withRole_self]
    · obtain ⟨previous, hbegan, hpending⟩ := h.pending i s hpatching
      refine ⟨previous, hbegan.later ?_, ?_⟩
      · rintro heq
        exact hi (RunEvent.look.inj heq)
      · -- the other node is another one, for this one was not pending
        rw [hroles, NodeRoles.role?_withRole_of_ne _ _ _, hpending]
        intro hnode
        rw [hnode, hrole] at hpending
        cases hpending
        cases hsettled
  · intro n role' hrole' hp
    rw [hroles, NodeRoles.role?_withRole] at hrole'
    split_ifs at hrole' with hn
    · exact ⟨id, t, by rw [hstages, if_pos rfl], hn⟩
    · obtain ⟨i, s, hpatching, hnode⟩ := h.patching n role' hrole' hp
      refine ⟨i, s, ?_, hnode⟩
      rw [hstages, if_neg, hpatching]
      rintro rfl
      rw [stage?_of_request r hclaimed] at hpatching
      cases hpatching
  · intro i node n
    rw [hstages]
    split_ifs with hi
    · simp
    · exact h.answers i node n

/-- A change that ends leaves its node settled, and no other request has a change of that node
under way. -/
theorem Accounted.settle (h : Accounted config clock history r) (hexclusive : r.Exclusive)
    {id : Nat} {t : SentToggle} (hpatching : r.stage? id = some (.patching t))
    (failure : Option ConsoleError) :
    Accounted config clock (history ++ [(.settle id failure, outputs)])
      (r.settle id t failure) := by
  have hstages (i : Nat) : (r.settle id t failure).stage? i
      = if id = i then some (.settled t.node (.toggled (r.console.settleToggle t failure).2))
        else r.stage? i := stage?_withRequest (r.withConsole _) id _ i
  have hroles : (r.settle id t failure).console.roles = r.console.settledRoles t failure :=
    settleToggle_roles _ _ _
  constructor
  · intro i s hother
    rw [hstages] at hother
    split_ifs at hother with hi
    · cases hother
    · obtain ⟨previous, hbegan, hrole⟩ := h.pending i s hother
      refine ⟨previous, hbegan.later (by simp), ?_⟩
      -- the other change is of another node, or both requests would hold one slot
      rw [hroles, role?_settledRoles, if_neg, hrole]
      intro hnode
      refine hi (hexclusive.apart id i t.node (slot?_of_stage? r hpatching) ?_)
      rw [slot?_of_stage? r hother, Stage.node, hnode]
  · intro n role hrole hp
    rw [hroles, role?_settledRoles] at hrole
    split_ifs at hrole with hn hcached
    · obtain ⟨before, -, rfl⟩ := Option.map_eq_some_iff.mp hrole
      rw [isPending_outcomeRole] at hp
      cases hp
    · obtain ⟨i, s, hother, hnode⟩ := h.patching n role hrole hp
      refine ⟨i, s, ?_, hnode⟩
      rw [hstages, if_neg, hother]
      rintro rfl
      rw [hpatching] at hother
      cases hother
      exact hn hnode
  · intro i node n
    rw [hstages]
    split_ifs with hi
    · simp
    · exact h.answers i node n

/-- **The requests go on accounting for the pending nodes** as long as none is given up. -/
theorem Turn.accounted (hturn : Turn r e r') (hkept : e.givesUp = false)
    (hleads : Leads config clock history r) (hexclusive : r.Exclusive)
    (h : Accounted config clock history r) :
    Accounted config clock (history ++ [(e, outputs)]) r' := by
  cases hturn with
  | still hevent hinFlight hpending hstages =>
      refine h.turned (fun id _ _ => hevent id) hpending (fun id t => by rw [hstages]) ?_
      intro id node n
      rw [hstages]
      exact h.answers id node n
  | @claimed id node enabled hnew hfree =>
      refine h.advance (by simp) (.refl _) (stage?_withRequest _ _ _) ?_ (by simp [Request.stage?])
        (by simp [Request.stage?])
      rw [stage?_of_new r hnew]
      simp
  | @looked id node enabled c start hclaimed hbegins =>
      have hstage : r.stage? id = some (.claimed node enabled) := stage?_of_request r hclaimed
      have hstages := stage?_withRequest (r.withConsole c) id (afterLook node start)
      cases hbegins with
      | unknown hrole => exact h.answer hstage (.refl _) hstages (by simp)
      | unchanged hrole hsettled hsame => exact h.answer hstage (.refl _) hstages (by simp)
      | gone hrole hcached =>
          -- the node is dropped, which a pending one would not be
          refine h.answer hstage ?_ hstages (by simp)
          rw [withRequest, withConsole, recompute_roles]
          exact NodeRoles.samePending_forget _ _
      | underway hrole hpending =>
          -- cannot happen to a request that holds the slot
          rw [h.not_pending hexclusive hstage hrole] at hpending
          cases hpending
      | begun hrole hsettled hdiffers hcached =>
          exact h.begin hleads hclaimed hrole hsettled rfl hstages
  | @settled id t failure hwaiting =>
      exact h.settle hexclusive (stage?_of_request r hwaiting) failure
  | @released id node answer hsettled =>
      have hstage : r.stage? id = some (.settled node answer) := stage?_of_request r hsettled
      refine h.advance (by simp) (.refl _) (stage?_without _ _) ?_ (by simp) (by simp)
      rw [hstage]
      simp
  | abandoned hwaiting => cases hkept

/-! ## 6. Runs -/

theorem Leads.exclusive (h : Leads config clock history r)
    (hkept : ∀ x ∈ history, x.1.givesUp = false) : r.Exclusive := by
  induction h with
  | start => exact exclusive_start config clock
  | step hleads hnext ih =>
      refine (step_of_next? hnext).turn.exclusive ?_ (ih fun x hx => ?_)
      · exact hkept _ (List.mem_append_right _ List.mem_cons_self)
      · exact hkept x (List.mem_append_left _ hx)

theorem Leads.accounted (h : Leads config clock history r)
    (hkept : ∀ x ∈ history, x.1.givesUp = false) : Accounted config clock history r := by
  induction h with
  | start => exact accounted_start config clock
  | step hleads hnext ih =>
      have hbefore := fun x hx => hkept x (List.mem_append_left _ hx)
      refine (step_of_next? hnext).turn.accounted ?_ hleads (hleads.exclusive hbefore) (ih hbefore)
      exact hkept _ (List.mem_append_right _ List.mem_cons_self)

/-- Two changes of the same node are one. -/
theorem Exclusive.patching_apart (h : r.Exclusive) {i j : Nat} {s t : SentToggle}
    (hi : r.stage? i = some (.patching s)) (hj : r.stage? j = some (.patching t))
    (hnode : s.node = t.node) : i = j := by
  refine h.apart i j t.node ?_ (slot?_of_stage? r hj)
  rw [slot?_of_stage? r hi, Stage.node, hnode]

theorem Exclusive.refused_iff (h : r.Exclusive) {id : Nat} {node : String} {enabled : Bool}
    (hnew : r.requests.contains id = false) :
    r.next? (.ask id (.toggleRole node enabled))
        = some (r, [.answered (.refused (.toggleInFlight node))]) ↔
      ∃ other, r.slot? other = some node := by
  rw [← h.taken]
  simp only [next?, hnew, ask, claimSlot]
  by_cases htaken : r.console.inFlight.contains node = true
  · simp [htaken]
  · simp [htaken]

theorem Accounted.pending_iff (h : Accounted config clock history r) {node : String}
    {previous target : Bool} :
    r.console.roles.role? node = some (.pending previous target) ↔
      ∃ id t, r.stage? id = some (.patching t) ∧ t.node = node ∧ t.enabled = target ∧
        BeganFrom config clock history id node target previous := by
  constructor
  · intro hrole
    obtain ⟨id, t, hpatching, rfl⟩ := h.patching node _ hrole rfl
    obtain ⟨found, hbegan, hpending⟩ := h.pending id t hpatching
    rw [hrole] at hpending
    cases hpending
    exact ⟨id, t, hpatching, rfl, rfl, hbegan⟩
  · rintro ⟨id, t, hpatching, rfl, rfl, hbegan⟩
    obtain ⟨found, hfound, hpending⟩ := h.pending id t hpatching
    rw [hbegan.unique hfound, hpending]

/-- A request that waits for the outcome of its patch takes it in and reports what the console
makes of it. -/
theorem settle_waiting {id : Nat} {t : SentToggle}
    (hwaiting : r.requests[id]? = some (.waiting (.patchNode t)))
    (failure : Option ConsoleError) :
    ∃ r', r.next? (.settle id failure) = some (r', []) ∧
      r'.stage? id
        = some (.settled t.node (.toggled (r.console.settleToggle t failure).2)) := by
  refine ⟨r.settle id t failure, next?_settle hwaiting failure, ?_⟩
  rw [stage?_of_request _ (request_settle r id t failure)]
  rfl

/-- In every run in which no request is given up, whatever the order of events:

* no two patches are under way for the same node;
* a node is pending exactly if a patch for it is under way, and then the role says what the request
  asks for and what the node was when the request looked;
* a request is refused because of a change in flight exactly if another one holds the slot of the
  node, so one that holds its slot is never answered so, and can always begin its change;
* when the outcome of a patch comes in, the node is still there and pending, so settling it leaves a
  role to report, which is just what was asked for or just what was there before. -/
theorem one_change_for_each_node (h : Leads config clock history r)
    (hkept : ∀ x ∈ history, x.1.givesUp = false) :
    (∀ i j s t, r.stage? i = some (.patching s) → r.stage? j = some (.patching t) →
      s.node = t.node → i = j) ∧
    (∀ node previous target,
      r.console.roles.role? node = some (.pending previous target) ↔
        ∃ id t, r.stage? id = some (.patching t) ∧ t.node = node ∧ t.enabled = target ∧
          BeganFrom config clock history id node target previous) ∧
    (∀ id node enabled, r.requests.contains id = false →
      (r.next? (.ask id (.toggleRole node enabled))
          = some (r, [.answered (.refused (.toggleInFlight node))]) ↔
        ∃ other, r.slot? other = some node)) ∧
    (∀ id node n, r.stage? id ≠ some (.settled node (.refused (.toggleInFlight n)))) ∧
    (∀ id node enabled role, r.stage? id = some (.claimed node enabled) →
      r.console.roles.role? node = some role →
        ∃ roles, r.console.roles.begin node enabled = .ok (role.isSelected, roles)) ∧
    ∀ id t, r.requests[id]? = some (.waiting (.patchNode t)) → ∃ previous,
      BeganFrom config clock history id t.node t.enabled previous ∧
      r.console.roles.role? t.node = some (.pending previous t.enabled) ∧
      (r.console.roles.resolve t.node).role? t.node = some (.ofFlag t.enabled) ∧
      (r.console.roles.revert t.node).role? t.node = some (.ofFlag previous) ∧
      (∃ r', r.next? (.settle id none) = some (r', []) ∧
        r'.stage? id = some (.settled t.node (.toggled (.applied (.ofFlag t.enabled))))) ∧
      ∀ e, ∃ r', r.next? (.settle id (some e)) = some (r', []) ∧
        r'.stage? id
          = some (.settled t.node (.toggled (.rolledBack (.ofFlag previous) e.message))) := by
  have hexclusive := h.exclusive hkept
  have haccounted := h.accounted hkept
  refine ⟨fun i j s t => hexclusive.patching_apart, fun _ _ _ => haccounted.pending_iff,
    fun _ _ _ => hexclusive.refused_iff, haccounted.answers, ?_, ?_⟩
  · intro id node enabled role hclaimed hrole
    have hsettled := haccounted.not_pending hexclusive hclaimed hrole
    exact ⟨_, NodeRoles.begin_of_settled hrole hsettled enabled⟩
  · intro id t hwaiting
    obtain ⟨previous, hbegan, hrole⟩ := haccounted.pending id t (stage?_of_request r hwaiting)
    refine ⟨previous, hbegan, hrole, NodeRoles.role?_resolve_of_pending hrole,
      NodeRoles.role?_revert_of_pending hrole, ?_, fun e => ?_⟩
    · rw [← settleToggle_none_outcome hrole]
      exact settle_waiting hwaiting none
    · rw [← settleToggle_some_outcome hrole e]
      exact settle_waiting hwaiting (some e)

/-- Changes of two nodes overlap, a second one of `c` is asked for, and `c` leaves the snapshot
while its patch is out. -/
def overlappingChanges : List (RunEvent × List RunOutput) × Run :=
  let node := StorageNode.bearing Config.standard.storageRoleLabel
  (start .standard .epoch).play
    [.nodes (.ofData [node "a" true, node "b" true, node "c" false]),
      .ask 0 (.toggleRole "c" true), .look 0, .ask 1 (.toggleRole "a" false), .send 0,
      .ask 2 (.toggleRole "c" false), .nodes (.ofData [node "a" true, node "b" true]), .look 1]

theorem one_change_for_each_node_overlapping :
    Leads .standard .epoch overlappingChanges.1 overlappingChanges.2 ∧
      (∀ x ∈ overlappingChanges.1, x.1.givesUp = false) ∧
      ∃ id t, overlappingChanges.2.stage? id = some (.patching t) ∧ t.node = "c" ∧
        t.enabled = true ∧
        BeganFrom .standard .epoch overlappingChanges.1 id "c" true false := by
  have hleads : Leads .standard .epoch overlappingChanges.1 overlappingChanges.2 :=
    leads_play _ _ _
  have hkept : ∀ x ∈ overlappingChanges.1, x.1.givesUp = false := by decide +kernel
  obtain ⟨-, hpending, -⟩ := one_change_for_each_node hleads hkept
  exact ⟨hleads, hkept, (hpending "c" false true).mp (by decide +kernel)⟩

end History

end Run

end LunConsole

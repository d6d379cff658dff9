import LunConsole.Proofs.Console.Slots
/-!
# What holds of changes that may be given up

A request that is given up keeps its slot taken and its node pending, so taken slots and pending
nodes no longer tell which requests there are. The other direction is untouched: a request that is
there holds its slot alone, and the node of its patch is pending for it. That much is kept by every
turn, and it is what settling a change needs, whoever else has gone.
-/

set_option autoImplicit false

namespace LunConsole

namespace Run

open Console

/-- Each request holds its slot, no two hold the same one, and the node of a patch that is under way
is pending for what the request asked for. -/
structure Tenured (r : Run) : Prop where
  taken : ∀ id n, r.slot? id = some n → r.console.inFlight.contains n = true
  apart : r.SlotsApart
  pending : ∀ id t, r.stage? id = some (.patching t) →
    ∃ previous, r.console.roles.role? t.node = some (.pending previous t.enabled)

theorem tenured_start (config : Config) (clock : Instant) : (start config clock).Tenured := by
  constructor
  · intro id n h
    simp [slot?, stage?_start] at h
  · intro i j n h
    simp [slot?, stage?_start] at h
  · intro id t h
    simp [stage?_start] at h

variable {r r' : Run} {e : RunEvent}

/-- Two changes of the same node are one. -/
theorem Tenured.patching_apart (h : r.Tenured) {i j : Nat} {s t : SentToggle}
    (hi : r.stage? i = some (.patching s)) (hj : r.stage? j = some (.patching t))
    (hnode : s.node = t.node) : i = j := by
  refine h.apart i j t.node ?_ (slot?_of_stage? r hj)
  rw [slot?_of_stage? r hi, Stage.node, hnode]

/-- A request that has claimed a slot does not share it with a change under way. -/
theorem Tenured.node_ne_of_claimed (h : r.Tenured) {i j : Nat} {node : String} {enabled : Bool}
    {t : SentToggle} (hi : r.stage? i = some (.claimed node enabled))
    (hj : r.stage? j = some (.patching t)) : t.node ≠ node := by
  intro hnode
  have hsame : i = j := by
    refine h.apart i j node (slot?_of_stage? r hi) ?_
    rw [slot?_of_stage? r hj, Stage.node, hnode]
  rw [← hsame, hi] at hj
  cases hj

/-- Where slots and stages only go, and what is pending stays. -/
theorem Tenured.fewer (h : r.Tenured)
    (htaken : ∀ id n, r'.slot? id = some n → r'.console.inFlight.contains n = true)
    (hslots : ∀ i n, r'.slot? i = some n → r.slot? i = some n)
    (hstages : ∀ i t, r'.stage? i = some (.patching t) → r.stage? i = some (.patching t))
    (hpending : ∀ i t, r'.stage? i = some (.patching t) → ∀ role, role.isPending = true →
      r.console.roles.role? t.node = some role → r'.console.roles.role? t.node = some role) :
    r'.Tenured := by
  refine ⟨htaken, fun i j n hi hj => h.apart i j n (hslots i n hi) (hslots j n hj), ?_⟩
  intro id t hpatching
  obtain ⟨previous, hrole⟩ := h.pending id t (hstages id t hpatching)
  exact ⟨previous, hpending id t hpatching _ rfl hrole⟩

theorem Tenured.claim (h : r.Tenured) {id : Nat} {node : String} {enabled : Bool}
    (hfree : r.console.inFlight.contains node = false) :
    ((r.withConsole { r.console with inFlight := r.console.inFlight.insert node }).withRequest
      id (.claimed node enabled)).Tenured := by
  have hunheld (i : Nat) : r.slot? i ≠ some node := by
    intro hi
    rw [h.taken i node hi] at hfree
    cases hfree
  have hslots := slot?_withRequest
    (r.withConsole { r.console with inFlight := r.console.inFlight.insert node }) id
    (.claimed node enabled)
  refine ⟨?_, h.apart.claim hunheld hslots, ?_⟩
  · intro i n hi
    rw [hslots] at hi
    simp only [withRequest, withConsole, Std.ExtTreeSet.contains_insert, Bool.or_eq_true,
      beq_iff_eq, Std.compare_eq_iff_eq]
    split_ifs at hi
    · exact .inl (Option.some.inj hi)
    · exact .inr (h.taken i n hi)
  · intro i t hpatching
    rw [stage?_withRequest] at hpatching
    split_ifs at hpatching
    · cases hpatching
    · exact h.pending i t hpatching

/-- A look at the state makes no other node pending and settles none. -/
theorem Tenured.look (h : r.Tenured) {id : Nat} {node : String} {enabled : Bool} {c : Console}
    {start : ToggleStart} (hclaimed : r.requests[id]? = some (.claimed node enabled))
    (hbegins : Begins r.console node enabled (c, start)) :
    ((r.withConsole c).withRequest id (afterLook node start)).Tenured := by
  have hstage : r.stage? id = some (.claimed node enabled) := stage?_of_request r hclaimed
  have hstages := stage?_withRequest (r.withConsole c) id (afterLook node start)
  have hslots (i : Nat) :
      ((r.withConsole c).withRequest id (afterLook node start)).slot? i = r.slot? i := by
    refine slot?_withRequest_eq (r.withConsole c) ?_ i
    rw [node_afterLook hbegins]
    exact (slot?_of_stage? r hstage).symm
  refine ⟨?_, ?_, ?_⟩
  · intro i n hi
    rw [hslots] at hi
    exact hbegins.inFlight_eq ▸ h.taken i n hi
  · intro i j n hi hj
    rw [hslots] at hi hj
    exact h.apart i j n hi hj
  · intro i t hpatching
    rw [hstages] at hpatching
    cases hbegins with
    | unknown hrole =>
        split_ifs at hpatching
        · cases hpatching
        · exact h.pending i t hpatching
    | unchanged hrole hsettled hsame =>
        split_ifs at hpatching
        · cases hpatching
        · exact h.pending i t hpatching
    | underway hrole hpending =>
        split_ifs at hpatching
        · cases hpatching
        · exact h.pending i t hpatching
    | gone hrole hcached =>
        split_ifs at hpatching
        · cases hpatching
        · obtain ⟨previous, hrole'⟩ := h.pending i t hpatching
          refine ⟨previous, ?_⟩
          rw [withRequest, withConsole, recompute_roles]
          exact (NodeRoles.samePending_forget _ _ _ _ rfl).mpr hrole'
    | @begun role copy hrole hsettled hdiffers hcached =>
        split_ifs at hpatching with hi
        · cases hpatching
          exact ⟨role.isSelected, NodeRoles.role?_withRole_self _ _ _⟩
        · obtain ⟨previous, hrole'⟩ := h.pending i t hpatching
          refine ⟨previous, ?_⟩
          rw [← hrole']
          exact NodeRoles.role?_withRole_of_ne _ _ (h.node_ne_of_claimed hstage hpatching)

/-- Settling a change settles the node of no other one. -/
theorem Tenured.settle (h : r.Tenured) {id : Nat} {t : SentToggle}
    (hpatching : r.stage? id = some (.patching t)) (failure : Option ConsoleError) :
    (r.settle id t failure).Tenured := by
  have hstages (i : Nat) : (r.settle id t failure).stage? i
      = if id = i then some (.settled t.node (.toggled (r.console.settleToggle t failure).2))
        else r.stage? i := stage?_withRequest (r.withConsole _) id _ i
  have hslots (i : Nat) : (r.settle id t failure).slot? i = r.slot? i := by
    refine slot?_withRequest_eq (r.withConsole _) ?_ i
    exact (slot?_of_stage? r hpatching).symm
  have hinFlight : (r.settle id t failure).console.inFlight = r.console.inFlight :=
    settleToggle_inFlight _ _ _
  have hroles : (r.settle id t failure).console.roles = r.console.settledRoles t failure :=
    settleToggle_roles _ _ _
  refine h.fewer ?_ (fun i n hi => (hslots i).symm.trans hi) ?_ ?_
  · intro i n hi
    rw [hslots] at hi
    rw [hinFlight]
    exact h.taken i n hi
  · intro i s hs
    rw [hstages] at hs
    split_ifs at hs
    · cases hs
    · exact hs
  · intro i s hs role _ hrole
    rw [hstages] at hs
    split_ifs at hs with hi
    · cases hs
    · rw [hroles, role?_settledRoles, if_neg]
      · exact hrole
      · exact fun hnode => hi (h.patching_apart hpatching hs hnode)

/-- **Every turn** leaves the requests that go on with what they hold. -/
theorem Turn.tenured (hturn : Turn r e r') (h : r.Tenured) : r'.Tenured := by
  cases hturn with
  | still hevent hinFlight hpending hstages =>
      have hslots (i : Nat) : r'.slot? i = r.slot? i := by rw [slot?, slot?, hstages]
      refine h.fewer ?_ (fun i n hi => (hslots i).symm.trans hi)
        (fun i t hi => (hstages i).symm.trans hi) ?_
      · intro id n hid
        rw [hslots] at hid
        exact hinFlight ▸ h.taken id n hid
      · exact fun i t _ role hp hrole => (hpending _ _ hp).mpr hrole
  | claimed hnew hfree => exact h.claim hfree
  | looked hclaimed hbegins => exact h.look hclaimed hbegins
  | settled hwaiting => exact h.settle (stage?_of_request r hwaiting) _
  | @released id node answer hsettled =>
      have hslots := slot?_without (r.withConsole (r.console.releaseSlot node)) id
      have hstages := stage?_without (r.withConsole (r.console.releaseSlot node)) id
      have hid : r.slot? id = some node := slot?_of_stage? r (stage?_of_request r hsettled)
      refine h.fewer ?_ ?_ ?_ fun i t _ role _ hrole => hrole
      · intro i n hi
        rw [hslots] at hi
        split_ifs at hi with hidi
        -- whoever goes on holds another slot than the one that is released
        have hn : node ≠ n := by
          rintro rfl
          exact hidi (h.apart id i node hid hi)
        simp [without, withConsole, releaseSlot, hn, h.taken i n hi]
      · intro i n hi
        rw [hslots] at hi
        split_ifs at hi
        exact hi
      · intro i t hi
        rw [hstages] at hi
        split_ifs at hi
        exact hi
  | @abandoned id t hwaiting =>
      have hfewer (i : Nat) (n : String) (hi : (r.without id).slot? i = some n) :
          r.slot? i = some n := by
        rw [slot?_without] at hi
        split_ifs at hi
        exact hi
      refine h.fewer (fun i n hi => h.taken i n (hfewer i n hi)) hfewer ?_
        fun i t _ role _ hrole => hrole
      intro i s hi
      rw [stage?_without] at hi
      split_ifs at hi
      exact hi

theorem Leads.tenured {config : Config} {clock : Instant}
    {history : List (RunEvent × List RunOutput)} (h : Leads config clock history r) :
    r.Tenured := by
  induction h with
  | start => exact tenured_start config clock
  | step _ hnext ih => exact (step_of_next? hnext).turn.tenured ih

end Run

end LunConsole

import LunConsole.Proofs.Server.World
/-!
# Applied changes and late lists

Lists of nodes are delivered in the order in which the server has made them, but late and more than
once. So after a change of a node has been reported as applied, a list may come in that was made
before it. Such a list shows the node at the version from which the patch was built, since the
server has accepted the patch at that version only, and this is the version that the guard of the
node holds. The list is passed over, and the role stays as the change has left it. The first list
that shows the node after the change has another version; it is read and takes the guard away.

Places in the history of a node are numbered by the writes so far. The invariant (`Fresh`) keeps for
every role a place at which the label of the node was just that, and which no applied change is
past. For every change that was reported as applied it says that a list has shown the node after it,
or else that the last list is the one from which the patch was built, the guard holds its version,
and the role is what was asked for (`Held`). A change that is under way may well have been built
from an outdated list; the server will not accept it, so only changes that it has accepted
(`Promised`) have to be built from what was the present revision then.
-/

set_option autoImplicit false

namespace LunConsole

namespace World

/-! ## 1. Lists in order -/

/-- The list shows every node as it was after so many writes, if it was listed then. -/
def Shows (server : Server) (upTo : String → Nat) (data : List StorageNode) : Prop :=
  ∀ copy, copy ∈ data ↔ ∃ rev, server.after copy.name (upTo copy.name) = some rev ∧
    rev.listed = true ∧ copy = rev.copy copy.name

/-- Lists are late but in order: none goes behind the one before it. -/
def InOrder (w : World) (s : Snapshot StorageNode) (upTo : String → Nat) : Prop :=
  (∀ n, w.seen n ≤ upTo n ∧ upTo n ≤ w.server.writes n) ∧ Shows w.server upTo s.data

section Shows

variable {server server' : Server} {upTo : String → Nat} {data : List StorageNode}
  {copy : StorageNode} {n : String} {rev : Revision}

/-- A list shows a node once. -/
theorem Shows.unique (h : Shows server upTo data) (hcopy : copy ∈ data) :
    ∀ x ∈ data, x.name = copy.name → x = copy := by
  intro x hx hname
  obtain ⟨rev, hrev, -, hread⟩ := (h copy).mp hcopy
  obtain ⟨rev', hrev', -, hread'⟩ := (h x).mp hx
  rw [hname] at hrev' hread'
  obtain rfl := Option.some.inj (hrev.symm.trans hrev')
  rw [hread, hread', ← hread]

theorem Shows.mem_of_after (h : Shows server upTo data) (hrev : server.after n (upTo n) = some rev)
    (hlisted : rev.listed = true) : rev.copy n ∈ data :=
  (h (rev.copy n)).mpr ⟨rev, hrev, hlisted, rfl⟩

/-- What a list shows is past, so it stays so. -/
theorem Shows.later (h : Shows server upTo data) (hextends : server.Extends server')
    (hupTo : ∀ n, upTo n ≤ server.writes n) : Shows server' upTo data := by
  intro copy
  rw [h copy, hextends.after_eq (hupTo copy.name)]

end Shows

theorem InOrder.anyRead {w : World} {s : Snapshot StorageNode} {upTo : String → Nat}
    (h : InOrder w s upTo) : AnyRead w s upTo := by
  intro copy hcopy
  obtain ⟨rev, hrev, -, hread⟩ := (h.2 copy).mp hcopy
  exact ⟨rev, Server.mem_of_after hrev, hread⟩

variable {config : Config} {clock : Instant} {w w' : World}

theorem Reaches.anyRead (h : Reaches InOrder config clock w) : Reaches AnyRead config clock w :=
  h.mono fun _ _ _ hin => hin.anyRead

theorem Reaches.tenured (h : Reaches InOrder config clock w) : w.run.Tenured := by
  obtain ⟨past, hpast, -⟩ := h.anyRead.chronicle
  exact hpast.tenured

/-! ## 2. The invariant -/

/-- The changes of the node that were reported as applied are not past that place. -/
def AppliedBy (w : World) (n : String) (k : Nat) : Prop :=
  ∀ a ∈ w.applied, a.toggle.node = n → a.writes ≤ k

/-- The patch was built from the revision at that place, which a list has shown. -/
def BuiltAt (w : World) (t : SentToggle) (k : Nat) : Prop :=
  k ≤ w.seen t.node ∧ ∃ rev, w.server.after t.node k = some rev ∧ rev.listed = true ∧
    t.readAt = some rev.version

/-- The server has accepted the patch, which it could only do while the revision from which it was
built was the present one. -/
def Promised (label : Label) (w : World) (t : SentToggle) (g : Nat) : Prop :=
  ∃ k, BuiltAt w t k ∧ AppliedBy w t.node k ∧ k ≤ g ∧ g ≤ k + 1 ∧
    ∃ rev, w.server.after t.node g = some rev ∧ rev.bears label = t.enabled

/-- No list has shown the node after the change, and the guard keeps out the last one. -/
def Held (w : World) (a : Applied) : Prop :=
  a.writes = w.seen a.toggle.node + 1 ∧
    ∃ rev role, w.server.after a.toggle.node (w.seen a.toggle.node) = some rev ∧
      rev.listed = true ∧ w.run.console.roles.guard? a.toggle.node = some rev.version ∧
      w.run.console.roles.role? a.toggle.node = some role ∧ role.isSelected = a.toggle.enabled

/-- What holds of every world in which lists come in order. -/
structure Fresh (config : Config) (w : World) : Prop where
  seen_le : ∀ n, w.seen n ≤ w.server.writes n
  shows : Shows w.server w.seen w.run.console.nodes.data
  built : ∀ i t, w.run.stage? i = some (.patching t) → ∃ k, BuiltAt w t k
  granted : ∀ i t g, w.run.requests[i]? = some (.waiting (.patchNode t)) →
    w.granted i = some g → Promised config.storageRoleLabel w t g
  roles : ∀ n role, w.run.console.roles.role? n = some role → ∃ k rev,
    w.server.after n k = some rev ∧ rev.bears config.storageRoleLabel = role.isSelected ∧
    AppliedBy w n k
  applied : ∀ a ∈ w.applied, a.writes ≤ w.server.writes a.toggle.node ∧
    (a.writes ≤ w.seen a.toggle.node ∨ Held w a)

theorem fresh_start (config : Config) (clock : Instant) : Fresh config (start config clock) := by
  have hnodes : (Run.start config clock).console.nodes = .empty := Console.recompute_nodes _
  have hroles : (Run.start config clock).console.roles = .empty := Console.recompute_roles _
  constructor
  · exact fun n => Nat.le_refl _
  · intro copy
    rw [start, hnodes]
    constructor
    · exact fun hcopy => absurd hcopy List.not_mem_nil
    · rintro ⟨rev, hrev, -⟩
      cases hrev
  · intro i t hpatching
    rw [start, Run.stage?_start] at hpatching
    cases hpatching
  · intro i t g hwaiting
    simp [start, Run.start] at hwaiting
  · intro n role hrole
    rw [start, hroles] at hrole
    simp [NodeRoles.role?, NodeRoles.empty] at hrole
  · exact fun a ha => absurd ha List.not_mem_nil

section Steps

/-! ## 3. The server goes on -/

theorem BuiltAt.later {t : SentToggle} {k : Nat} (h : BuiltAt w t k)
    (hextends : w.server.Extends w'.server) (hseen : w.seen t.node ≤ w'.seen t.node) :
    BuiltAt w' t k := by
  obtain ⟨hk, rev, hrev, hrest⟩ := h
  exact ⟨Nat.le_trans hk hseen, rev, hextends.after hrev, hrest⟩

theorem Promised.later {label : Label} {t : SentToggle} {g : Nat} (h : Promised label w t g)
    (hextends : w.server.Extends w'.server) (hseen : w.seen t.node ≤ w'.seen t.node)
    (happlied : ∀ a ∈ w'.applied, a.toggle.node = t.node → a ∈ w.applied) :
    Promised label w' t g := by
  obtain ⟨k, hbuilt, hby, hkg, hgk, rev, hrev, hbears⟩ := h
  exact ⟨k, hbuilt.later hextends hseen, fun a ha hnode => hby a (happlied a ha hnode) hnode,
    hkg, hgk, rev, hextends.after hrev, hbears⟩

/-- Where only the server goes on, and with it what it has promised. -/
theorem Fresh.serverStep (h : Fresh config w) {server : Server} {granted : Nat → Option Nat}
    (hextends : w.server.Extends server)
    (hgranted : ∀ i t g, w.run.requests[i]? = some (.waiting (.patchNode t)) →
      granted i = some g →
        Promised config.storageRoleLabel { w with server, granted } t g) :
    Fresh config { w with server, granted } := by
  constructor
  · exact fun n => Nat.le_trans (h.seen_le n) (hextends.writes_le n)
  · exact h.shows.later hextends h.seen_le
  · intro i t hpatching
    obtain ⟨k, hk⟩ := h.built i t hpatching
    exact ⟨k, hk.later hextends (Nat.le_refl _)⟩
  · exact hgranted
  · intro n role hrole
    obtain ⟨k, rev, hrev, hrest⟩ := h.roles n role hrole
    exact ⟨k, rev, hextends.after hrev, hrest⟩
  · intro a ha
    obtain ⟨hwrites, hseen | ⟨hnext, rev, role, hrev, hrest⟩⟩ := h.applied a ha
    · exact ⟨Nat.le_trans hwrites (hextends.writes_le _), .inl hseen⟩
    · exact ⟨Nat.le_trans hwrites (hextends.writes_le _),
        .inr ⟨hnext, rev, role, hextends.after hrev, hrest⟩⟩

/-- A patch that the server accepts was built from the present revision. -/
theorem Fresh.promised (h : Fresh config w) (hsound : Sound config w) {i : Nat} {t : SentToggle}
    (hpatching : w.run.stage? i = some (.patching t)) {server : Server}
    (haccepts : w.server.Accepts t.node t.ops server) (granted : Nat → Option Nat) :
    Promised config.storageRoleLabel { w with server, granted } t (server.writes t.node) := by
  obtain ⟨k, hk, rev, hrev, hlisted, hreadAt⟩ := h.built i t hpatching
  obtain ⟨known, hknown, hreadAt', hops⟩ := hsound.patches i t hpatching
  have hversion : rev.version = known.version := by
    rw [hreadAt] at hreadAt'
    exact Option.some.inj hreadAt'
  obtain rfl := hsound.distinct.eq_of_version (Server.mem_of_after hrev) hknown hversion
  have hextends := haccepts.extends
  have hwrites := haccepts.writes_le
  rw [hops] at haccepts
  obtain ⟨hcurrent, after, hafter, hlabels⟩ := haccepts.of_recorded hsound.distinct hknown
  have hplace : k = w.server.writes t.node := hsound.distinct.place_eq hrev hcurrent rfl
  refine ⟨k, ⟨hk, rev, hextends.after hrev, hlisted, hreadAt⟩, ?_, ?_, ?_, after, hafter,
    Revision.bears_of_labelsWith hlabels⟩
  · intro a ha hnode
    rw [hplace, ← hnode]
    exact (h.applied a ha).1
  · rw [hplace]
    exact hwrites.1
  · rw [hplace]
    exact hwrites.2

/-! ## 4. The run goes on -/

theorem waiting_withRequest {r : Run} {id i : Nat} {q : Request} {call : Call}
    (hq : q ≠ .waiting call) (h : (r.withRequest id q).requests[i]? = some (.waiting call)) :
    r.requests[i]? = some (.waiting call) := by
  rw [Run.requests_withRequest] at h
  split_ifs at h
  · exact absurd (Option.some.inj h) hq
  · exact h

theorem waiting_without {r : Run} {id i : Nat} {call : Call}
    (h : (r.without id).requests[i]? = some (.waiting call)) :
    r.requests[i]? = some (.waiting call) := by
  rw [Run.requests_without] at h
  split_ifs at h
  exact h

/-- No event but sending it makes a request wait for the outcome of its patch. -/
theorem waiting_patch_origin {r r' : Run} {e : RunEvent} {outputs : List RunOutput}
    (hnext : r.next? e = some (r', outputs)) {i : Nat} {t : SentToggle}
    (h : r'.requests[i]? = some (.waiting (.patchNode t))) :
    r.requests[i]? = some (.waiting (.patchNode t)) ∨ e = .send i ∧ r.sent? e = some t := by
  cases Run.step_of_next? hnext with
  | nodes s => exact .inl h
  | discovery s => exact .inl h
  | disks s => exact .inl h
  | tick now => exact .inl h
  | refused hnew htaken => exact .inl h
  | done hnew hidle => exact .inl h
  | claimed hnew hfree => exact .inl (waiting_withRequest (r := r.withConsole _) (by simp) h)
  | planned hnew hplans => exact .inl (waiting_withRequest (by simp) h)
  | @looked id node enabled c start hclaimed hbegin hbegins =>
      refine .inl (waiting_withRequest (r := r.withConsole c) ?_ h)
      cases start with
      | refused error => simp [Run.afterLook]
      | unchanged role => simp [Run.afterLook]
      | sent built => simp [Run.afterLook]
  | @sent id call hready =>
      rw [Run.requests_withRequest] at h
      split_ifs at h with hi
      · cases h
        refine .inr ⟨by rw [hi], ?_⟩
        simp only [Run.sent?, hready]
      · exact .inl h
  | settled hwaiting => exact .inl (waiting_withRequest (r := r.withConsole _) (by simp) h)
  | released hsettled => exact .inl (waiting_without (r := r.withConsole _) h)
  | abandoned hwaiting => exact .inl (waiting_without h)
  | finished hreply hcall hwaiting hidle =>
      exact .inl (waiting_without (r := r.withConsole _) h)

variable {e : RunEvent} {run : Run} {outputs : List RunOutput}

/-- Patches are built from the last list. -/
theorem Fresh.built_next (h : Fresh config w) (hnext : w.run.next? e = some (run, outputs))
    {i : Nat} {t : SentToggle} (hpatching : run.stage? i = some (.patching t)) :
    ∃ k, BuiltAt w t k := by
  rcases (Run.roleTurn_of_next? hnext).patching hpatching with
    hi | ⟨role, copy, -, -, -, hcached, hreadAt, -⟩
  · exact h.built i t hi
  · obtain ⟨rev, hrev, hlisted, hcopy⟩ := (h.shows copy).mp (Console.mem_of_cached? hcached)
    rw [Console.name_of_cached? hcached] at hrev hcopy
    exact ⟨_, Nat.le_refl _, rev, hrev, hlisted, by rw [hreadAt, hcopy]; rfl⟩

/-- A change goes on being held while no list comes in and nothing else of its node is reported as
applied. -/
theorem Fresh.held_next (h : Fresh config w) (htenured : w.run.Tenured)
    (hnext : w.run.next? e = some (run, outputs)) (hunread : ∀ s, e ≠ .nodes s) {a : Applied}
    (hunapplied : w.run.appliedTo? e a.toggle.node = none) (hheld : Held w a)
    (hrun : w'.run = run) (hserver : w'.server = w.server) (hseen : w'.seen = w.seen) :
    Held w' a := by
  obtain ⟨hnext', rev, role, hrev, hlisted, hguard, hrole, hflag⟩ := hheld
  have hturn := Run.roleTurn_of_next? hnext
  have hcached : (w.run.console.cached? a.toggle.node).isSome = true :=
    Console.cached?_isSome_of_mem (h.shows.mem_of_after hrev hlisted)
  obtain ⟨role', hrole'⟩ := hturn.known hunread hcached hrole
  obtain ⟨known, hknown, hflag'⟩ := hturn.flag htenured hunread hrole'
  obtain rfl := Option.some.inj (hknown.symm.trans hrole)
  have hguard' := hturn.guard_eq htenured hunread hcached
  rw [hunapplied] at hflag' hguard'
  rw [Held, hrun, hserver, hseen]
  exact ⟨hnext', rev, role', hrev, hlisted, hguard'.trans hguard, hrole', hflag'.trans hflag⟩

/-- Where the run goes on without a list and nothing is reported as applied. -/
theorem Fresh.quietStep (h : Fresh config w) (htenured : w.run.Tenured)
    (hnext : w.run.next? e = some (run, outputs)) (hunread : ∀ s, e ≠ .nodes s)
    (hunapplied : w.run.applied? e = none) {sent : List SentToggle} {granted : Nat → Option Nat}
    (hgranted : ∀ i t g, run.requests[i]? = some (.waiting (.patchNode t)) → granted i = some g →
      w.run.requests[i]? = some (.waiting (.patchNode t)) ∧ w.granted i = some g) :
    Fresh config { w with run, sent, granted } := by
  have happliedTo (n : String) : w.run.appliedTo? e n = none := by
    rw [Run.appliedTo?, hunapplied]
    rfl
  constructor
  · exact h.seen_le
  · rw [Run.nodes_of_next? hnext hunread]
    exact h.shows
  · exact fun i t => h.built_next hnext
  · intro i t g hwaiting hg
    obtain ⟨hwaiting', hg'⟩ := hgranted i t g hwaiting hg
    exact (h.granted i t g hwaiting' hg').later (.refl _) (Nat.le_refl _) fun a ha _ => ha
  · intro n role' hrole'
    obtain ⟨role, hrole, hflag⟩ := (Run.roleTurn_of_next? hnext).flag htenured hunread hrole'
    rw [happliedTo] at hflag
    obtain ⟨k, rev, hrev, hbears, hby⟩ := h.roles n role hrole
    exact ⟨k, rev, hrev, hbears.trans hflag.symm, hby⟩
  · intro a ha
    obtain ⟨hwrites, hseen | hheld⟩ := h.applied a ha
    · exact ⟨hwrites, .inl hseen⟩
    · exact ⟨hwrites,
        .inr (h.held_next htenured hnext hunread (happliedTo _) hheld rfl rfl rfl)⟩

theorem waiting_of_applied? {r : Run} {id : Nat} {t : SentToggle}
    (h : r.applied? (.settle id none) = some t) :
    r.requests[id]? = some (.waiting (.patchNode t)) := by
  simp only [Run.applied?] at h
  split at h
  · rename_i built hwaiting
    rwa [Option.some.inj h] at hwaiting
  · cases h

/-- A change that is reported as applied before a list has shown it is held: its patch was built
from the last list, so the version of that list is now the guard. -/
theorem Fresh.held_of_applied (h : Fresh config w) (htenured : w.run.Tenured) {id g k : Nat}
    {t : SentToggle} (hwaiting : w.run.requests[id]? = some (.waiting (.patchNode t)))
    (hnext : w.run.next? (.settle id none) = some (run, outputs)) (hbuilt : BuiltAt w t k)
    (hgk : g ≤ k + 1) (hunseen : w.seen t.node < g) :
    Held { w with run, applied := w.applied ++ [⟨t, g⟩] } ⟨t, g⟩ := by
  obtain ⟨hk, built, hrev, hlisted, hreadAt⟩ := hbuilt
  obtain rfl : k = w.seen t.node := by omega
  have hunread : ∀ s, RunEvent.settle id none ≠ .nodes s := by simp
  have hturn := Run.roleTurn_of_next? hnext
  have happlied : w.run.appliedTo? (.settle id none) t.node = some t := by
    rw [Run.appliedTo?_settle hwaiting, if_pos ⟨rfl, rfl⟩]
  have hcached : (w.run.console.cached? t.node).isSome = true :=
    Console.cached?_isSome_of_mem (h.shows.mem_of_after hrev hlisted)
  obtain ⟨previous, hpending⟩ := htenured.pending id t (Run.stage?_of_request _ hwaiting)
  obtain ⟨role', hrole'⟩ := hturn.known hunread hcached hpending
  obtain ⟨role, -, hflag⟩ := hturn.flag htenured hunread hrole'
  have hguard := hturn.guard_eq htenured hunread hcached
  rw [happlied] at hflag hguard
  rw [Option.bind_some, hreadAt] at hguard
  exact ⟨by dsimp only; omega, built, role', hrev, hlisted, hguard, hrole', hflag⟩

/-- Where a change is reported as applied. -/
theorem Fresh.succeed (h : Fresh config w) (htenured : w.run.Tenured) {id g : Nat} {t : SentToggle}
    (happlied : w.run.applied? (.settle id none) = some t) (hgranted : w.granted id = some g)
    (hnext : w.run.next? (.settle id none) = some (run, outputs)) :
    Fresh config { w with run, applied := w.applied ++ [⟨t, g⟩] } := by
  have hwaiting := waiting_of_applied? happlied
  have hpatching : w.run.stage? id = some (.patching t) := Run.stage?_of_request _ hwaiting
  have hunread : ∀ s, RunEvent.settle id none ≠ .nodes s := by simp
  have hturn := Run.roleTurn_of_next? hnext
  have happliedTo (n : String) : w.run.appliedTo? (.settle id none) n
      = if t.node = n ∧ (none : Option ConsoleError).isNone = true then some t else none :=
    Run.appliedTo?_settle hwaiting n
  obtain ⟨k, hbuilt, hby, hkg, hgk, after, hafter, hbears⟩ := h.granted id t g hwaiting hgranted
  -- what is noted besides is noted of this node only
  have hold {n : String} (hn : t.node ≠ n) :
      ∀ a ∈ w.applied ++ [⟨t, g⟩], a.toggle.node = n → a ∈ w.applied := by
    intro a ha hnode
    rcases List.mem_append.mp ha with ha | ha
    · exact ha
    · rw [List.mem_singleton.mp ha] at hnode
      exact absurd hnode hn
  constructor
  · exact h.seen_le
  · rw [Run.nodes_of_next? hnext hunread]
    exact h.shows
  · exact fun i t => h.built_next hnext
  · intro i t' g' hwaiting' hg'
    obtain hi | ⟨hsend, -⟩ := waiting_patch_origin hnext hwaiting'
    · refine (h.granted i t' g' hi hg').later (.refl _) (Nat.le_refl _) (hold ?_)
      intro hnode
      -- no other change of the node is under way, and this one waits no longer
      have hsame : id = i :=
        htenured.patching_apart hpatching (Run.stage?_of_request _ hi) hnode
      subst hsame
      rw [Run.next?_settle hwaiting, Option.some.injEq, Prod.mk.injEq] at hnext
      rw [← hnext.1, Run.settle, Run.requests_withRequest, if_pos rfl] at hwaiting'
      cases hwaiting'
    · cases hsend
  · intro n role' hrole'
    obtain ⟨role, hrole, hflag⟩ := hturn.flag htenured hunread hrole'
    rw [happliedTo] at hflag
    by_cases hn : t.node = n
    · subst hn
      rw [if_pos ⟨rfl, rfl⟩] at hflag
      refine ⟨g, after, hafter, hbears.trans hflag.symm, fun a ha hnode => ?_⟩
      rcases List.mem_append.mp ha with ha | ha
      · exact Nat.le_trans (hby a ha hnode) hkg
      · obtain rfl := List.mem_singleton.mp ha
        exact Nat.le_refl g
    · rw [if_neg fun hboth => hn hboth.1] at hflag
      obtain ⟨k', rev, hrev, hrest, hby'⟩ := h.roles n role hrole
      exact ⟨k', rev, hrev, hrest.trans hflag.symm,
        fun a ha hnode => hby' a (hold hn a ha hnode) hnode⟩
  · intro a ha
    rcases List.mem_append.mp ha with ha | ha
    · obtain ⟨hwrites, hplace⟩ := h.applied a ha
      refine ⟨hwrites, ?_⟩
      by_cases hn : t.node = a.toggle.node
      · -- the later change was built from a list that has shown the node after the earlier one
        have hle := hby a ha hn.symm
        exact .inl (Nat.le_trans hle (hn ▸ hbuilt.1))
      · rcases hplace with hseen | hheld
        · exact .inl hseen
        · refine .inr (h.held_next htenured hnext hunread ?_ hheld rfl rfl rfl)
          rw [happliedTo, if_neg fun hboth => hn hboth.1]
    · obtain rfl := List.mem_singleton.mp ha
      refine ⟨Server.le_writes_of_after hafter, ?_⟩
      rcases Nat.lt_or_ge (w.seen t.node) g with hunseen | hseen
      · exact .inr (h.held_of_applied htenured hwaiting hnext hbuilt hgk hunseen)
      · exact .inl hseen

/-! ## 5. A list comes in -/

/-- The last list would be passed over once more. -/
theorem Held.passesOver {a : Applied} (h : Held w a) {rev : Revision}
    (hrev : w.server.after a.toggle.node (w.seen a.toggle.node) = some rev) :
    w.run.console.roles.passesOver w.run.console.roles.superseded
      (rev.copy a.toggle.node) = true := by
  obtain ⟨-, rev', role, hrev', -, hguard, hrole, -⟩ := h
  obtain rfl := Option.some.inj (hrev.symm.trans hrev')
  have houtdated : NodeRoles.isOutdated w.run.console.roles.superseded
      (rev.copy a.toggle.node) = true :=
    NodeRoles.isOutdated_iff.mpr ⟨rev.version, hguard, rfl⟩
  have hknown : w.run.console.roles.role? (rev.copy a.toggle.node).name = some role := hrole
  rw [NodeRoles.passesOver, hknown]
  simp only [houtdated, Bool.or_true]

theorem roles_deliver (hconfig : w.run.console.config = config) (s : Snapshot StorageNode)
    (upTo : String → Nat) :
    (w.deliver s upTo).run.console.roles
      = w.run.console.roles.sync config.storageRoleLabel.key config.storageRoleLabel.value
          s.data := by
  rw [World.deliver, Run.withConsole, Console.applyNodes_roles, hconfig]

/-- A change stays held when a list comes in that goes no further for its node than the last one. -/
theorem Held.deliver {a : Applied} (h : Held w a) (hconfig : w.run.console.config = config)
    {s : Snapshot StorageNode} {upTo : String → Nat} (hshows : Shows w.server upTo s.data)
    (heq : upTo a.toggle.node = w.seen a.toggle.node) : Held (w.deliver s upTo) a := by
  obtain ⟨hplace, rev, role, hrev, hlisted, hguard, hrole, hflag⟩ := id h
  have hpasses := h.passesOver hrev
  rw [← heq] at hplace hrev
  have hmem := hshows.mem_of_after hrev hlisted
  have hroles := roles_deliver hconfig s upTo
  have hrole' : (w.deliver s upTo).run.console.roles.role? a.toggle.node = some role := by
    rw [hroles, NodeRoles.role?_sync_of_mem (n := a.toggle.node) _ _ _ rfl hmem
      (hshows.unique hmem), if_pos hpasses, hrole]
  have hguard' : (w.deliver s upTo).run.console.roles.guard? a.toggle.node = some rev.version := by
    rw [hroles, NodeRoles.guard?_sync_of_mem (n := a.toggle.node) _ _ _ rfl hmem
      (hshows.unique hmem), if_pos hpasses, hguard]
  exact ⟨hplace, rev, role, hrev, hlisted, hguard', hrole', hflag⟩

theorem Fresh.deliver (h : Fresh config w) (hconfig : w.run.console.config = config)
    {s : Snapshot StorageNode} {upTo : String → Nat} (hin : InOrder w s upTo) :
    Fresh config (w.deliver s upTo) := by
  obtain ⟨hupTo, hshows⟩ := hin
  have hroles := roles_deliver hconfig s upTo
  constructor
  · exact fun n => (hupTo n).2
  · rw [World.deliver, Run.withConsole, Console.applyNodes_nodes]
    exact hshows
  · intro i t hpatching
    obtain ⟨k, hk⟩ := h.built i t hpatching
    exact ⟨k, hk.later (.refl _) (hupTo t.node).1⟩
  · intro i t g hwaiting hg
    exact (h.granted i t g hwaiting hg).later (.refl _) (hupTo t.node).1 fun a ha _ => ha
  · intro n role hrole
    rw [hroles] at hrole
    by_cases hlisted : ∃ rev, w.server.after n (upTo n) = some rev ∧ rev.listed = true
    · obtain ⟨rev, hrev, hlisted⟩ := hlisted
      have hmem := hshows.mem_of_after hrev hlisted
      rw [NodeRoles.role?_sync_of_mem (n := n) _ _ _ rfl hmem (hshows.unique hmem)] at hrole
      split_ifs at hrole with hpasses
      · exact h.roles n role hrole
      · obtain rfl := Option.some.inj hrole
        refine ⟨upTo n, rev, hrev, (NodeRole.isSelected_ofFlag _).symm, ?_⟩
        rintro a ha rfl
        obtain ⟨-, hseen | hheld⟩ := h.applied a ha
        · exact Nat.le_trans hseen (hupTo _).1
        · -- were it the last list again, it would have been passed over
          have hne : upTo a.toggle.node ≠ w.seen a.toggle.node := by
            intro heq
            rw [heq] at hrev
            exact hpasses (hheld.passesOver hrev)
          have hle := (hupTo a.toggle.node).1
          have hplace := hheld.1
          omega
    · push Not at hlisted
      have habsent : ∀ x ∈ s.data, x.name ≠ n := by
        rintro x hx rfl
        obtain ⟨rev, hrev, hshown, -⟩ := (hshows x).mp hx
        exact hlisted rev hrev hshown
      rw [NodeRoles.role?_sync_of_not_mem _ _ _ habsent, Option.filter_eq_some_iff] at hrole
      exact h.roles n role hrole.1
  · intro a ha
    obtain ⟨hwrites, hseen | hheld⟩ := h.applied a ha
    · exact ⟨hwrites, .inl (Nat.le_trans hseen (hupTo _).1)⟩
    · refine ⟨hwrites, ?_⟩
      by_cases heq : upTo a.toggle.node = w.seen a.toggle.node
      · exact .inr (hheld.deliver hconfig hshows heq)
      · have hle := (hupTo a.toggle.node).1
        have hplace := hheld.1
        have hpast : a.writes ≤ upTo a.toggle.node := by omega
        exact .inl hpast

/-- **Every step** of a world in which lists come in order. -/
theorem Fresh.step (h : Fresh config w) (hconfig : w.run.console.config = config)
    (htenured : w.run.Tenured) (hsound : Sound config w) (hstep : Step InOrder w w') :
    Fresh config w' := by
  -- what has been promised before is still promised, as only the server goes on
  have hkept {server : Server} (hextends : w.server.Extends server) {granted : Nat → Option Nat}
      {i : Nat} {t : SentToggle} {g : Nat}
      (hwaiting : w.run.requests[i]? = some (.waiting (.patchNode t)))
      (hg : w.granted i = some g) :
      Promised config.storageRoleLabel { w with server, granted } t g :=
    (h.granted i t g hwaiting hg).later hextends (Nat.le_refl _) fun a ha _ => ha
  cases hstep with
  | @write n rev hnew =>
      have hextends := Server.extends_add w.server n rev
      exact h.serverStep hextends fun i t g => hkept hextends
  | accept hsent haccepts => exact h.serverStep haccepts.extends fun i t g => hkept haccepts.extends
  | @grant id t server hwaiting haccepts =>
      refine h.serverStep haccepts.extends fun i t' g hwaiting' hg => ?_
      by_cases hi : i = id
      · subst hi
        rw [Function.update_self] at hg
        rw [hwaiting] at hwaiting'
        cases hwaiting'
        cases hg
        exact h.promised hsound (Run.stage?_of_request _ hwaiting) haccepts _
      · rw [Function.update_of_ne hi] at hg
        exact hkept haccepts.extends hwaiting' hg
  | deliver hdelivers => exact h.deliver hconfig hdelivers
  | @send id t run outputs hsent hnext =>
      refine h.quietStep htenured hnext (by simp) rfl fun i t' g hwaiting hg => ?_
      by_cases hi : i = id
      · rw [hi, Function.update_self] at hg
        cases hg
      · rw [Function.update_of_ne hi] at hg
        obtain hwaiting | ⟨hsend, -⟩ := waiting_patch_origin hnext hwaiting
        · exact ⟨hwaiting, hg⟩
        · exact absurd (RunEvent.send.inj hsend).symm hi
  | succeed happlied hgranted hnext => exact h.succeed htenured happlied hgranted hnext
  | other hunread hunsent hunapplied hnext =>
      refine h.quietStep htenured hnext hunread hunapplied fun i t g hwaiting hg => ?_
      obtain hwaiting | ⟨-, hsent⟩ := waiting_patch_origin hnext hwaiting
      · exact ⟨hwaiting, hg⟩
      · rw [hunsent] at hsent
        cases hsent

end Steps

theorem Reaches.fresh (h : Reaches InOrder config clock w) : Fresh config w := by
  induction h with
  | start => exact fresh_start config clock
  | step hreaches hstep ih =>
      exact ih.step hreaches.anyRead.config_eq hreaches.tenured hreaches.anyRead.sound hstep

/-! ## 6. What follows -/

/-- The guard of a node is the version from which its last applied change was built. -/
theorem Reaches.guard (h : Reaches InOrder config clock w) {n version : String}
    (hguard : w.run.console.roles.guard? n = some version) :
    ∃ a, w.lastApplied? n = some a ∧ a.toggle.readAt = some version := by
  obtain ⟨past, hpast, hversioned, hlast⟩ := h.anyRead.chronicle
  obtain ⟨t, ht, hreadAt⟩ := (hpast.guarded hversioned).guard n version hguard
  rw [hlast, Option.map_eq_some_iff] at ht
  obtain ⟨a, ha, rfl⟩ := ht
  exact ⟨a, ha, hreadAt⟩

/-- Whatever else happens, as long as the server gives every write a version of its own, the console
learns of success only if the server has accepted the patch, and lists come in order, late or
repeated as they may be. Then of every change that was reported as applied, at any time after it:

* if the node is settled, its role is the one that its label showed after that change or a later
  write;
* as long as no list has shown the node after the change, the node is known and counts as what the
  change has made it, whatever other changes of it have failed since.

And a list that shows a settled node at another version than the one from which the last applied
change was built sets its role to what the list shows. -/
theorem applied_change_never_undone (h : Reaches InOrder config clock w) :
    (∀ a ∈ w.applied, ∀ role, w.run.console.roles.role? a.toggle.node = some role →
      role.isPending = false → ∃ k rev, a.writes ≤ k ∧
        w.server.after a.toggle.node k = some rev ∧
        role = .ofFlag (rev.bears config.storageRoleLabel)) ∧
    (∀ a ∈ w.applied, w.seen a.toggle.node < a.writes →
      ∃ role, w.run.console.roles.role? a.toggle.node = some role ∧
        role.isSelected = a.toggle.enabled) ∧
    ∀ s upTo copy role, InOrder w s upTo → copy ∈ s.data →
      w.run.console.roles.role? copy.name = some role → role.isPending = false →
      (∀ a, w.lastApplied? copy.name = some a → a.toggle.readAt ≠ copy.resourceVersion) →
        (w.deliver s upTo).run.console.roles.role? copy.name
          = some (.ofFlag (copy.hasLabel config.storageRoleLabel.key
              config.storageRoleLabel.value)) := by
  have hfresh := h.fresh
  refine ⟨?_, ?_, ?_⟩
  · intro a ha role hrole hsettled
    obtain ⟨k, rev, hrev, hbears, hby⟩ := hfresh.roles a.toggle.node role hrole
    refine ⟨k, rev, hby a ha rfl, hrev, ?_⟩
    rw [hbears, NodeRole.ofFlag_isSelected hsettled]
  · intro a ha hunseen
    obtain ⟨-, hseen | hheld⟩ := hfresh.applied a ha
    · omega
    · obtain ⟨-, rev, role, -, -, -, hrole, hflag⟩ := hheld
      exact ⟨role, hrole, hflag⟩
  · intro s upTo copy role hin hcopy hrole hsettled hother
    rw [roles_deliver h.anyRead.config_eq,
      NodeRoles.role?_sync_of_mem _ _ _ rfl hcopy (hin.2.unique hcopy), if_neg]
    intro hpasses
    -- a settled node is passed over for its guard, which is the version of the last change
    have hunpending : ∀ previous target,
        w.run.console.roles.role? copy.name ≠ some (.pending previous target) := by
      intro previous target hpending
      rw [hrole] at hpending
      obtain rfl := Option.some.inj hpending
      cases hsettled
    obtain ⟨version, hguard, hversion⟩ := NodeRoles.isOutdated_of_passesOver hpasses hunpending
    obtain ⟨a, ha, hreadAt⟩ := h.guard hguard
    exact hother a ha (hreadAt.trans hversion.symm)

/-! ## 7. A list that comes in late -/

theorem inOrder_sampleList : InOrder sampleStart sampleList sampleSeen := by
  refine ⟨fun n => ⟨Nat.zero_le _, ?_⟩, fun copy => ?_⟩
  · by_cases hn : n = "a"
    · subst hn
      exact Nat.le_refl 1
    · rw [sampleSeen, if_neg hn]
      exact Nat.zero_le _
  · rw [sampleSeen]
    constructor
    · intro hcopy
      rw [List.mem_singleton.mp hcopy]
      exact ⟨sampleRevision, rfl, rfl, rfl⟩
    · rintro ⟨rev, hrev, -, hread⟩
      split_ifs at hrev with hname
      · rw [hname] at hrev hread
        obtain rfl : sampleRevision = rev := Option.some.inj hrev
        exact List.mem_singleton.mpr hread
      · cases hrev

/-- The server has accepted the patch. -/
def sampleGranted : World :=
  { sampleSent with
    server := sampleSent.server.add "a" sampleWritten
    granted := Function.update sampleSent.granted 0
      (some ((sampleSent.server.add "a" sampleWritten).writes sampleToggle.node)) }

/-- The change has been reported as applied. -/
def sampleApplied : World :=
  { sampleGranted with
    run := sampleGranted.run.settle 0 sampleToggle none
    applied :=
      [⟨sampleToggle, (sampleSent.server.add "a" sampleWritten).writes sampleToggle.node⟩] }

theorem sampleGranted_waiting :
    sampleGranted.run.requests[0]? = some (.waiting (.patchNode sampleToggle)) := by
  rw [sampleGranted, sampleSent, Run.requests_withRequest, if_pos rfl]

theorem reaches_sampleApplied : Reaches InOrder .standard .epoch sampleApplied := by
  have hgranted : Reaches InOrder .standard .epoch sampleGranted :=
    .step (reaches_sampleSent inOrder_sampleList)
      (.grant sampleGranted_waiting sampleSent_accepts)
  have happlied : sampleGranted.run.applied? (.settle 0 none) = some sampleToggle := by
    simp only [Run.applied?, sampleGranted_waiting]
  have hcount : sampleGranted.granted 0
      = some ((sampleSent.server.add "a" sampleWritten).writes sampleToggle.node) :=
    Function.update_self 0 _ sampleSent.granted
  have hnext : sampleGranted.run.next? (.settle 0 none)
      = some (sampleGranted.run.settle 0 sampleToggle none, []) :=
    Run.next?_settle sampleGranted_waiting none
  exact .step hgranted (.succeed happlied hcount hnext)

/-- The list from before the change comes in once more. -/
theorem inOrder_sampleList_late : InOrder sampleApplied sampleList sampleSeen := by
  have hfirst := inOrder_sampleList
  have hextends : sampleStart.server.Extends sampleApplied.server := Server.extends_add _ _ _
  exact ⟨fun n => ⟨Nat.le_refl _, Nat.le_trans (hfirst.1 n).2 (hextends.writes_le n)⟩,
    hfirst.2.later hextends fun n => (hfirst.1 n).2⟩

theorem applied_change_never_undone_late :
    Reaches InOrder .standard .epoch (sampleApplied.deliver sampleList sampleSeen) ∧
      ∃ role,
        (sampleApplied.deliver sampleList sampleSeen).run.console.roles.role? "a" = some role ∧
          role.isSelected = true := by
  have hreaches : Reaches InOrder .standard .epoch (sampleApplied.deliver sampleList sampleSeen) :=
    .step reaches_sampleApplied (.deliver inOrder_sampleList_late)
  obtain ⟨-, hstays, -⟩ := applied_change_never_undone hreaches
  obtain ⟨role, hrole, hflag⟩ := hstays _ (List.mem_singleton_self _) (by decide +kernel)
  rw [sampleToggle_node] at hrole
  exact ⟨hreaches, role, hrole, hflag.trans (by decide +kernel)⟩

end World

end LunConsole

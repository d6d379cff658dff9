import LunConsole.Proofs.Console.Applied
import LunConsole.Proofs.Server.History
import Mathlib.Logic.Function.Basic
/-!
# A console and its server

The console and the server meet in four places: a list of nodes is delivered, which shows revisions
that may be long past; a patch is sent; the server accepts it, at any time after that or never; and
the console is told that it was applied, which is so only if the server has accepted it. In between
anybody may write.

A patch replaces all labels of its node, so a label that was written by somebody else could be lost.
It is not (`accepted_patch_changes_role_label_only`): a patch that is under way was built from a
revision that the server has recorded (`Sound`), it is accepted at that revision's version only, and
since versions are not used twice the labels that it replaces are those from which it was built.
-/

set_option autoImplicit false

namespace LunConsole

/-! ## 1. The console and the server -/

/-- The change whose patch is sent with this event. -/
def Run.sent? (r : Run) : RunEvent → Option SentToggle
  | .send id =>
      match r.requests[id]? with
      | some (.ready (.patchNode t)) => some t
      | _ => none
  | _ => none

/-- A change that was reported as applied, and how often the node had been written right after the
server had accepted its patch. -/
structure Applied where
  toggle : SentToggle
  writes : Nat

/-- A console and its server. `sent` lists the patches that have been sent. Of a request whose patch
the server has accepted, `granted` tells how often the node had been written right after that. The
last list of nodes has shown each node as it was after `seen` writes. -/
structure World where
  run : Run
  server : Server
  sent : List SentToggle
  granted : Nat → Option Nat
  seen : String → Nat
  applied : List Applied

namespace World

/-- Nothing has happened, and nothing has been written. -/
def start (config : Config) (clock : Instant) : World where
  run := .start config clock
  server := .empty
  sent := []
  granted _ := none
  seen _ := 0
  applied := []

/-- A list of nodes comes in. -/
def deliver (w : World) (s : Snapshot StorageNode) (upTo : String → Nat) : World :=
  { w with run := w.run.withConsole (w.run.console.applyNodes s), seen := upTo }

/-- What happens next, where `delivers` says which lists may come in. -/
inductive Step (delivers : World → Snapshot StorageNode → (String → Nat) → Prop) (w : World) :
    World → Prop
  /-- Somebody writes a node, which may be a new one. -/
  | write {n : String} {rev : Revision} (hnew : w.server.IsNew n rev.version) :
      Step delivers w { w with server := w.server.add n rev }
  /-- The server accepts a patch, whether or not the console still waits for the outcome. -/
  | accept {t : SentToggle} {server : Server} (hsent : t ∈ w.sent)
      (haccepts : w.server.Accepts t.node t.ops server) : Step delivers w { w with server }
  /-- The server accepts the patch of a request that waits for the outcome. -/
  | grant {id : Nat} {t : SentToggle} {server : Server}
      (hwaiting : w.run.requests[id]? = some (.waiting (.patchNode t)))
      (haccepts : w.server.Accepts t.node t.ops server) :
      Step delivers w { w with
        server
        granted := Function.update w.granted id (some (server.writes t.node)) }
  | deliver {s : Snapshot StorageNode} {upTo : String → Nat} (hdelivers : delivers w s upTo) :
      Step delivers w (w.deliver s upTo)
  /-- A patch is sent. -/
  | send {id : Nat} {t : SentToggle} {run : Run} {outputs : List RunOutput}
      (hsent : w.run.sent? (.send id) = some t)
      (hnext : w.run.next? (.send id) = some (run, outputs)) :
      Step delivers w { w with
        run
        sent := t :: w.sent
        granted := Function.update w.granted id none }
  /-- A request learns that its patch was applied, which the server has accepted. -/
  | succeed {id g : Nat} {t : SentToggle} {run : Run} {outputs : List RunOutput}
      (happlied : w.run.applied? (.settle id none) = some t) (hgranted : w.granted id = some g)
      (hnext : w.run.next? (.settle id none) = some (run, outputs)) :
      Step delivers w { w with run, applied := w.applied ++ [⟨t, g⟩] }
  /-- Whatever else may happen in a run. -/
  | other {e : RunEvent} {run : Run} {outputs : List RunOutput} (hunread : ∀ s, e ≠ .nodes s)
      (hunsent : w.run.sent? e = none) (hunapplied : w.run.applied? e = none)
      (hnext : w.run.next? e = some (run, outputs)) : Step delivers w { w with run }

/-- The worlds that may come about. -/
inductive Reaches (delivers : World → Snapshot StorageNode → (String → Nat) → Prop)
    (config : Config) (clock : Instant) : World → Prop
  | start : Reaches delivers config clock (start config clock)
  | step {w w' : World} : Reaches delivers config clock w → Step delivers w w' →
      Reaches delivers config clock w'

variable {delivers delivers' : World → Snapshot StorageNode → (String → Nat) → Prop}
  {config : Config} {clock : Instant} {w w' : World}

/-- The fewer lists may come in, the fewer worlds come about. -/
theorem Reaches.mono (hmono : ∀ w s upTo, delivers w s upTo → delivers' w s upTo)
    (h : Reaches delivers config clock w) : Reaches delivers' config clock w := by
  induction h with
  | start => exact .start
  | step _ hstep ih =>
      refine .step ih ?_
      cases hstep with
      | write hnew => exact .write hnew
      | accept hsent haccepts => exact .accept hsent haccepts
      | grant hwaiting haccepts => exact .grant hwaiting haccepts
      | deliver hdelivers => exact .deliver (hmono _ _ _ hdelivers)
      | send hsent hnext => exact .send hsent hnext
      | succeed happlied hgranted hnext => exact .succeed happlied hgranted hnext
      | other hunread hunsent hunapplied hnext => exact .other hunread hunsent hunapplied hnext

/-- The lists show nodes as they have been, each copy with its version, from however long ago. -/
def AnyRead (w : World) (s : Snapshot StorageNode) (_ : String → Nat) : Prop :=
  ∀ copy ∈ s.data, ∃ rev ∈ w.server.revisions copy.name, copy = rev.copy copy.name

/-! ## 2. Patches are built from what the server has recorded -/

/-- The patch was built from a revision that the server has recorded. -/
def Built (label : Label) (server : Server) (t : SentToggle) : Prop :=
  ∃ rev ∈ server.revisions t.node, t.readAt = some rev.version ∧
    t.ops = (rev.copy t.node).labelPatch label.key label.value t.enabled

theorem Built.later {label : Label} {server server' : Server} {t : SentToggle}
    (h : Built label server t) (hextends : server.Extends server') : Built label server' t := by
  obtain ⟨rev, hrev, hrest⟩ := h
  exact ⟨rev, hextends.mem hrev, hrest⟩

/-- Versions are not used twice, and whatever the console holds of a node, or has made of it, is of
a revision that the server has recorded. -/
structure Sound (config : Config) (w : World) : Prop where
  distinct : w.server.Distinct
  copies : ∀ copy ∈ w.run.console.nodes.data,
    ∃ rev ∈ w.server.revisions copy.name, copy = rev.copy copy.name
  patches : ∀ i t, w.run.stage? i = some (.patching t) →
    Built config.storageRoleLabel w.server t
  sent : ∀ t ∈ w.sent, Built config.storageRoleLabel w.server t

theorem sound_start (config : Config) (clock : Instant) : Sound config (start config clock) := by
  have hnodes : (Run.start config clock).console.nodes = .empty := Console.recompute_nodes _
  constructor
  · exact fun n => List.nodup_nil
  · intro copy hcopy
    rw [start, hnodes] at hcopy
    exact absurd hcopy List.not_mem_nil
  · intro i t hpatching
    rw [start, Run.stage?_start] at hpatching
    cases hpatching
  · exact fun t ht => absurd ht List.not_mem_nil

/-- Where only the server goes on. -/
theorem Sound.serverStep (h : Sound config w) (hrun : w'.run = w.run) (hsent : w'.sent = w.sent)
    (hextends : w.server.Extends w'.server) (hdistinct : w'.server.Distinct) : Sound config w' := by
  constructor
  · exact hdistinct
  · rw [hrun]
    intro copy hcopy
    obtain ⟨rev, hrev, hread⟩ := h.copies copy hcopy
    exact ⟨rev, hextends.mem hrev, hread⟩
  · rw [hrun]
    exact fun i t hpatching => (h.patches i t hpatching).later hextends
  · rw [hsent]
    exact fun t ht => (h.sent t ht).later hextends

/-- A run goes on from what it knows: no event but a list brings in copies of nodes, and patches are
built from the copies that are there. -/
theorem Sound.patches_next (h : Sound config w) (hconfig : w.run.console.config = config)
    {e : RunEvent} {run : Run} {outputs : List RunOutput}
    (hnext : w.run.next? e = some (run, outputs)) {i : Nat} {t : SentToggle}
    (hpatching : run.stage? i = some (.patching t)) : Built config.storageRoleLabel w.server t := by
  rcases (Run.roleTurn_of_next? hnext).patching hpatching with
    hi | ⟨role, copy, -, -, -, hcached, hreadAt, hops⟩
  · exact h.patches i t hi
  · obtain ⟨rev, hrev, hcopy⟩ := h.copies copy (Console.mem_of_cached? hcached)
    rw [Console.name_of_cached? hcached] at hrev hcopy
    rw [hcopy] at hreadAt hops
    rw [hconfig] at hops
    exact ⟨rev, hrev, hreadAt, hops⟩

theorem stage?_of_sent? {r : Run} {e : RunEvent} {t : SentToggle} (h : r.sent? e = some t) :
    ∃ i, r.stage? i = some (.patching t) := by
  cases e with
  | send id =>
      simp only [Run.sent?] at h
      split at h
      · rename_i built hready
        obtain rfl := Option.some.inj h
        exact ⟨id, Run.stage?_of_request r hready⟩
      · cases h
  | _ => cases h

/-- The last change of the node that was reported as applied. -/
def lastApplied? (w : World) (n : String) : Option Applied :=
  (w.applied.filter fun a => a.toggle.node = n).getLast?

/-- The console of a world has a past like any other one, in which every copy of a node carries a
version and the changes that were reported as applied are those that are noted. -/
theorem Reaches.chronicle (h : Reaches AnyRead config clock w) :
    ∃ past, Run.Chronicle config clock past w.run ∧
      (∀ x ∈ past, Run.versioned x.2 = true) ∧
      ∀ n, Run.lastApplied? past n = (w.lastApplied? n).map Applied.toggle := by
  induction h with
  | start => exact ⟨[], .start, fun x hx => absurd hx List.not_mem_nil, fun n => rfl⟩
  | @step w w' _ hstep ih =>
      obtain ⟨past, hpast, hversioned, hlast⟩ := ih
      have hversionedNext {e : RunEvent} (he : Run.versioned e = true) :
          ∀ x ∈ past ++ [(w.run, e)], Run.versioned x.2 = true :=
        forall_mem_append_singleton.mpr ⟨hversioned, he⟩
      have hlastNext {e : RunEvent} (he : w.run.applied? e = none) (n : String) :
          Run.lastApplied? (past ++ [(w.run, e)]) n = (w.lastApplied? n).map Applied.toggle := by
        rw [Run.lastApplied?_append, Run.lastApplied?_singleton, Run.appliedTo?, he]
        exact hlast n
      cases hstep with
      | write hnew => exact ⟨past, hpast, hversioned, hlast⟩
      | accept hsent haccepts => exact ⟨past, hpast, hversioned, hlast⟩
      | grant hwaiting haccepts => exact ⟨past, hpast, hversioned, hlast⟩
      | @deliver s upTo hread =>
          refine ⟨_, .step hpast (e := .nodes s) rfl, hversionedNext ?_, hlastNext rfl⟩
          refine List.all_eq_true.mpr fun copy hcopy => ?_
          obtain ⟨rev, -, hrev⟩ := hread copy hcopy
          rw [hrev]
          rfl
      | @send id t run outputs hsent hnext =>
          exact ⟨_, .step hpast hnext, hversionedNext rfl, hlastNext rfl⟩
      | @other e run outputs hunread hunsent hunapplied hnext =>
          refine ⟨_, .step hpast hnext, hversionedNext ?_, hlastNext hunapplied⟩
          cases e with
          | nodes s => exact absurd rfl (hunread s)
          | _ => rfl
      | @succeed id g t run outputs happlied hgranted hnext =>
          refine ⟨_, .step hpast hnext, hversionedNext rfl, fun n => ?_⟩
          rw [Run.lastApplied?_append, Run.lastApplied?_singleton, Run.appliedTo?, happlied, hlast,
            lastApplied?, lastApplied?, List.filter_append, List.getLast?_append, Option.map_or]
          by_cases hn : t.node = n
          · simp [hn, Option.filter_some]
          · simp [hn, Option.filter_some]

/-- **Every step** leaves the console with what the server has recorded. -/
theorem Sound.step (h : Sound config w) (hconfig : w.run.console.config = config)
    (hstep : Step AnyRead w w') : Sound config w' := by
  -- a run that goes on without a list
  have hrunStep {e : RunEvent} {run : Run} {outputs : List RunOutput}
      (hunread : ∀ s, e ≠ .nodes s) (hnext : w.run.next? e = some (run, outputs))
      (hrun : w'.run = run) (hserver : w'.server = w.server)
      (hsent : ∀ t ∈ w'.sent, Built config.storageRoleLabel w.server t) : Sound config w' := by
    constructor
    · rw [hserver]
      exact h.distinct
    · rw [hrun, hserver, Run.nodes_of_next? hnext hunread]
      exact h.copies
    · rw [hrun, hserver]
      exact fun i t => h.patches_next hconfig hnext
    · rw [hserver]
      exact hsent
  cases hstep with
  | write hnew =>
      exact h.serverStep rfl rfl (Server.extends_add _ _ _) (h.distinct.add hnew)
  | accept hsent haccepts =>
      exact h.serverStep rfl rfl haccepts.extends (haccepts.distinct h.distinct)
  | grant hwaiting haccepts =>
      exact h.serverStep rfl rfl haccepts.extends (haccepts.distinct h.distinct)
  | @deliver s upTo hread =>
      refine ⟨h.distinct, ?_, ?_, h.sent⟩
      · rw [deliver, Run.withConsole, Console.applyNodes_nodes]
        exact hread
      · exact h.patches
  | @send id t run outputs hsent hnext =>
      refine hrunStep (by simp) hnext rfl rfl fun t' ht' => ?_
      rcases List.mem_cons.mp ht' with rfl | ht'
      · obtain ⟨i, hpatching⟩ := stage?_of_sent? hsent
        exact h.patches i t' hpatching
      · exact h.sent t' ht'
  | succeed happlied hgranted hnext => exact hrunStep (by simp) hnext rfl rfl h.sent
  | other hunread hunsent hunapplied hnext => exact hrunStep hunread hnext rfl rfl h.sent

theorem Reaches.config_eq (h : Reaches AnyRead config clock w) : w.run.console.config = config := by
  obtain ⟨past, hpast, -⟩ := h.chronicle
  exact hpast.config_eq

theorem Reaches.sound (h : Reaches AnyRead config clock w) : Sound config w := by
  induction h with
  | start => exact sound_start config clock
  | step hreaches hstep ih => exact ih.step hreaches.config_eq hstep

/-- Whatever anybody has written and whenever which lists have come in: a patch that the console has
sent, once the server accepts it, changes of the node's present labels the role label only. It is
there with the value of the role if that was asked for, and is not if the opposite was. -/
theorem accepted_patch_changes_role_label_only (h : Reaches AnyRead config clock w)
    {t : SentToggle} (hsent : t ∈ w.sent) {server : Server}
    (haccepts : w.server.Accepts t.node t.ops server) :
    ∃ before after, w.server.current? t.node = some before ∧
      server.current? t.node = some after ∧
      after.labels[config.storageRoleLabel.key]?
        = (if t.enabled then some config.storageRoleLabel.value else none) ∧
      ∀ k, k ≠ config.storageRoleLabel.key → after.labels[k]? = before.labels[k]? := by
  have hsound := h.sound
  obtain ⟨rev, hrev, -, hops⟩ := hsound.sent t hsent
  rw [hops] at haccepts
  obtain ⟨hbefore, after, hafter, hlabels⟩ := haccepts.of_recorded hsound.distinct hrev
  refine ⟨rev, after, hbefore, hafter, ?_, fun k hk => ?_⟩
  · rw [hlabels, StorageNode.getElem?_labelsWith, if_pos rfl]
  · rw [hlabels, StorageNode.getElem?_labelsWith, if_neg hk.symm]
    rfl

/-! ## 3. A world in which somebody else has written -/

/-- What a run does by itself, without the server. -/
def inner : RunEvent → Bool
  | .nodes _ | .send _ | .settle _ _ => false
  | _ => true

theorem Reaches.play (h : Reaches delivers config clock w) {events : List RunEvent}
    (hinner : ∀ e ∈ events, inner e = true) :
    Reaches delivers config clock { w with run := (w.run.play events).2 } := by
  induction events generalizing w with
  | nil => exact h
  | cons e es ih =>
      obtain ⟨he, hes⟩ := List.forall_mem_cons.mp hinner
      cases hnext : w.run.next? e with
      | none =>
          rw [Run.play_of_next?_none hnext]
          exact ih h hes
      | some next =>
          obtain ⟨run, outputs⟩ := next
          rw [Run.play_of_next? hnext]
          refine ih (w := { w with run }) (.step h (.other ?_ ?_ ?_ hnext)) hes
          · rintro s rfl
            cases he
          · cases e with
            | send id => cases he
            | _ => rfl
          · cases e with
            | settle id failure => cases he
            | _ => rfl

/-- A node with a label that is nobody's business here. -/
def sampleRevision : Revision := ⟨"1", .ofList [("zone", "east")], true⟩

/-- The node has been written. -/
def sampleStart : World :=
  { start .standard .epoch with server := Server.empty.add "a" sampleRevision }

/-- The list that shows it. -/
def sampleList : Snapshot StorageNode := .ofData [sampleRevision.copy "a"]

/-- How far that list goes. -/
def sampleSeen (n : String) : Nat := if n = "a" then 1 else 0

/-- The list has come in, and the node is to become a storage node. -/
def sampleLooked : World :=
  { sampleStart.deliver sampleList sampleSeen with
    run := ((sampleStart.deliver sampleList sampleSeen).run.play
      [.ask 0 (.toggleRole "a" true), .look 0]).2 }

theorem sampleLooked_sends : (sampleLooked.run.sent? (.send 0)).isSome = true := by decide +kernel

/-- The change whose patch is sent. -/
def sampleToggle : SentToggle := (sampleLooked.run.sent? (.send 0)).get sampleLooked_sends

/-- It has been sent. -/
def sampleSent : World :=
  { sampleLooked with
    run := sampleLooked.run.withRequest 0 (.waiting (.patchNode sampleToggle))
    sent := [sampleToggle]
    granted := Function.update sampleLooked.granted 0 none }

theorem next?_send {r : Run} {id : Nat} {t : SentToggle} (h : r.sent? (.send id) = some t) :
    r.next? (.send id)
      = some (r.withRequest id (.waiting (.patchNode t)), [.called (.patchNode t)]) := by
  simp only [Run.sent?] at h
  split at h
  · rename_i built hready
    obtain rfl := Option.some.inj h
    exact (Run.Happens.send hready).next?_eq
  · cases h

theorem reaches_sampleSent (hdelivers : delivers sampleStart sampleList sampleSeen) :
    Reaches delivers .standard .epoch sampleSent := by
  have hwritten : Reaches delivers .standard .epoch sampleStart :=
    .step .start (.write fun rev hrev => absurd hrev List.not_mem_nil)
  have hlooked : Reaches delivers .standard .epoch sampleLooked :=
    (Reaches.step hwritten (.deliver hdelivers)).play (by decide +kernel)
  have hsent : sampleLooked.run.sent? (.send 0) = some sampleToggle := (Option.some_get _).symm
  exact .step hlooked (.send hsent (next?_send hsent))

theorem anyRead_sampleList : AnyRead sampleStart sampleList sampleSeen := by
  intro copy hcopy
  rw [List.mem_singleton.mp hcopy]
  exact ⟨sampleRevision, List.mem_singleton_self _, rfl⟩

/-- What the patch makes of the node. -/
def sampleWritten : Revision where
  version := "2"
  labels := (sampleRevision.copy "a").labelsWith Config.standard.storageRoleLabel.key
    Config.standard.storageRoleLabel.value true
  listed := true

theorem sampleToggle_node : sampleToggle.node = "a" := by decide +kernel

theorem sampleSent_accepts : sampleSent.server.Accepts sampleToggle.node sampleToggle.ops
    (sampleSent.server.add "a" sampleWritten) := by
  have henabled : sampleToggle.enabled = true := by decide +kernel
  obtain ⟨rev, hrev, -, hops⟩ :=
    (reaches_sampleSent anyRead_sampleList).sound.sent sampleToggle (List.mem_singleton_self _)
  rw [sampleToggle_node] at hrev
  obtain rfl : rev = sampleRevision := List.mem_singleton.mp hrev
  rw [hops, sampleToggle_node, henabled]
  have hcurrent : sampleSent.server.current? "a" = some sampleRevision := rfl
  refine .written hcurrent ?_ ?_
  · rw [applyPatch?_labelPatch (sampleRevision.copy "a") rfl, if_pos rfl]
  · intro known hknown
    rw [List.mem_singleton.mp hknown]
    decide

theorem accepted_patch_changes_role_label_only_sample :
    Reaches AnyRead .standard .epoch sampleSent ∧ sampleToggle ∈ sampleSent.sent ∧
      ∃ after, (sampleSent.server.add "a" sampleWritten).current? "a" = some after ∧
        after.labels["zone"]? = some "east" := by
  have hreaches : Reaches AnyRead .standard .epoch sampleSent :=
    reaches_sampleSent anyRead_sampleList
  have hsent : sampleToggle ∈ sampleSent.sent := List.mem_singleton_self _
  obtain ⟨before, after, hbefore, hafter, -, hothers⟩ :=
    accepted_patch_changes_role_label_only hreaches hsent sampleSent_accepts
  rw [sampleToggle_node] at hbefore hafter
  obtain rfl : sampleRevision = before := Option.some.inj hbefore
  exact ⟨hreaches, hsent, after, hafter, hothers "zone" (by decide +kernel)⟩

end World

end LunConsole

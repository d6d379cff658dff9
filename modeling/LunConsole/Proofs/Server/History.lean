import LunConsole.Label
import LunConsole.Proofs.Server.Patch
import Mathlib.Data.List.Nodup
/-!
# The history of the nodes

The server keeps of every node the revisions that it has had, each under a version of its own. A
place in the history of a node is a number of writes (`after`): right after so many of them the node
was in that revision, and it has been in it until the next one. Nothing in the past changes
(`Extends.after`), and as long as no version is used twice (`Distinct`) a version tells both the
revision and its place.

A patch that was built from a revision carries its version as a test. So the server accepts it only
while that revision is the present one, and what the patch leaves are the labels of that revision
with the one change that was asked for (`Accepts.of_recorded`).
-/

set_option autoImplicit false

namespace LunConsole

/-! ## 1. The server -/

/-- A state of a node at the server. `listed` tells whether the lists that the console gets show the
node in it; they do not once the node has been deleted. -/
structure Revision where
  version : String
  labels : TextMap
  listed : Bool

/-- The node as it is read in that state. -/
def Revision.copy (rev : Revision) (name : String) : StorageNode where
  name
  labels := rev.labels
  resourceVersion := some rev.version

/-- Whether the node carries the label in that state. -/
def Revision.bears (rev : Revision) (label : Label) : Bool :=
  rev.labels[label.key]? == some label.value

/-- A patch of the label leaves it as asked for. -/
theorem Revision.bears_of_labelsWith {rev rev' : Revision} {name : String} {label : Label}
    {present : Bool}
    (h : rev'.labels = (rev.copy name).labelsWith label.key label.value present) :
    rev'.bears label = present := by
  rw [bears, h, StorageNode.getElem?_labelsWith, if_pos rfl]
  cases present with
  | true => simp
  | false => rfl

/-- The revisions of each node, the oldest first. -/
structure Server where
  revisions : String → List Revision

namespace Server

/-- Nothing has been written. -/
def empty : Server := ⟨fun _ => []⟩

/-- How often the node has been written. -/
def writes (s : Server) (n : String) : Nat := (s.revisions n).length

/-- The revision that a write has left; before the first one there is none. -/
def after (s : Server) (n : String) : Nat → Option Revision
  | 0 => none
  | k + 1 => (s.revisions n)[k]?

/-- The present revision of the node. -/
def current? (s : Server) (n : String) : Option Revision := s.after n (s.writes n)

/-- The server once the node has been written. -/
def add (s : Server) (n : String) (rev : Revision) : Server where
  revisions m := if m = n then s.revisions m ++ [rev] else s.revisions m

/-- The node has never had that version. -/
def IsNew (s : Server) (n version : String) : Prop := ∀ rev ∈ s.revisions n, rev.version ≠ version

/-- The patch applies to the present revision. It leaves a new one, under a version of its own,
unless it changes nothing. -/
inductive Accepts (s : Server) (n : String) (ops : List PatchOp) : Server → Prop
  | written {rev : Revision} {labels : TextMap} {version : String} {listed : Bool}
      (hcurrent : s.current? n = some rev)
      (happlies : applyPatch? rev.version rev.labels ops = some labels)
      (hnew : s.IsNew n version) : Accepts s n ops (s.add n ⟨version, labels, listed⟩)
  | kept {rev : Revision} (hcurrent : s.current? n = some rev)
      (happlies : applyPatch? rev.version rev.labels ops = some rev.labels) : Accepts s n ops s

/-- The server has gone on from there. -/
def Extends (s s' : Server) : Prop := ∀ n, s.revisions n <+: s'.revisions n

/-- No version is used twice for a node. -/
def Distinct (s : Server) : Prop := ∀ n, ((s.revisions n).map Revision.version).Nodup

variable {s s' : Server} {n m version : String} {rev rev' : Revision} {k k' : Nat}
  {ops : List PatchOp}

/-! ## 2. Writes -/

theorem revisions_add_self (s : Server) (n : String) (rev : Revision) :
    (s.add n rev).revisions n = s.revisions n ++ [rev] := if_pos rfl

theorem revisions_add_of_ne (h : m ≠ n) : (s.add n rev).revisions m = s.revisions m := if_neg h

theorem extends_add (s : Server) (n : String) (rev : Revision) : s.Extends (s.add n rev) := by
  intro m
  by_cases h : m = n
  · rw [h, revisions_add_self]
    exact List.prefix_append _ _
  · simpa only [revisions_add_of_ne h] using List.prefix_refl (s.revisions m)

theorem Extends.refl (s : Server) : s.Extends s := fun _ => List.prefix_refl _

theorem Extends.mem (h : s.Extends s') (hrev : rev ∈ s.revisions n) : rev ∈ s'.revisions n :=
  (h n).subset hrev

theorem Extends.writes_le (h : s.Extends s') (n : String) : s.writes n ≤ s'.writes n :=
  (h n).length_le

theorem mem_of_after (h : s.after n k = some rev) : rev ∈ s.revisions n := by
  cases k with
  | zero => cases h
  | succ k => exact List.mem_of_getElem? h

theorem le_writes_of_after (h : s.after n k = some rev) : k ≤ s.writes n := by
  cases k with
  | zero => exact Nat.zero_le _
  | succ k => exact (List.getElem?_eq_some_iff.mp h).1

/-- What has been written stays, also where nothing had been written. -/
theorem Extends.after_eq (h : s.Extends s') (hk : k ≤ s.writes n) : s'.after n k = s.after n k := by
  cases k with
  | zero => rfl
  | succ k =>
      obtain ⟨later, hlater⟩ := h n
      rw [Server.after, Server.after, ← hlater, List.getElem?_append_left hk]

/-- Revisions do not change. -/
theorem Extends.after (h : s.Extends s') (hrev : s.after n k = some rev) :
    s'.after n k = some rev := by
  rw [h.after_eq (le_writes_of_after hrev), hrev]

theorem writes_add_self (s : Server) (n : String) (rev : Revision) :
    (s.add n rev).writes n = s.writes n + 1 := by
  rw [writes, revisions_add_self, List.length_append, List.length_singleton]
  rfl

theorem current?_add (s : Server) (n : String) (rev : Revision) :
    (s.add n rev).current? n = some rev := by
  rw [current?, writes_add_self, after, revisions_add_self, writes, List.getElem?_concat_length]

/-! ## 3. Versions -/

theorem Distinct.add (h : s.Distinct) (hnew : s.IsNew n rev.version) : (s.add n rev).Distinct := by
  intro m
  by_cases hm : m = n
  · subst hm
    rw [revisions_add_self, List.map_append, List.map_singleton, List.nodup_append]
    refine ⟨h m, List.nodup_singleton _, ?_⟩
    intro version hversion _ hrev
    obtain ⟨known, hknown, rfl⟩ := List.mem_map.mp hversion
    rw [List.mem_singleton.mp hrev]
    exact hnew known hknown
  · rw [revisions_add_of_ne hm]
    exact h m

/-- A version tells the revision. -/
theorem Distinct.eq_of_version (h : s.Distinct) (hrev : rev ∈ s.revisions n)
    (hrev' : rev' ∈ s.revisions n) (hversion : rev.version = rev'.version) : rev = rev' :=
  List.inj_on_of_nodup_map (h n) hrev hrev' hversion

/-- A version tells the place in the history as well. -/
theorem Distinct.place_eq (h : s.Distinct) (hk : s.after n k = some rev)
    (hk' : s.after n k' = some rev') (hversion : rev.version = rev'.version) : k = k' := by
  cases k with
  | zero => cases hk
  | succ i =>
      cases k' with
      | zero => cases hk'
      | succ j =>
          rw [after] at hk hk'
          have hsame : ((s.revisions n).map Revision.version)[i]?
              = ((s.revisions n).map Revision.version)[j]? := by
            rw [List.getElem?_map, List.getElem?_map, hk, hk', Option.map_some, Option.map_some,
              hversion]
          have hi : i < ((s.revisions n).map Revision.version).length := by
            rw [List.length_map]
            exact (List.getElem?_eq_some_iff.mp hk).1
          rw [(List.getElem?_inj hi (h n)).mp hsame]

/-! ## 4. Patches -/

theorem Accepts.extends (h : s.Accepts n ops s') : s.Extends s' := by
  cases h with
  | written hcurrent happlies hnew => exact extends_add _ _ _
  | kept hcurrent happlies => exact .refl s

theorem Accepts.distinct (h : s.Accepts n ops s') (hdistinct : s.Distinct) : s'.Distinct := by
  cases h with
  | written hcurrent happlies hnew => exact hdistinct.add hnew
  | kept hcurrent happlies => exact hdistinct

/-- A patch of a label that was built from a recorded revision is accepted only while that revision
is the present one. -/
theorem Accepts.of_recorded {key value : String} {present : Bool}
    (h : s.Accepts n ((rev.copy n).labelPatch key value present) s') (hdistinct : s.Distinct)
    (hrev : rev ∈ s.revisions n) :
    s.current? n = some rev ∧ ∃ rev', s'.current? n = some rev' ∧
      rev'.labels = (rev.copy n).labelsWith key value present := by
  have hsame {now : Revision} {labels : TextMap} (hcurrent : s.current? n = some now)
      (happlies : applyPatch? now.version now.labels
        ((rev.copy n).labelPatch key value present) = some labels) :
      now = rev ∧ labels = (rev.copy n).labelsWith key value present := by
    rw [applyPatch?_labelPatch (rev.copy n) rfl] at happlies
    split_ifs at happlies with hversion
    exact ⟨(hdistinct.eq_of_version hrev (mem_of_after hcurrent) hversion).symm,
      (Option.some.inj happlies).symm⟩
  cases h with
  | written hcurrent happlies hnew =>
      obtain ⟨rfl, rfl⟩ := hsame hcurrent happlies
      exact ⟨hcurrent, _, current?_add _ _ _, rfl⟩
  | kept hcurrent happlies =>
      obtain ⟨rfl, hlabels⟩ := hsame hcurrent happlies
      exact ⟨hcurrent, _, hcurrent, hlabels⟩

/-- The server writes once to apply a patch, or not at all. -/
theorem Accepts.writes_le (h : s.Accepts n ops s') :
    s.writes n ≤ s'.writes n ∧ s'.writes n ≤ s.writes n + 1 := by
  refine ⟨h.extends.writes_le n, ?_⟩
  cases h with
  | written hcurrent happlies hnew => exact Nat.le_of_eq (writes_add_self _ _ _)
  | kept hcurrent happlies => exact Nat.le_succ _

end Server

end LunConsole

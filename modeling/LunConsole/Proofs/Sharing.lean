import LunConsole.Sharing
import Mathlib.Data.List.Induction
import Mathlib.Data.List.Perm.Subperm
/-!
# What is shared

`Sighting.groups` goes through the entries once and keeps one group for every WWN. Two notions say
what the groups are without going through anything: the *first sightings*, the entries that no
entry of the same WWN precedes, and the nodes that *see* a device. A list of groups is nothing but
the first sightings, each with the nodes that see its device (`groups_eq`), and so the shared
entries are those first sightings whose device is seen by the right number of nodes
(`sharedEntries_eq`).

The other half of the argument is a matter of counting. A set of names that all stand in a list
without repetition has as many members as the list has places exactly when no place is missed
(`size_eq_length_iff`). That turns "seen by as many nodes as there are" into "seen by every node".
-/

set_option autoImplicit false

namespace LunConsole

open scoped List

/-! ## 1. The nodes that see a device -/

/-- The nodes that see a device, each of them once. -/
def nodesSeeing (entries : List DeviceEntry) (wwn : String) : NameSet :=
  .ofList ((entries.filter fun e => e.wwn = wwn).map DeviceEntry.nodeName)

theorem mem_nodesSeeing {entries : List DeviceEntry} {wwn n : String} :
    n ∈ nodesSeeing entries wwn ↔ ∃ e ∈ entries, e.wwn = wwn ∧ e.nodeName = n := by
  simp [nodesSeeing, Std.ExtTreeSet.mem_ofList, and_assoc]

/-- One more entry adds its node to those that see its device, and to no others. -/
theorem nodesSeeing_append_singleton (entries : List DeviceEntry) (e : DeviceEntry)
    (wwn : String) :
    nodesSeeing (entries ++ [e]) wwn
      = if wwn = e.wwn then (nodesSeeing entries wwn).insert e.nodeName
        else nodesSeeing entries wwn := by
  apply Std.ExtTreeSet.ext_mem
  intro n
  by_cases h : wwn = e.wwn
  · subst h
    rw [if_pos rfl, Std.ExtTreeSet.mem_insert, mem_nodesSeeing, mem_nodesSeeing]
    simp only [List.mem_append, List.mem_singleton, Std.compare_eq_iff_eq]
    grind
  · rw [if_neg h, mem_nodesSeeing, mem_nodesSeeing]
    simp only [List.mem_append, List.mem_singleton]
    grind

theorem nodup_toList (s : NameSet) : s.toList.Nodup := by
  refine List.Pairwise.imp ?_ (Std.ExtTreeSet.distinct_toList (t := s))
  rintro a b hne rfl
  exact hne Std.compare_self

private theorem toList_subperm {s : NameSet} {names : List String} (hsub : ∀ n ∈ s, n ∈ names) :
    s.toList <+~ names :=
  (nodup_toList s).subperm fun n hn => hsub n (Std.ExtTreeSet.mem_toList.mp hn)

/-- Names that all stand in a list, and are as many as the list is long, are all that stand in it. -/
theorem forall_mem_of_size_eq_length {s : NameSet} {names : List String}
    (hsub : ∀ n ∈ s, n ∈ names) (hsize : s.size = names.length) : ∀ n ∈ names, n ∈ s := by
  intro n hn
  rw [← Std.ExtTreeSet.length_toList] at hsize
  have hperm := (toList_subperm hsub).perm_of_length_le (Nat.le_of_eq hsize.symm)
  exact Std.ExtTreeSet.mem_toList.mp (hperm.mem_iff.mpr hn)

/-- **The counting step.** Names that all stand in a list without repetition are as many as the
list is long exactly when each of the list is among them. -/
theorem size_eq_length_iff {s : NameSet} {names : List String} (hnodup : names.Nodup)
    (hsub : ∀ n ∈ s, n ∈ names) : s.size = names.length ↔ ∀ n ∈ names, n ∈ s := by
  refine ⟨forall_mem_of_size_eq_length hsub, fun hall => ?_⟩
  have hback : names <+~ s.toList :=
    hnodup.subperm fun n hn => Std.ExtTreeSet.mem_toList.mpr (hall n hn)
  rw [← Std.ExtTreeSet.length_toList]
  exact Nat.le_antisymm (toList_subperm hsub).length_le hback.length_le

/-! ## 2. First sightings -/

/-- The entries that are the first of their device. -/
def firstSightings : List DeviceEntry → List DeviceEntry
  | [] => []
  | e :: es => e :: (firstSightings es).filter fun f => f.wwn ≠ e.wwn

/-- Every device that is seen at all is seen for a first time. -/
theorem exists_firstSighting_iff {entries : List DeviceEntry} {wwn : String} :
    (∃ e ∈ firstSightings entries, e.wwn = wwn) ↔ ∃ e ∈ entries, e.wwn = wwn := by
  induction entries with
  | nil => simp [firstSightings]
  | cons a es ih =>
      by_cases h : a.wwn = wwn
      · exact ⟨fun _ => ⟨a, List.mem_cons_self, h⟩, fun _ => ⟨a, List.mem_cons_self, h⟩⟩
      · simp only [firstSightings, List.mem_cons, List.mem_filter, decide_eq_true_eq]
        grind

/-- No device is seen for the first time twice. -/
theorem nodup_firstSightings (entries : List DeviceEntry) :
    ((firstSightings entries).map DeviceEntry.wwn).Nodup := by
  induction entries with
  | nil => exact List.nodup_nil
  | cons a es ih =>
      rw [firstSightings, List.map_cons, List.nodup_cons]
      constructor
      · simp
      · exact ih.sublist (List.filter_sublist.map DeviceEntry.wwn)

/-- An entry at the end is a first sighting if nothing before it has its WWN. -/
theorem firstSightings_append_singleton (entries : List DeviceEntry) (e : DeviceEntry) :
    firstSightings (entries ++ [e])
      = if ∃ f ∈ entries, f.wwn = e.wwn then firstSightings entries
        else firstSightings entries ++ [e] := by
  induction entries with
  | nil => simp [firstSightings]
  | cons a es ih =>
      rw [List.cons_append, firstSightings, ih, firstSightings]
      by_cases hes : ∃ f ∈ es, f.wwn = e.wwn
      · rw [if_pos hes, if_pos (by grind)]
      · -- new among the later entries; what is left is whether the first one has its WWN
        rw [if_neg hes, List.filter_append]
        by_cases ha : a.wwn = e.wwn
        · rw [if_pos ⟨a, List.mem_cons_self, ha⟩]
          simp [ha]
        · rw [if_neg (by grind)]
          simp [Ne.symm ha]

/-- Of two lists, the second one adds the devices that are not in the first. -/
theorem firstSightings_append (xs ys : List DeviceEntry) :
    firstSightings (xs ++ ys)
      = firstSightings xs ++ (firstSightings ys).filter fun e => ∀ f ∈ xs, f.wwn ≠ e.wwn := by
  induction xs with
  | nil => simp [firstSightings]
  | cons a xs ih =>
      rw [List.cons_append, firstSightings, ih, firstSightings, List.filter_append,
        List.filter_filter, List.cons_append]
      congr 2
      refine List.filter_congr fun e _ => ?_
      rw [Bool.eq_iff_iff]
      simp only [Bool.and_eq_true, decide_eq_true_eq, List.forall_mem_cons, ne_comm (a := a.wwn)]

/-- A first sighting is what a search for its device finds. -/
theorem mem_firstSightings_iff {entries : List DeviceEntry} {e : DeviceEntry} :
    e ∈ firstSightings entries ↔ entries.find? (fun f => f.wwn = e.wwn) = some e := by
  induction entries with
  | nil => simp [firstSightings]
  | cons a es ih =>
      rw [firstSightings, List.mem_cons, List.mem_filter, ih]
      by_cases ha : a.wwn = e.wwn
      · simp [ha, eq_comm (a := e)]
      · have hne : e ≠ a := fun h => ha (congrArg DeviceEntry.wwn h.symm)
        have ha' : e.wwn ≠ a.wwn := fun h => ha h.symm
        simp [ha, ha', hne]

/-- Where only devices of the first list count, so do only first sightings in it. -/
theorem filter_firstSightings_append {xs ys : List DeviceEntry} {p : DeviceEntry → Bool}
    (h : ∀ e ∈ ys, p e → ∃ f ∈ xs, f.wwn = e.wwn) :
    (firstSightings (xs ++ ys)).filter p = (firstSightings xs).filter p := by
  have hnone : ((firstSightings ys).filter fun e => ∀ f ∈ xs, f.wwn ≠ e.wwn).filter p = [] := by
    refine List.filter_eq_nil_iff.mpr fun e he hp => ?_
    obtain ⟨he, hnew⟩ := List.mem_filter.mp he
    obtain ⟨f, hf, hfe⟩ := h e (List.mem_of_find?_eq_some (mem_firstSightings_iff.mp he)) hp
    exact of_decide_eq_true hnew f hf hfe
  rw [firstSightings_append, List.filter_append, hnone, List.append_nil]

/-- First sightings are in the order in which their devices come. -/
theorem pairwise_firstSightings (entries : List DeviceEntry) :
    (firstSightings entries).Pairwise fun e f =>
      entries.findIdx (fun g => g.wwn = e.wwn) < entries.findIdx (fun g => g.wwn = f.wwn) := by
  induction entries with
  | nil => exact List.Pairwise.nil
  | cons a es ih =>
      -- a device other than the first one comes one place later than without it
      have hlater : ∀ f ∈ (firstSightings es).filter (fun f => f.wwn ≠ a.wwn),
          (a :: es).findIdx (fun g => g.wwn = f.wwn)
            = es.findIdx (fun g => g.wwn = f.wwn) + 1 := by
        intro f hf
        have hne : a.wwn ≠ f.wwn := fun h => of_decide_eq_true (List.mem_filter.mp hf).2 h.symm
        rw [List.findIdx_cons, decide_eq_false hne, cond_false]
      rw [firstSightings, List.pairwise_cons]
      constructor
      · intro f hf
        rw [hlater f hf, List.findIdx_cons, decide_eq_true rfl, cond_true]
        exact Nat.succ_pos _
      · refine (ih.filter _).imp_of_mem fun {e f} he hf hlt => ?_
        rw [hlater e he, hlater f hf]
        exact Nat.succ_lt_succ hlt

/-! ## 3. The groups -/

/-- Recording an entry in groups whose nodes are given by the WWN: its node joins the group of its
WWN, or a group is added. -/
theorem record_map (firsts : List DeviceEntry) (nodes : String → NameSet) (e : DeviceEntry)
    (hnodup : (firsts.map DeviceEntry.wwn).Nodup) :
    Sighting.record (firsts.map fun f => ⟨f, nodes f.wwn⟩) e
      = if ∃ f ∈ firsts, f.wwn = e.wwn then
          firsts.map fun f =>
            ⟨f, if f.wwn = e.wwn then (nodes f.wwn).insert e.nodeName else nodes f.wwn⟩
        else firsts.map (fun f => ⟨f, nodes f.wwn⟩) ++ [.ofEntry e] := by
  induction firsts with
  | nil => simp [Sighting.record]
  | cons a fs ih =>
      rw [List.map_cons, List.nodup_cons] at hnodup
      rw [List.map_cons, Sighting.record]
      by_cases ha : a.wwn = e.wwn
      · -- the group is found here, and no later group has the same WWN
        have hrest : ∀ f ∈ fs, f.wwn ≠ e.wwn := fun f hf hfe =>
          hnodup.1 (List.mem_map.mpr ⟨f, hf, hfe.trans ha.symm⟩)
        rw [if_pos ha, if_pos ⟨a, List.mem_cons_self, ha⟩, List.map_cons, if_pos ha]
        congr 1
        exact List.map_congr_left fun f hf => by rw [if_neg (hrest f hf)]
      · rw [if_neg ha, ih hnodup.2]
        by_cases hfs : ∃ f ∈ fs, f.wwn = e.wwn
        · rw [if_pos hfs, if_pos (by grind), List.map_cons, if_neg ha]
        · rw [if_neg hfs, if_neg (by grind), List.cons_append]

/-- **The groups** are the first sightings, each with the nodes that see its device. -/
theorem groups_eq (entries : List DeviceEntry) :
    Sighting.groups entries
      = (firstSightings entries).map fun e => ⟨e, nodesSeeing entries e.wwn⟩ := by
  induction entries using List.reverseRecOn with
  | nil => rfl
  | append_singleton es e ih =>
      have hstep : Sighting.groups (es ++ [e]) = Sighting.record (Sighting.groups es) e := by
        simp only [Sighting.groups, List.foldl_append, List.foldl_cons, List.foldl_nil]
      rw [hstep, ih, record_map _ (nodesSeeing es) _ (nodup_firstSightings es),
        firstSightings_append_singleton]
      simp only [exists_firstSighting_iff, nodesSeeing_append_singleton]
      by_cases hseen : ∃ f ∈ es, f.wwn = e.wwn
      · rw [if_pos hseen, if_pos hseen]
      · rw [if_neg hseen, if_neg hseen, List.map_append, List.map_singleton, if_pos rfl]
        congr 1
        · -- no first sighting has the WWN of the new entry
          refine List.map_congr_left fun f hf => ?_
          have hfe : f.wwn ≠ e.wwn := fun h =>
            hseen (exists_firstSighting_iff.mp ⟨f, hf, h⟩)
          rw [if_neg hfe]
        · have hnone : nodesSeeing es e.wwn = ∅ := by
            refine Std.ExtTreeSet.eq_empty_iff_forall_not_mem.mpr fun n hn => ?_
            obtain ⟨f, hf, hfe, -⟩ := mem_nodesSeeing.mp hn
            exact hseen ⟨f, hf, hfe⟩
          rw [hnone]
          rfl

/-! ## 4. Shared entries -/

/-- **The shared entries** are the first sightings of the devices seen by that many nodes. -/
theorem sharedEntries_eq (entries : List DeviceEntry) (nodeCount : Nat) :
    sharedEntries entries nodeCount
      = (firstSightings entries).filter fun e =>
          nodeCount ≠ 0 ∧ (nodesSeeing entries e.wwn).size = nodeCount := by
  rw [sharedEntries]
  by_cases hn : nodeCount = 0
  · simp [hn]
  · rw [if_neg hn, groups_eq, List.filter_map, List.map_map]
    simp only [ne_eq, hn, not_false_eq_true, true_and]
    exact List.map_id _

theorem nodup_sharedEntries (entries : List DeviceEntry) (nodeCount : Nat) :
    ((sharedEntries entries nodeCount).map DeviceEntry.wwn).Nodup := by
  rw [sharedEntries_eq]
  exact (nodup_firstSightings entries).sublist (List.filter_sublist.map DeviceEntry.wwn)

/-- A device is shared if it is seen by that many nodes, and by one at least. -/
theorem exists_sharedEntry_iff {entries : List DeviceEntry} {nodeCount : Nat} {wwn : String} :
    (∃ e ∈ sharedEntries entries nodeCount, e.wwn = wwn) ↔
      nodeCount ≠ 0 ∧ (nodesSeeing entries wwn).size = nodeCount := by
  rw [sharedEntries_eq]
  constructor
  · rintro ⟨e, he, rfl⟩
    simpa using (List.mem_filter.mp he).2
  · rintro ⟨hn, hsize⟩
    -- some node sees the device, so there is a first sighting of it
    have hne : nodesSeeing entries wwn ≠ ∅ := by
      intro h
      rw [h, Std.ExtTreeSet.size_empty] at hsize
      exact hn hsize.symm
    obtain ⟨n, hmem⟩ : ∃ n, n ∈ nodesSeeing entries wwn := by
      by_contra hnone
      exact hne (Std.ExtTreeSet.eq_empty_iff_forall_not_mem.mpr fun n h => hnone ⟨n, h⟩)
    obtain ⟨f, hf, hfw, -⟩ := mem_nodesSeeing.mp hmem
    obtain ⟨e, he, rfl⟩ := exists_firstSighting_iff.mpr ⟨f, hf, hfw⟩
    exact ⟨e, List.mem_filter.mpr ⟨he, by simpa using ⟨hn, hsize⟩⟩, rfl⟩

end LunConsole

import LunConsole.Candidates
import LunConsole.Proofs.Sharing
import Mathlib.Data.List.Nodup
/-!
# Which devices are offered

The candidates come out of four stages: the reports of the storage nodes are picked and put in
order, flattened into entries, reduced to the shared ones, and rid of those that are claimed. What
a user relies on speaks of none of the stages: a device is offered exactly if there are storage
nodes, each of them reports it, and no local disk has its name.

The stage that needs an argument is the third. It counts the nodes that see a device and compares
the count with the number of storage nodes. The count can only stand for "all of them" because no
entry comes from any other node and no storage node is listed twice (`size_nodesSeeing_project`).
-/

set_option autoImplicit false

namespace LunConsole

/-- Every one of the nodes reports the device, and there is a node. -/
def SeenByAll (discovery : List DiscoveryReport) (nodes : List String) (wwn : String) : Prop :=
  nodes ≠ [] ∧ ∀ n ∈ nodes, ∃ r ∈ discovery, r.nodeName = n ∧ ∃ d ∈ r.devices, d.wwn = wwn

/-- A local disk has the device for its name. -/
def IsClaimed (disks : List LocalDisk) (wwn : String) : Prop := ∃ d ∈ disks, d.name = wwn

/-- A report of a node on devices with these WWNs. -/
def DiscoveryReport.listing (node : String) (wwns : List String) : DiscoveryReport where
  metadata := .empty
  spec := ⟨node⟩
  status := some ⟨wwns.map fun w => ⟨"/dev/" ++ w, w, 0, none, none, none, none⟩, none⟩

/-- A local disk with the device for its name. -/
def LocalDisk.claiming (wwn : String) : LocalDisk where
  metadata := .named wwn ""
  spec := ⟨"/dev/" ++ wwn, "", false⟩
  status := none

namespace Inputs

/-! ## 1. The inputs -/

/-- Putting a report in adds it and nothing else. -/
theorem perm_insertReport (r : NodeReport) (rs : List NodeReport) :
    (insertReport r rs).Perm (r :: rs) := by
  induction rs with
  | nil => exact .refl _
  | cons s rs ih =>
      rw [insertReport]
      split_ifs with h
      · exact .refl _
      · exact (ih.cons s).trans (.swap r s rs)

theorem sortReports_append_singleton (rs : List NodeReport) (r : NodeReport) :
    sortReports (rs ++ [r]) = insertReport r (sortReports rs) := by
  simp only [sortReports, List.foldl_append, List.foldl_cons, List.foldl_nil]

/-- Ordering the reports neither adds one nor loses one. -/
theorem perm_sortReports (rs : List NodeReport) : (sortReports rs).Perm rs := by
  induction rs using List.reverseRecOn with
  | nil => exact .refl _
  | append_singleton rs r ih =>
      rw [sortReports_append_singleton]
      have hfirst : (insertReport r (sortReports rs)).Perm (r :: rs) :=
        (perm_insertReport r _).trans (ih.cons r)
      exact hfirst.trans (List.perm_append_singleton r rs).symm

theorem mem_sortReports {s : NodeReport} {rs : List NodeReport} :
    s ∈ sortReports rs ↔ s ∈ rs := (perm_sortReports rs).mem_iff

/-- Reports in the order of the names of their nodes. -/
def Ordered (rs : List NodeReport) : Prop := rs.Pairwise fun r s => r.nodeName ≤ s.nodeName

theorem ordered_insertReport {rs : List NodeReport} (h : Ordered rs) (r : NodeReport) :
    Ordered (insertReport r rs) := by
  induction rs with
  | nil => exact List.pairwise_singleton _ _
  | cons s rs ih =>
      obtain ⟨hfirst, hrest⟩ := List.pairwise_cons.mp h
      rw [insertReport]
      split_ifs with hlt
      · -- before the first one, so before all
        have hle : r.nodeName ≤ s.nodeName := Std.le_of_lt hlt
        refine List.pairwise_cons.mpr ⟨fun t ht => ?_, h⟩
        rcases List.mem_cons.mp ht with rfl | ht
        · exact hle
        · exact String.le_trans hle (hfirst t ht)
      · have hle : s.nodeName ≤ r.nodeName := String.not_lt.mp hlt
        refine List.pairwise_cons.mpr ⟨fun t ht => ?_, ih hrest⟩
        rcases List.mem_cons.mp ((perm_insertReport r rs).mem_iff.mp ht) with rfl | ht
        · exact hle
        · exact hfirst t ht

theorem ordered_sortReports (rs : List NodeReport) : Ordered (sortReports rs) := by
  induction rs using List.reverseRecOn with
  | nil => exact List.Pairwise.nil
  | append_singleton rs r ih =>
      rw [sortReports_append_singleton]
      exact ordered_insertReport ih r

/-- **There is one order** for the reports of different nodes to stand in, whatever order they came
in. -/
theorem sortReports_eq_of_perm {rs ss : List NodeReport} (hperm : rs.Perm ss)
    (hdistinct : (rs.map NodeReport.nodeName).Nodup) : sortReports rs = sortReports ss := by
  have hsorted : (sortReports rs).Perm (sortReports ss) :=
    ((perm_sortReports rs).trans hperm).trans (perm_sortReports ss).symm
  refine hsorted.eq_of_pairwise ?_ (ordered_sortReports rs) (ordered_sortReports ss)
  intro a b ha hb hab hba
  -- neither comes before the other, so they are of one node
  have hname : a.nodeName = b.nodeName := String.le_antisymm hab hba
  have ha' : a ∈ rs := mem_sortReports.mp ha
  have hb' : b ∈ rs := hperm.mem_iff.mpr (mem_sortReports.mp hb)
  exact List.inj_on_of_nodup_map hdistinct ha' hb' hname

/-- The reports that count are those of the given nodes. -/
theorem mem_reports_project {discovery : List DiscoveryReport} {disks : List LocalDisk}
    {nodes : List String} {s : NodeReport} :
    s ∈ (project discovery disks nodes).reports ↔
      ∃ r ∈ discovery, r.nodeName ∈ nodes ∧ r.nodeReport = s := by
  rw [project, mem_sortReports]
  simp [and_assoc]

theorem mem_claimed_project {discovery : List DiscoveryReport} {disks : List LocalDisk}
    {nodes : List String} {wwn : String} :
    wwn ∈ (project discovery disks nodes).claimed ↔ IsClaimed disks wwn := by
  simp [project, Std.ExtTreeSet.mem_ofList, IsClaimed, LocalDisk.wwn]

/-- What the reports of the given nodes say, in the order in which they come. -/
def reportsOf (nodes : List String) (discovery : List DiscoveryReport) : List NodeReport :=
  (discovery.filter fun r => nodes.contains r.nodeName).map DiscoveryReport.nodeReport

/-- **The inputs do not depend** on the order of the reports of different nodes, nor on what other
nodes report. -/
theorem project_congr_reports {discovery discovery' : List DiscoveryReport} {nodes : List String}
    (hdistinct : ((reportsOf nodes discovery).map NodeReport.nodeName).Nodup)
    (hreports : (reportsOf nodes discovery').Perm (reportsOf nodes discovery))
    (disks : List LocalDisk) :
    project discovery' disks nodes = project discovery disks nodes := by
  have hsorted : (project discovery' disks nodes).reports
      = (project discovery disks nodes).reports :=
    (sortReports_eq_of_perm hreports.symm hdistinct).symm
  exact congrArg (fun reports => { project discovery disks nodes with reports }) hsorted

/-- Nor do they depend on how often and in which order devices are claimed. -/
theorem project_congr_claimed {disks disks' : List LocalDisk}
    (hclaimed : ∀ wwn, IsClaimed disks' wwn ↔ IsClaimed disks wwn)
    (discovery : List DiscoveryReport) (nodes : List String) :
    project discovery disks' nodes = project discovery disks nodes := by
  have hset : (project discovery disks' nodes).claimed
      = (project discovery disks nodes).claimed := by
    apply Std.ExtTreeSet.ext_mem
    intro wwn
    rw [mem_claimed_project, mem_claimed_project, hclaimed]
  exact congrArg (fun claimed => { project discovery disks nodes with claimed }) hset

/-! ## 2. From counting nodes to every node -/

/-- The nodes that see a device in the catalog are the given nodes that report it. -/
theorem mem_nodesSeeing_project {discovery : List DiscoveryReport} {disks : List LocalDisk}
    {nodes : List String} {wwn n : String} :
    n ∈ nodesSeeing (catalog (project discovery disks nodes).reports) wwn ↔
      n ∈ nodes ∧ ∃ r ∈ discovery, r.nodeName = n ∧ ∃ d ∈ r.devices, d.wwn = wwn := by
  rw [mem_nodesSeeing]
  constructor
  · rintro ⟨e, he, rfl, rfl⟩
    obtain ⟨s, hs, d, hd, rfl⟩ := mem_catalog.mp he
    obtain ⟨r, hr, hrn, rfl⟩ := mem_reports_project.mp hs
    exact ⟨hrn, r, hr, rfl, d, hd, rfl⟩
  · rintro ⟨hn, r, hr, rfl, d, hd, rfl⟩
    refine ⟨d.seenBy r.nodeName, ?_, rfl, rfl⟩
    exact mem_catalog.mpr ⟨r.nodeReport, mem_reports_project.mpr ⟨r, hr, hn, rfl⟩, d, hd, rfl⟩

/-- As many nodes as there are see a device exactly if each of them reports it. -/
theorem size_nodesSeeing_project {discovery : List DiscoveryReport} {disks : List LocalDisk}
    {nodes : List String} (hnodup : nodes.Nodup) {wwn : String} :
    (nodesSeeing (catalog (project discovery disks nodes).reports) wwn).size = nodes.length ↔
      ∀ n ∈ nodes, ∃ r ∈ discovery, r.nodeName = n ∧ ∃ d ∈ r.devices, d.wwn = wwn := by
  -- no other node sees it, so to be as many is to be the same
  rw [size_eq_length_iff hnodup fun n hn => (mem_nodesSeeing_project.mp hn).1]
  constructor
  · intro h n hn
    exact (mem_nodesSeeing_project.mp (h n hn)).2
  · intro h n hn
    exact mem_nodesSeeing_project.mpr ⟨hn, h n hn⟩

/-! ## 3. The candidates -/

/-- The WWNs on offer are those of the shared entries that are not claimed. -/
theorem map_wwn_candidates (i : Inputs) :
    i.candidates.map Lun.wwn
      = ((sharedEntries (catalog i.reports) i.nodeCount).map DeviceEntry.wwn).filter
          fun wwn => !i.claimed.contains wwn := by
  rw [candidates, unclaimedEntries, List.map_map, List.filter_map]
  rfl

/-- No device is offered twice. -/
theorem nodup_candidates (i : Inputs) : (i.candidates.map Lun.wwn).Nodup := by
  rw [map_wwn_candidates]
  exact (nodup_sharedEntries _ _).filter _

/-- What is offered is not selected yet. -/
theorem isSelected_candidates {i : Inputs} {l : Lun} (hl : l ∈ i.candidates) :
    l.isSelected = false := by
  obtain ⟨e, -, rfl⟩ := List.mem_map.mp hl
  rfl

/-- **What is offered**: the devices that all storage nodes see and nobody claims. -/
theorem mem_candidates_iff {discovery : List DiscoveryReport} {disks : List LocalDisk}
    {nodes : List String} (hnodup : nodes.Nodup) {wwn : String} :
    wwn ∈ (project discovery disks nodes).candidates.map Lun.wwn ↔
      SeenByAll discovery nodes wwn ∧ ¬ IsClaimed disks wwn := by
  have hcount : (project discovery disks nodes).nodeCount = nodes.length := rfl
  have hclaimed : (!(project discovery disks nodes).claimed.contains wwn) = true ↔
      ¬ IsClaimed disks wwn := by
    have hmem : wwn ∈ (project discovery disks nodes).claimed ↔ IsClaimed disks wwn :=
      mem_claimed_project
    rw [← hmem, Std.ExtTreeSet.mem_iff_contains, Bool.not_eq_true', Bool.not_eq_true]
  rw [map_wwn_candidates, List.mem_filter, List.mem_map, exists_sharedEntry_iff, hcount,
    size_nodesSeeing_project hnodup, hclaimed, SeenByAll, ne_eq, List.length_eq_zero_iff]

/-- The candidates are exactly the devices that every storage node reports and no local disk
names; each is offered once, and none is selected. -/
theorem candidates_exactly_shared_unclaimed (discovery : List DiscoveryReport)
    (disks : List LocalDisk) (nodes : List String) (hnodup : nodes.Nodup) :
    (∀ wwn, wwn ∈ (project discovery disks nodes).candidates.map Lun.wwn ↔
      nodes ≠ [] ∧
      (∀ n ∈ nodes, ∃ r ∈ discovery, r.nodeName = n ∧ ∃ d ∈ r.devices, d.wwn = wwn) ∧
      ∀ d ∈ disks, d.name ≠ wwn) ∧
    ((project discovery disks nodes).candidates.map Lun.wwn).Nodup ∧
    ∀ l ∈ (project discovery disks nodes).candidates, l.isSelected = false := by
  refine ⟨fun wwn => ?_, nodup_candidates _, fun l hl => isSelected_candidates hl⟩
  rw [mem_candidates_iff hnodup, SeenByAll, IsClaimed, and_assoc]
  simp only [not_exists, not_and, ne_eq]

/-- `X` is reported twice by one node and in the second report of the other; `Y` is claimed, and
`c` is no storage node. -/
theorem candidates_exactly_shared_unclaimed_multipath :
    ["a", "b"].Nodup ∧
      "X" ∈ (project
        [.listing "b" ["X", "Y", "X"], .listing "c" ["Z"], .listing "a" ["Y", "Z"],
          .listing "a" ["X"]]
        [.claiming "Y"] ["a", "b"]).candidates.map Lun.wwn :=
  ⟨by decide,
    ((candidates_exactly_shared_unclaimed _ _ ["a", "b"] (by decide)).1 "X").mpr (by decide)⟩

end Inputs

end LunConsole

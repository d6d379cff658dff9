import LunConsole.Proofs.ByteOrder
import LunConsole.Proofs.Candidates
/-!
# Where an offered device is seen

A candidate stands for a device that many nodes see, and shows the path and the size that one of
them reports. This one is the node whose name is the smallest: its reports are the first in the
catalog, and since every storage node has to see the device, this one does, so that the first
sighting is there (`sharedEntries_eq_of_smallest`). The reports of one node keep the order in which
they came when the reports are put in order (`filter_sortReports`), so that the sighting is also
the first one in what the node itself says.

The list of candidates is then known as a whole (`candidates_eq_of_smallest`): it is the list of
devices that the smallest node reports, each where it stands first, without those that are not
shared or that are claimed. Nothing is asked of the list of nodes: if it has repetitions there are
no candidates.
-/

set_option autoImplicit false

namespace LunConsole

namespace Inputs

/-! ## 1. The reports of one node -/

/-- Putting a report in leaves each node with its reports in their order, the new one at the end. -/
theorem filter_insertReport {rs : List NodeReport} (h : Ordered rs) (r : NodeReport) (n : String) :
    (insertReport r rs).filter (fun s => s.nodeName = n)
      = (rs ++ [r]).filter fun s => s.nodeName = n := by
  induction rs with
  | nil => rfl
  | cons s rs ih =>
      obtain ⟨hfirst, hrest⟩ := List.pairwise_cons.mp h
      rw [insertReport]
      split_ifs with hlt
      · by_cases hr : r.nodeName = n
        · -- all reports that stand here are of nodes with greater names
          have hnone : (s :: rs).filter (fun t => t.nodeName = n) = [] := by
            refine List.filter_eq_nil_iff.mpr fun t ht => ?_
            have hst : s.nodeName ≤ t.nodeName := by
              rcases List.mem_cons.mp ht with rfl | ht
              · exact String.le_refl _
              · exact hfirst t ht
            have hrt : r.nodeName < t.nodeName := Std.lt_of_lt_of_le hlt hst
            simpa [← hr] using (Std.ne_of_lt hrt).symm
          rw [List.filter_append, hnone, List.filter_cons, hnone]
          simp [List.filter_cons]
        · rw [List.filter_append, List.filter_cons_of_neg (by simpa using hr)]
          simp [List.filter_cons, hr]
      · rw [List.cons_append, List.filter_cons, List.filter_cons, ih hrest]

/-- Ordering the reports leaves each node with its reports in their order. -/
theorem filter_sortReports (rs : List NodeReport) (n : String) :
    (sortReports rs).filter (fun s => s.nodeName = n) = rs.filter fun s => s.nodeName = n := by
  induction rs using List.reverseRecOn with
  | nil => rfl
  | append_singleton rs r ih =>
      rw [sortReports_append_singleton, filter_insertReport (ordered_sortReports rs),
        List.filter_append, ih, ← List.filter_append]

/-- Ordered reports begin with all those of a node whose name is the smallest. -/
theorem Ordered.eq_append {rs : List NodeReport} (h : Ordered rs) {m : String}
    (hm : ∀ r ∈ rs, m ≤ r.nodeName) :
    rs = rs.filter (fun r => r.nodeName = m) ++ rs.filter fun r => r.nodeName ≠ m := by
  induction rs with
  | nil => rfl
  | cons s rs ih =>
      obtain ⟨hfirst, hrest⟩ := List.pairwise_cons.mp h
      by_cases hs : s.nodeName = m
      · rw [List.filter_cons_of_pos (by simpa using hs),
          List.filter_cons_of_neg (by simpa using hs), List.cons_append, ← ih hrest fun r hr => hm r (List.mem_cons_of_mem _ hr)]
      · -- the first report is of another node, so all are
        have hother : ∀ r ∈ s :: rs, r.nodeName ≠ m := by
          intro r hr hrm
          have hsr : s.nodeName ≤ r.nodeName := by
            rcases List.mem_cons.mp hr with rfl | hr
            · exact String.le_refl _
            · exact hfirst r hr
          exact hs (String.le_antisymm (hrm ▸ hsr) (hm s List.mem_cons_self))
        rw [List.filter_eq_nil_iff.mpr fun r hr => by simpa using hother r hr,
          List.filter_eq_self.mpr fun r hr => by simpa using hother r hr, List.nil_append]

/-- What a node reports: its reports in the order in which they come, and in each of them the
devices in their order. -/
def devicesOf (node : String) (discovery : List DiscoveryReport) : List DiscoveredDevice :=
  (discovery.filter fun r => r.nodeName = node).flatMap DiscoveryReport.devices

/-- The sightings of a storage node in the catalog are what it reports. -/
theorem catalog_filter_project {nodes : List String} {m : String} (hm : m ∈ nodes)
    (discovery : List DiscoveryReport) (disks : List LocalDisk) :
    catalog ((project discovery disks nodes).reports.filter fun r => r.nodeName = m)
      = (devicesOf m discovery).map fun d => d.seenBy m := by
  have hreports : (project discovery disks nodes).reports.filter (fun r => r.nodeName = m)
      = (discovery.filter fun r => r.nodeName = m).map DiscoveryReport.nodeReport := by
    rw [project, filter_sortReports, List.filter_map, List.filter_filter]
    congr 1
    refine List.filter_congr fun r _ => ?_
    by_cases hr : r.nodeName = m
    · simp [DiscoveryReport.nodeReport, hr, hm]
    · simp [DiscoveryReport.nodeReport, hr]
  rw [hreports, devicesOf, catalog, List.flatMap_map, List.map_flatMap]
  refine List.flatMap_congr fun r hr => ?_
  have hname : r.nodeName = m := by simpa using (List.mem_filter.mp hr).2
  rw [NodeReport.entries, DiscoveryReport.nodeReport, hname]

/-! ## 2. The smallest node -/

/-- Among some names there is a smallest one. -/
theorem exists_smallest {names : List String} (h : names ≠ []) :
    ∃ m ∈ names, ∀ n ∈ names, m ≤ n := by
  induction names with
  | nil => exact absurd rfl h
  | cons a names ih =>
      by_cases hnil : names = []
      · subst hnil
        exact ⟨a, List.mem_singleton_self a, by simp⟩
      · obtain ⟨m, hm, hle⟩ := ih hnil
        rcases String.le_total a m with ham | hma
        · refine ⟨a, List.mem_cons_self, List.forall_mem_cons.mpr ⟨String.le_refl a, ?_⟩⟩
          exact fun n hn => String.le_trans ham (hle n hn)
        · exact ⟨m, List.mem_cons_of_mem _ hm, List.forall_mem_cons.mpr ⟨hma, hle⟩⟩

variable {discovery : List DiscoveryReport} {disks : List LocalDisk} {nodes : List String}

/-- A device that as many nodes see as there are is seen by each of them. -/
theorem mem_nodesSeeing_of_size {wwn : String}
    (hsize : (nodesSeeing (catalog (project discovery disks nodes).reports) wwn).size
      = nodes.length) {n : String} (hn : n ∈ nodes) :
    n ∈ nodesSeeing (catalog (project discovery disks nodes).reports) wwn :=
  forall_mem_of_size_eq_length (fun _ hk => (mem_nodesSeeing_project.mp hk).1) hsize n hn

/-- **Shared devices are represented by the smallest node.** The shared entries are the first
sightings in what that node reports, as far as they are shared. -/
theorem sharedEntries_eq_of_smallest {m : String} (hm : m ∈ nodes) (hle : ∀ n ∈ nodes, m ≤ n) :
    sharedEntries (catalog (project discovery disks nodes).reports) nodes.length
      = (firstSightings ((devicesOf m discovery).map fun d => d.seenBy m)).filter fun e =>
          (nodesSeeing (catalog (project discovery disks nodes).reports) e.wwn).size
            = nodes.length := by
  have hreports : (project discovery disks nodes).reports
      = (project discovery disks nodes).reports.filter (fun r => r.nodeName = m)
        ++ (project discovery disks nodes).reports.filter fun r => r.nodeName ≠ m := by
    refine (ordered_sortReports _).eq_append fun r hr => ?_
    have hmem : r ∈ (project discovery disks nodes).reports := hr
    obtain ⟨s, -, hsn, rfl⟩ := mem_reports_project.mp hmem
    exact hle _ hsn
  have hcatalog : (devicesOf m discovery).map (fun d => d.seenBy m)
        ++ catalog ((project discovery disks nodes).reports.filter fun r => r.nodeName ≠ m)
      = catalog (project discovery disks nodes).reports := by
    rw [← catalog_filter_project hm discovery disks, ← catalog_append, ← hreports]
  -- a device that as many nodes see as there are is among those that `m` reports
  have hshared : ∀ e : DeviceEntry,
      (nodesSeeing (catalog (project discovery disks nodes).reports) e.wwn).size = nodes.length →
        ∃ f ∈ (devicesOf m discovery).map (fun d => d.seenBy m), f.wwn = e.wwn := by
    intro e hsize
    obtain ⟨-, r, hr, hrm, d, hd, hde⟩ :=
      mem_nodesSeeing_project.mp (mem_nodesSeeing_of_size hsize hm)
    have hdm : d ∈ devicesOf m discovery :=
      List.mem_flatMap.mpr ⟨r, List.mem_filter.mpr ⟨hr, by simpa using hrm⟩, hd⟩
    exact ⟨d.seenBy m, List.mem_map_of_mem hdm, hde⟩
  rw [sharedEntries_eq, ← filter_firstSightings_append (p := fun e =>
    (nodesSeeing (catalog (project discovery disks nodes).reports) e.wwn).size = nodes.length)
    fun e _ he => hshared e (of_decide_eq_true he), hcatalog]
  have hcount : nodes.length ≠ 0 := Nat.ne_of_gt (List.length_pos_of_mem hm)
  refine List.filter_congr fun e _ => ?_
  simp [hcount]

/-- **The candidates as a list**: what the smallest node reports, each device where it stands
first, without those that are not shared and those that are claimed. -/
theorem candidates_eq_of_smallest {m : String} (hm : m ∈ nodes) (hle : ∀ n ∈ nodes, m ≤ n) :
    (project discovery disks nodes).candidates
      = (((firstSightings ((devicesOf m discovery).map fun d => d.seenBy m)).filter fun e =>
          (nodesSeeing (catalog (project discovery disks nodes).reports) e.wwn).size
            = nodes.length).filter fun e =>
          !(project discovery disks nodes).claimed.contains e.wwn).map Lun.ofEntry := by
  rw [← sharedEntries_eq_of_smallest hm hle]
  rfl

/-- Where something is offered there are storage nodes. -/
theorem nodes_ne_nil_of_candidate {l : Lun} (hl : l ∈ (project discovery disks nodes).candidates) :
    nodes ≠ [] := by
  rintro rfl
  simp [candidates, project, sharedEntries, unclaimedEntries] at hl

/-- A candidate is the first device with its WWN among those that the smallest node reports. -/
theorem find?_devicesOf_of_candidate {m : String} (hm : m ∈ nodes) (hle : ∀ n ∈ nodes, m ≤ n)
    {l : Lun} (hl : l ∈ (project discovery disks nodes).candidates) :
    ∃ d, (devicesOf m discovery).find? (fun d => d.wwn = l.wwn) = some d
      ∧ l = Lun.ofEntry (d.seenBy m) := by
  rw [candidates_eq_of_smallest hm hle, List.mem_map] at hl
  obtain ⟨e, he, rfl⟩ := hl
  have hfirst := mem_firstSightings_iff.mp (List.mem_of_mem_filter (List.mem_of_mem_filter he))
  rw [List.find?_map] at hfirst
  obtain ⟨d, hd, rfl⟩ := Option.map_eq_some_iff.mp hfirst
  exact ⟨d, hd, rfl⟩

/-- Candidates are in the order in which the smallest node reports their devices for the first
time. -/
theorem pairwise_candidates {m : String} (hm : m ∈ nodes) (hle : ∀ n ∈ nodes, m ≤ n) :
    (project discovery disks nodes).candidates.Pairwise fun k l =>
      (devicesOf m discovery).findIdx (fun d => d.wwn = k.wwn)
        < (devicesOf m discovery).findIdx fun d => d.wwn = l.wwn := by
  have hfirst := pairwise_firstSightings ((devicesOf m discovery).map fun d => d.seenBy m)
  simp only [List.findIdx_map] at hfirst
  rw [candidates_eq_of_smallest hm hle, List.pairwise_map]
  exact (hfirst.filter _).filter _

/-! ## 3. Representative and order -/

/-- Every candidate shows what the storage node with the smallest name, in the order of bytes, says
of the device where it first reports it; and the candidates are in the order of these places. -/
theorem candidates_as_first_reported_by_smallest_node (discovery : List DiscoveryReport)
    (disks : List LocalDisk) (nodes : List String) :
    (∀ l ∈ (project discovery disks nodes).candidates,
      l.nodeName ∈ nodes
      ∧ (∀ n ∈ nodes, Text.bytes l.nodeName ≤ Text.bytes n)
      ∧ (∃ d, (devicesOf l.nodeName discovery).find? (fun d => d.wwn = l.wwn) = some d
          ∧ l.path = d.path ∧ l.sizeBytes = d.size)
      ∧ l.capacity = formatCapacity l.sizeBytes)
    ∧ (project discovery disks nodes).candidates.Pairwise fun k l =>
        k.nodeName = l.nodeName
        ∧ (devicesOf l.nodeName discovery).findIdx (fun d => d.wwn = k.wwn)
          < (devicesOf l.nodeName discovery).findIdx fun d => d.wwn = l.wwn := by
  constructor
  · intro l hl
    obtain ⟨m, hm, hle⟩ := exists_smallest (nodes_ne_nil_of_candidate hl)
    obtain ⟨d, hd, hld⟩ := find?_devicesOf_of_candidate hm hle hl
    have hnode : l.nodeName = m := congrArg Lun.nodeName hld
    rw [hnode]
    exact ⟨hm, fun n hn => Text.bytes_le_iff.mpr (hle n hn),
      ⟨d, hd, congrArg Lun.path hld, congrArg Lun.sizeBytes hld⟩, by rw [hld]; rfl⟩
  · by_cases hnil : (project discovery disks nodes).candidates = []
    · rw [hnil]
      exact List.Pairwise.nil
    · obtain ⟨l, hl⟩ := List.exists_mem_of_ne_nil _ hnil
      obtain ⟨m, hm, hle⟩ := exists_smallest (nodes_ne_nil_of_candidate hl)
      refine (pairwise_candidates hm hle).imp_of_mem fun {k l} hk hl hlt => ?_
      obtain ⟨d, -, hkd⟩ := find?_devicesOf_of_candidate hm hle hk
      obtain ⟨e, -, hle⟩ := find?_devicesOf_of_candidate hm hle hl
      have hknode : k.nodeName = m := congrArg Lun.nodeName hkd
      have hlnode : l.nodeName = m := congrArg Lun.nodeName hle
      rw [hknode, hlnode]
      exact ⟨rfl, hlt⟩

/-- `a` is the smaller node and has two reports. `Z` stands between its first sightings of `Y` and
`X` and is not shared, and `Y` comes once more at the end. -/
theorem candidates_as_first_reported_by_smallest_node_two_reports :
    let discovery : List DiscoveryReport :=
      [.listing "b" ["X", "Y"], .listing "a" ["Y"], .listing "a" ["Z", "X", "Y"]]
    (project discovery [] ["b", "a"]).candidates
        = [Lun.ofEntry ⟨"a", "/dev/Y", "Y", 0⟩, Lun.ofEntry ⟨"a", "/dev/X", "X", 0⟩]
    ∧ (∀ n ∈ ["b", "a"], Text.bytes "a" ≤ Text.bytes n)
    ∧ (devicesOf "a" discovery).findIdx (fun d => d.wwn = "Y")
      < (devicesOf "a" discovery).findIdx fun d => d.wwn = "X" := by
  intro discovery
  have hcandidates : (project discovery [] ["b", "a"]).candidates
      = [Lun.ofEntry ⟨"a", "/dev/Y", "Y", 0⟩, Lun.ofEntry ⟨"a", "/dev/X", "X", 0⟩] := by
    decide +kernel
  obtain ⟨hshown, horder⟩ :=
    candidates_as_first_reported_by_smallest_node discovery [] ["b", "a"]
  rw [hcandidates] at hshown horder
  exact ⟨hcandidates, (hshown _ List.mem_cons_self).2.1,
    (List.pairwise_pair.mp horder).2⟩

end Inputs

end LunConsole

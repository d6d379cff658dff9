import LunConsole.Proofs.Console.Derived
/-!
# What a selection survives

What the user has selected lasts as long as the candidates are not computed anew, so it is lost with
every change of their inputs and with no other one. Snapshots come in whenever anything about their
list changes, in no particular order and with much that no candidate depends on. None of that may
cost the user the selection.

It does not, since the inputs hold no more of the snapshots than counts: of the reports those of the
storage nodes, in the order of the nodes, and of the disks the set of their names
(`Inputs.project_congr_reports`, `Inputs.project_congr_claimed`). The order of the reports is
settled by the names of the nodes only as far as these differ; of a node with two reports the order
in which they came is kept. So it is asked that no storage node has two.
-/

set_option autoImplicit false

namespace LunConsole

namespace Console

/-! ## 1. Candidates that stay -/

/-- Candidates are not computed anew for the inputs they have. -/
theorem UpToDate.candidates_recompute {c c' : Console} (h : c.UpToDate)
    (hcandidates : c'.candidates = c.candidates) (hinputs : c'.inputs = c.inputs) :
    c'.recompute.candidates = c.candidates := by
  have hsame : c'.candidates.inputs = some c'.inputs := by rw [hcandidates, hinputs, h.inputs]
  rw [recompute_candidates, Candidates.refresh_of_eq hsame, hcandidates]

variable {c : Console}

/-- **Discovery reports** that say the same of the storage nodes leave the candidates. -/
theorem UpToDate.candidates_applyDiscovery (h : c.UpToDate) {s : Snapshot DiscoveryReport}
    (hdistinct : ((Inputs.reportsOf c.roles.selectedNodes c.discovery.data).map
      NodeReport.nodeName).Nodup)
    (hreports : (Inputs.reportsOf c.roles.selectedNodes s.data).Perm
      (Inputs.reportsOf c.roles.selectedNodes c.discovery.data)) :
    (c.applyDiscovery s).candidates = c.candidates := by
  rw [applyDiscovery]
  apply h.candidates_recompute
  · exact c.trackLoad_candidates .discovery s.error
  · simp only [Console.inputs, trackLoad_disks, trackLoad_roles]
    exact Inputs.project_congr_reports hdistinct hreports _

/-- **Local disks** that claim the same devices leave the candidates. -/
theorem UpToDate.candidates_applyDisks (h : c.UpToDate) {s : Snapshot LocalDisk}
    (hclaimed : ∀ wwn, IsClaimed s.data wwn ↔ IsClaimed c.disks.data wwn) :
    (c.applyDisks s).candidates = c.candidates := by
  rw [applyDisks]
  apply h.candidates_recompute
  · exact c.trackLoad_candidates .disks s.error
  · simp only [Console.inputs, trackLoad_discovery, trackLoad_roles]
    exact Inputs.project_congr_claimed hclaimed _ _

/-- **Nodes** of which the same ones are storage nodes leave the candidates. -/
theorem UpToDate.candidates_applyNodes (h : c.UpToDate) {s : Snapshot StorageNode}
    (hnodes : ∀ n, n ∈ (c.applyNodes s).roles.selectedNodes ↔ n ∈ c.roles.selectedNodes) :
    (c.applyNodes s).candidates = c.candidates := by
  have hselected : (c.applyNodes s).roles.selectedNodes = c.roles.selectedNodes := by
    apply NodeRoles.selectedNodes_congr
    intro n
    rw [← NodeRoles.mem_selectedNodes, ← NodeRoles.mem_selectedNodes, hnodes]
  rw [applyNodes_roles] at hselected
  rw [applyNodes]
  apply h.candidates_recompute
  · exact c.trackLoad_candidates .nodes s.error
  · simp only [Console.inputs, trackLoad_config, trackLoad_discovery, trackLoad_disks,
      trackLoad_roles, hselected]

end Console

/-! ## 2. Runs -/

namespace Run

variable {config : Config} {clock : Instant} {r : Run}

/-- In every state of every run in which no storage node has two reports, the candidates with their
flags, and the number of times they have been computed, survive

* discovery reports that say the same of the storage nodes, in whatever order, whatever the objects
  say besides, and whatever other nodes report;
* local disks of the same names, in whatever order and however often;
* nodes among which the same ones count as storage nodes.

None of it depends on whether the watch that brings the snapshot is in error. -/
theorem selection_survives_irrelevant_snapshots (h : Reachable config clock r)
    (hdistinct : ((Inputs.reportsOf r.console.roles.selectedNodes r.console.discovery.data).map
      NodeReport.nodeName).Nodup) :
    let c := r.console
    let nodes := c.roles.selectedNodes
    (∀ s : Snapshot DiscoveryReport,
      (Inputs.reportsOf nodes s.data).Perm (Inputs.reportsOf nodes c.discovery.data) →
      (c.applyDiscovery s).candidates = c.candidates) ∧
    (∀ s : Snapshot LocalDisk, (∀ wwn, IsClaimed s.data wwn ↔ IsClaimed c.disks.data wwn) →
      (c.applyDisks s).candidates = c.candidates) ∧
    ∀ s : Snapshot StorageNode,
      (∀ n, n ∈ (c.applyNodes s).roles.selectedNodes ↔ n ∈ nodes) →
      (c.applyNodes s).candidates = c.candidates := by
  intro c nodes
  have hup : c.UpToDate := h.upToDate
  refine ⟨?_, ?_, ?_⟩
  · intro s hreports
    exact hup.candidates_applyDiscovery hdistinct hreports
  · intro s hclaimed
    exact hup.candidates_applyDisks hclaimed
  · intro s hnodes
    exact hup.candidates_applyNodes hnodes

/-- The reports of `a` and `b` in the other order, and another one of `c`, which is no storage
node. -/
def reorderedReports : Snapshot DiscoveryReport :=
  (Snapshot.ofData [.listing "c" ["Z"], .listing "b" ["Y", "X"], .listing "a" ["X", "Y"]]).withError
    "closed"

/-- The nodes in another order, with one more that is no storage node. -/
def reorderedNodes (label : Label) : Snapshot StorageNode :=
  let node := StorageNode.bearing label
  .ofData [node "c" true, node "d" false, node "b" true, node "a" true]

theorem selection_survives_irrelevant_snapshots_during_change :
    let c := selectionDuringChange.console
    Reachable .standard .epoch selectionDuringChange ∧
      ((Inputs.reportsOf c.roles.selectedNodes c.discovery.data).map NodeReport.nodeName).Nodup ∧
      c.candidates.luns.selectedWwns = ["X"] ∧
      (c.applyDiscovery reorderedReports).candidates = c.candidates ∧
      (c.applyDisks (.ofData (c.disks.data ++ c.disks.data))).candidates = c.candidates ∧
      (c.applyNodes (reorderedNodes Config.standard.storageRoleLabel)).candidates
        = c.candidates := by
  have hreachable : Reachable .standard .epoch selectionDuringChange := reachable_play _ _ _
  have hdistinct : ((Inputs.reportsOf selectionDuringChange.console.roles.selectedNodes
      selectionDuringChange.console.discovery.data).map NodeReport.nodeName).Nodup := by
    decide +kernel
  have hsurvives := selection_survives_irrelevant_snapshots hreachable hdistinct
  refine ⟨hreachable, hdistinct, by decide +kernel, ?_, ?_, ?_⟩
  · exact hsurvives.1 reorderedReports (by decide +kernel)
  · apply hsurvives.2.1
    intro wwn
    simp [Snapshot.ofData, IsClaimed]
  · apply hsurvives.2.2
    have hsame : (selectionDuringChange.console.applyNodes
        (reorderedNodes Config.standard.storageRoleLabel)).roles.selectedNodes
        = selectionDuringChange.console.roles.selectedNodes := by decide +kernel
    intro n
    rw [hsame]

end Run

end LunConsole

import LunConsole.Proofs.Sharing
import Mathlib.Data.Finset.Card
/-!
# Laws of the shared entries

Three laws hold of sharing whatever the entries are, in any order and with any repetitions.

The first says what the shared entries are without going through the entries: those that no earlier
entry of the same device precedes, and whose device is carried by that many nodes
(`sharedEntries_eq_card`, `firstSightings_eq_places`). The nodes that carry a device are a finite set here, so that
a node counts once however often it reports, and sets can be compared by how many they are.

The second compares two catalogs. Each report adds one node at most to the nodes that carry a
device, so a device that is carried by as many nodes as there are reports is in every report, and is
carried by as many nodes as there are reports also where some of them are left off
(`card_carriers_of_append`). Such a device is seen for the first time in the first report, which is
there in both catalogs.

The third is about a choice among the devices. It takes whole devices away, all entries of each, and
so the first entries and the nodes of the others stay what they are
(`sharedEntries_filter_wwn`).
-/

set_option autoImplicit false

namespace LunConsole

open scoped List

/-! ## 1. The nodes that carry a device -/

/-- The nodes whose entries carry a device. -/
def carriers (entries : List DeviceEntry) (wwn : String) : Finset String :=
  ((entries.filter fun e => e.wwn = wwn).map DeviceEntry.nodeName).toFinset

theorem mem_carriers {entries : List DeviceEntry} {wwn n : String} :
    n ∈ carriers entries wwn ↔ ∃ e ∈ entries, e.wwn = wwn ∧ e.nodeName = n := by
  simp [carriers, and_assoc]

theorem carriers_append (xs ys : List DeviceEntry) (wwn : String) :
    carriers (xs ++ ys) wwn = carriers xs wwn ∪ carriers ys wwn := by
  simp [carriers]

theorem carriers_cons (e : DeviceEntry) (entries : List DeviceEntry) (wwn : String) :
    carriers (e :: entries) wwn
      = if e.wwn = wwn then insert e.nodeName (carriers entries wwn)
        else carriers entries wwn := by
  by_cases he : e.wwn = wwn
  · simp [carriers, he]
  · simp [carriers, he]

/-- They are as many as the nodes that are kept for the device while the entries are gone
through. -/
theorem card_carriers (entries : List DeviceEntry) (wwn : String) :
    (carriers entries wwn).card = (nodesSeeing entries wwn).size := by
  have hsame : carriers entries wwn = (nodesSeeing entries wwn).toList.toFinset := by
    ext n
    rw [mem_carriers, List.mem_toFinset, Std.ExtTreeSet.mem_toList, mem_nodesSeeing]
  rw [hsame, List.toFinset_card_of_nodup (nodup_toList _), Std.ExtTreeSet.length_toList]

/-- **The shared entries** are the first sightings whose device is carried by that many nodes. -/
theorem sharedEntries_eq_card (entries : List DeviceEntry) (nodeCount : Nat) :
    sharedEntries entries nodeCount
      = (firstSightings entries).filter fun e => (carriers entries e.wwn).card = nodeCount := by
  rw [sharedEntries_eq]
  refine List.filter_congr fun e he => ?_
  -- the node of an entry carries its device, so that none is carried by no node
  have hmem : e ∈ entries := List.mem_of_find?_eq_some (mem_firstSightings_iff.mp he)
  have hcarried : e.nodeName ∈ carriers entries e.wwn := mem_carriers.mpr ⟨e, hmem, rfl, rfl⟩
  have hpos : 0 < (carriers entries e.wwn).card := Finset.card_pos.mpr ⟨_, hcarried⟩
  rw [← card_carriers, decide_eq_decide]
  constructor
  · rintro ⟨-, hcount⟩
    exact hcount
  · intro hcount
    exact ⟨by omega, hcount⟩

/-! ## 2. Shared entries by their places -/

/-- An entry with its place stands first if no entry of its device has an earlier place. -/
def StandsFirst (entries : List DeviceEntry) (p : DeviceEntry × Nat) : Prop :=
  ∀ f ∈ entries.take p.2, f.wwn ≠ p.1.wwn

instance (entries : List DeviceEntry) : DecidablePred (StandsFirst entries) := fun p =>
  inferInstanceAs (Decidable (∀ f ∈ entries.take p.2, f.wwn ≠ p.1.wwn))

/-- What stands after a place does not matter for it. -/
theorem standsFirst_append_left {xs ys : List DeviceEntry} {p : DeviceEntry × Nat}
    (hp : p.2 ≤ xs.length) : StandsFirst (xs ++ ys) p ↔ StandsFirst xs p := by
  rw [StandsFirst, List.take_append_of_le_length hp, StandsFirst]

theorem standsFirst_at_length {xs ys : List DeviceEntry} {e : DeviceEntry} :
    StandsFirst (xs ++ ys) (e, xs.length) ↔ ¬ ∃ f ∈ xs, f.wwn = e.wwn := by
  rw [StandsFirst, List.take_left]
  simp only [ne_eq, not_exists, not_and]

/-- First sightings are the entries that stand first. The induction is on the entries from the
right, so that the places of the earlier ones stay. -/
theorem firstSightings_eq_places (entries : List DeviceEntry) :
    firstSightings entries
      = (entries.zipIdx.filter fun p => StandsFirst entries p).map Prod.fst := by
  induction entries using List.reverseRecOn with
  | nil => rfl
  | append_singleton es e ih =>
      have hearlier : (es.zipIdx.filter fun p => StandsFirst (es ++ [e]) p)
          = es.zipIdx.filter fun p => StandsFirst es p := by
        apply List.filter_congr
        intro p hp
        have hlt : p.2 < es.length := List.snd_lt_of_mem_zipIdx hp
        exact decide_eq_decide.mpr (standsFirst_append_left (by omega))
      rw [firstSightings_append_singleton, ih, List.zipIdx_append, List.filter_append,
        List.map_append, hearlier, List.zipIdx_singleton, Nat.zero_add]
      by_cases hseen : ∃ f ∈ es, f.wwn = e.wwn
      · have hnot : ¬ StandsFirst (es ++ [e]) (e, es.length) := fun h =>
          standsFirst_at_length.mp h hseen
        rw [if_pos hseen, List.filter_cons_of_neg (by simpa using hnot), List.filter_nil,
          List.map_nil, List.append_nil]
      · have hfirst : StandsFirst (es ++ [e]) (e, es.length) := standsFirst_at_length.mpr hseen
        rw [if_neg hseen, List.filter_cons_of_pos (by simpa using hfirst), List.filter_nil,
          List.map_singleton]

theorem sublist_firstSightings (entries : List DeviceEntry) :
    firstSightings entries <+ entries := by
  induction entries with
  | nil => exact List.Sublist.refl []
  | cons a es ih =>
      rw [firstSightings]
      exact (List.filter_sublist.trans ih).cons_cons a

theorem sublist_sharedEntries (entries : List DeviceEntry) (nodeCount : Nat) :
    sharedEntries entries nodeCount <+ entries := by
  rw [sharedEntries_eq_card]
  exact List.filter_sublist.trans (sublist_firstSightings entries)

/-- An entry of a device that has been seen before is no first sighting, and makes none of the later
ones one that was not. -/
theorem firstSightings_drop_seen {xs ys : List DeviceEntry} {e : DeviceEntry}
    (hseen : ∃ f ∈ xs, f.wwn = e.wwn) :
    firstSightings (xs ++ e :: ys) = firstSightings (xs ++ ys) := by
  obtain ⟨f, hf, hfe⟩ := hseen
  rw [firstSightings_append, firstSightings_append, firstSightings]
  have hdropped : ¬ ∀ g ∈ xs, g.wwn ≠ e.wwn := fun h => h f hf hfe
  rw [List.filter_cons_of_neg (by simpa using hdropped), List.filter_filter]
  congr 1
  refine List.filter_congr fun g _ => ?_
  -- what is new beside `xs` is not of the device of `e` anyway
  rw [Bool.eq_iff_iff, Bool.and_eq_true, decide_eq_true_eq, decide_eq_true_eq, and_iff_left_iff_imp]
  intro hnew hge
  exact hnew f hf (hfe.trans hge.symm)

/-- A node that reports a device again carries it as before. -/
theorem carriers_drop_repeated {xs ys : List DeviceEntry} {e : DeviceEntry}
    (hrepeated : ∃ f ∈ xs, f.wwn = e.wwn ∧ f.nodeName = e.nodeName) (wwn : String) :
    carriers (xs ++ e :: ys) wwn = carriers (xs ++ ys) wwn := by
  rw [carriers_append, carriers_append, carriers_cons]
  by_cases he : e.wwn = wwn
  · have hknown : e.nodeName ∈ carriers xs wwn := by
      obtain ⟨f, hf, hfe, hfn⟩ := hrepeated
      exact mem_carriers.mpr ⟨f, hf, hfe.trans he, hfn⟩
    rw [if_pos he, Finset.union_insert, Finset.insert_eq_of_mem (Finset.mem_union_left _ hknown)]
  · rw [if_neg he]

/-- The shared entries are those that stand at the first place of their device, unchanged and in
their order, and whose device is carried by exactly that many nodes. So nothing is shared by no
nodes, no device is shared twice, a node that reports a device again might as well not have done so,
and a device that is carried by more nodes is not shared. -/
theorem shared_entries_by_place_and_number (entries : List DeviceEntry) (nodeCount : Nat) :
    sharedEntries entries nodeCount
        = (entries.zipIdx.filter fun p =>
            StandsFirst entries p ∧ (carriers entries p.1.wwn).card = nodeCount).map Prod.fst ∧
      sharedEntries entries nodeCount <+ entries ∧
      sharedEntries entries 0 = [] ∧
      ((sharedEntries entries nodeCount).map DeviceEntry.wwn).Nodup ∧
      (∀ xs e ys, entries = xs ++ e :: ys →
        (∃ f ∈ xs, f.wwn = e.wwn ∧ f.nodeName = e.nodeName) →
          sharedEntries entries nodeCount = sharedEntries (xs ++ ys) nodeCount) ∧
      ∀ wwn, nodeCount < (carriers entries wwn).card →
        ∀ e ∈ sharedEntries entries nodeCount, e.wwn ≠ wwn := by
  refine ⟨?_, sublist_sharedEntries entries nodeCount, rfl, nodup_sharedEntries entries nodeCount,
    ?_, ?_⟩
  · rw [sharedEntries_eq_card, firstSightings_eq_places, List.filter_map, List.filter_filter]
    congr 1
    refine List.filter_congr fun p _ => ?_
    rw [Function.comp_apply, ← Bool.decide_and, decide_eq_decide]
    exact and_comm
  · rintro xs e ys rfl hrepeated
    have hseen : ∃ f ∈ xs, f.wwn = e.wwn := by
      obtain ⟨f, hf, hfe, -⟩ := hrepeated
      exact ⟨f, hf, hfe⟩
    rw [sharedEntries_eq_card, sharedEntries_eq_card, firstSightings_drop_seen hseen]
    simp only [carriers_drop_repeated hrepeated]
  · rintro _ hmore e he rfl
    rw [sharedEntries_eq_card, List.mem_filter, decide_eq_true_eq] at he
    omega

/-- `b` reports `X` a second time. `X` and `Z` are carried by two nodes, `Y` by one and `W` by
three. -/
theorem shared_entries_by_place_and_number_repeated :
    let entries : List DeviceEntry :=
      [⟨"b", "/dev/0", "X", 0⟩, ⟨"a", "/dev/0", "W", 0⟩, ⟨"c", "/dev/0", "Z", 0⟩,
        ⟨"b", "/dev/1", "X", 0⟩, ⟨"a", "/dev/1", "X", 0⟩, ⟨"b", "/dev/2", "W", 0⟩,
        ⟨"c", "/dev/1", "W", 0⟩, ⟨"a", "/dev/2", "Z", 0⟩, ⟨"c", "/dev/2", "Y", 0⟩]
    sharedEntries entries 2 = [⟨"b", "/dev/0", "X", 0⟩, ⟨"c", "/dev/0", "Z", 0⟩] ∧
      2 < (carriers entries "W").card ∧ (∀ e ∈ sharedEntries entries 2, e.wwn ≠ "W") ∧
      sharedEntries (entries.eraseIdx 3) 2 = sharedEntries entries 2 := by
  intro entries
  have hmore : 2 < (carriers entries "W").card := by decide
  obtain ⟨hplaces, -, -, -, hrepeated, hmany⟩ := shared_entries_by_place_and_number entries 2
  refine ⟨?_, hmore, hmany "W" hmore, ?_⟩
  · rw [hplaces]
    decide
  · exact (hrepeated (entries.take 3) _ (entries.drop 4) rfl (by decide)).symm

/-! ## 3. More reports -/

/-- A report adds one node at most. -/
theorem card_carriers_catalog_le (reports : List NodeReport) (wwn : String) :
    (carriers (catalog reports) wwn).card ≤ reports.length := by
  have hsub : carriers (catalog reports) wwn ⊆ (reports.map NodeReport.nodeName).toFinset := by
    intro n hn
    obtain ⟨e, he, -, rfl⟩ := mem_carriers.mp hn
    obtain ⟨r, hr, d, -, rfl⟩ := mem_catalog.mp he
    exact List.mem_toFinset.mpr (List.mem_map_of_mem hr)
  calc (carriers (catalog reports) wwn).card
      ≤ (reports.map NodeReport.nodeName).toFinset.card := Finset.card_le_card hsub
    _ ≤ (reports.map NodeReport.nodeName).length := List.toFinset_card_le _
    _ = reports.length := List.length_map _

/-- **The counting step.** A device that is carried by as many nodes as there are reports is so too
where some of the reports are left off: they cannot have added more nodes than they are. -/
theorem card_carriers_of_append {reports extra : List NodeReport} {wwn : String}
    (hall : (carriers (catalog reports ++ catalog extra) wwn).card
      = reports.length + extra.length) :
    (carriers (catalog reports) wwn).card = reports.length := by
  have hunion : (carriers (catalog reports ++ catalog extra) wwn).card
      ≤ (carriers (catalog reports) wwn).card + (carriers (catalog extra) wwn).card := by
    rw [carriers_append]
    exact Finset.card_union_le _ _
  have hreports := card_carriers_catalog_le reports wwn
  have hextra := card_carriers_catalog_le extra wwn
  omega

/-- With more reports, and as many more nodes asked for, no device is shared that was not shared
before, and those that still are have the same first entries in the same order. There has to be a
report to begin with, since nothing is shared by no nodes. -/
theorem more_reports_share_a_sublist (reports extra : List NodeReport) (hreports : reports ≠ []) :
    sharedEntries (catalog (reports ++ extra)) (reports.length + extra.length)
      <+ sharedEntries (catalog reports) reports.length := by
  have hpos : 0 < reports.length := List.length_pos_iff.mpr hreports
  -- what all reports have, the first ones have, so it is not seen for the first time later
  have hearlier : ∀ e ∈ catalog extra,
      decide ((carriers (catalog reports ++ catalog extra) e.wwn).card
        = reports.length + extra.length) → ∃ f ∈ catalog reports, f.wwn = e.wwn := by
    intro e _ hall
    have hcount := card_carriers_of_append (of_decide_eq_true hall)
    obtain ⟨n, hn⟩ : (carriers (catalog reports) e.wwn).Nonempty :=
      Finset.card_pos.mp (by omega)
    obtain ⟨f, hf, hfe, -⟩ := mem_carriers.mp hn
    exact ⟨f, hf, hfe⟩
  rw [catalog_append, sharedEntries_eq_card, sharedEntries_eq_card,
    filter_firstSightings_append hearlier]
  apply List.monotone_filter_right
  intro e hall
  exact decide_eq_true (card_carriers_of_append (of_decide_eq_true hall))

/-- A second report of `a` adds no node, so that nothing is shared by three. A report of `c` leaves
`Y`, which all three have. -/
theorem more_reports_share_a_sublist_repeated :
    let report (node : String) (wwns : List String) : NodeReport :=
      ⟨node, wwns.map fun w => ⟨"/dev/" ++ w, w, 0, none, none, none, none⟩⟩
    let reports := [report "b" ["X", "Y", "X"], report "a" ["Y", "X"]]
    reports ≠ [] ∧
      (sharedEntries (catalog reports) 2).map DeviceEntry.wwn = ["X", "Y"] ∧
      sharedEntries (catalog (reports ++ [report "a" ["X", "Y"]])) 3 = [] ∧
      sharedEntries (catalog (reports ++ [report "c" ["Y", "Z"]])) 3
        = [⟨"b", "/dev/Y", "Y", 0⟩] ∧
      sharedEntries (catalog (reports ++ [report "c" ["Y", "Z"]])) 3
        <+ sharedEntries (catalog reports) 2 := by
  intro report reports
  have hreports : reports ≠ [] := List.cons_ne_nil _ _
  refine ⟨hreports, by decide +kernel, by decide +kernel, by decide +kernel, ?_⟩
  exact more_reports_share_a_sublist reports [report "c" ["Y", "Z"]] hreports

/-! ## 4. A choice among the devices -/

section Choice

variable (keep : String → Bool)

/-- The first entries of the devices that are kept are those that they were. -/
theorem firstSightings_filter_wwn (entries : List DeviceEntry) :
    firstSightings (entries.filter fun e => keep e.wwn)
      = (firstSightings entries).filter fun e => keep e.wwn := by
  induction entries with
  | nil => rfl
  | cons a es ih =>
      rw [firstSightings]
      by_cases ha : keep a.wwn = true
      · -- both choices are made among the later entries, and their order does not matter
        rw [List.filter_cons_of_pos (by exact ha), firstSightings, ih,
          List.filter_cons_of_pos (by exact ha), List.filter_filter, List.filter_filter]
        congr 1
        refine List.filter_congr fun e _ => ?_
        exact Bool.and_comm _ _
      · -- none of those that are kept is of the device that goes
        rw [List.filter_cons_of_neg (by exact ha), ih, List.filter_cons_of_neg (by exact ha),
          List.filter_filter]
        refine List.filter_congr fun e _ => ?_
        rw [Bool.eq_iff_iff, Bool.and_eq_true, decide_eq_true_eq, iff_self_and]
        intro he hea
        rw [hea] at he
        exact ha he

/-- And the nodes that carry them are those that they were. -/
theorem carriers_filter_wwn {wwn : String} (hkept : keep wwn = true) (entries : List DeviceEntry) :
    carriers (entries.filter fun e => keep e.wwn) wwn = carriers entries wwn := by
  ext n
  rw [mem_carriers, mem_carriers]
  constructor
  · rintro ⟨e, he, hew, hen⟩
    exact ⟨e, List.mem_of_mem_filter he, hew, hen⟩
  · rintro ⟨e, he, hew, hen⟩
    refine ⟨e, List.mem_filter.mpr ⟨he, ?_⟩, hew, hen⟩
    rw [hew]
    exact hkept

/-- **A choice among the devices** may be made before or after looking for the shared ones. -/
theorem sharedEntries_filter_wwn (entries : List DeviceEntry) (nodeCount : Nat) :
    sharedEntries (entries.filter fun e => keep e.wwn) nodeCount
      = (sharedEntries entries nodeCount).filter fun e => keep e.wwn := by
  rw [sharedEntries_eq_card, sharedEntries_eq_card, firstSightings_filter_wwn, List.filter_filter,
    List.filter_filter]
  refine List.filter_congr fun e _ => ?_
  -- a device that goes is on neither side, and one that stays has the nodes that it had
  cases hkept : keep e.wwn with
  | false => rw [Bool.and_false, Bool.false_and]
  | true => rw [Bool.and_true, Bool.true_and, carriers_filter_wwn keep hkept]

end Choice

/-- Leaving out what is claimed twice is leaving out what is claimed in either way. -/
theorem unclaimedEntries_unclaimedEntries (entries : List DeviceEntry) (claimed more : NameSet) :
    unclaimedEntries (unclaimedEntries entries claimed) more
      = unclaimedEntries entries (claimed ∪ more) := by
  rw [unclaimedEntries, unclaimedEntries, unclaimedEntries, List.filter_filter]
  refine List.filter_congr fun e _ => ?_
  rw [Std.ExtTreeSet.contains_union, Bool.not_or, Bool.and_comm]

/-- What is claimed may be left out before or after looking for what is shared: the devices, their
first entries and their order are the same. And it may be left out at once, or some of it first and
the rest then, whichever comes first. -/
theorem claims_left_out_before_or_after_sharing (entries : List DeviceEntry) (nodeCount : Nat)
    (claimed more : NameSet) :
    unclaimedEntries (sharedEntries entries nodeCount) claimed
        = sharedEntries (unclaimedEntries entries claimed) nodeCount ∧
      unclaimedEntries (unclaimedEntries entries claimed) more
        = unclaimedEntries entries (claimed ∪ more) ∧
      unclaimedEntries (unclaimedEntries entries more) claimed
        = unclaimedEntries entries (claimed ∪ more) := by
  refine ⟨?_, unclaimedEntries_unclaimedEntries entries claimed more, ?_⟩
  · exact (sharedEntries_filter_wwn (fun wwn => !claimed.contains wwn) entries nodeCount).symm
  · have hunion : more ∪ claimed = claimed ∪ more := by
      apply Std.ExtTreeSet.ext_mem
      intro wwn
      rw [Std.ExtTreeSet.mem_union_iff, Std.ExtTreeSet.mem_union_iff, or_comm]
    rw [unclaimedEntries_unclaimedEntries, hunion]

end LunConsole

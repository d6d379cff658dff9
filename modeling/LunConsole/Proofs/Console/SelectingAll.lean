import LunConsole.Proofs.Console.Creation
/-!
# Selecting all candidates, at once or one by one

All candidates can be selected by one request, or by a request for each of them. The two have
nothing in common in how they go about it. The one sets all flags and brings the console up to date
once. The others each look for the first candidate of a WWN, and each of them brings the console up
to date, so there are states in between in which some candidates are selected and some are not.

Two facts make the outcome the same. No two candidates have the same WWN, so the first one of a WWN
is the only one, and requests for different candidates do not meet (`LunList.foldl_select`). And
bringing up to date a console that was so before some flags were set does no more than count them
again (`UpToDate.recompute_withFlags`): the inputs are the same, so the list is not computed anew
and nothing is cleared; the number of candidates is the same, so the check is, and nothing is
announced.
-/

set_option autoImplicit false

namespace LunConsole

/-! ## 1. Flags set one by one -/

namespace LunList

/-- **Flags that are set one by one** are set for the LUNs that were named, in whatever order and
however often. The induction is on the WWNs, over all lists, since each request finds the flags that
the one before it has left. -/
theorem foldl_select {ls : LunList} (hnodup : (ls.map Lun.wwn).Nodup) (wwns : List String)
    (b : Bool) :
    wwns.foldl (fun ls wwn => ls.select wwn b) ls
      = ls.map fun l => if l.wwn ∈ wwns then l.withSelected b else l := by
  induction wwns generalizing ls with
  | nil => simp
  | cons wwn wwns ih =>
      have hnext : ((ls.select wwn b).map Lun.wwn).Nodup := by
        rw [map_wwn_select]
        exact hnodup
      rw [List.foldl_cons, ih hnext, select_eq_map hnodup, List.map_map]
      apply List.map_congr_left
      intro l _
      by_cases hfirst : l.wwn = wwn
      · -- set at once, and setting it once more makes no difference
        simp [hfirst, Lun.withSelected]
      · simp [hfirst]

/-- Once every LUN has been named, all flags are set. -/
theorem foldl_select_eq_selectAll {ls : LunList} (hnodup : (ls.map Lun.wwn).Nodup)
    {wwns : List String} (hall : ∀ wwn ∈ ls.map Lun.wwn, wwn ∈ wwns) (b : Bool) :
    wwns.foldl (fun ls wwn => ls.select wwn b) ls = ls.selectAll b := by
  rw [foldl_select hnodup, selectAll]
  apply List.map_congr_left
  intro l hl
  exact if_pos (hall l.wwn (List.mem_map_of_mem hl))

/-- What is selected once all flags are set: everything or nothing. -/
theorem selectedWwns_selectAll (ls : LunList) (b : Bool) :
    (ls.selectAll b).selectedWwns = if b then ls.map Lun.wwn else [] := by
  rw [selectedWwns, selected, selectAll, List.filter_map]
  cases b with
  | true => simp [Function.comp_def, Lun.withSelected]
  | false => simp [Function.comp_def, Lun.withSelected]

end LunList

/-! ## 2. Consoles with other flags -/

namespace Console

/-- The console with these LUNs in the place of its candidates, and the gauges that go with them. -/
def withFlags (c : Console) (luns : LunList) : Console :=
  setGauges { c with candidates := { c.candidates with luns } }

variable {c : Console} {luns : LunList}

/-- The flags that were set before leave no trace. -/
theorem withFlags_withFlags (c : Console) (luns luns' : LunList) :
    (c.withFlags luns).withFlags luns' = c.withFlags luns' := rfl

theorem UpToDate.withFlags_self (h : c.UpToDate) : c.withFlags c.candidates.luns = c := by
  have hgauges : c.setGauges = c := by rw [setGauges, ← h.gauges]
  exact hgauges

/-- **Bringing up to date** a console in which only flags were set does no more than set the
gauges. -/
theorem UpToDate.recompute_withFlags (h : c.UpToDate)
    (hflags : luns.selectAll false = c.candidates.luns.selectAll false) :
    recompute { c with candidates := { c.candidates with luns } } = c.withFlags luns := by
  -- as many candidates as before, so the check is the one that is known
  have hlength : luns.length = c.candidates.luns.length := by
    simpa [LunList.selectAll] using congrArg List.length hflags
  have hcheck : currentCheck { c with candidates := { c.candidates with luns } }
      = c.currentCheck := by
    rw [currentCheck, currentCheck, hlength]
  have hfresh : refreshCandidates { c with candidates := { c.candidates with luns } }
      = { c with candidates := { c.candidates with luns } } := by
    rw [refreshCandidates, Candidates.refresh_of_eq]
    exact h.inputs
  rw [recompute]
  simp only [hfresh, hcheck]
  rw [review, if_pos h.requirements, withFlags]

/-- Setting flags leaves a console up to date. -/
theorem UpToDate.withFlags (h : c.UpToDate)
    (hflags : luns.selectAll false = c.candidates.luns.selectAll false) :
    (c.withFlags luns).UpToDate := by
  rw [← h.recompute_withFlags hflags]
  exact upToDate_recompute (h.faithful.reflag hflags)

/-! ## 3. Requests to select -/

/-- **One candidate.** -/
theorem UpToDate.selectLun_eq (h : c.UpToDate) {wwn : String}
    (hoffered : wwn ∈ c.candidates.luns.map Lun.wwn) (b : Bool) :
    c.selectLun wwn b = .ok (c.withFlags (c.candidates.luns.select wwn b)) := by
  rw [selectLun, if_pos (LunList.offers_iff.mpr hoffered)]
  exact congrArg Except.ok (h.recompute_withFlags (LunList.selectAll_select _ wwn b false))

/-- **All candidates** at once. -/
theorem UpToDate.selectAllLuns_eq (h : c.UpToDate) (b : Bool) :
    c.selectAllLuns b = c.withFlags (c.candidates.luns.selectAll b) :=
  h.recompute_withFlags (LunList.selectAll_selectAll _ b false)

/-- **Candidates one by one**, in whatever order and however often: no request is refused. The
induction is on the requests, over all consoles that are up to date. -/
theorem UpToDate.foldlM_selectLun (h : c.UpToDate) {wwns : List String}
    (hoffered : ∀ wwn ∈ wwns, wwn ∈ c.candidates.luns.map Lun.wwn) (b : Bool) :
    wwns.foldlM (fun c wwn => c.selectLun wwn b) c
      = .ok (c.withFlags (wwns.foldl (fun ls wwn => ls.select wwn b) c.candidates.luns)) := by
  induction wwns generalizing c with
  | nil => exact congrArg Except.ok h.withFlags_self.symm
  | cons wwn wwns ih =>
      have hfirst : wwn ∈ c.candidates.luns.map Lun.wwn := hoffered wwn List.mem_cons_self
      have hup : (c.withFlags (c.candidates.luns.select wwn b)).UpToDate :=
        h.withFlags (LunList.selectAll_select _ wwn b false)
      have hrest : ∀ w ∈ wwns, w ∈ (c.candidates.luns.select wwn b).map Lun.wwn := by
        intro w hw
        rw [LunList.map_wwn_select]
        exact hoffered w (List.mem_cons_of_mem _ hw)
      calc (wwn :: wwns).foldlM (fun c wwn => c.selectLun wwn b) c
          = (c.selectLun wwn b >>= fun d => wwns.foldlM (fun c wwn => c.selectLun wwn b) d) :=
            List.foldlM_cons
        _ = wwns.foldlM (fun c wwn => c.selectLun wwn b)
              (c.withFlags (c.candidates.luns.select wwn b)) := by
            rw [h.selectLun_eq hfirst]
            rfl
        _ = _ := by
            rw [ih hup hrest, withFlags_withFlags, List.foldl_cons]
            rfl

/-- What is selected once all flags are set. -/
theorem UpToDate.selectedWwns_selectAllLuns (h : c.UpToDate) (b : Bool) :
    (c.selectAllLuns b).candidates.luns.selectedWwns
      = if b then c.candidates.luns.map Lun.wwn else [] := by
  rw [h.selectAllLuns_eq]
  exact LunList.selectedWwns_selectAll _ b

/-- With all candidates selected the claim for a filesystem asks for all of them. -/
theorem UpToDate.planFilesystem_all (h : c.UpToDate) {name : String}
    (hname : FilesystemClaim.validateName name = .ok ())
    (hoffers : c.candidates.luns.map Lun.wwn ≠ []) :
    ∃ claim, (c.selectAllLuns true).planFilesystem name = .ok claim ∧
      claim.metadata.name = some name ∧
      claim.metadata.inNamespace = some c.config.watchedNamespace ∧
      claim.spec.devices = c.candidates.luns.map Lun.wwn := by
  have hselected := h.selectedWwns_selectAllLuns true
  rw [if_pos rfl] at hselected
  have hconfig : (c.selectAllLuns true).config = c.config := by
    rw [selectAllLuns, recompute_config]
  refine ⟨_, planFilesystem_eq_ok_iff.mpr ⟨hname, ?_, rfl⟩, ?_, ?_, ?_⟩
  · rwa [hselected]
  · exact FilesystemClaim.name_forDevices _ _ _
  · rw [FilesystemClaim.namespace_forDevices, hconfig]
  · rw [FilesystemClaim.devices_forDevices, hselected]

end Console

/-! ## 4. Runs -/

namespace Run

open Console

variable {config : Config} {clock : Instant} {r : Run}

/-- In every state of every run, to set the flags of all candidates at once, and to set them one by
one, each candidate once and in whatever order, come to the same console in every part of it, and no
request is refused on the way. If the flags are set, and there are candidates, a claim for a
filesystem under a good name would then carry all of them in the order of the list; and if they are
taken away, or there is none, there would be no claim. -/
theorem selecting_all_is_selecting_each (h : Reachable config clock r) (b : Bool) :
    let c := r.console
    let wwns := c.candidates.luns.map Lun.wwn
    (∀ order : List String, order.Perm wwns →
      order.foldlM (fun c wwn => c.selectLun wwn b) c = .ok (c.selectAllLuns b)) ∧
    (c.selectAllLuns b).candidates.luns.selectedWwns = (if b then wwns else []) ∧
    ∀ name,
      (∀ e, FilesystemClaim.validateName name = .error e →
        (c.selectAllLuns b).planFilesystem name = .error e) ∧
      (FilesystemClaim.validateName name = .ok () → b = true → wwns ≠ [] →
        ∃ claim, (c.selectAllLuns b).planFilesystem name = .ok claim ∧
          claim.metadata.name = some name ∧
          claim.metadata.inNamespace = some config.watchedNamespace ∧
          claim.spec.devices = wwns) ∧
      (FilesystemClaim.validateName name = .ok () → b = false ∨ wwns = [] →
        (c.selectAllLuns b).planFilesystem name = .error .noLunsSelected) := by
  intro c wwns
  have hup : c.UpToDate := h.upToDate
  have hselected : (c.selectAllLuns b).candidates.luns.selectedWwns = if b then wwns else [] :=
    hup.selectedWwns_selectAllLuns b
  refine ⟨?_, hselected, fun name => ⟨?_, ?_, ?_⟩⟩
  · intro order hperm
    have hoffered : ∀ wwn ∈ order, wwn ∈ wwns := fun wwn hwwn => hperm.mem_iff.mp hwwn
    have hall : ∀ wwn ∈ wwns, wwn ∈ order := fun wwn hwwn => hperm.mem_iff.mpr hwwn
    rw [hup.foldlM_selectLun hoffered b, hup.selectAllLuns_eq b,
      LunList.foldl_select_eq_selectAll hup.nodup_luns hall]
  · exact fun e hname => planFilesystem_eq_error_iff.mpr (.inl hname)
  · rintro hname rfl hoffers
    rw [← h.config_eq]
    exact hup.planFilesystem_all hname hoffers
  · intro hname hnothing
    have hnone : (c.selectAllLuns b).candidates.luns.selectedWwns = [] := by
      rw [hselected]
      rcases hnothing with rfl | hnil
      · rfl
      · rw [hnil, ite_self]
    exact planFilesystem_eq_error_iff.mpr (.inr ⟨hname, hnone, rfl⟩)

/-- Three candidates, the second of them selected, while `c` is to become a storage node. -/
def threeOnOffer : Run :=
  let node := StorageNode.bearing Config.standard.storageRoleLabel
  ((start .standard .epoch).play
    [.nodes (.ofData [node "a" true, node "b" true, node "c" false]),
      .discovery (.ofData [.listing "a" ["X", "Y", "Z"], .listing "b" ["Z", "Y", "X"]]),
      .ask 0 (.toggleRole "c" true), .look 0, .send 0, .ask 1 (.selectLun "Y" true)]).2

/-- They are selected from the last to the first, and the claim carries them in their order. -/
theorem selecting_all_is_selecting_each_backwards :
    let c := threeOnOffer.console
    Reachable .standard .epoch threeOnOffer ∧
      ["Z", "Y", "X"].Perm (c.candidates.luns.map Lun.wwn) ∧
      ["Z", "Y", "X"].foldlM (fun c wwn => c.selectLun wwn true) c = .ok (c.selectAllLuns true) ∧
      (c.selectAllLuns true).candidates.luns.selectedWwns = ["X", "Y", "Z"] ∧
      ∃ claim, (c.selectAllLuns true).planFilesystem "data" = .ok claim ∧
        claim.spec.devices = ["X", "Y", "Z"] := by
  intro c
  have hreachable : Reachable .standard .epoch threeOnOffer := reachable_play _ _ _
  have hwwns : c.candidates.luns.map Lun.wwn = ["X", "Y", "Z"] := by decide +kernel
  have hperm : ["Z", "Y", "X"].Perm (c.candidates.luns.map Lun.wwn) := by
    rw [hwwns]
    decide
  have hoffers : c.candidates.luns.map Lun.wwn ≠ [] := by
    rw [hwwns]
    decide
  have hname : FilesystemClaim.validateName "data" = .ok () := by decide
  obtain ⟨heach, hselected, hclaims⟩ := selecting_all_is_selecting_each hreachable true
  obtain ⟨claim, hplan, -, -, hdevices⟩ := (hclaims "data").2.1 hname rfl hoffers
  exact ⟨hreachable, hperm, heach _ hperm, hselected.trans hwwns, claim, hplan,
    hdevices.trans hwwns⟩

end Run

end LunConsole

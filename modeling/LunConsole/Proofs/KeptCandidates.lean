import LunConsole.Proofs.Candidates
import LunConsole.Proofs.GrowingLists
/-!
# The candidates that are kept

The candidates are kept beside the inputs they were computed from, and are changed by three calls:
they are refreshed for some inputs, one flag is set, or all flags are set. Keeping them is meant to
be invisible, but for what the user has selected: the list should always be the one that would be
computed for the inputs asked for last.

What makes it so is that the inputs beside the list are always those of the last refresh, whether it
has computed anything or not (`inputs_afterCalls`). A refresh that computes nothing therefore had
the inputs of the one before it, and the list is right for both.

The flags are another matter, for they are cleared by some refreshes and kept by others. Since the
last refresh that did compute, each call has set flags by the WWN and nothing else
(`luns_after_of_kept`), and a WWN means one candidate at most, because no inputs whatever give two
candidates of one WWN. So the flag of a candidate is what it was given last
(`LastRebuild.luns_eq`).
-/

set_option autoImplicit false

namespace LunConsole

/-! ## 1. Flags -/

theorem Lun.withSelected_eq_self {l : Lun} {b : Bool} (h : l.isSelected = b) :
    l.withSelected b = l := by
  rw [withSelected, ← h]

namespace LunList

/-- Setting one flag is forgotten once all are set. -/
@[simp] theorem selectAll_select (ls : LunList) (wwn : String) (b b' : Bool) :
    (ls.select wwn b).selectAll b' = ls.selectAll b' := by
  rw [selectAll, selectAll]
  induction ls with
  | nil => rfl
  | cons l ls ih =>
      rw [select]
      split_ifs with h
      · rfl
      · rw [List.map_cons, ih, List.map_cons]

/-- Setting all flags is forgotten once all are set again. -/
@[simp] theorem selectAll_selectAll (ls : LunList) (b b' : Bool) :
    (ls.selectAll b).selectAll b' = ls.selectAll b' := by
  rw [selectAll, selectAll, selectAll, List.map_map]
  rfl

/-- Flags do not matter for which devices are on offer. -/
@[simp] theorem map_wwn_selectAll (ls : LunList) (b : Bool) :
    (ls.selectAll b).map Lun.wwn = ls.map Lun.wwn := by
  rw [selectAll, List.map_map]
  rfl

/-- Nor does one flag. -/
@[simp] theorem map_wwn_select (ls : LunList) (wwn : String) (b : Bool) :
    (ls.select wwn b).map Lun.wwn = ls.map Lun.wwn := by
  rw [← map_wwn_selectAll _ false, selectAll_select, map_wwn_selectAll]

theorem offers_iff {ls : LunList} {wwn : String} :
    ls.offers wwn = true ↔ wwn ∈ ls.map Lun.wwn := by
  simp [offers]

/-- Where no two LUNs have the same WWN, setting the flag of the first one with a WWN sets that of
every one with it. -/
theorem select_eq_map {ls : LunList} (hnodup : (ls.map Lun.wwn).Nodup) (wwn : String) (b : Bool) :
    ls.select wwn b = ls.map fun l => if l.wwn = wwn then l.withSelected b else l := by
  induction ls with
  | nil => rfl
  | cons l ls ih =>
      rw [List.map_cons, List.nodup_cons] at hnodup
      obtain ⟨hl, hls⟩ := hnodup
      rw [select, List.map_cons]
      by_cases hwwn : l.wwn = wwn
      · -- found here, and no later one has the same WWN
        have hrest : ∀ k ∈ ls, k.wwn ≠ wwn := by
          intro k hk hkwwn
          apply hl
          exact List.mem_map.mpr ⟨k, hk, hkwwn.trans hwwn.symm⟩
        have hkept : (ls.map fun k => if k.wwn = wwn then k.withSelected b else k) = ls := by
          calc (ls.map fun k => if k.wwn = wwn then k.withSelected b else k)
              = ls.map id := List.map_congr_left fun k hk => if_neg (hrest k hk)
            _ = ls := List.map_id ls
        rw [if_pos hwwn, if_pos hwwn, hkept]
      · rw [if_neg hwwn, if_neg hwwn, ih hls]

end LunList

/-- The candidates are not selected as they come, so clearing their flags does nothing. -/
@[simp] theorem Inputs.selectAll_candidates (i : Inputs) :
    LunList.selectAll i.candidates false = i.candidates := by
  rw [LunList.selectAll]
  calc i.candidates.map (fun l => l.withSelected false)
      = i.candidates.map id :=
        List.map_congr_left fun _ hl => Lun.withSelected_eq_self (isSelected_candidates hl)
    _ = i.candidates := List.map_id _

/-! ## 2. Refreshing -/

namespace Candidates

variable {c : Candidates} {i : Inputs}

/-- The list is out of date for all inputs but those it was computed from. -/
theorem isStale_iff : c.isStale i = true ↔ c.inputs ≠ some i := by
  rw [isStale, bne_iff_ne]

/-- **Other inputs** make a new list, with nothing selected. -/
theorem refresh_of_ne (h : c.inputs ≠ some i) :
    c.refresh i = ⟨some i, i.candidates, c.rebuilds + 1⟩ := by
  rw [refresh, if_pos (isStale_iff.mpr h)]

/-- **The same inputs** change nothing. -/
theorem refresh_of_eq (h : c.inputs = some i) : c.refresh i = c := by
  have hfresh : ¬ c.isStale i = true := fun hstale => isStale_iff.mp hstale h
  rw [refresh, if_neg hfresh]

/-- Refreshed candidates are those of the inputs asked for, whether they were computed or not. -/
@[simp] theorem inputs_refresh (c : Candidates) (i : Inputs) : (c.refresh i).inputs = some i := by
  by_cases h : c.inputs = some i
  · rw [refresh_of_eq h, h]
  · rw [refresh_of_ne h]

/-- The candidates for these inputs, flags aside, whether they were computed anew or not. -/
theorem selectAll_refresh (h : ∀ j, c.inputs = some j → c.luns.selectAll false = j.candidates) :
    (c.refresh i).luns.selectAll false = i.candidates := by
  by_cases hsame : c.inputs = some i
  · -- what is not computed anew was computed from these very inputs
    rw [refresh_of_eq hsame]
    exact h i hsame
  · rw [refresh_of_ne hsame]
    exact i.selectAll_candidates

theorem refresh_self (c : Candidates) (i : Inputs) : (c.refresh i).refresh i = c.refresh i :=
  refresh_of_eq (inputs_refresh c i)

/-- **Two ways round** to the inputs `l`, by `j` or by `k`, lead to the same candidates, computed
equally often, if each way has a detour exactly if the other one has. -/
theorem refresh_refresh_comm {j k l : Inputs} (h : c.inputs = some i) (hj : j = i ↔ l = k)
    (hk : k = i ↔ l = j) : (c.refresh j).refresh l = (c.refresh k).refresh l := by
  have hstale {m : Inputs} (hm : ¬ m = i) : c.inputs ≠ some m := by
    rw [h]
    exact fun hsame => hm (Option.some.inj hsame).symm
  by_cases hji : j = i
  · have hjfresh : c.refresh j = c := refresh_of_eq (hji ▸ h)
    rw [hjfresh, hj.mp hji, refresh_self]
  · by_cases hki : k = i
    · have hkfresh : c.refresh k = c := refresh_of_eq (hki ▸ h)
      rw [hkfresh, hk.mp hki, refresh_self]
    · -- either way the candidates are computed twice
      have hjl : ¬ j = l := fun hsame => hki (hk.mpr hsame.symm)
      have hkl : ¬ k = l := fun hsame => hji (hj.mpr hsame.symm)
      rw [refresh_of_ne (hstale hji), refresh_of_ne (hstale hki), refresh_of_ne, refresh_of_ne]
      · simpa using hkl
      · simpa using hjl

end Candidates

/-! ## 3. Calls -/

/-- What may be asked of the candidates. -/
inductive CandidatesCall where
  | refresh (i : Inputs)
  | select (wwn : String) (b : Bool)
  | selectAll (b : Bool)

namespace CandidatesCall

/-- The inputs for which the call asks. -/
def inputs? : CandidatesCall → Option Inputs
  | refresh i => some i
  | _ => none

/-- The flag that the call gives to the candidate of that WWN. -/
def flag? (wwn : String) : CandidatesCall → Option Bool
  | refresh _ => none
  | select w b => if w = wwn then some b else none
  | selectAll b => some b

end CandidatesCall

namespace Candidates

/-- The candidates after a call. -/
def after (c : Candidates) : CandidatesCall → Candidates
  | .refresh i => c.refresh i
  | .select wwn b => c.select wwn b
  | .selectAll b => c.selectAll b

/-- The candidates after calls, from when nothing had been computed. -/
def afterCalls (calls : List CandidatesCall) : Candidates := calls.foldl after empty

/-- The inputs that have been asked for last. -/
def lastInputs (calls : List CandidatesCall) : Option Inputs :=
  (calls.filterMap CandidatesCall.inputs?).getLast?

/-- The flag that the candidate of that WWN has been given last. -/
def lastFlag (wwn : String) (calls : List CandidatesCall) : Option Bool :=
  (calls.filterMap (CandidatesCall.flag? wwn)).getLast?

/-- Whether call number `k` is a refresh that has to compute: it is the first refresh, or it asks
for other inputs than the one before it. -/
def isRebuild (calls : List CandidatesCall) (k : Nat) : Bool :=
  match calls[k]? with
  | some (.refresh i) => lastInputs (calls.take k) != some i
  | _ => false

/-- The refresh for `i` after `before` is the last one that had to compute. -/
structure LastRebuild (calls before : List CandidatesCall) (i : Inputs)
    (since : List CandidatesCall) : Prop where
  split : calls = before ++ .refresh i :: since
  rebuilt : lastInputs before ≠ some i
  kept : ∀ j, .refresh j ∈ since → j = i

section Calls

variable {calls before since : List CandidatesCall} {call : CandidatesCall} {i : Inputs}

@[simp] theorem afterCalls_append_singleton (calls : List CandidatesCall) (call : CandidatesCall) :
    afterCalls (calls ++ [call]) = (afterCalls calls).after call := by
  rw [afterCalls, List.foldl_append, List.foldl_cons, List.foldl_nil, afterCalls]

theorem lastInputs_append_singleton (calls : List CandidatesCall) (call : CandidatesCall) :
    lastInputs (calls ++ [call]) = call.inputs?.or (lastInputs calls) :=
  getLast?_filterMap_append_singleton _ calls call

theorem lastFlag_append_singleton (wwn : String) (calls : List CandidatesCall)
    (call : CandidatesCall) :
    lastFlag wwn (calls ++ [call]) = (call.flag? wwn).or (lastFlag wwn calls) :=
  getLast?_filterMap_append_singleton _ calls call

/-- **The inputs that are kept** are those that have been asked for last. -/
theorem inputs_afterCalls (calls : List CandidatesCall) :
    (afterCalls calls).inputs = lastInputs calls := by
  induction calls using List.reverseRecOn with
  | nil => rfl
  | append_singleton calls call ih =>
      rw [afterCalls_append_singleton, lastInputs_append_singleton]
      cases call with
      | refresh i => exact inputs_refresh _ i
      | select wwn b => exact ih
      | selectAll b => exact ih

/-- **The list that is kept**, flags aside, is that of the inputs asked for last. -/
theorem luns_afterCalls (calls : List CandidatesCall) :
    (afterCalls calls).luns.selectAll false
      = ((lastInputs calls).map Inputs.candidates).getD [] := by
  induction calls using List.reverseRecOn with
  | nil => rfl
  | append_singleton calls call ih =>
      rw [afterCalls_append_singleton, lastInputs_append_singleton]
      cases call with
      | refresh i =>
          apply selectAll_refresh
          intro j hj
          rw [inputs_afterCalls] at hj
          rw [ih, hj]
          rfl
      | select wwn b =>
          have hflags := LunList.selectAll_select (afterCalls calls).luns wwn b false
          exact hflags.trans ih
      | selectAll b =>
          have hflags := LunList.selectAll_selectAll (afterCalls calls).luns b false
          exact hflags.trans ih

/-- No calls make two candidates of one WWN. -/
theorem nodup_afterCalls (calls : List CandidatesCall) :
    ((afterCalls calls).luns.map Lun.wwn).Nodup := by
  rw [← LunList.map_wwn_selectAll _ false, luns_afterCalls]
  cases lastInputs calls with
  | none => exact List.nodup_nil
  | some i => exact i.nodup_candidates

/-! ## 4. How often the list is computed -/

/-- Later calls do not matter for whether a call had to compute. -/
theorem isRebuild_append_of_lt {k : Nat} (h : k < calls.length) (later : List CandidatesCall) :
    isRebuild (calls ++ later) k = isRebuild calls k := by
  have htake : (calls ++ later).take k = calls.take k := by
    apply List.take_append_of_le_length
    omega
  rw [isRebuild, isRebuild, List.getElem?_append_left h, htake]

/-- **Every call that had to compute** is counted, and no other one. -/
theorem rebuilds_afterCalls (calls : List CandidatesCall) :
    (afterCalls calls).rebuilds = (List.range calls.length).countP (isRebuild calls) := by
  induction calls using List.reverseRecOn with
  | nil => rfl
  | append_singleton calls call ih =>
      have hbefore : (List.range calls.length).countP (isRebuild (calls ++ [call]))
          = (afterCalls calls).rebuilds := by
        rw [ih]
        apply List.countP_congr
        intro k hk
        rw [isRebuild_append_of_lt (List.mem_range.mp hk)]
      have hlast : isRebuild (calls ++ [call]) calls.length = match call with
          | .refresh i => lastInputs calls != some i
          | _ => false := by
        rw [isRebuild, List.getElem?_concat_length, List.take_left]
        cases call <;> rfl
      rw [afterCalls_append_singleton, List.length_append, List.length_singleton,
        List.range_succ, List.countP_append, hbefore, List.countP_singleton, hlast]
      cases call with
      | refresh i =>
          rw [after, ← inputs_afterCalls]
          by_cases hsame : (afterCalls calls).inputs = some i
          · rw [refresh_of_eq hsame]
            simp [hsame]
          · rw [refresh_of_ne hsame]
            simp [hsame]
      | select wwn b => rfl
      | selectAll b => rfl

/-! ## 5. Flags since the list was computed -/

/-- **A call that keeps the list** sets flags by the WWN. -/
theorem luns_after_of_kept {c : Candidates} (hnodup : (c.luns.map Lun.wwn).Nodup)
    (hkept : ∀ j, call = .refresh j → c.inputs = some j) :
    (c.after call).luns
      = c.luns.map fun l => l.withSelected ((call.flag? l.wwn).getD l.isSelected) := by
  have hself : (c.luns.map fun l => l.withSelected l.isSelected) = c.luns := by
    calc (c.luns.map fun l => l.withSelected l.isSelected)
        = c.luns.map id := List.map_congr_left fun l _ => Lun.withSelected_eq_self rfl
      _ = c.luns := List.map_id c.luns
  cases call with
  | refresh j =>
      rw [after, refresh_of_eq (hkept j rfl)]
      exact hself.symm
  | select wwn b =>
      have hset : (c.after (.select wwn b)).luns = c.luns.select wwn b := rfl
      rw [hset, LunList.select_eq_map hnodup]
      apply List.map_congr_left
      intro l _
      by_cases hwwn : l.wwn = wwn
      · simp [CandidatesCall.flag?, hwwn]
      · have hself : l.withSelected l.isSelected = l := Lun.withSelected_eq_self rfl
        simp [CandidatesCall.flag?, hwwn, Ne.symm hwwn, hself]
  | selectAll b => rfl

/-- Once there has been a refresh, one of them was the last that had to compute. -/
theorem exists_lastRebuild (h : lastInputs calls = some i) :
    ∃ before since, LastRebuild calls before i since := by
  induction calls using List.reverseRecOn with
  | nil => cases h
  | append_singleton calls call ih =>
      rw [lastInputs_append_singleton] at h
      by_cases hknown : lastInputs calls = some i
      · -- whatever was last before this call still is
        obtain ⟨before, since, hlast⟩ := ih hknown
        refine ⟨before, since ++ [call], ?_, hlast.rebuilt, ?_⟩
        · rw [hlast.split, List.append_assoc, List.cons_append]
        · intro j hj
          rcases List.mem_append.mp hj with hj | hj
          · exact hlast.kept j hj
          · rw [← List.mem_singleton.mp hj] at h
            exact Option.some.inj h
      · have hasked : call.inputs? = some i := by
          cases hinputs : call.inputs? with
          | none =>
              rw [hinputs, Option.none_or] at h
              exact absurd h hknown
          | some j =>
              rw [hinputs, Option.some_or] at h
              exact h
        cases call with
        | refresh j =>
            obtain rfl : j = i := Option.some.inj hasked
            exact ⟨calls, [], rfl, hknown, fun k hk => absurd hk List.not_mem_nil⟩
        | select wwn b => cases hasked
        | selectAll b => cases hasked

/-- While the list is kept, its inputs are the ones asked for last. -/
theorem LastRebuild.lastInputs_eq (h : LastRebuild calls before i since) :
    lastInputs calls = some i := by
  obtain ⟨rfl, -, hkept⟩ := h
  induction since using List.reverseRecOn with
  | nil => rw [lastInputs_append_singleton, CandidatesCall.inputs?, Option.some_or]
  | append_singleton since call ih =>
      have hbefore : lastInputs (before ++ .refresh i :: since) = some i := by
        apply ih
        intro j hj
        exact hkept j (List.mem_append_left _ hj)
      rw [← List.cons_append, ← List.append_assoc, lastInputs_append_singleton, hbefore]
      cases call with
      | refresh j =>
          have hj : j = i := hkept j (List.mem_append_right _ (List.mem_singleton_self _))
          rw [hj]
          rfl
      | select wwn b => rfl
      | selectAll b => rfl

/-- **The list with its flags**: the candidates of the inputs, each with the flag that it has been
given last since they were computed. The induction is on the calls since then, from the right: each
of them keeps the list, so it sets flags by the WWN over what is there. -/
theorem LastRebuild.luns_eq (h : LastRebuild calls before i since) :
    (afterCalls calls).luns
      = i.candidates.map fun l => l.withSelected ((lastFlag l.wwn since).getD false) := by
  induction since using List.reverseRecOn generalizing calls with
  | nil =>
      have hcomputed : (afterCalls calls).luns = i.candidates := by
        have hstale : (afterCalls before).inputs ≠ some i := by
          rw [inputs_afterCalls]
          exact h.rebuilt
        rw [h.split, afterCalls_append_singleton, after, refresh_of_ne hstale]
      rw [hcomputed]
      exact (i.selectAll_candidates).symm
  | append_singleton since call ih =>
      obtain ⟨rfl, hrebuilt, hkept⟩ := h
      have hlast : LastRebuild (before ++ .refresh i :: since) before i since :=
        ⟨rfl, hrebuilt, fun j hj => hkept j (List.mem_append_left _ hj)⟩
      have hflags := ih hlast
      have hcall : ∀ j, call = .refresh j →
          (afterCalls (before ++ .refresh i :: since)).inputs = some j := by
        intro j hj
        have hsame : j = i := by
          apply hkept j
          rw [hj]
          exact List.mem_append_right _ (List.mem_singleton_self _)
        rw [inputs_afterCalls, hlast.lastInputs_eq, hsame]
      rw [← List.cons_append, ← List.append_assoc, afterCalls_append_singleton,
        luns_after_of_kept (nodup_afterCalls _) hcall, hflags, List.map_map]
      apply List.map_congr_left
      intro l _
      have hflag := lastFlag_append_singleton l.wwn since call
      rw [hflag]
      cases hgiven : call.flag? l.wwn with
      | none => simp [Lun.withSelected, hgiven]
      | some b => simp [Lun.withSelected, hgiven]

/-! ## 6. The whole -/

/-- Whatever is asked of the candidates, in whatever order and for whatever inputs:

* flags aside, the list is the one that the inputs asked for last would give, and empty if none have
  been asked for;
* a refresh has to compute exactly if it is the first one or asks for other inputs than the one
  before it, and exactly those that had to are counted;
* no two candidates have the same WWN, and each is selected if the last call since the list was
  computed that gave it a flag has selected it. -/
theorem kept_list_refines_recomputation (calls : List CandidatesCall) :
    let c := afterCalls calls
    c.luns.selectAll false = ((lastInputs calls).map Inputs.candidates).getD [] ∧
    (∀ i, c.isStale i = true ↔ lastInputs calls ≠ some i) ∧
    c.rebuilds = (List.range calls.length).countP (isRebuild calls) ∧
    (c.luns.map Lun.wwn).Nodup ∧
    ∀ l ∈ c.luns, ∃ before i since, calls = before ++ .refresh i :: since ∧
      lastInputs before ≠ some i ∧ (∀ j, .refresh j ∈ since → j = i) ∧
      l.isSelected = (lastFlag l.wwn since).getD false := by
  intro c
  refine ⟨luns_afterCalls calls, ?_, rebuilds_afterCalls calls, nodup_afterCalls calls, ?_⟩
  · intro i
    rw [isStale_iff, inputs_afterCalls]
  · intro l hl
    cases hinputs : lastInputs calls with
    | none =>
        -- nothing has been computed, so there is no candidate
        have hempty : c.luns.selectAll false = [] := by
          rw [luns_afterCalls, hinputs]
          rfl
        rw [List.map_eq_nil_iff.mp hempty] at hl
        exact absurd hl List.not_mem_nil
    | some i =>
        obtain ⟨before, since, hlast⟩ := exists_lastRebuild hinputs
        have hflags : c.luns = _ := hlast.luns_eq
        rw [hflags] at hl
        obtain ⟨k, -, rfl⟩ := List.mem_map.mp hl
        exact ⟨before, i, since, hlast.split, hlast.rebuilt, hlast.kept, rfl⟩

end Calls

end Candidates

end LunConsole

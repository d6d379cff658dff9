import LunConsole.Proofs.Console.Announced
import LunConsole.Proofs.Console.Without
/-!
# Changes that fail

A change of a role that fails is seen by an alert only. Put beside the run in which it was never
asked for, the run differs while the change is under way in the slot and the role of its node, and
in nothing that is derived, for the node counts as what it was. Settling puts the role back to what
it was before, which is what it still is in the other run, and bringing the derived parts up to date
after that finds them up to date. What is left is the alert, at the end of the board since its
number is new, and two counters.
-/

set_option autoImplicit false

namespace LunConsole

/-! ## 1. What a failure leaves -/

namespace Console

/-- The console with one more patch counted as rolled back. -/
def countRolledBack (c : Console) : Console :=
  { c with metrics := { c.metrics with counters := c.metrics.counters.addRolledBack } }

theorem blind_countRolledBack : Blind countRolledBack := fun _ _ _ _ => rfl

/-- Of the counters it is one that goes up, by one. -/
theorem counters_countRolledBack (c : Console) :
    c.countRolledBack.metrics.counters
      = { c.metrics.counters with rolledBack := c.metrics.counters.rolledBack + 1 } :=
  Counters.ext (Counters.applied_addRolledBack _) (Counters.rolledBack_addRolledBack _)
    (Counters.watchErrors_addRolledBack _)

/-- The roles after a change has failed are those without it. -/
theorem Beside.settledRoles_failed {n : String} {previous target : Bool} {c d : Console}
    (h : Beside n (some (.ofFlag previous)) (some (.pending previous target)) c d)
    {t : SentToggle} (hnode : t.node = n) (hcached : (c.cached? n).isSome = true)
    (e : ConsoleError) : d.settledRoles t (some e) = c.roles := by
  have hpending := h.roles.right
  have hcached' : (d.cached? n).isSome = true := by rwa [h.eq]
  subst hnode
  -- the node goes back to what it was, stays known since it has a copy, and gets no guard
  refine NodeRoles.eq_of_role?_of_guard? (fun m => ?_) (fun m => ?_)
  · rw [role?_settledRoles]
    split_ifs with hm hc
    · rw [← hm, hpending, h.roles.left]
      rfl
    · exact absurd (hm ▸ hcached') hc
    · exact h.roles.role m (Ne.symm hm)
  · rw [guard?_settledRoles hpending]
    split_ifs with hm hc hnone
    · cases hnone
    · exact h.roles.guard m
    · exact absurd (hm ▸ hcached') hc
    · exact h.roles.guard m

/-- **A change that has failed** and released its slot leaves the console that there would be
without it, but for the alert and the counters. -/
theorem Beside.rolledBack {n : String} {previous target : Bool} {c d : Console}
    (h : Beside n (some (.ofFlag previous)) (some (.pending previous target)) c d)
    {t : SentToggle} (hnode : t.node = n) (hcached : (c.cached? n).isSome = true)
    (hup : c.UpToDate) (hnew : ∀ a ∈ c.board.alerts, a.id ≠ mutationAlertId c.failures)
    (e : ConsoleError) :
    (d.settleToggle t (some e)).1.releaseSlot n
      = c.countRolledBack.told ⟨s!"Failed to update storage role of node {n}", e⟩ := by
  have hback : c.roles.AgreeBut n (some (.ofFlag previous)) (some (.ofFlag previous)) c.roles :=
    ⟨h.roles.left, h.roles.left, rfl, fun _ _ => rfl, fun _ => rfl⟩
  have hsettled := (h.withRoles hback).blind blind_countRolledBack
  have htold := hsettled.blind (blind_tellFailure s!"Failed to update storage role of node {n}" e)
  have hdone := htold.blind blind_recompute
  have hsame : tellFailure c.countRolledBack s!"Failed to update storage role of node {n}" e
      = c.countRolledBack.told ⟨s!"Failed to update storage role of node {n}", e⟩ :=
    tellFailure_eq_told (c := c.countRolledBack) hnew _ _
  -- what is told and counted leaves the rest up to date
  have hupToDate : (c.countRolledBack.told
      ⟨s!"Failed to update storage role of node {n}", e⟩).UpToDate :=
    hup.congr rfl rfl rfl rfl rfl rfl rfl rfl
  calc (d.settleToggle t (some e)).1.releaseSlot n
      = (recompute (tellFailure (countRolledBack { d with roles := c.roles })
          s!"Failed to update storage role of node {n}" e)).releaseSlot n := by
        rw [settleToggle_failed, h.settledRoles_failed hnode hcached e, hnode]
        rfl
    _ = recompute (tellFailure c.countRolledBack
          s!"Failed to update storage role of node {n}" e) := hdone.releaseSlot_self
    _ = c.countRolledBack.told ⟨s!"Failed to update storage role of node {n}", e⟩ := by
        rw [hsame, hupToDate.recompute_eq]

end Console

/-! ## 2. Runs -/

namespace Run

open Console

variable {config : Config} {clock : Instant} {history between : List (RunEvent × List RunOutput)}
  {s : Run} {id : Nat} {n : String} {enabled : Bool} {answer : Answer}

/-- Let a request to change a role come in, let anything happen but that a list of nodes comes in or
another change of that node is asked for, and let its patch fail. Then there is a run with all that
happened but the request, with the same calls and the same answers, and it ends in the same state
but for one alert at the end of the board, the number of the next alert and the count of patches
that were rolled back, which are one higher. -/
theorem failed_change_leaves_alert_only {failure : ConsoleError}
    (h : Leads config clock
      (history ++ (.ask id (.toggleRole n enabled), []) ::
        (between ++ [(.settle id (some failure), []), (.release id, [.answered answer])])) s)
    (hspares : ∀ e ∈ between, e.1.spares id n = true)
    (hunread : ∀ e ∈ between, ∀ list, e.1 ≠ .nodes list) :
    ∃ r, Leads config clock (history ++ othersIn id between) r ∧
      answer = .toggled (.rolledBack (.ofFlag !enabled) failure.message) ∧
      s.requests = r.requests ∧
      s.console = { r.console with
        board := { r.console.board with
          alerts := r.console.board.alerts ++
            [{ id := s!"mutation-{r.console.failures}"
               severity := .danger
               title := s!"Failed to update storage role of node {n}"
               description := failure.message
               dismissible := true
               raisedAt := r.console.clock }] }
        failures := r.console.failures + 1
        metrics := { r.console.metrics with
          counters := { r.console.metrics.counters with
            rolledBack := r.console.metrics.counters.rolledBack + 1 } } } := by
  have hsplit : history ++ (.ask id (.toggleRole n enabled), []) ::
        (between ++ [(.settle id (some failure), []), (.release id, [.answered answer])])
      = (history ++ (.ask id (.toggleRole n enabled), []) :: between
          ++ [(.settle id (some failure), [])]) ++ [(.release id, [.answered answer])] := by simp
  rw [hsplit] at h
  obtain ⟨s₁, h₁, hrelease⟩ := h.last_step
  obtain ⟨s₀, h₀, hsettle⟩ := h₁.last_step
  obtain ⟨r, x, y, q, hleads, hmore, hphase⟩ := h₀.without_request hspares fun _ => hunread
  refine ⟨r, hleads, ?_⟩
  obtain ⟨t, hwaiting⟩ := waiting_of_next?_settle hsettle
  have hq := hmore.request_self.symm.trans hwaiting
  obtain rfl := Option.some.inj hq
  -- it waits for the outcome of its patch, so of the phases it is in the middle one
  cases hphase with
  | @patching built _ hnode henabled hbuilt =>
      obtain rfl : t = built := by simpa using hbuilt
      rw [next?_settle hwaiting] at hsettle
      cases hsettle
      rw [next?_release (request_settle _ _ _ _)] at hrelease
      cases hrelease
      have hpending := hmore.console.roles.right
      rw [← hnode] at hpending
      obtain ⟨copy, hcopy⟩ :=
        hleads.enrolled.cached_of_settled hmore.console.roles.left (NodeRole.isPending_ofFlag _)
      have hcached : (r.console.cached? n).isSome = true := by rw [hcopy, Option.isSome_some]
      have hup : r.console.UpToDate := Reachable.upToDate ⟨_, hleads⟩
      refine ⟨?_, (hmore.advance hmore.console _).erase_self, ?_⟩
      · rw [settleToggle_some_outcome hpending failure]
      · rw [hnode, ← counters_countRolledBack]
        exact hmore.console.rolledBack hnode hcached hup hleads.new_id failure

/-- A request whose outcome comes in settles and answers. -/
theorem Leads.settle_release {r r' : Run} {failure : Option ConsoleError}
    {outputs : List RunOutput} (h : Leads config clock history r)
    (hnext : r.next? (.settle id failure) = some (r', outputs)) :
    ∃ answer s, Leads config clock
      (history ++ [(.settle id failure, []), (.release id, [.answered answer])]) s := by
  obtain ⟨t, hwaiting⟩ := waiting_of_next?_settle hnext
  have hsettled := h.step (next?_settle hwaiting failure)
  have hreleased := hsettled.step (next?_release (request_settle r id t failure))
  rw [List.append_assoc, List.singleton_append] at hreleased
  exact ⟨_, _, hreleased⟩

/-- Two storage nodes share a device. -/
def sampleRun : List (RunEvent × List RunOutput) × Run :=
  (start .standard .epoch).play (sampleSnapshots Config.standard.storageRoleLabel)

/-- A request is made that `a` be none. -/
def failureAsked : Run := sampleRun.2.claim 0 "a" false

/-- Meanwhile the device is selected, and `c` becomes a storage node. -/
def besidesFailure : List RunEvent :=
  [.look 0, .ask 1 (.selectLun "X" true), .send 0, .ask 2 (.toggleRole "c" true), .look 2, .send 2,
    .settle 2 none, .release 2]

theorem failed_change_leaves_alert_only_beside_another :
    ∃ answer s,
      Leads .standard .epoch
        (sampleRun.1 ++ (.ask 0 (.toggleRole "a" false), []) ::
          ((failureAsked.play besidesFailure).1 ++
            [(.settle 0 (some .noLunsSelected), []), (.release 0, [.answered answer])])) s ∧
      (∀ e ∈ (failureAsked.play besidesFailure).1, e.1.spares 0 "a" = true) ∧
      (∀ e ∈ (failureAsked.play besidesFailure).1, ∀ list, e.1 ≠ .nodes list) ∧
      ∃ r, Leads .standard .epoch
          (sampleRun.1 ++ othersIn 0 (failureAsked.play besidesFailure).1) r ∧
        s.console.roles = r.console.roles ∧ s.console.candidates = r.console.candidates ∧
        s.console.board.alerts.length = r.console.board.alerts.length + 1 ∧
        s.console.metrics.counters.rolledBack = r.console.metrics.counters.rolledBack + 1 ∧
        s.console.metrics.counters.applied = r.console.metrics.counters.applied := by
  have hbefore : Leads .standard .epoch sampleRun.1 sampleRun.2 := leads_play _ _ _
  obtain ⟨hnew, hfree⟩ : sampleRun.2.requests.contains 0 = false ∧
      sampleRun.2.console.inFlight.contains "a" = false := by decide +kernel
  have hask : sampleRun.2.next? (.ask 0 (.toggleRole "a" false)) = some (failureAsked, []) :=
    next?_claim hnew hfree false
  obtain ⟨hsettles, hspares⟩ : ((failureAsked.play besidesFailure).2.next?
        (.settle 0 (some .noLunsSelected))).isSome = true ∧
      ∀ e ∈ (failureAsked.play besidesFailure).1, e.1.spares 0 "a" = true := by decide +kernel
  have hunread : ∀ e ∈ (failureAsked.play besidesFailure).1, ∀ list, e.1 ≠ .nodes list := by
    intro e he list hlist
    have hmem := mem_play he
    rw [hlist] at hmem
    simp [besidesFailure] at hmem
  have hbetween := (Leads.step hbefore hask).play besidesFailure
  -- what is played is a long computation, and from here on it does not matter what it gives
  generalize failureAsked.play besidesFailure = played at *
  obtain ⟨⟨settled, outputs⟩, hsettle⟩ := Option.isSome_iff_exists.mp hsettles
  obtain ⟨answer, s, hleads⟩ := hbetween.settle_release hsettle
  rw [List.append_assoc, List.append_assoc, List.singleton_append] at hleads
  obtain ⟨r, hr, -, -, hconsole⟩ := failed_change_leaves_alert_only hleads hspares hunread
  refine ⟨answer, s, hleads, hspares, hunread, r, hr, ?_, ?_, ?_, ?_, ?_⟩
  · rw [hconsole]
  · rw [hconsole]
  · rw [hconsole]
    exact List.length_append
  · rw [hconsole]
  · rw [hconsole]

end Run

end LunConsole

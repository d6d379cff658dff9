import LunConsole.Proofs.Console.Beside
/-!
# The run without a request

From a run in which a request to change a role has come in and has not ended, the request can be
left out: everything else happens as it did, with the same calls and the same answers
(`Leads.without_request`). What others do they do alike in both runs (`OneMore.next`), and what the
request does itself is nothing in the other one (`OneMore.own`).

How far the request has come tells in what the two runs differ (`Phase`). Before it has looked at
the state, and after it has been refused, it is the slot only. In between it is the role of the
node as well, and then a list of nodes would be taken in differently.
-/

set_option autoImplicit false

namespace LunConsole

/-- Whether an action was refused: it has not been done, or there was nothing to do. -/
def Answer.isRefusal : Answer → Bool
  | refused _ | toggled (.unchanged _) | dismissed false => true
  | _ => false

/-- An event that spares a request and is about it is one of its own steps. -/
theorem RunEvent.own_of_spares {e : RunEvent} {id : Nat} {n : String} (hown : e.id? = some id)
    (hspares : e.spares id n = true) : e = .look id ∨ e = .send id := by
  cases e with
  | nodes s => cases hown
  | discovery s => cases hown
  | disks s => cases hown
  | tick now => cases hown
  | look i =>
      cases hown
      exact .inl rfl
  | send i =>
      cases hown
      exact .inr rfl
  | ask i action =>
      cases hown
      cases action with
      | toggleRole node enabled => simp [spares] at hspares
      | _ => simp [spares] at hspares
  | _ =>
      cases hown
      simp [spares] at hspares

namespace Run

open Console

variable {config : Config} {clock : Instant} {history : List (RunEvent × List RunOutput)}
  {r r' s s' : Run} {e : RunEvent} {outputs : List RunOutput} {id : Nat} {n : String}
  {x y : Option NodeRole} {q : Request} {enabled : Bool}

/-! ## 1. A request on its way -/

/-- How far the request has come, with the role of its node beside it and because of it. -/
inductive Phase (n : String) (enabled : Bool) :
    Option NodeRole → Option NodeRole → Request → Prop
  | claimed {x : Option NodeRole} : Phase n enabled x x (.claimed n enabled)
  | patching {t : SentToggle} {q : Request} (hnode : t.node = n) (henabled : t.enabled = enabled)
      (hq : q = .ready (.patchNode t) ∨ q = .waiting (.patchNode t)) :
      Phase n enabled (some (.ofFlag !enabled)) (some (.pending (!enabled) enabled)) q
  | refused {x : Option NodeRole} {answer : Answer} (hrefusal : answer.isRefusal = true) :
      Phase n enabled x x (.settled n answer)

/-- It holds the slot all the way. -/
theorem Phase.node_eq (h : Phase n enabled x y q) : q.stage?.map Stage.node = some n := by
  cases h with
  | claimed => rfl
  | refused hrefusal => rfl
  | patching hnode henabled hq =>
      rcases hq with rfl | rfl
      · exact congrArg some hnode
      · exact congrArg some hnode

/-- **The request goes its way**, which in the other run is nothing. -/
theorem OneMore.own (h : OneMore id n x y q r s) (hphase : Phase n enabled x y q)
    (hleads : Leads config clock history s) (hown : e.id? = some id)
    (hspares : e.spares id n = true) (hnext : s.next? e = some (s', outputs)) :
    ∃ x' y' q', OneMore id n x' y' q' r s' ∧ Phase n enabled x' y' q' := by
  rcases RunEvent.own_of_spares hown hspares with rfl | rfl
  · cases step_of_next? hnext with
    | @looked _ node target c start hclaimed hbegin hbegins =>
        rw [h.request_self] at hclaimed
        obtain rfl := Option.some.inj hclaimed
        cases hphase with
        | patching hnode henabled hq => simp at hq
        | claimed =>
            have hstage : s.stage? id = some (.claimed n enabled) :=
              stage?_of_request s h.request_self
            cases hbegins with
            | unknown hrole => exact ⟨_, _, _, h.advance h.console _, .refused rfl⟩
            | unchanged hrole hsettled hsame =>
                exact ⟨_, _, _, h.advance h.console _, .refused rfl⟩
            -- whoever holds the slot finds the node settled and, if known, in the last list
            | underway hrole hpending =>
                obtain ⟨hsettled, -⟩ := hleads.copy_of_claimed hstage hrole
                rw [hsettled] at hpending
                cases hpending
            | gone hrole hgone =>
                obtain ⟨-, copy, hcopy⟩ := hleads.copy_of_claimed hstage hrole
                rw [hgone] at hcopy
                cases hcopy
            | @begun role copy hrole hsettled hdiffers hcached =>
                have hx : x = some role := h.console.roles.right.symm.trans hrole
                subst hx
                have hflag : role.isSelected = !enabled := Bool.eq_not_of_ne hdiffers
                have hrole' : NodeRole.ofFlag (!enabled) = role := by
                  rw [← hflag, NodeRole.ofFlag_isSelected hsettled]
                have hbegun := h.console.begin enabled
                refine ⟨_, _, _, h.advance hbegun _, ?_⟩
                rw [hflag, ← hrole']
                exact .patching rfl rfl (.inl rfl)
    | finished hreply => cases hreply
  · cases happens_of_next? hnext with
    | @send _ call hready =>
        rw [h.request_self] at hready
        obtain rfl := Option.some.inj hready
        cases hphase with
        | @patching t _ hnode henabled hq =>
            obtain ⟨rfl⟩ : call = .patchNode t := by simpa using hq
            exact ⟨_, _, _, h.advance h.console _, .patching hnode henabled (.inr rfl)⟩

/-! ## 2. The run without the request -/

theorem Asked.requests {i : Nat} {action : Action} (h : Asked r i action r' outputs) (hi : i ≠ id) :
    r'.requests[id]? = r.requests[id]? := by
  cases h with
  | taken htaken => rfl
  | claimed hfree => exact (requests_withRequest _ _ _ _).trans (if_neg hi)
  | ended hother hperform => rfl
  | planned hother hperform => exact (requests_withRequest _ _ _ _).trans (if_neg hi)

/-- An event is about its own request and leaves the others where they are. -/
theorem requests_of_next? (hnext : r.next? e = some (r', outputs)) (hother : e.id? ≠ some id) :
    r'.requests[id]? = r.requests[id]? := by
  have hi {i : Nat} (hown : e.id? = some i) : i ≠ id := fun heq => hother (heq ▸ hown)
  cases happens_of_next? hnext with
  | nodes list => rfl
  | discovery snapshot => rfl
  | disks snapshot => rfl
  | tick now => rfl
  | ask hnew hasked => exact hasked.requests (hi rfl)
  | look hclaimed => exact (requests_withRequest _ _ _ _).trans (if_neg (hi rfl))
  | send hready => exact (requests_withRequest _ _ _ _).trans (if_neg (hi rfl))
  | settle hwaiting => exact (requests_withRequest _ _ _ _).trans (if_neg (hi rfl))
  | release hsettled => exact (requests_without _ _ _).trans (if_neg (hi rfl))
  | abandon hwaiting => exact (requests_without _ _ _).trans (if_neg (hi rfl))
  | filesystemReply hwaiting hfinish => exact (requests_without _ _ _).trans (if_neg (hi rfl))
  | clusterReply hwaiting hfinish => exact (requests_without _ _ _).trans (if_neg (hi rfl))

/-- A patch that is under way stays so while the request is spared. -/
theorem patching_of_spares {t : SentToggle} (hnext : s.next? e = some (s', outputs))
    (hspares : e.spares id n = true) (hpatching : s.stage? id = some (.patching t)) :
    s'.stage? id = some (.patching t) := by
  by_cases hown : e.id? = some id
  · rcases RunEvent.own_of_spares hown hspares with rfl | rfl
    · cases happens_of_next? hnext with
      | look hclaimed =>
          rw [stage?_of_request s hclaimed] at hpatching
          cases hpatching
    · cases happens_of_next? hnext with
      | send hready =>
          rw [stage?_withRequest, if_pos rfl, Request.stage?_waiting, ← stage?_of_request s hready]
          exact hpatching
  · rw [stage?, requests_of_next? hnext hown]
    exact hpatching

/-- A request to change a role that is spared goes on, and once it has made its call its patch is
under way. -/
theorem stage_of_spares {stage : Stage} (hnext : s.next? e = some (s', outputs))
    (hspares : e.spares id n = true) (hstage : s.stage? id = some stage) :
    (∃ stage', s'.stage? id = some stage') ∧
      (e = .send id → ∃ t, s'.stage? id = some (.patching t)) := by
  by_cases hown : e.id? = some id
  · rcases RunEvent.own_of_spares hown hspares with rfl | rfl
    · refine ⟨?_, by simp⟩
      cases step_of_next? hnext with
      | @looked _ node enabled c start hclaimed hbegin hbegins =>
          rw [stage?_withRequest, if_pos rfl]
          obtain ⟨stage', hstage', -⟩ := Option.map_eq_some_iff.mp (node_afterLook hbegins)
          exact ⟨stage', hstage'⟩
      | finished hreply => cases hreply
    · cases happens_of_next? hnext with
      | @send _ call hready =>
          rw [stage?_of_request s hready] at hstage
          rw [stage?_withRequest, if_pos rfl, Request.stage?_waiting, hstage]
          refine ⟨⟨stage, rfl⟩, fun _ => ?_⟩
          cases call with
          | patchNode t =>
              cases hstage
              exact ⟨t, rfl⟩
          | createFilesystem name claim => cases hstage
          | createCluster cluster => cases hstage
  · refine ⟨⟨stage, ?_⟩, fun hsend => absurd (congrArg RunEvent.id? hsend) hown⟩
    rw [stage?, requests_of_next? hnext hown]
    exact hstage

/-- **Whoever has made its call** has a patch under way until the outcome comes in. -/
theorem Leads.patching_of_sent {between : List (RunEvent × List RunOutput)}
    (h : Leads config clock (history ++ (.ask id (.toggleRole n enabled), []) :: between) s)
    (hspares : ∀ e ∈ between, e.1.spares id n = true) :
    (∃ stage, s.stage? id = some stage) ∧
      ((∃ e ∈ between, e.1 = .send id) → ∃ t, s.stage? id = some (.patching t)) := by
  refine Leads.since_induction (P := fun between s => (∀ e ∈ between, e.1.spares id n = true) →
    (∃ stage, s.stage? id = some stage) ∧
      ((∃ e ∈ between, e.1 = .send id) → ∃ t, s.stage? id = some (.patching t))) ?_ ?_ h hspares
  · intro r s hleads hnext _
    obtain ⟨hnew, hfree, rfl⟩ := claim_of_next? hnext
    have hclaimed := (oneMore_claim hnew hfree enabled).request_self
    exact ⟨⟨_, stage?_of_request _ hclaimed⟩, by simp⟩
  · intro between s e outputs s' hleads hnext ih hspares
    obtain ⟨hbefore, hlast⟩ := List.forall_mem_append.mp hspares
    have hlast : e.spares id n = true := hlast _ (List.mem_singleton_self _)
    obtain ⟨⟨stage, hstage⟩, hsent⟩ := ih hbefore
    obtain ⟨hstill, hsends⟩ := stage_of_spares hnext hlast hstage
    refine ⟨hstill, ?_⟩
    rintro ⟨x, hx, hsend⟩
    rcases List.mem_append.mp hx with hx | hx
    · obtain ⟨t, hpatching⟩ := hsent ⟨x, hx, hsend⟩
      exact ⟨t, patching_of_spares hnext hlast hpatching⟩
    · rw [List.mem_singleton.mp hx] at hsend
      exact hsends hsend

/-- What happened, but for what the request did itself. -/
def othersIn (id : Nat) (between : List (RunEvent × List RunOutput)) :
    List (RunEvent × List RunOutput) := between.filter fun e => e.1.id? != some id

/-- **A request that has not ended** can be left out of the run. The induction is on what has
happened since it came in; a list of nodes is taken in alike as long as no patch of the request is
under way. -/
theorem Leads.without_request {between : List (RunEvent × List RunOutput)}
    (h : Leads config clock (history ++ (.ask id (.toggleRole n enabled), []) :: between) s)
    (hspares : ∀ e ∈ between, e.1.spares id n = true)
    (hunread : (∃ t, s.stage? id = some (.patching t)) → ∀ e ∈ between, ∀ list, e.1 ≠ .nodes list) :
    ∃ r x y q, Leads config clock (history ++ othersIn id between) r ∧
      OneMore id n x y q r s ∧ Phase n enabled x y q := by
  refine Leads.since_induction (P := fun between s => (∀ e ∈ between, e.1.spares id n = true) →
    ((∃ t, s.stage? id = some (.patching t)) → ∀ e ∈ between, ∀ list, e.1 ≠ .nodes list) →
      ∃ r x y q, Leads config clock (history ++ othersIn id between) r ∧
        OneMore id n x y q r s ∧ Phase n enabled x y q) ?_ ?_ h hspares hunread
  · intro r s hleads hnext _ _
    obtain ⟨hnew, hfree, rfl⟩ := claim_of_next? hnext
    refine ⟨r, _, _, .claimed n enabled, ?_, oneMore_claim hnew hfree enabled, .claimed⟩
    rwa [othersIn, List.filter_nil, List.append_nil]
  · intro between s₀ e outputs s hleads₀ hnext ih hspares hunread
    obtain ⟨hbefore, hlast⟩ := List.forall_mem_append.mp hspares
    have hlast : e.spares id n = true := hlast _ (List.mem_singleton_self _)
    have hstill : (∃ t, s₀.stage? id = some (.patching t)) →
        ∀ x ∈ between ++ [(e, outputs)], ∀ list, x.1 ≠ .nodes list := by
      rintro ⟨t, hpatching⟩
      exact hunread ⟨t, patching_of_spares hnext hlast hpatching⟩
    obtain ⟨r₀, x, y, q, hleads, hmore, hphase⟩ := ih hbefore fun hpatching x hx =>
      hstill hpatching x (List.mem_append_left _ hx)
    -- what the request does itself is left out, everything else is done in the other run as well
    by_cases hown : e.id? = some id
    · obtain ⟨x', y', q', hmore', hphase'⟩ := hmore.own hphase hleads₀ hown hlast hnext
      refine ⟨r₀, x', y', q', ?_, hmore', hphase'⟩
      simpa [othersIn, hown] using hleads
    · have hothers : othersIn id (between ++ [(e, outputs)])
          = othersIn id between ++ [(e, outputs)] := by simp [othersIn, hown]
      rw [hothers, ← List.append_assoc]
      by_cases hread : ∃ list, e = .nodes list
      · obtain ⟨list, rfl⟩ := hread
        cases hnext
        cases hphase with
        | claimed =>
            obtain ⟨x', hread⟩ := hmore.console.applyNodes list
            exact ⟨_, x', x', _, .step hleads rfl, hmore.withConsole hread, .claimed⟩
        | refused hrefusal =>
            obtain ⟨x', hread⟩ := hmore.console.applyNodes list
            exact ⟨_, x', x', _, .step hleads rfl, hmore.withConsole hread, .refused hrefusal⟩
        | @patching t _ hnode henabled hq =>
            have hpatching : s₀.stage? id = some (.patching t) := by
              rw [stage?_of_request s₀ hmore.request_self]
              rcases hq with rfl | rfl
              · rfl
              · rfl
            have hmem := List.mem_append_right between (List.mem_singleton_self
              ((.nodes list, []) : RunEvent × List RunOutput))
            exact absurd rfl (hstill ⟨t, hpatching⟩ _ hmem list)
      · push Not at hread
        obtain ⟨r', hnext', hmore'⟩ :=
          hmore.next hleads₀.tenured hphase.node_eq hown hlast hread hnext
        exact ⟨r', x, y, q, .step hleads hnext', hmore', hphase⟩

end Run

end LunConsole

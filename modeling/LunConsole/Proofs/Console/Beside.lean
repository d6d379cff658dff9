import LunConsole.Proofs.Console.Known
/-!
# A run beside the same run without a request

What a request does to a console is told apart from what else happens by comparing two runs: one
with the request, and one in which it never came in and everything else happened as it did. The
question is what the two have in common in each state.

While a request to change a role of `n` is there, the slot of `n` is taken in the one run and free
in the other, and the role of `n` may be another one: pending, where it is settled in the other run.
Everything else is the same (`Console.Beside`). It stays the same because nothing that is derived
looks at a role but for its flag, and a pending node counts as what it was; because nobody else
takes the slot, except to ask for a change of `n`; and because the other changes that go on work on
nodes of their own.
-/

set_option autoImplicit false

namespace LunConsole

/-! ## 1. Roles -/

namespace NodeRoles

/-- The roles agree but for that of `n`, which is `x` here and `y` there, with the same flag. -/
structure AgreeBut (n : String) (x y : Option NodeRole) (r s : NodeRoles) : Prop where
  left : r.role? n = x
  right : s.role? n = y
  flag : x.any NodeRole.isSelected = y.any NodeRole.isSelected
  role : ∀ m, m ≠ n → s.role? m = r.role? m
  guard : ∀ m, s.guard? m = r.guard? m

variable {n : String} {x y : Option NodeRole} {r s r' s' : NodeRoles}

theorem AgreeBut.eq (h : AgreeBut n x x r s) : s = r := by
  refine eq_of_role?_of_guard? (fun m => ?_) h.guard
  by_cases hm : m = n
  · rw [hm, h.left, h.right]
  · exact h.role m hm

theorem AgreeBut.refl (n : String) (r : NodeRoles) : AgreeBut n (r.role? n) (r.role? n) r r :=
  ⟨rfl, rfl, rfl, fun _ _ => rfl, fun _ => rfl⟩

theorem isStorageNode_iff_any {r : NodeRoles} {n : String} :
    r.IsStorageNode n ↔ (r.role? n).any NodeRole.isSelected = true := by
  rw [IsStorageNode]
  cases r.role? n with
  | none => simp
  | some role => simp

/-- The same nodes count as storage nodes. -/
theorem AgreeBut.selectedNodes_eq (h : AgreeBut n x y r s) : s.selectedNodes = r.selectedNodes := by
  refine selectedNodes_congr fun m => ?_
  rw [isStorageNode_iff_any, isStorageNode_iff_any]
  by_cases hm : m = n
  · rw [hm, h.left, h.right, h.flag]
  · rw [h.role m hm]

/-- What is done alike to both sides and not to `n` leaves them so. -/
theorem AgreeBut.changed (h : AgreeBut n x y r s) (hr : r'.role? n = r.role? n)
    (hs : s'.role? n = s.role? n) (hrole : ∀ m, m ≠ n → s'.role? m = r'.role? m)
    (hguard : ∀ m, s'.guard? m = r'.guard? m) : AgreeBut n x y r' s' :=
  ⟨hr.trans h.left, hs.trans h.right, h.flag, hrole, hguard⟩

theorem AgreeBut.withRole (h : AgreeBut n x y r s) {m : String} (hm : m ≠ n) (role : NodeRole) :
    AgreeBut n x y (r.withRole m role) (s.withRole m role) := by
  refine h.changed (role?_withRole_of_ne _ _ hm.symm) (role?_withRole_of_ne _ _ hm.symm)
    (fun k hk => ?_) h.guard
  rw [role?_withRole, role?_withRole, h.role k hk]

theorem AgreeBut.canForget_eq (h : AgreeBut n x y r s) {m : String} (hm : m ≠ n) :
    s.canForget m = r.canForget m := by
  rw [canForget, canForget, ← role?, ← role?, h.role m hm]

theorem AgreeBut.forget (h : AgreeBut n x y r s) {m : String} (hm : m ≠ n) :
    AgreeBut n x y (r.forget m) (s.forget m) := by
  refine h.changed ?_ ?_ (fun k hk => ?_) (fun k => ?_)
  · rw [role?_forget, if_neg fun hboth => hm hboth.1]
  · rw [role?_forget, if_neg fun hboth => hm hboth.1]
  · rw [role?_forget, role?_forget, h.role k hk, h.canForget_eq hm]
  · rw [guard?_forget, guard?_forget, h.guard, h.canForget_eq hm]

/-- A node that becomes pending counts as what it was. -/
theorem AgreeBut.begin {role : NodeRole} (h : AgreeBut n (some role) (some role) r s)
    (target : Bool) :
    AgreeBut n (some role) (some (.pending role.isSelected target)) r
      (s.withRole n (.pending role.isSelected target)) := by
  refine ⟨h.left, role?_withRole_self _ _ _, ?_, fun m hm => ?_, h.guard⟩
  · rfl
  · rw [role?_withRole_of_ne _ _ hm, h.role m hm]

end NodeRoles

/-! ## 2. Consoles -/

namespace Console

/-- The same console with other roles and slots. -/
def withRoles (c : Console) (roles : NodeRoles) (inFlight : NameSet) : Console :=
  { c with roles, inFlight }

/-- What is done to a console looks at the roles for the storage nodes only, and at the slots not at
all. -/
def Blind (f : Console → Console) : Prop :=
  ∀ c roles inFlight, roles.selectedNodes = c.roles.selectedNodes →
    f (c.withRoles roles inFlight) = (f c).withRoles roles inFlight

/-- So it leaves both as they are. -/
theorem Blind.roles_eq {f : Console → Console} (hf : Blind f) (c : Console) :
    (f c).roles = c.roles := by
  have hsame := congrArg Console.roles (hf c c.roles c.inFlight rfl)
  exact hsame

theorem Blind.inFlight_eq {f : Console → Console} (hf : Blind f) (c : Console) :
    (f c).inFlight = c.inFlight := by
  have hsame := congrArg Console.inFlight (hf c c.roles c.inFlight rfl)
  exact hsame

theorem Blind.comp {f g : Console → Console} (hf : Blind f) (hg : Blind g) :
    Blind fun c => g (f c) := by
  intro c roles inFlight hnodes
  have hkept : roles.selectedNodes = (f c).roles.selectedNodes := by rw [hf.roles_eq, hnodes]
  show g (f (c.withRoles roles inFlight)) = (g (f c)).withRoles roles inFlight
  rw [hf c roles inFlight hnodes, hg (f c) roles inFlight hkept]

theorem blind_trackLoad (list : WatchedList) (error : Option String) :
    Blind fun c => c.trackLoad list error := by
  intro c roles inFlight hnodes
  cases error with
  | none => rfl
  | some error => rfl

theorem blind_tellFailure (title : String) (e : ConsoleError) :
    Blind fun c => c.tellFailure title e := fun _ _ _ _ => rfl

theorem blind_review (check : RequirementCheck) : Blind fun c => c.review check := by
  intro c roles inFlight hnodes
  by_cases hknown : c.requirements = some check
  · have hknown' : (c.withRoles roles inFlight).requirements = some check := hknown
    simp only [review, hknown, hknown', if_true]
  · have hknown' : (c.withRoles roles inFlight).requirements ≠ some check := hknown
    simp only [review, hknown, hknown', if_false]
    by_cases hpasses : check.passes = true
    · simp only [hpasses, if_true]
      rfl
    · simp only [hpasses, Bool.false_eq_true, if_false]
      rfl

/-- **What is derived** is the same for the same storage nodes. -/
theorem blind_recompute : Blind recompute := by
  intro c roles inFlight hnodes
  have hrefreshed : (c.withRoles roles inFlight).refreshCandidates
      = c.refreshCandidates.withRoles roles inFlight := by
    simp only [refreshCandidates, inputs, withRoles, hnodes]
  have hcheck (d : Console) (hd : d.roles = c.roles) :
      (d.withRoles roles inFlight).currentCheck = d.currentCheck := by
    simp only [currentCheck, withRoles, hnodes, hd]
  have hreviewed : (c.refreshCandidates.review c.refreshCandidates.currentCheck).roles = c.roles :=
    (blind_review _).roles_eq _
  have hreview : (c.refreshCandidates.withRoles roles inFlight).review
        c.refreshCandidates.currentCheck
      = (c.refreshCandidates.review c.refreshCandidates.currentCheck).withRoles roles inFlight :=
    blind_review _ c.refreshCandidates roles inFlight hnodes
  have hgauges (d : Console) (hd : d.roles = c.roles) :
      (d.withRoles roles inFlight).setGauges = d.setGauges.withRoles roles inFlight := by
    have hlength : roles.selectedNodes.length = d.roles.selectedNodes.length := by rw [hnodes, hd]
    simp only [setGauges, currentGauges, hcheck d hd]
    simp only [withRoles, hlength]
  rw [recompute, recompute]
  simp only [hrefreshed, hcheck c.refreshCandidates rfl]
  rw [hreview, hgauges _ hreviewed]

theorem blind_applyDiscovery (s : Snapshot DiscoveryReport) :
    Blind fun c => c.applyDiscovery s := by
  have hset : Blind fun c => { c with discovery := s } := fun _ _ _ _ => rfl
  exact ((blind_trackLoad .discovery s.error).comp hset).comp blind_recompute

theorem blind_applyDisks (s : Snapshot LocalDisk) : Blind fun c => c.applyDisks s := by
  have hset : Blind fun c => { c with disks := s } := fun _ _ _ _ => rfl
  exact ((blind_trackLoad .disks s.error).comp hset).comp blind_recompute

theorem blind_selectAllLuns (selected : Bool) : Blind fun c => c.selectAllLuns selected := by
  have hset : Blind fun c => { c with candidates := c.candidates.selectAll selected } :=
    fun _ _ _ _ => rfl
  exact hset.comp blind_recompute

/-- What is done at once is done alike, but for changes of roles. -/
theorem perform_withRoles {c : Console} {roles : NodeRoles} (inFlight : NameSet)
    (hnodes : roles.selectedNodes = c.roles.selectedNodes) (action : Action)
    (haction : ∀ node enabled, action ≠ .toggleRole node enabled) :
    (c.withRoles roles inFlight).perform action
      = ((c.perform action).1.withRoles roles inFlight, (c.perform action).2) := by
  cases action with
  | toggleRole node enabled => exact absurd rfl (haction node enabled)
  | selectLun wwn selected =>
      have hset : Blind fun c => { c with candidates := c.candidates.select wwn selected } :=
        fun _ _ _ _ => rfl
      have hselected := (hset.comp blind_recompute) c roles inFlight hnodes
      simp only [perform, selectLun]
      by_cases hoffers : c.candidates.luns.offers wwn = true
      · have hoffers' : (c.withRoles roles inFlight).candidates.luns.offers wwn = true := hoffers
        rw [if_pos hoffers, if_pos hoffers']
        exact Prod.ext hselected rfl
      · have hoffers' : ¬ (c.withRoles roles inFlight).candidates.luns.offers wwn = true := hoffers
        rw [if_neg hoffers, if_neg hoffers']
  | selectAllLuns selected =>
      exact Prod.ext (blind_selectAllLuns selected c roles inFlight hnodes) rfl
  | dismissAlert id => rfl
  | createFilesystem name =>
      have hplan : (c.withRoles roles inFlight).planFilesystem name = c.planFilesystem name := rfl
      simp only [perform, hplan]
      cases c.planFilesystem name with
      | ok claim => rfl
      | error e => rfl
  | createCluster =>
      have hplan : (c.withRoles roles inFlight).planCluster = c.planCluster := rfl
      simp only [perform, hplan]
      cases c.planCluster with
      | ok cluster => rfl
      | error e => rfl

/-- And so creations end. -/
theorem finish_withRoles (c : Console) (roles : NodeRoles) (inFlight : NameSet) (call : Call)
    (hcall : ∀ t, call ≠ .patchNode t) (reply : Except ConsoleError call.Result) :
    (c.withRoles roles inFlight).finish call reply
      = ((c.finish call reply).1.withRoles roles inFlight, (c.finish call reply).2) := by
  cases call with
  | patchNode t => exact absurd rfl (hcall t)
  | createFilesystem name claim =>
      cases reply with
      | ok created => rfl
      | error e => rfl
  | createCluster cluster =>
      cases reply with
      | ok created => rfl
      | error e => rfl

/-- A slot that was free is so again once it has been claimed and released. -/
theorem erase_insert_of_free {inFlight : NameSet} {n : String}
    (hfree : inFlight.contains n = false) : (inFlight.insert n).erase n = inFlight := by
  refine Std.ExtTreeSet.ext_contains fun k => ?_
  rw [Std.ExtTreeSet.contains_erase, Std.ExtTreeSet.contains_insert]
  by_cases hk : n = k
  · subst hk
    simp [hfree]
  · have hother : (compare n k == .eq) = false := by simp [hk]
    rw [bne, hother, Bool.false_or, Bool.not_false, Bool.true_and]

/-- The second console is the first one with the slot of `n` taken, and with the role of `n` as it
is while a change of it is under way. -/
structure Beside (n : String) (x y : Option NodeRole) (c d : Console) : Prop where
  roles : c.roles.AgreeBut n x y d.roles
  free : c.inFlight.contains n = false
  eq : d = c.withRoles d.roles (c.inFlight.insert n)

variable {n : String} {x y : Option NodeRole} {c d : Console}

theorem Beside.blind {f : Console → Console} (hf : Blind f) (h : Beside n x y c d) :
    Beside n x y (f c) (f d) := by
  constructor
  · rw [hf.roles_eq, hf.roles_eq]
    exact h.roles
  · rw [hf.inFlight_eq]
    exact h.free
  · rw [hf.roles_eq, hf.inFlight_eq]
    calc f d = f (c.withRoles d.roles (c.inFlight.insert n)) := by rw [← h.eq]
      _ = (f c).withRoles d.roles (c.inFlight.insert n) := hf _ _ _ h.roles.selectedNodes_eq

/-- Slots of other nodes are claimed and released alike. -/
theorem Beside.claimSlot (h : Beside n x y c d) {m : String} (hm : m ≠ n) :
    d.inFlight.contains m = c.inFlight.contains m ∧
      Beside n x y { c with inFlight := c.inFlight.insert m }
        { d with inFlight := d.inFlight.insert m } := by
  have hinFlight : d.inFlight = c.inFlight.insert n := congrArg Console.inFlight h.eq
  refine ⟨?_, h.roles, ?_, ?_⟩
  · simp [hinFlight, hm.symm]
  · simp [h.free, hm]
  · have hcomm : (c.inFlight.insert n).insert m = (c.inFlight.insert m).insert n := by
      refine Std.ExtTreeSet.ext_contains fun k => ?_
      simp only [Std.ExtTreeSet.contains_insert, Bool.or_left_comm]
    rw [hinFlight, hcomm]
    exact congrArg (fun e : Console => e.withRoles e.roles ((c.inFlight.insert m).insert n)) h.eq

theorem Beside.releaseSlot (h : Beside n x y c d) {m : String} (hm : m ≠ n) :
    Beside n x y (c.releaseSlot m) (d.releaseSlot m) := by
  have hinFlight : d.inFlight = c.inFlight.insert n := congrArg Console.inFlight h.eq
  refine ⟨h.roles, ?_, ?_⟩
  · simp [Console.releaseSlot, h.free]
  · have hcomm : (c.inFlight.insert n).erase m = (c.inFlight.erase m).insert n := by
      refine Std.ExtTreeSet.ext_contains fun k => ?_
      rw [Std.ExtTreeSet.contains_erase, Std.ExtTreeSet.contains_insert,
        Std.ExtTreeSet.contains_insert, Std.ExtTreeSet.contains_erase]
      by_cases hk : k = n
      · subst hk
        simp [hm]
      · have hother : (compare n k == .eq) = false := by simp [Ne.symm hk]
        rw [hother, Bool.false_or, Bool.false_or]
    rw [Console.releaseSlot, Console.releaseSlot, hinFlight, hcomm]
    exact congrArg (fun e : Console => e.withRoles e.roles ((c.inFlight.erase m).insert n)) h.eq

/-- Where no role differs, the two are the same once the slot of `n` is released. -/
theorem Beside.releaseSlot_self (h : Beside n x x c d) : d.releaseSlot n = c := by
  rw [h.eq, h.roles.eq, Console.releaseSlot, Console.withRoles]
  simp only [erase_insert_of_free h.free]

/-- Roles may be replaced by others that agree. -/
theorem Beside.withRoles (h : Beside n x y c d) {x' y' : Option NodeRole} {r s : NodeRoles}
    (hroles : r.AgreeBut n x' y' s) : Beside n x' y' { c with roles := r } { d with roles := s } :=
  ⟨hroles, h.free, congrArg (fun e : Console => { e with roles := s }) h.eq⟩

/-- A change of `n` begins in the second one. -/
theorem Beside.begin {role : NodeRole} (h : Beside n (some role) (some role) c d)
    (target : Bool) :
    Beside n (some role) (some (.pending role.isSelected target)) c
      { d with roles := d.roles.withRole n (.pending role.isSelected target) } :=
  ⟨h.roles.begin target, h.free, congrArg
    (fun e : Console => { e with roles := d.roles.withRole n (.pending role.isSelected target) })
    h.eq⟩

/-- **A look at another node** finds the same. -/
theorem Beside.beginToggle (h : Beside n x y c d) {m : String} (hm : m ≠ n) (enabled : Bool) :
    Beside n x y (c.beginToggle m enabled).1 (d.beginToggle m enabled).1 ∧
      (d.beginToggle m enabled).2 = (c.beginToggle m enabled).2 := by
  have hrole := h.roles.role m hm
  have hcached : d.cached? m = c.cached? m := by rw [h.eq]; rfl
  have hlabel : d.config.storageRoleLabel = c.config.storageRoleLabel := by rw [h.eq]; rfl
  rw [Console.beginToggle, Console.beginToggle, hrole, hcached, hlabel]
  -- with the same role, copy and label of `m` on both sides the look takes the same branch
  cases hknown : c.roles.role? m with
  | none => exact ⟨h, rfl⟩
  | some role =>
      by_cases hsame : (!role.isPending && role.isSelected == enabled) = true
      · simp only [if_pos hsame]
        exact ⟨h, trivial⟩
      · simp only [if_neg hsame]
        cases c.cached? m with
        | none => exact ⟨(h.withRoles (h.roles.forget hm)).blind blind_recompute, rfl⟩
        | some copy =>
            rw [hknown] at hrole
            cases hpending : role.isPending with
            | true =>
                rw [NodeRoles.begin_of_pending hknown hpending,
                  NodeRoles.begin_of_pending hrole hpending]
                exact ⟨h, rfl⟩
            | false =>
                rw [NodeRoles.begin_of_settled hknown hpending,
                  NodeRoles.begin_of_settled hrole hpending]
                exact ⟨h.withRoles (h.roles.withRole hm _), rfl⟩

theorem Beside.settledRoles (h : Beside n x y c d) {t : SentToggle} (hm : t.node ≠ n)
    {role : NodeRole} (hrole : c.roles.role? t.node = some role) (failure : Option ConsoleError) :
    (c.settledRoles t failure).AgreeBut n x y (d.settledRoles t failure) := by
  have hrole' : d.roles.role? t.node = some role := by rw [h.roles.role _ hm, hrole]
  have hcached (k : String) : d.cached? k = c.cached? k := by rw [h.eq]; rfl
  refine h.roles.changed ?_ ?_ (fun k hk => ?_) (fun k => ?_)
  · rw [role?_settledRoles, if_neg hm]
  · rw [role?_settledRoles, if_neg hm]
  · rw [role?_settledRoles, role?_settledRoles, hcached, h.roles.role k hk]
  · rw [guard?_settledRoles hrole, guard?_settledRoles hrole', hcached, h.roles.guard]

/-- **A change of another node** ends the same. -/
theorem Beside.settleToggle (h : Beside n x y c d) {t : SentToggle} (hm : t.node ≠ n)
    {previous target : Bool} (hrole : c.roles.role? t.node = some (.pending previous target))
    (failure : Option ConsoleError) :
    Beside n x y (c.settleToggle t failure).1 (d.settleToggle t failure).1 ∧
      (d.settleToggle t failure).2 = (c.settleToggle t failure).2 := by
  have hrole' : d.roles.role? t.node = some (.pending previous target) := by
    rw [h.roles.role _ hm, hrole]
  have hsettled := h.withRoles (h.settledRoles hm hrole failure)
  cases failure with
  | none =>
      have hcount : Blind fun c =>
          { c with metrics := { c.metrics with counters := c.metrics.counters.addApplied } } :=
        fun _ _ _ _ => rfl
      rw [settleToggle_none_outcome hrole, settleToggle_none_outcome hrole', settleToggle_applied,
        settleToggle_applied]
      have hcounted := hsettled.blind hcount
      exact ⟨hcounted.blind blind_recompute, rfl⟩
  | some e =>
      have hcount : Blind fun c =>
          { c with metrics := { c.metrics with counters := c.metrics.counters.addRolledBack } } :=
        fun _ _ _ _ => rfl
      rw [settleToggle_some_outcome hrole, settleToggle_some_outcome hrole', settleToggle_failed,
        settleToggle_failed]
      have hcounted := hsettled.blind hcount
      have htold := hcounted.blind
        (blind_tellFailure s!"Failed to update storage role of node {t.node}" e)
      exact ⟨htold.blind blind_recompute, rfl⟩

/-- Everything else that is asked for is done alike. -/
theorem Beside.perform (h : Beside n x y c d) {action : Action}
    (haction : ∀ node enabled, action ≠ .toggleRole node enabled) :
    Beside n x y (c.perform action).1 (d.perform action).1 ∧
      (d.perform action).2 = (c.perform action).2 := by
  have hblind : Blind fun c => (c.perform action).1 := fun c _ inFlight hnodes =>
    congrArg Prod.fst (perform_withRoles (c := c) inFlight hnodes action haction)
  refine ⟨h.blind hblind, ?_⟩
  calc (d.perform action).2
      = ((c.withRoles d.roles (c.inFlight.insert n)).perform action).2 := by rw [← h.eq]
    _ = (c.perform action).2 := by
        rw [perform_withRoles _ h.roles.selectedNodes_eq action haction]

theorem Beside.finish (h : Beside n x y c d) {call : Call} (hcall : ∀ t, call ≠ .patchNode t)
    (reply : Except ConsoleError call.Result) :
    Beside n x y (c.finish call reply).1 (d.finish call reply).1 ∧
      (d.finish call reply).2 = (c.finish call reply).2 := by
  have hblind : Blind fun c => (c.finish call reply).1 := fun c roles inFlight _ =>
    congrArg Prod.fst (c.finish_withRoles roles inFlight call hcall reply)
  refine ⟨h.blind hblind, ?_⟩
  calc (d.finish call reply).2
      = ((c.withRoles d.roles (c.inFlight.insert n)).finish call reply).2 := by rw [← h.eq]
    _ = (c.finish call reply).2 := by rw [finish_withRoles _ _ _ _ hcall]

/-- A list of nodes is read alike where no role differs. -/
theorem Beside.applyNodes (h : Beside n x x c d) (s : Snapshot StorageNode) :
    ∃ x', Beside n x' x' (c.applyNodes s) (d.applyNodes s) := by
  have hset : Blind fun c => { c with nodes := s } := fun _ _ _ _ => rfl
  -- whatever has been told of the watch, the same roles read the same list
  have hread {c d : Console} (h : Beside n x x c d) : ∃ x', Beside n x' x'
      (recompute { c with
        roles := c.roles.sync c.config.storageRoleLabel.key c.config.storageRoleLabel.value s.data
        nodes := s })
      (recompute { d with
        roles := d.roles.sync d.config.storageRoleLabel.key d.config.storageRoleLabel.value s.data
        nodes := s }) := by
    have hlabel : d.config.storageRoleLabel = c.config.storageRoleLabel := by rw [h.eq]; rfl
    have hsame := NodeRoles.AgreeBut.refl n (c.roles.sync c.config.storageRoleLabel.key
      c.config.storageRoleLabel.value s.data)
    have hnodes := (h.withRoles hsame).blind hset
    rw [hlabel, h.roles.eq]
    exact ⟨_, hnodes.blind blind_recompute⟩
  exact hread (h.blind (blind_trackLoad .nodes s.error))

end Console

/-! ## 3. Runs -/

/-- The number of the request that the event is about. -/
def RunEvent.id? : RunEvent → Option Nat
  | ask id _ | look id | send id | settle id _ | release id | abandon id | filesystemReply id _
  | clusterReply id _ => some id
  | nodes _ | discovery _ | disks _ | tick _ => none

/-- Whether the event lets the request `id` to change the role of `n` be: at most it brings it to
the point where it waits for the outcome of its patch, and it does not ask for another change of
`n`. -/
def RunEvent.spares (id : Nat) (n : String) : RunEvent → Bool
  | ask i (.toggleRole node _) => i != id && node != n
  | ask i _ | settle i _ | release i | abandon i | filesystemReply i _ | clusterReply i _ => i != id
  | _ => true

namespace Run

open Console

variable {config : Config} {clock : Instant} {history : List (RunEvent × List RunOutput)}
  {r r' s s' : Run} {e : RunEvent} {outputs : List RunOutput} {id : Nat} {n : String}
  {x y : Option NodeRole} {q : Request} {enabled : Bool}

/-- The second run is the first one with the request `id`, which holds the slot of `n`. -/
structure OneMore (id : Nat) (n : String) (x y : Option NodeRole) (q : Request) (r s : Run) :
    Prop where
  console : r.console.Beside n x y s.console
  new : r.requests[id]? = none
  requests : s.requests = r.requests.insert id q

theorem OneMore.request_self (h : OneMore id n x y q r s) : s.requests[id]? = some q := by
  rw [h.requests, Std.ExtTreeMap.getElem?_insert_self]

theorem OneMore.request (h : OneMore id n x y q r s) {i : Nat} (hi : i ≠ id) :
    s.requests[i]? = r.requests[i]? := by
  rw [h.requests, Std.ExtTreeMap.getElem?_insert]
  simp [hi.symm]

theorem OneMore.contains (h : OneMore id n x y q r s) {i : Nat} (hi : i ≠ id) :
    s.requests.contains i = r.requests.contains i := by
  rw [Std.ExtTreeMap.contains_eq_isSome_getElem?, Std.ExtTreeMap.contains_eq_isSome_getElem?,
    h.request hi]

theorem OneMore.withConsole {x' y' : Option NodeRole} {c d : Console}
    (h : OneMore id n x y q r s) (hbeside : c.Beside n x' y' d) :
    OneMore id n x' y' q (r.withConsole c) (s.withConsole d) := ⟨hbeside, h.new, h.requests⟩

theorem OneMore.withRequest (h : OneMore id n x y q r s) {i : Nat} (hi : i ≠ id) (p : Request) :
    OneMore id n x y q (r.withRequest i p) (s.withRequest i p) := by
  refine ⟨h.console, ?_, ?_⟩
  · rw [requests_withRequest, if_neg hi, h.new]
  · refine Std.ExtTreeMap.ext_getElem? fun k => ?_
    rw [requests_withRequest, Std.ExtTreeMap.getElem?_insert, requests_withRequest, h.requests,
      Std.ExtTreeMap.getElem?_insert]
    by_cases hk : k = id
    · subst hk
      simp [hi]
    · simp [Ne.symm hk]

theorem OneMore.without (h : OneMore id n x y q r s) {i : Nat} (hi : i ≠ id) :
    OneMore id n x y q (r.without i) (s.without i) := by
  refine ⟨h.console, ?_, ?_⟩
  · rw [requests_without, if_neg hi, h.new]
  · refine Std.ExtTreeMap.ext_getElem? fun k => ?_
    rw [requests_without, Std.ExtTreeMap.getElem?_insert, requests_without, h.requests,
      Std.ExtTreeMap.getElem?_insert]
    by_cases hk : k = id
    · subst hk
      simp [hi]
    · simp [Ne.symm hk]

/-- The run with a request that has claimed the slot of its node. -/
def claim (r : Run) (id : Nat) (n : String) (enabled : Bool) : Run :=
  (r.withConsole { r.console with inFlight := r.console.inFlight.insert n }).withRequest id
    (.claimed n enabled)

theorem next?_claim (hnew : r.requests.contains id = false)
    (hfree : r.console.inFlight.contains n = false) (enabled : Bool) :
    r.next? (.ask id (.toggleRole n enabled)) = some (r.claim id n enabled, []) :=
  (Happens.ask hnew (.claimed hfree)).next?_eq

theorem claim_of_next? (h : r.next? (.ask id (.toggleRole n enabled)) = some (s, [])) :
    r.requests.contains id = false ∧ r.console.inFlight.contains n = false ∧
      s = r.claim id n enabled := by
  cases happens_of_next? h with
  | ask hnew hasked =>
      cases hasked with
      | claimed hfree => exact ⟨hnew, hfree, rfl⟩
      | planned hother hperform => exact absurd rfl (hother n enabled)

/-- A request comes in, in the second run only. -/
theorem oneMore_claim (hnew : r.requests.contains id = false)
    (hfree : r.console.inFlight.contains n = false) (enabled : Bool) :
    OneMore id n (r.console.roles.role? n) (r.console.roles.role? n) (.claimed n enabled) r
      (r.claim id n enabled) :=
  ⟨⟨.refl n _, hfree, rfl⟩, Std.ExtTreeMap.getElem?_eq_none_of_contains_eq_false hnew, rfl⟩

/-- The request goes on in the second run. -/
theorem OneMore.advance {x' y' : Option NodeRole} {d : Console} (h : OneMore id n x y q r s)
    (hbeside : r.console.Beside n x' y' d) (q' : Request) :
    OneMore id n x' y' q' r ((s.withConsole d).withRequest id q') := by
  refine ⟨hbeside, h.new, Std.ExtTreeMap.ext_getElem? fun k => ?_⟩
  rw [requests_withRequest, Std.ExtTreeMap.getElem?_insert, Run.withConsole, h.requests,
    Std.ExtTreeMap.getElem?_insert]
  by_cases hk : id = k
  · simp [hk]
  · simp [hk]

/-- Without the request there are those of the first run. -/
theorem OneMore.erase_self (h : OneMore id n x y q r s) : s.requests.erase id = r.requests := by
  refine Std.ExtTreeMap.ext_getElem? fun k => ?_
  rw [Std.ExtTreeMap.getElem?_erase]
  by_cases hk : k = id
  · subst hk
    simp [h.new]
  · rw [h.request hk]
    simp [Ne.symm hk]

/-- A request that has changed no role ends as if it had not been. -/
theorem OneMore.release_self (h : OneMore id n x x q r s) :
    (s.withConsole (s.console.releaseSlot n)).without id = r := by
  rw [h.console.releaseSlot_self, Run.without, Run.withConsole, h.erase_self]

/-- No other request works on `n`, for it would hold the same slot. -/
theorem OneMore.node_ne (h : OneMore id n x y q r s) (htenured : s.Tenured)
    (hq : q.stage?.map Stage.node = some n) {i : Nat} (hi : i ≠ id) {p : Request} {m : String}
    (hp : r.requests[i]? = some p) (hm : p.stage?.map Stage.node = some m) : m ≠ n := by
  rintro rfl
  have hslot : s.slot? id = some m := by rw [slot?, stage?_of_request s h.request_self, hq]
  have hother : s.slot? i = some m := by
    rw [slot?, stage?_of_request s ((h.request hi).trans hp), hm]
  exact hi (htenured.apart i id m hother hslot)

/-- What is asked for while the request is there is answered as if it were not. -/
theorem OneMore.ask (h : OneMore id n x y q r s) {i : Nat} {action : Action}
    (hspares : RunEvent.spares id n (.ask i action) = true)
    (hasked : Asked s i action s' outputs) :
    ∃ r', Asked r i action r' outputs ∧ OneMore id n x y q r' s' := by
  have hi : i ≠ id := by
    cases action with
    | toggleRole m target => exact (bne_iff_ne.mp (Bool.and_eq_true_iff.mp hspares).1)
    | _ => simpa [RunEvent.spares] using hspares
  cases hasked with
  | @taken m target htaken =>
      have hm : m ≠ n := bne_iff_ne.mp (Bool.and_eq_true_iff.mp hspares).2
      rw [(h.console.claimSlot hm).1] at htaken
      exact ⟨r, .taken htaken, h⟩
  | @claimed m target hfree =>
      have hm : m ≠ n := bne_iff_ne.mp (Bool.and_eq_true_iff.mp hspares).2
      obtain ⟨hslot, hclaimed⟩ := h.console.claimSlot hm
      rw [hslot] at hfree
      exact ⟨_, .claimed hfree, (h.withConsole hclaimed).withRequest hi _⟩
  | ended hother hperform =>
      obtain ⟨hconsole, hprogress⟩ := h.console.perform hother
      rw [hperform] at hconsole hprogress
      exact ⟨_, .ended hother (Prod.ext rfl hprogress.symm), h.withConsole hconsole⟩
  | planned hother hperform =>
      obtain ⟨hconsole, hprogress⟩ := h.console.perform hother
      rw [hperform] at hconsole hprogress
      exact ⟨_, .planned hother (Prod.ext rfl hprogress.symm),
        (h.withConsole hconsole).withRequest hi _⟩

/-- **What others do** they do alike in both runs, and are answered alike. -/
theorem OneMore.next (h : OneMore id n x y q r s) (htenured : s.Tenured)
    (hq : q.stage?.map Stage.node = some n) (hother : e.id? ≠ some id)
    (hspares : e.spares id n = true) (hunread : ∀ list, e ≠ .nodes list)
    (hnext : s.next? e = some (s', outputs)) :
    ∃ r', r.next? e = some (r', outputs) ∧ OneMore id n x y q r' s' := by
  have hi {i : Nat} (hown : e.id? = some i) : i ≠ id := fun heq => hother (heq ▸ hown)
  cases happens_of_next? hnext with
  | nodes list => exact absurd rfl (hunread list)
  | discovery snapshot =>
      have hboth := h.console.blind (blind_applyDiscovery snapshot)
      exact ⟨_, (Happens.discovery snapshot).next?_eq, h.withConsole hboth⟩
  | disks snapshot =>
      have hboth := h.console.blind (blind_applyDisks snapshot)
      exact ⟨_, (Happens.disks snapshot).next?_eq, h.withConsole hboth⟩
  | tick now =>
      have hset : Blind fun c => { c with clock := now } := fun _ _ _ _ => rfl
      exact ⟨_, (Happens.tick now).next?_eq, h.withConsole (h.console.blind hset)⟩
  | ask hnew hasked =>
      obtain ⟨r', hasked', hboth⟩ := h.ask hspares hasked
      rw [h.contains (hi rfl)] at hnew
      exact ⟨r', (Happens.ask hnew hasked').next?_eq, hboth⟩
  | @look i m target hclaimed =>
      rw [h.request (hi rfl)] at hclaimed
      have hm : m ≠ n := h.node_ne htenured hq (hi rfl) hclaimed rfl
      obtain ⟨hconsole, hstart⟩ := h.console.beginToggle hm target
      refine ⟨_, (Happens.look hclaimed).next?_eq, ?_⟩
      have hboth := (h.withConsole hconsole).withRequest (hi rfl)
        (afterLook m (r.console.beginToggle m target).2)
      rw [look, look]
      simp only [hstart]
      exact hboth
  | send hready =>
      rw [h.request (hi rfl)] at hready
      exact ⟨_, (Happens.send hready).next?_eq, h.withRequest (hi rfl) _⟩
  | @settle i t failure hwaiting =>
      -- a change of another node, which is pending on both sides since its patch is out
      have hpatching : s.stage? i = some (.patching t) := stage?_of_request s hwaiting
      rw [h.request (hi rfl)] at hwaiting
      have hm : t.node ≠ n := h.node_ne htenured hq (hi rfl) hwaiting rfl
      obtain ⟨previous, hpending⟩ := htenured.pending i t hpatching
      rw [h.console.roles.role _ hm] at hpending
      obtain ⟨hconsole, houtcome⟩ := h.console.settleToggle hm hpending failure
      refine ⟨_, (Happens.settle hwaiting).next?_eq, ?_⟩
      have hboth := (h.withConsole hconsole).withRequest (hi rfl)
        (.settled t.node (.toggled (r.console.settleToggle t failure).2))
      rw [settle, settle]
      simp only [houtcome]
      exact hboth
  | @release i m answer hsettled =>
      rw [h.request (hi rfl)] at hsettled
      have hm : m ≠ n := h.node_ne htenured hq (hi rfl) hsettled rfl
      have hboth := (h.withConsole (h.console.releaseSlot hm)).without (hi rfl)
      exact ⟨_, (Happens.release hsettled).next?_eq, hboth⟩
  | abandon hwaiting =>
      rw [h.request (hi rfl)] at hwaiting
      exact ⟨_, (Happens.abandon hwaiting).next?_eq, h.without (hi rfl)⟩
  | @filesystemReply i name claim reply c answer hwaiting hfinish =>
      rw [h.request (hi rfl)] at hwaiting
      have hcall : ∀ t, Call.createFilesystem name claim ≠ .patchNode t := by simp
      obtain ⟨hboth, hanswer⟩ := h.console.finish hcall reply
      rw [hfinish] at hboth hanswer
      have hfinish' : r.console.finish (.createFilesystem name claim) reply
          = ((r.console.finish (.createFilesystem name claim) reply).1, answer) :=
        Prod.ext rfl hanswer.symm
      have hdone := (h.withConsole hboth).without (hi rfl)
      exact ⟨_, (Happens.filesystemReply hwaiting hfinish').next?_eq, hdone⟩
  | @clusterReply i cluster reply c answer hwaiting hfinish =>
      rw [h.request (hi rfl)] at hwaiting
      have hcall : ∀ t, Call.createCluster cluster ≠ .patchNode t := by simp
      obtain ⟨hboth, hanswer⟩ := h.console.finish hcall reply
      rw [hfinish] at hboth hanswer
      have hfinish' : r.console.finish (.createCluster cluster) reply
          = ((r.console.finish (.createCluster cluster) reply).1, answer) :=
        Prod.ext rfl hanswer.symm
      have hdone := (h.withConsole hboth).without (hi rfl)
      exact ⟨_, (Happens.clusterReply hwaiting hfinish').next?_eq, hdone⟩

end Run

end LunConsole

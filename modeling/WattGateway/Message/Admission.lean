import WattGateway.Message.Fences

/-!
# Admission by grant

If the lookup of `admit_grant` finds the principal admitted, only the grant row is written.
Otherwise the active members and the granted principal are written with empty role sets
(`admitGrant_keeps_roles_iff`). Nothing remembers that a principal was removed: a grant that names
it admits it again, and only such a grant does (`readmission_by_own_grant`).
-/

namespace WattGateway.Message

open Hist Sample Db List Sys

/-! ## Standing in the Global scope -/

namespace Db

/-- The roles and the state of a principal in the Global scope. -/
def standing (db : Db) (n p : String) : Option (List Role × MemberState) :=
  (db.memberships.get? (n, "global", p)).map fun r => (r.rolesJson, r.state)

/-- The signers `validate_membership_snapshot_authority` accepts besides genesis. -/
def finalizers (db : Db) (n : String) : List String :=
  finalizersOf (Select.run 0 db (.globalRoles n))

lemma standing_eq (db : Db) (n p : String) :
    db.standing n p = (db.member n "global" p).map fun c => (c.2.2, c.2.1) := by
  unfold standing member
  rw [Option.map_map]
  rfl

lemma mem_globalRoles {db : Db} {now : Nat} {n p : String} {roles : List Role} :
    (p, roles) ∈ Select.run now db (.globalRoles n) ↔ db.activeRoles n "global" p = some roles := by
  show (p, roles) ∈ (db.activeRows n "global").map _ ↔ _
  rw [mem_map]
  unfold activeRoles
  constructor
  · rintro ⟨⟨_, r⟩, hm, he⟩
    obtain ⟨hk, hg, hs⟩ := mem_activeRows.1 hm
    cases he
    rw [← hk, hg]
    simp [Option.filter, hs]
  · intro h
    obtain ⟨r, hf, ho⟩ := Option.map_eq_some_iff.1 h
    obtain ⟨hg, hs⟩ := Option.filter_eq_some_iff.1 hf
    refine ⟨((n, "global", p), r), mem_activeRows.2 ⟨rfl, hg, by simpa using hs⟩, ?_⟩
    rw [← ho]

lemma mem_finalizers {db : Db} {n p : String} :
    p ∈ db.finalizers n ↔ ∃ roles, db.activeRoles n "global" p = some roles ∧
      Role.finalizer ∈ roles := by
  unfold finalizers finalizersOf
  rw [mem_map]
  constructor
  · rintro ⟨⟨_, roles⟩, hm, rfl⟩
    obtain ⟨hm, hf⟩ := mem_filter.1 hm
    exact ⟨roles, mem_globalRoles.1 hm, by simpa using hf⟩
  · rintro ⟨roles, hr, hf⟩
    exact ⟨(p, roles), mem_filter.2 ⟨mem_globalRoles.2 hr, by simpa using hf⟩, rfl⟩

end Db

/-- Everybody but `p` has the same standing, and the Finalizers are the same. -/
structure RolesKept (n p : String) (db db' : Db) : Prop where
  others : ∀ q, q ≠ p → db'.standing n q = db.standing n q
  finalizers : ∀ q, q ∈ db'.finalizers n ↔ q ∈ db.finalizers n

variable {db' db : Db}

lemma Untouched.rolesKept (h : Untouched db db') (n p : String) : RolesKept n p db db' := by
  have hs := h.sameScope n "global"
  refine ⟨fun q _ => by rw [standing_eq, standing_eq, hs.1 q], fun q => ?_⟩
  rw [mem_finalizers, mem_finalizers, hs.activeRoles]

/-! ## The mutation of a grant -/

variable {grant : NetworkMembershipGrant} {existing : List String} {gid : String}

lemma mem_desired_grant {q : String} :
    q ∈ (grantMutation grant gid).desired existing ↔ q ∈ existing ∨ q = grant.principalId := by
  unfold grantMutation MembershipMutation.desired
  by_cases hp : grant.principalId ∈ existing
  · simp only [if_true, hp]
    constructor
    · exact .inl
    · rintro (hq | rfl)
      · exact hq
      · exact hp
  · simp [hp]

variable {n : String} {routes : List String}

/-- After the mutation of a grant, the standing of another principal is the same exactly if it was
not active or had no roles. -/
lemma standing_grant_iff (hm : Mutated n "global" (grantMutation grant gid)
      ((grantMutation grant gid).desired existing) routes db db')
    (hex : ∀ p, p ∈ existing ↔ db.Active n "global" p) {q : String} (hq : q ≠ grant.principalId) :
    db'.standing n q = db.standing n q ↔
      ∀ roles, db.activeRoles n "global" q = some roles → roles = [] := by
  have he : q ∈ (grantMutation grant gid).desired existing ↔ db.Active n "global" q := by
    rw [mem_desired_grant, ← hex q]
    simp [hq]
  rw [standing_eq, standing_eq, hm.member q, activeRoles_eq]
  by_cases ha : db.Active n "global" q
  · -- an active member is written again, without roles
    rw [if_pos (he.2 ha)]
    obtain ⟨v, roles, hv⟩ := ha
    rw [hv]
    simp [grantMutation, MembershipMutation.roles, Option.filter, eq_comm]
  · -- any other row is revoked and keeps its roles
    rw [if_neg (fun h => ha (he.1 h))]
    unfold Db.Active at ha
    rcases hv : db.member n "global" q with _ | ⟨v, st, roles⟩
    · simp
    · cases st with
      | active => exact absurd ⟨v, roles, hv⟩ ha
      | revoked => simp [Option.filter]

lemma finalizers_grant {desired : List String}
    (hm : Mutated n "global" (grantMutation grant gid) desired routes db db') (q : String) :
    q ∉ db'.finalizers n := by
  rw [mem_finalizers]
  rintro ⟨_, hr, hf⟩
  rw [hm.activeRoles q] at hr
  split at hr
  · cases hr
    cases hf
  · cases hr

lemma rolesKept_grant_iff (hm : Mutated n "global" (grantMutation grant gid)
      ((grantMutation grant gid).desired existing) routes db db')
    (hex : ∀ p, p ∈ existing ↔ db.Active n "global" p) :
    RolesKept n grant.principalId db db' ↔
      (∀ q, q ≠ grant.principalId → ∀ roles, db.activeRoles n "global" q = some roles →
        roles = []) ∧ grant.principalId ∉ db.finalizers n := by
  constructor
  · intro h
    refine ⟨fun q hq => (standing_grant_iff hm hex hq).1 (h.others q hq), fun hf => ?_⟩
    exact finalizers_grant hm _ ((h.finalizers _).2 hf)
  · rintro ⟨ho, hp⟩
    refine ⟨fun q hq => (standing_grant_iff hm hex hq).2 (ho q hq), fun q => ?_⟩
    refine iff_of_false (finalizers_grant hm q) fun hf => ?_
    by_cases hq : q = grant.principalId
    · exact hp (hq ▸ hf)
    · obtain ⟨roles, hr, hi⟩ := mem_finalizers.1 hf
      rw [ho q hq roles hr] at hi
      cases hi

/-! ## In every run -/

section Runs

variable {X : Wattswarm} {config : Config} {calls : Nat → Call} {w : World} {s : State}
variable {p : String}

lemma admittedVersion_unique (hX : X.LabelsGlobal)
    (hr : Reachable X config calls w s) (t : Nat) {x y : Option String}
    (hx : (s.threads t).hist.Heard (.txSelect (.admittedVersion n p)) x)
    (hy : (s.threads t).hist.Heard (.txSelect (.admittedVersion n p)) y) : x = y := by
  refine hr.heard_unique (R := fun t => callRule X config (calls t))
    (fun t => prog_follows hX (calls t)) (fun _ => rfl) ?_ hx hy
  exact fun _ hok => hok.2.2 n p rfl

variable {a : Action Env} {t : Nat}

/-- A call that returns from `admit_grant` does so by its commit. -/
lemma atCommit_of_grant_returned (hX : X.LabelsGlobal)
    (hr : Reachable X config calls w s) {r : GrantAdmissionResponse}
    (hu : (s.threads t).prog.isDone = false)
    (he : ((s.step gateway a).threads t).prog = .ret (.admitGrant r)) :
    AtCommit s t (s.step gateway a).world.db := by
  have ha := follows_of_reaches hX (Reaches.step a hr trivial) t
  rw [he] at ha
  refine (atCommit_of_did ?_ ha.2).choose_spec.2
  have hb := follows_of_reaches hX hr t
  cases hp : (s.threads t).prog with
  | ret | fail => rw [hp] at hu; cases hu
  | cmd | ask => rw [hp] at hb; exact hb.1.1

/-- The step in which `admit_grant` returns changes nobody else's roles or state, and not the
Finalizers, exactly if its lookup found the principal admitted, or there were no roles to lose. -/
theorem admitGrant_keeps_roles_iff (hX : X.scopeLabel .global = some "global")
    (hw : w.txs = .empty) (hr : Reachable X config calls w s) {t : Nat}
    {grant : NetworkMembershipGrant} (hcall : calls t = .admitGrant grant) {o : Outcome}
    {r : GrantAdmissionResponse} (hrun : (s.threads t).prog.isDone = false)
    (hret : ((s.step gateway (.run t o)).threads t).prog = .ret (.admitGrant r)) :
    RolesKept grant.networkId grant.principalId s.world.db
        (s.step gateway (.run t o)).world.db ↔ (∃ v, (s.threads t).hist.Heard
        (.txSelect (.admittedVersion grant.networkId grant.principalId)) (some v)) ∨
      ((∀ q, q ≠ grant.principalId → ∀ roles,
          s.world.db.activeRoles grant.networkId "global" q = some roles → roles = []) ∧
        grant.principalId ∉ s.world.db.finalizers grant.networkId) := by
  have hc := atCommit_of_grant_returned hX hr hrun hret
  obtain ⟨hok, -⟩ := hc.effect hX hw hr
  rw [hcall] at hok
  obtain ⟨_, found, _, he⟩ := hok
  obtain ⟨_, ht, ht', hv⟩ := hc.txOf (txInv_of_reaches hw hr)
  cases hf : found with
  | some v =>
    -- found: only the grant row is written
    have hu := he.untouched (by simp [hf]) ht hv
    exact iff_of_true (hu.rolesKept _ _) (Or.inl ⟨v, hf ▸ he.looked⟩)
  | none =>
    have hn : ¬ ∃ v, (s.threads t).hist.Heard
        (.txSelect (.admittedVersion grant.networkId grant.principalId)) (some v) := by
      rintro ⟨_, hh⟩
      have hs := admittedVersion_unique hX hr t hh he.looked
      rw [hf] at hs
      cases hs
    obtain ⟨_, _, hex, hfe, -, hm⟩ := he.mutatedGlobal hf ht hv
    rw [or_iff_right hn]
    exact rolesKept_grant_iff hm (AtCommit.existing hX hw hr ht' hfe hex)

/-! ## Removal and readmission -/

/-- Only `admit_grant` calls move. -/
def OnlyGrants (calls : Nat → Call) (_ : State) (a : Action Env) : Prop :=
  ∀ t o, a = .run t o → ∃ grant, calls t = .admitGrant grant

section

variable (hX : X.LabelsGlobal) (hw : w.txs = .empty) (hr : Reachable X config calls w s)
include hX hw hr

/-- A principal that a step makes active in the Global scope, when only grants move, is the one
its grant names. -/
lemma active_by_own_grant (ha : OnlyGrants calls s a) (ho : ¬ s.world.db.Active n "global" p)
    (hin : (s.step gateway a).world.db.Active n "global" p) :
    ∃ t grant genesis now, calls t = .admitGrant grant ∧ grant.networkId = n ∧
      grant.principalId = p ∧ AtCommit s t (s.step gateway a).world.db ∧
      config.trustedNetworkGenesis.get? n = some genesis ∧ (s.threads t).hist.Heard .clock now ∧
      X.verifyNetworkMembershipGrant grant genesis now = true := by
  rcases scope_step hX hw hr a n "global" with hs |
    ⟨t, o, _, _, _, _, hact, hc, -, ht, hf, -, hm, hex, hu⟩
  · exact absurd ((hs.active p).1 hin) ho
  · obtain ⟨grant, hca⟩ := ha t o hact
    rw [hca] at hm
    obtain ⟨hn, -, _, -, rfl⟩ := hm
    have he := (hu.active_iff p).1 hin
    rw [mem_desired_grant, AtCommit.existing hX hw hr ht hf hex] at he
    obtain ⟨hok, -⟩ := hc.effect hX hw hr
    rw [hca] at hok
    obtain ⟨_, _, _, hre⟩ := hok
    obtain ⟨genesis, now, hg, hnow, hv⟩ := hre.verified
    rw [hn] at hg
    exact ⟨t, grant, genesis, now, hca, hn, (he.resolve_left ho).symm, hc, hg, hnow, hv⟩

lemma inactive_of_snapshot (hc : AtCommit s t db') {v : String}
    {scope : SwarmScope} {membership : Membership} {threshold : Nat}
    {signatures : List SignatureEnvelope}
    (hm : (calls t).Mutates X n "global" (.snapshot scope membership threshold signatures v))
    (hp : membership.get? p = none) : ¬ db'.Active n "global" p := by
  obtain ⟨-, _, _, ha, -⟩ := hm.snapshot
  obtain ⟨_, _, _, -, -, -, -, hu, -⟩ := hc.mutatedScope hX hw hr ha hm
  rw [hu.active_iff p]
  exact Table.get?_eq_none.1 hp

end

/-- After the commit of a snapshot that leaves `p` out, as long as only `admit_grant` calls move,
`p` is admitted again only if a call with a grant that names `p` on this network reaches its
commit, and that grant was verified against the configured genesis authority. -/
theorem readmission_by_own_grant (hX : X.scopeLabel .global = some "global")
    (hw : w.txs = .empty) (hr : Reachable X config calls w s) {t₀ : Nat} {o : Outcome}
    (hc : AtCommit s t₀ (s.step gateway (.run t₀ o)).world.db)
    {n v : String} {scope : SwarmScope} {membership : Membership} {threshold : Nat}
    {signatures : List SignatureEnvelope}
    (hm : (calls t₀).Mutates X n "global" (.snapshot scope membership threshold signatures v))
    {p : String} (hp : membership.get? p = none) {s₂ : State}
    (hlater : Reaches gateway (OnlyGrants calls) (s.step gateway (.run t₀ o)) s₂)
    (hadmitted : Select.run s₂.world.now s₂.world.db (.principalIsAdmitted n p) = true) :
    ∃ s' a t grant genesis now, Reaches gateway (OnlyGrants calls) (s.step gateway (.run t₀ o)) s' ∧
      Reaches gateway (OnlyGrants calls) (s'.step gateway a) s₂ ∧
      AtCommit s' t (s'.step gateway a).world.db ∧ calls t = .admitGrant grant ∧
      grant.networkId = n ∧ grant.principalId = p ∧
      config.trustedNetworkGenesis.get? n = some genesis ∧ (s'.threads t).hist.Heard .clock now ∧
      X.verifyNetworkMembershipGrant grant genesis now = true := by
  have ht : s₂.world.db.Active n "global" p := by
    rw [active_iff, ← Option.isSome_iff_exists]
    exact (Bool.and_eq_true_iff.1 hadmitted).1
  have ho := inactive_of_snapshot hX hw hr hc hm hp
  have hr₁ : Reachable X config calls w (s.step gateway (.run t₀ o)) := .step _ hr trivial
  clear hadmitted
  -- the first state of the run in which `p` is active
  induction hlater with
  | refl => exact absurd ht ho
  | @step s' a hs' ha ih =>
    by_cases hb : s'.world.db.Active n "global" p
    · obtain ⟨s'', a', t, grant, genesis, now, h₁, h₂, he⟩ := ih hb
      exact ⟨s'', a', t, grant, genesis, now, h₁, h₂.step a ha, he⟩
    · obtain ⟨t, grant, genesis, now, hca, hn, hpr, hco, he⟩ :=
        active_by_own_grant hX hw (hr₁.trans hs'.any) ha hb ht
      exact ⟨s', a, t, grant, genesis, now, hs', .refl, hco, hca, hn, hpr, he⟩

end Runs

/-! ## Concrete grants -/

def twoGrants : Nat → Call
  | 0 => .admitGrant (grantFor "p")
  | _ => .admitGrant (grantFor "q")

def twoGrantsRun (acts : List (Action Env)) : State :=
  (initial (wattswarm []) config twoGrants world).runActions gateway acts

set_option maxRecDepth 100000

/-- The first grant, from its commit on. -/
theorem admitGrant_keeps_roles_iff_first : RolesKept "n" "p" (twoGrantsRun (steps 0 20)).world.db
        ((twoGrantsRun (steps 0 20)).step gateway (.run 0 .ok)).world.db ↔
      (∃ v, ((twoGrantsRun (steps 0 20)).threads 0).hist.Heard
        (.txSelect (.admittedVersion "n" "p")) (some v)) ∨
      ((∀ q, q ≠ "p" → ∀ roles,
          (twoGrantsRun (steps 0 20)).world.db.activeRoles "n" "global" q = some roles →
            roles = []) ∧ "p" ∉ (twoGrantsRun (steps 0 20)).world.db.finalizers "n") :=
  admitGrant_keeps_roles_iff (r := ⟨"n", "p", "grant:of p", "active"⟩) rfl rfl
    (reaches_runActions _ _) (show twoGrants 0 = .admitGrant (grantFor "p") from rfl)
    (by decide) (Prog.result?_eq_some.1 (by decide))

/-- The genesis principal loses its roles when another principal is admitted. -/
theorem admitGrant_clears_genesis_roles : ((twoGrantsRun (steps 0 21)).threads 0).prog.result? =
        some (.admitGrant ⟨"n", "p", "grant:of p", "active"⟩) ∧
      (twoGrantsRun (steps 0 20)).world.db.standing "n" "g" =
        some ([.proposer, .verifier, .committer, .finalizer], .active) ∧
      (twoGrantsRun (steps 0 21)).world.db.standing "n" "g" = some ([], .active) ∧
      (twoGrantsRun (steps 0 20)).world.db.finalizers "n" = ["g"] ∧
      (twoGrantsRun (steps 0 21)).world.db.finalizers "n" = [] := by
  decide

def removal : List Event := [snapshot "removal" "g" [("g", [.finalizer])] 1 ["g"]]

def readmission : Nat → Call
  | 1 => publishOf removal 0
  | _ => .admitGrant (grantFor "p")

def readmissionRun (acts : List (Action Env)) : State :=
  (initial (wattswarm removal) config readmission world).runActions gateway
    acts

def beforeRemoval : State := readmissionRun (steps 0 21 ++ steps 1 32)

def admitsP (s : State) : Bool :=
  Select.run s.world.now s.world.db (.principalIsAdmitted "n" "p")

lemma removal_mutates : (readmission 1).Mutates (wattswarm removal) "n" "global"
    (.snapshot .global (Table.ofList [("g", [.finalizer])]) 1 [⟨"g", signatureOf "g"⟩]
      "removal") :=
  ⟨rfl, _, rfl, rfl, rfl⟩

/-- The run in which the removed principal comes back. -/
theorem readmission_by_own_grant_again : ∃ s' a t grant genesis now,
      Reaches gateway (OnlyGrants readmission) (beforeRemoval.step gateway (.run 1 .ok)) s' ∧
      Reaches gateway (OnlyGrants readmission) (s'.step gateway a)
        ((beforeRemoval.step gateway (.run 1 .ok)).runActions gateway (steps 2 37)) ∧
      AtCommit s' t (s'.step gateway a).world.db ∧ readmission t = .admitGrant grant ∧
      grant.networkId = "n" ∧ grant.principalId = "p" ∧
      config.trustedNetworkGenesis.get? "n" = some genesis ∧
      (s'.threads t).hist.Heard .clock now ∧
      (wattswarm removal).verifyNetworkMembershipGrant grant genesis now = true :=
  readmission_by_own_grant (w := world) rfl rfl (reaches_runActions _ _)
    (atCommit_of_isCommit (by decide))
    removal_mutates (by decide) (reaches_runActions_of _ _ fun a ha s t o hat => by
      rw [eq_of_mem_replicate ha] at hat
      cases hat
      exact ⟨_, rfl⟩) (by decide)

/-- The grant admits `"p"`, the removal takes it out, and the same grant, issued before the
removal, admits it again. -/
theorem same_grant_readmits : admitsP (readmissionRun (steps 0 21)) = true ∧
      ((beforeRemoval.step gateway (.run 1 .ok)).threads 1).prog.result? =
        some (.publish ⟨.fresh, "removal", .interactive, 1, "removal"⟩) ∧
      admitsP (beforeRemoval.step gateway (.run 1 .ok)) = false ∧
      admitsP ((beforeRemoval.step gateway (.run 1 .ok)).runActions gateway
        (steps 2 37)) = true := by
  decide

end WattGateway.Message

import WattGateway.Message.Delivery

/-!
# Admitted recipients

The members of a Group or Region have rows of their own, and neither `apply_membership_mutation` nor
`reconcile_scope_bindings` looks at the Global rows or the grants, so a scoped publish reaches
members whose grant has expired (`expired_member_receives`). `routed_to_admitted` is about the runs
that keep scopes within the Global one and commit while the grants are current.
-/

namespace WattGateway.Message

open Hist Sample List Option Select

section

variable {X : Wattswarm} {config : Config} {calls : Nat → Call} {w : World} {s : State}
  {cond : State → Action Env → Prop}

/-! ## The condition -/

/-- The principals a publish addresses: the members its mutation sets, or the active ones. -/
def ValidatedFrame.addresses (vf : ValidatedFrame) (db : Db) (n l p : String) : Prop :=
  match vf.membershipMutation with
  | none => db.Active n l p
  | some m => p ∈ m.membersAt db n l

/-- The step is steady; a Global mutation commits only if it keeps every principal that is active
in another scope of the network, and a mutation of another scope only if it sets principals active
in the Global scope; and a publish commits only while the grants of those it addresses are
current. -/
structure Admitting (X : Wattswarm) (config : Config) (calls : Nat → Call) (s : State)
    (a : Action Env) : Prop where
  steady : Steady X config calls s a
  keeps : ∀ t o n m k, a = .run t o → (calls t).Mutates X n "global" m →
    (s.threads t).prog = .cmd .commit k → ∀ l p, l ≠ "global" → s.world.db.Active n l p →
      p ∈ m.membersAt s.world.db n "global"
  within : ∀ t o n l m k, a = .run t o → (calls t).Mutates X n l m → l ≠ "global" →
    (s.threads t).prog = .cmd .commit k → ∀ p ∈ m.membersAt s.world.db n l,
      s.world.db.Active n "global" p
  granted : ∀ t o session frame vf l k, a = .run t o → calls t = .publish session frame →
    validateRecordFrame X frame session = .ok vf → X.scopeLabel vf.route.scope = some l →
    (s.threads t).prog = .cmd .commit k → ∀ p, vf.addresses s.world.db session.networkId l p →
      s.world.db.grantCurrent s.world.now session.networkId p = true

variable {db : Db}

lemma active_of_admitted {now : Nat} {n p : String}
    (h : run now db (.principalIsAdmitted n p) = true) : db.Active n "global" p :=
  Db.active_iff.2 (isSome_iff_exists.1 (Bool.and_eq_true_iff.1 h).1)

/-! ## Members of a scope are members of the network -/

/-- Every active member of a scope is active in the Global scope. -/
def Nested (db : Db) : Prop := ∀ n l p, db.Active n l p → db.Active n "global" p

variable {db' : Db}

lemma Nested.of_same (h : Nested db) (hs : ∀ n l, Db.SameScope n l db db') : Nested db' := by
  intro n l p hp
  rw [(hs n l).active] at hp
  rw [(hs n "global").active]
  exact h n l p hp

variable {t : Nat}

section

variable (hX : X.LabelsGlobal) (hw : w.txs = .empty) (hr : ReachableIf X config calls w cond s)
include hX hw hr

lemma mem_membersAt {tx : Tx} {n l : String} {m : MembershipMutation}
    {existing : List String} (ht : s.world.txs.get? t = some tx) (hf : tx.fence = fenceKey n l)
    (hex : (s.threads t).hist.Heard (.txSelect (.activePrincipals n l)) existing) (p : String) :
    p ∈ m.desired existing ↔ p ∈ m.membersAt s.world.db n l := by
  unfold MembershipMutation.membersAt
  apply desired_congr
  intro q
  rw [mem_activePrincipals]
  exact AtCommit.existing hX hw hr ht hf hex q

lemma nested_commit (hn : Nested s.world.db) {o : Outcome}
    (hc : AtCommit s t db') (ha : Admitting X config calls s (.run t o)) : Nested db' := by
  obtain ⟨-, _, ht, he⟩ := hc.effect hX hw hr
  obtain ⟨k, -, hp, -, -⟩ := hc
  cases he with
  | quiet hu => exact hn.of_same hu.sameScope
  | mutated n' l' m _ _ hm hex hf _ hmut =>
    have hset := mem_membersAt (m := m) hX hw hr ht hf hex
    intro n l p hact
    by_cases hg : (n, "global") = (n', l')
    · cases hg
      rw [hmut.active_iff]
      by_cases hl : l = "global"
      · rw [hl, hmut.active_iff] at hact
        exact hact
      · rw [(hmut.frame _ l (by simp [hl])).active] at hact
        exact (hset p).2 (ha.keeps t o _ m k rfl hm hp l p hl hact)
    · rw [(hmut.frame n "global" hg).active]
      by_cases hs : (n, l) = (n', l')
      · cases hs
        rw [hmut.active_iff, hset] at hact
        exact ha.within t o _ _ m k rfl hm (fun hl => hg (by rw [hl])) hp p hact
      · rw [(hmut.frame n l hs).active] at hact
        exact hn n l p hact

end

lemma nested_of_reaches (hX : X.LabelsGlobal) (hw : Begins config w)
    (hr : ReachableIf X config calls w (Admitting X config calls) s) : Nested s.world.db := by
  refine hr.invariant (P := fun s => Nested s.world.db) ?_ ?_
  · intro _ _ _ ht
    obtain ⟨_, ho⟩ := hw.seeded
    obtain ⟨v, roles, hm⟩ := ht
    obtain ⟨rfl, -⟩ := (seeded_of_seed ho).member_eq hm
    exact ⟨v, roles, hm⟩
  · intro s a hs ha hn
    rcases db_step s a with hd | ⟨_, _, rfl, hc, -⟩ | ⟨_, _, _, rfl, hc⟩ | hd
    · rw [hd]
      exact hn
    · exact nested_commit hX hw.txs hs hn hc ha
    · have hok := hc.ok hX hs
      obtain ⟨_, -, hu⟩ := hc
      exact hn.of_same (hok.pooled.sameScope hu)
    · rw [hd]
      exact hn.of_same fun _ _ => ⟨fun _ => rfl, rfl⟩

/-! ## Grants -/

def Stmt.KeepsGrants : Stmt → Prop
  | .upsertNetworkMembershipGrant _ _ _ _ _ => False
  | _ => True

lemma Stmt.KeepsGrants.run {st : Stmt} (hst : st.KeepsGrants) {now : Nat}
    (h : st.run now db = .ok db') : db'.grants = db.grants := by
  cases st with
  | upsertNetworkMembershipGrant => exact hst.elim
  | insertBinding =>
    simp only [Stmt.run] at h
    split at h <;> cases h
    rfl
  | insertReceipt | insertControlReceipt =>
    obtain ⟨_, h⟩ := rest_ok h
    cases h
    rfl
  | _ => cases h; rfl

lemma Tx.view_grants {tx : Tx} (h : tx.view db = .ok db') (hk : ∀ x ∈ tx.writes, x.2.KeepsGrants) :
    db'.grants = db.grants := by
  unfold Tx.view at h
  generalize tx.writes = ws at h hk
  induction ws generalizing db with
  | nil =>
    cases h
    rfl
  | cons x _ ih =>
    rw [foldlM_cons] at h
    obtain ⟨_, h₁, h⟩ := bind_eq_ok.1 h
    rw [ih h fun y hy => hk y (mem_cons_of_mem x hy)]
    exact (hk x mem_cons_self).run h₁

variable {session : VerifiedSession} {frame : PublishFrame}

section

variable (hX : X.LabelsGlobal) (hw : w.txs = .empty) (hr : ReachableIf X config calls w cond s)
  (hc : AtCommit s t db')
include hX hw hr hc

lemma AtCommit.grants (hca : calls t = .publish session frame) :
    db'.grants = s.world.db.grants := by
  obtain ⟨hok, -⟩ := hc.effect hX hw hr
  obtain ⟨_, ht, -, hv⟩ := hc.txOf (txInv_of_reaches hw hr)
  rw [hca] at hok
  obtain ⟨vf, _, ws, τ, _, hre⟩ := hok
  obtain ⟨_, _, ht'⟩ := hre.tx
  rw [ht, Option.some.injEq] at ht'
  subst ht'
  refine Tx.view_grants hv fun x hx => ?_
  have hs : ∀ x ∈ ws, x.2.KeepsGrants := by
    cases hm : vf.membershipMutation with
    | none =>
      rw [hre.unmutated hm]
      intro x hx
      cases hx
    | some m =>
      obtain ⟨_, _, _, _, _, -, rfl, ho, -⟩ := hre.mutated m hm
      intro x hx
      rcases mem_cons.1 hx with rfl | hx
      · trivial
      · rcases mem_mutationStmts (ho ▸ mem_map_of_mem hx) with
          he | ⟨p, he⟩ | he | ⟨a, p, c, he⟩ | he <;> rw [he] <;> trivial
  rcases mem_append.1 hx with hx | hx
  · exact hs x hx
  · simp only [mem_cons, not_mem_nil, or_false] at hx
    rcases hx with rfl | rfl <;> trivial

/-! ## Recipients -/

/-- The principals active in the scope once a publish has committed are those it addresses. -/
lemma addresses_of_active (ha : calls t = .publish session frame) {vf : ValidatedFrame}
    (hv : validateRecordFrame X frame session = .ok vf) {l : String}
    (hl : X.scopeLabel vf.route.scope = some l) {p : String} (hp : db'.Active session.networkId l p) :
    vf.addresses s.world.db session.networkId l p := by
  unfold ValidatedFrame.addresses
  cases hmut : vf.membershipMutation with
  | none =>
    obtain ⟨-, tx, -, he⟩ := hc.effect hX hw hr
    cases he with
    | quiet hu => exact ((hu.sameScope _ l).active p).1 hp
    | mutated _ _ _ _ _ hm =>
      rw [ha] at hm
      obtain ⟨-, _, hv', hmut', -⟩ := hm
      rw [hv, Except.ok.injEq] at hv'
      subst hv'
      rw [hmut] at hmut'
      cases hmut'
  | some m =>
    have hm : (calls t).Mutates X session.networkId l m := by
      rw [ha]
      exact ⟨rfl, vf, hv, hmut, (validateRecordFrame_mutation hv hmut).1 ▸ hl⟩
    obtain ⟨_, _, _, ht, hex, hf, -, hmu, -⟩ :=
      hc.mutatedScope hX hw hr ha hm
    rw [hmu.active_iff] at hp
    exact (mem_membersAt hX hw hr ht hf hex p).1 hp

end

/-- Every mailbox the broker put what it confirmed of call `t` to a scope into is that of a
principal admitted in `db` at `now`. -/
def RoutedToAdmitted (X : Wattswarm) (calls : Nat → Call) (s : State) (t : Nat) (db : Db)
    (now : Nat) : Prop :=
  ∀ session frame vf l, calls t = .publish session frame →
    validateRecordFrame X frame session = .ok vf → X.scopeLabel vf.route.scope = some l →
    ∀ r ∈ s.world.broker.routed, r.call = t → r.confirmed = true → ∀ c, r.exchange = .scope c →
      ∀ q ∈ r.queues, ∃ p, q = queueName X session.networkId p c ∧
        run now db (.principalIsAdmitted session.networkId p) = true

/-- In every run whose steps meet the condition, a scoped publish that commits has reached only
mailboxes of principals admitted in the tables and at the time of its commit. -/
theorem routed_to_admitted (hX : X.scopeLabel .global = some "global") (hw : Begins config w)
    (hr : ReachableIf X config calls w (Admitting X config calls) s) {t : Nat} {o : Outcome}
    {db' : Db} (hc : AtCommit s t db') (ha : Admitting X config calls s (.run t o)) :
    RoutedToAdmitted X calls s t db' s.world.now := by
  intro session frame vf l hca hv hl r hm hrc hco c hex q hq
  have hs := hr.weaken fun _ _ h => Admitting.steady h
  have hd := deliveredTo_of_steady hX hw hs hc session frame vf l hca hv hl r hm hrc hco
    c hex q
  obtain ⟨p, hp, rfl⟩ := hd.1 hq
  refine ⟨p, rfl, ?_⟩
  -- active in the Global scope, and the grant is current
  have hg := nested_commit hX hw.txs hr (nested_of_reaches hX hw hr) hc ha _ _ _ hp
  obtain ⟨_, ho⟩ := Db.active_iff.1 hg
  have had := addresses_of_active hX hw.txs hr hc hca hv hl hp
  have hgr := hc.grants hX hw.txs hr hca
  obtain ⟨k, -, hpr, -, -⟩ := hc
  have hu := ha.granted t o session frame vf l k rfl hca hv hl hpr p had
  show ((db'.activeRoles _ _ _).isSome && db'.grantCurrent _ _ _) = true
  rw [ho]
  unfold Db.grantCurrent at hu ⊢
  rw [hgr]
  exact hu

end

/-! ## Two runs -/

def lapsing : List Event := [policyTuned "first"]

def lapsingCalls : Nat → Call
  | 0 => publishOf lapsing 0
  | 1 => .admitGrant { grantFor "p" with expiresAt := some 5 }
  | _ => .challenge "n" "p"

def lapsed : State :=
  (initial (wattswarm lapsing) config lapsingCalls world).runActions gateway
    (steps 1 21 ++ [.env (.tick 10)] ++ steps 0 34)

set_option maxRecDepth 100000

/-- The mailbox of `"p"` gets the event after its grant has expired. -/
theorem expired_member_receives : Reachable (wattswarm lapsing) config lapsingCalls world lapsed ∧
      AtCommit lapsed 0 (lapsed.step gateway (.run 0 .ok)).world.db ∧
      ¬ RoutedToAdmitted (wattswarm lapsing) lapsingCalls lapsed 0
        (lapsed.step gateway (.run 0 .ok)).world.db lapsed.world.now := by
  refine ⟨Sys.reaches_runActions _ _, atCommit_of_isCommit (by decide), ?_⟩
  intro h
  obtain ⟨⟨r, hr, hca, ho, hex, hq⟩, hm, he⟩ :
      (∃ r ∈ lapsed.world.broker.routed, r.call = 0 ∧ r.confirmed = true ∧
        r.exchange = .scope .interactive ∧ "ws.cs.n.p.interactive" ∈ r.queues) ∧
      run 0 (lapsed.step gateway (.run 0 .ok)).world.db
        (.activePrincipals "n" "global") = ["g", "p"] ∧
      run lapsed.world.now (lapsed.step gateway (.run 0 .ok)).world.db
        (.principalIsAdmitted "n" "p") = false := by
    decide
  have hca₀ : lapsingCalls 0 = .publish ⟨"n", "g"⟩ _ := rfl
  obtain ⟨p, hn, ha⟩ := h _ _ _ "global" hca₀ rfl rfl r hr hca ho _ hex _ hq
  -- an admitted principal is active in the Global scope, and only `"p"` has this mailbox
  have ht : p ∈ run 0 (lapsed.step gateway (.run 0 .ok)).world.db
      (.activePrincipals "n" "global") :=
    mem_activePrincipals.2 (active_of_admitted ha)
  rw [hm, mem_cons, mem_singleton] at ht
  rcases ht with rfl | rfl
  · exact absurd hn (by decide)
  · rw [he] at ha
    cases ha

def joinedActs : List (Action Env) := steps 0 46 ++ steps 1 34

def globalOnly (db : Db) : Bool :=
  db.memberships.rows.all (fun x => x.1.2.1 = "global") && db.grants.rows.isEmpty

lemma globalOnly_joined : ∀ i < 81, globalOnly (leavingRun (joinedActs.take i)).world.db := by
  decide

lemma globalOnly.admitting {s : State} {t : Nat} (ht : t < 2)
    (h : globalOnly s.world.db = true) :
    Admitting (wattswarm leaving) config leavingCalls s (.run t .ok) := by
  obtain ⟨he, hgr⟩ := Bool.and_eq_true_iff.1 h
  refine ⟨⟨fun t o n l m k _ hm _ l' ps ho => leaving_reuse hm ho, ?_⟩, ?_, ?_, ?_⟩
  · rintro t' o n p k ha hca -
    cases ha
    match t, ht with
    | 0, _ => cases hca
    | 1, _ => cases hca
  · rintro t' o n m k - - - l p hl ⟨_, _, hact⟩
    obtain ⟨_, hr, -⟩ := map_eq_some_iff.1 hact
    have hg := all_eq_true.1 he _ (Table.get?_eq_some.1 hr)
    exact absurd (of_decide_eq_true hg) hl
  · rintro t' o n l m k - hm hl
    exact absurd (leaving_mutates hm).1 hl
  · rintro t' o session frame vf l k - - - - - p -
    unfold Db.grantCurrent Table.get?
    rw [isEmpty_iff.1 hgr]
    rfl

lemma joined_admitting : ReachableIf (wattswarm leaving) config leavingCalls
    world (Admitting (wattswarm leaving) config leavingCalls)
    (leavingRun joinedActs) := by
  apply Sys.reaches_of_take
  intro i hi
  have hl : joinedActs.length = 80 := by decide
  have hu : ∃ t < 2, joinedActs[i] = .run t .ok := by
    have hm : joinedActs[i] ∈ joinedActs := getElem_mem hi
    simp only [joinedActs, steps, mem_append, mem_replicate] at hm
    rcases hm with ⟨-, h⟩ | ⟨-, h⟩
    · exact ⟨0, by decide, h⟩
    · exact ⟨1, by decide, h⟩
  obtain ⟨_, ht, ha⟩ := hu
  rw [ha]
  exact globalOnly.admitting ht (globalOnly_joined i (by omega))

/-- The first control event reaches `"p"`, which is admitted. -/
theorem routed_to_admitted_joined :
    (∃ r ∈ (leavingRun joinedActs).world.broker.routed, r.call = 1 ∧ r.confirmed = true ∧
      "ws.cs.n.p.interactive" ∈ r.queues) ∧
      RoutedToAdmitted (wattswarm leaving) leavingCalls (leavingRun joinedActs) 1
        ((leavingRun joinedActs).step gateway (.run 1 .ok)).world.db
        (leavingRun joinedActs).world.now := by
  have ho : AtCommit (leavingRun joinedActs) 1
      ((leavingRun joinedActs).step gateway (.run 1 .ok)).world.db :=
    atCommit_of_isCommit (by decide)
  have hg := globalOnly_joined 80 (by decide)
  rw [take_of_length_le (by decide)] at hg
  have hl : Admitting (wattswarm leaving) config leavingCalls
      (leavingRun joinedActs) (.run 1 .ok) := globalOnly.admitting (by decide) hg
  exact ⟨by decide, routed_to_admitted rfl sample_begins joined_admitting ho hl⟩

end WattGateway.Message

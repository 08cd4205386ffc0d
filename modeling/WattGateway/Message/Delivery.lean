import WattGateway.Message.Origins

/-!
# Who gets a scoped publish

Bindings of earlier versions stay in the broker, and a challenge binds without a fence. So a scoped
publish goes to the active members only if the version in the key never had other members and no
principal is removed between its admission at a challenge and the reading of its routes (`Steady`,
`delivered_to_active`).
-/

namespace WattGateway.Message

open Hist Sample List Sys Table MembershipMutation

variable {n l : String} {m : MembershipMutation} {ps : List String} {s : State} {tx : Tx} {t : Nat}

section

variable {X : Wattswarm} {config : Config} {calls : Nat → Call} {w : World}
  {cond : State → Action Env → Prop}

/-! ## The conditions -/

/-- The members that the mutation gives its version to, as the committed tables stand. -/
def MembershipMutation.membersAt (m : MembershipMutation) (db : Db) (n l : String) : List String :=
  m.desired (Select.run 0 db (.activePrincipals n l))

/-- The step is steady: a mutation that reads the members it starts from gives its version to the
scope and the members that every earlier origin of the version has, and a challenge that reads its
routes is of an active principal. -/
structure Steady (X : Wattswarm) (config : Config) (calls : Nat → Call) (s : State)
    (a : Action Env) : Prop where
  reuse : ∀ t o n l m k, a = .run t o → (calls t).Mutates X n l m →
    (s.threads t).prog = .ask (.txSelect (.activePrincipals n l)) k →
    ∀ l' ps, Origin X config calls s n l' m.version ps →
      l' = l ∧ ∀ p, p ∈ ps ↔ p ∈ m.membersAt s.world.db n l
  admitted : ∀ t o n p k, a = .run t o → calls t = .challenge n p →
    (s.threads t).prog = .ask (.select (.admissionRoutes n p)) k → s.world.db.Active n "global" p

/-- Two origins of one version in a network are of one scope and have the same members. -/
def NoReuse (X : Wattswarm) (config : Config) (calls : Nat → Call) (s : State) : Prop :=
  ∀ n l l' v ps ps', Origin X config calls s n l v ps → Origin X config calls s n l' v ps' →
    l = l' ∧ ∀ p ∈ ps, p ∈ ps'

lemma desired_congr {ps' : List String} (h : ∀ p, p ∈ ps ↔ p ∈ ps')
    (p : String) : p ∈ m.desired ps ↔ p ∈ m.desired ps' := by
  cases m with
  | snapshot => exact Iff.rfl
  | principal _ q active =>
    cases active with
    | true =>
      by_cases hq : q ∈ ps
      · simp [desired, hq, (h q).1 hq, h p]
      · simp [desired, hq, mt (h q).2 hq, h p]
    | false => simp [desired, h p]

lemma mutates_unique {call : Call} {n l l' : String} {m m' : MembershipMutation}
    (h : call.Mutates X n l m) (h' : call.Mutates X n l' m') : m = m' ∧ l = l' := by
  cases call with
  | publish =>
    obtain ⟨-, _, hv, hm, hl⟩ := h
    obtain ⟨-, _, hv', hm', hl'⟩ := h'
    rw [hv, Except.ok.injEq] at hv'
    subst hv'
    rw [hm, Option.some.injEq] at hm'
    subst hm'
    rw [hl, Option.some.injEq] at hl'
    exact ⟨rfl, hl'⟩
  | admitGrant =>
    obtain ⟨-, hl, _, hg, hm⟩ := h
    obtain ⟨-, hl', _, hg', hm'⟩ := h'
    rw [hg, Option.some.injEq] at hg'
    subst hg'
    rw [hl, Option.some.injEq] at hl'
    exact ⟨hm.trans hm'.symm, hl'⟩
  | challenge => exact h.elim
  | control => exact h.elim

variable {v : String}

lemma origin_step (hX : X.LabelsGlobal) (hw : w.txs = .empty)
    (hr : ReachableIf X config calls w cond s) {a : Action Env}
    (h : Origin X config calls (s.step gateway a) n l v ps) : Origin X config calls s n l v ps ∨
      ∃ t o m k, a = .run t o ∧ (calls t).Mutates X n l m ∧ v = m.version ∧
        (s.threads t).prog = .ask (.txSelect (.activePrincipals n l)) k ∧
        ∀ p, p ∈ ps ↔ p ∈ m.membersAt s.world.db n l := by
  rcases h with ⟨t, m, existing, hm, rfl, hex, rfl⟩ | hs
  · rcases heard_step hex with hex | ⟨o, k, _, ha, hp, he⟩
    · exact .inl (.inl ⟨t, m, existing, hm, rfl, hex, rfl⟩)
    · refine .inr ⟨t, o, m, k, ha, hm, rfl, hp, ?_⟩
      apply desired_congr
      intro p
      rw [mem_activePrincipals]
      exact fact_of_ask hX hw hr hp he n l rfl rfl p
  · exact .inl (.inr hs)

lemma noReuse_initial : NoReuse X config calls (initial X config calls w) := by
  intro _ _ _ _ _ _ h h'
  rcases h with ⟨t, m, existing, -, -, ⟨τ, hm⟩, -⟩ | ⟨_, hg, rfl, rfl, rfl⟩
  · cases hm
  rcases h' with ⟨_, _, _, -, -, ⟨_, hm⟩, -⟩ | ⟨_, hg', rfl, -, rfl⟩
  · cases hm
  cases row_unique hg hg'
  exact ⟨rfl, fun p hp => hp⟩

section

variable (hX : X.LabelsGlobal)
include hX

lemma NoReuse.step (hw : w.txs = .empty) (hr : ReachableIf X config calls w cond s)
    (hi : NoReuse X config calls s) {a : Action Env} (hc : Steady X config calls s a) :
    NoReuse X config calls (s.step gateway a) := by
  intro n l l' v ps ps' h h'
  rcases origin_step hX hw hr h with ho | ⟨t, o, m, k, ha, hm, hv, hp, hs⟩
  · rcases origin_step hX hw hr h' with ho' | ⟨t, o, m, k, ha, hm, rfl, hp, hs⟩
    · exact hi n l l' v ps ps' ho ho'
    · obtain ⟨hl, he⟩ := hc.reuse t o n l' m k ha hm hp l ps ho
      exact ⟨hl, fun p hp => (hs p).2 ((he p).1 hp)⟩
  · subst hv
    rcases origin_step hX hw hr h' with ho' | ⟨_, _, _, _, ha', hm', -, _, hs'⟩
    · obtain ⟨hl, he⟩ := hc.reuse t o n l m k ha hm hp l' ps' ho'
      exact ⟨hl.symm, fun p hp => (he p).2 ((hs p).1 hp)⟩
    · -- both are of the call that moves
      rw [ha] at ha'
      cases ha'
      obtain ⟨rfl, rfl⟩ := mutates_unique hm hm'
      exact ⟨rfl, fun p hp => (hs' p).2 ((hs p).1 hp)⟩

lemma noReuse_of_reaches (hw : w.txs = .empty)
    (hr : ReachableIf X config calls w (Steady X config calls) s) : NoReuse X config calls s :=
  hr.invariant noReuse_initial fun _ _ hs hc hi => hi.step hX hw hs hc

/-! ## Bound members -/

lemma member_origin (hw : Begins config w) (hr : ReachableIf X config calls w cond s)
    {n l p : String} (hs : (s.threads t).hist.Heard (.select (.members n l v)) ps) (hp : p ∈ ps) :
    ∃ ps', Origin X config calls s n l v ps' ∧ p ∈ ps' := by
  obtain ⟨_, _, _, h₁, -, h₂, -, rfl⟩ := select_asked hr hs
  obtain ⟨roles, hm⟩ := mem_members.1 hp
  obtain ⟨ps', hs'⟩ := scopeOrigin_of_reaches hX hw h₁ (version_of_active hX hw h₁ hm)
  exact ⟨ps', hs'.origin.reaches h₂, (hs'.active p).2 ⟨v, roles, hm⟩⟩

variable {a : String}

lemma challenge_origin (hw : Begins config w)
    (hr : ReachableIf X config calls w (Steady X config calls) s) {n p : String}
    {routes : List (String × String)}
    (hro : (s.threads t).hist.Heard (.select (.admissionRoutes n p)) routes)
    (hm : (a, v) ∈ routes) : ∃ ps, Origin X config calls s n "global" v ps ∧ p ∈ ps := by
  obtain ⟨s', o, k, h₁, hc, h₂, hp, rfl⟩ := select_asked hr hro
  have ha := hc.admitted t o n p k rfl (askOk_of_reaches hX h₁ hp) hp
  -- the route is of the current version, whose origin has exactly the active members
  replace hm : (a, v) ∈ ((s'.world.db.routeBindings.select _).map _).dedup := hm
  rw [mem_dedup, mem_map] at hm
  obtain ⟨⟨⟨_, _, _, _, _⟩, row⟩, hs, heq⟩ := hm
  cases heq
  obtain ⟨ho, hk⟩ := mem_select.1 hs
  obtain ⟨rfl, rfl, -⟩ := of_decide_eq_true hk
  obtain ⟨hv, -⟩ := bindingsCurrent_of_reaches hX hw h₁ _ _ _ _ _ row ho
  obtain ⟨ps, hps⟩ := scopeOrigin_of_reaches hX hw h₁ hv
  exact ⟨ps, hps.origin.reaches h₂, (hps.active p).2 ha⟩

variable {c : DeliveryClass} {queue : String} {key : Digest}

section

variable (hw : Begins config w)
include hw

lemma BindOk.origin (hr : ReachableIf X config calls w (Steady X config calls) s)
    (h : BindOk X (calls t) (s.threads t).hist c queue key) :
    ∃ n p a v l ps, queue = queueName X n p c ∧ key = scopeRouteKey n a v ∧
      Origin X config calls s n l v ps ∧ p ∈ ps := by
  obtain ⟨n, p, a, v, hq, hk, ⟨l, m, existing, hm, rfl, hex, hp⟩ | ⟨l, ps, hs, hp⟩ |
    ⟨_, hro, he⟩⟩ := h
  · exact ⟨n, p, a, _, l, _, hq, hk, .inl ⟨t, m, existing, hm, rfl, hex, rfl⟩, hp⟩
  · obtain ⟨ps', ho, hp'⟩ := member_origin hX hw hr hs hp
    exact ⟨n, p, a, v, l, ps', hq, hk, ho, hp'⟩
  · obtain ⟨ps, ho, hp⟩ := challenge_origin hX hw hr hro he
    exact ⟨n, p, a, v, "global", ps, hq, hk, ho, hp⟩

/-! ## Bindings in the broker -/

lemma bindings_step (hr : ReachableIf X config calls w cond s) (a : Action Env) :
    (∀ x ∈ s.world.broker.bindings, x ∈ (s.step gateway a).world.broker.bindings) ∧
      ∀ x ∈ (s.step gateway a).world.broker.bindings, x ∈ s.world.broker.bindings ∨
        ∃ t o k, a = .run t o ∧ (s.threads t).prog = .cmd (.queueBind x.1 x.2.1 x.2.2) k := by
  rcases world_step s a with ⟨-, hb, -⟩ | ⟨e, -, he⟩ |
    ⟨t, o, _, k, _, _, ha, hp, -, he, -, hb, -, -⟩
  · rw [hb]
    exact ⟨fun _ hx => hx, fun _ hx => .inl hx⟩
  · have hb : (s.step gateway a).world.broker = s.world.broker := by
      rw [he]
      cases e <;> rfl
    rw [hb]
    exact ⟨fun _ hx => hx, fun _ hx => .inl hx⟩
  · rw [hb]
    rcases he.bindings with hs | ⟨_, _, _, rfl, hi⟩ | ⟨_, _, _, rfl⟩
    · rw [hs]
      exact ⟨fun _ hx => hx, fun _ hx => .inl hx⟩
    · rw [hi]
      refine ⟨fun x hx => Broker.mem_queueBind.2 (.inr hx), fun x hx => ?_⟩
      rcases Broker.mem_queueBind.1 hx with rfl | hx
      · exact .inr ⟨t, o, k, ha, hp⟩
      · exact .inl hx
    · exact absurd hp (never_unbinds hX hw hr)

lemma bound_origin (hr : ReachableIf X config calls w (Steady X config calls) s)
    (hb : (.scope c, queue, key) ∈ s.world.broker.bindings) :
    ∃ n p a v l ps, queue = queueName X n p c ∧ key = scopeRouteKey n a v ∧
      Origin X config calls s n l v ps ∧ p ∈ ps := by
  induction hr with
  | refl =>
    replace hb : _ ∈ w.broker.bindings := hb
    rw [hw.broker] at hb
    cases hb
  | @step s a hr _ ih =>
    have hold : ∃ n p a v l ps, queue = queueName X n p c ∧ key = scopeRouteKey n a v ∧
        Origin X config calls s n l v ps ∧ p ∈ ps := by
      rcases (bindings_step hX hw hr a).2 _ hb with hb | ⟨t, _, _, -, hp⟩
      · exact ih hb
      · have hok : BindOk X (calls t) (s.threads t).hist c queue key :=
          cmdOk_of_reaches hX hr hp
        exact hok.origin hX hw hr
    obtain ⟨n, p, a', v, l, ps, hq, hk, ho, hp⟩ := hold
    exact ⟨n, p, a', v, l, ps, hq, hk, ho.step a, hp⟩

section

variable (hr : ReachableIf X config calls w cond s)
include hr

lemma bound_of_did {ex : Exchange} (hd : (s.threads t).hist.Did (.queueBind ex queue key)) :
    (ex, queue, key) ∈ s.world.broker.bindings := by
  induction hr with
  | refl => exact absurd hd (not_did_nil _)
  | @step s a hr _ ih =>
    obtain ⟨τ, hm⟩ := hd
    rcases did_step hm with hm | ⟨_, _, w', -, -, -, he, hb⟩
    · exact (bindings_step hX hw hr a).1 _ (ih ⟨τ, hm⟩)
    · rw [hb]
      replace he : w' = _ := he
      rw [he]
      exact Broker.mem_queueBind.2 (.inl rfl)

/-! ## Recipients -/

lemma members_active (ht : s.world.txs.get? t = some tx) (hfe : tx.fence = fenceKey n l)
    (hv : (s.threads t).hist.Heard (.select (.scopeVersion n l)) (some v))
    (hp : (s.threads t).hist.Heard (.select (.members n l v)) ps) (p : String) :
    p ∈ ps ↔ s.world.db.Active n l p := by
  have hf := fenceFacts_of_reaches hX hw.txs hr t tx n l ht hfe
  obtain ⟨_, hv⟩ := hv
  obtain ⟨_, hp⟩ := hp
  rw [hf _ hp rfl rfl p]
  constructor
  · rintro ⟨roles, hm⟩
    exact ⟨v, roles, hm⟩
  · rintro ⟨_, roles, hm⟩
    have he : some v = _ := hf _ hv rfl rfl
    rw [version_of_active hX hw hr hm, Option.some.injEq] at he
    subst he
    exact ⟨roles, hm⟩

/-- The recipients of a scoped publish are bound, and are the members of an origin of the
version. -/
lemma recipients_origin (ht : s.world.txs.get? t = some tx) (hfe : tx.fence = fenceKey n l)
    (he : Recipients X (calls t) (s.threads t).hist n l a v ps) :
    (∃ ps', Origin X config calls s n l v ps' ∧ ∀ p ∈ ps', p ∈ ps) ∧
      ∀ p ∈ ps, ∀ c, (s.threads t).hist.Did (scopeBinding X n p a v c) := by
  rcases he with ⟨m, existing, hm, rfl, hex, rfl, hd⟩ | ⟨v', -, hv, hv', hs, hd⟩
  · exact ⟨⟨_, .inl ⟨t, m, existing, hm, rfl, hex, rfl⟩, fun p hp => hp⟩, hd⟩
  · have hf := fenceFacts_of_reaches hX hw.txs hr t tx n l ht hfe
    have hver : v = v' := by
      obtain ⟨τ, hv⟩ := hv
      obtain ⟨_, hv'⟩ := hv'
      have h₁ : some v = _ := hf _ hv rfl rfl
      have h₂ : some v' = _ := hf _ hv' rfl rfl
      exact Option.some.inj (h₁.trans h₂.symm)
    subst hver
    refine ⟨?_, hd⟩
    obtain ⟨_, hmem⟩ := hv
    obtain ⟨ps', hs'⟩ := scopeOrigin_of_reaches hX hw hr (hf _ hmem rfl rfl).symm
    refine ⟨ps', hs'.origin, ?_⟩
    intro p hp
    exact (members_active hX hw hr ht hfe hv' hs p).2 ((hs'.active p).1 hp)

end

lemma recipients_bound (hr : ReachableIf X config calls w (Steady X config calls) s)
    (ht : s.world.txs.get? t = some tx) (hf : tx.fence = fenceKey n l)
    (he : Recipients X (calls t) (s.threads t).hist n l a v ps) (c : DeliveryClass)
    (queue : String) : queue ∈ s.world.broker.boundTo (.scope c) (scopeRouteKey n a v) ↔
      ∃ p ∈ ps, queue = queueName X n p c := by
  obtain ⟨⟨ps', ho, hs⟩, hd⟩ := recipients_origin hX hw hr ht hf he
  rw [Broker.mem_boundTo]
  constructor
  · intro hb
    obtain ⟨_, p, _, _, l', ps'', rfl, hk, ho', hp⟩ := bound_origin hX hw hr hb
    cases hk
    -- the binding's origin and the publish's have the same version, so the same members
    obtain ⟨-, hm⟩ := noReuse_of_reaches hX hw.txs hr n l' l v ps'' ps' ho' ho
    exact ⟨p, hs p (hm p hp), rfl⟩
  · rintro ⟨p, hp, rfl⟩
    exact bound_of_did hX hw hr (hd p hp c)

end

end

lemma Recipients.mono {call : Call} {h h' : Hist Cmd Query Ans}
    (he : Recipients X call h n l a v ps) (hs : h <:+ h') : Recipients X call h' n l a v ps := by
  rcases he with ⟨m, existing, hm, hv, hex, hps, hd⟩ | ⟨v', hm, hv, hv', hps, hd⟩
  · exact .inl ⟨m, existing, hm, hv, hex.mono hs, hps, fun p hp c => (hd p hp c).mono hs⟩
  · exact .inr ⟨v', hm, hv.mono hs, hv'.mono hs, hps.mono hs, fun p hp c => (hd p hp c).mono hs⟩

/-! ## Routed messages -/

lemma routed_step (s : State) (a : Action Env) {r : Routed}
    (h : r ∈ (s.step gateway a).world.broker.routed) : r ∈ s.world.broker.routed ∨
      ∃ t o ex key m k, a = .run t o ∧ (s.threads t).prog = .cmd (.basicPublish ex key m) k ∧
        r.call = t ∧ r.exchange = ex ∧ r.queues = s.world.broker.boundTo ex key := by
  rcases world_step s a with ⟨-, hb, -⟩ | ⟨e, -, he⟩ |
    ⟨t, o, _, k, _, _, ha, hp, -, he, -, hb, -, -⟩
  · rw [hb] at h
    exact .inl h
  · rw [he] at h
    cases e <;> exact .inl h
  · rw [hb] at h
    rcases he.routed with hs | ⟨ex, key, m, _, rfl, ho⟩
    · rw [hs] at h
      exact .inl h
    · rw [ho] at h
      rcases mem_cons.1 h with rfl | h
      · exact .inr ⟨t, o, ex, key, m, k, ha, hp, rfl, rfl, rfl⟩
      · exact .inl h

/-- The queues of a message on a scope exchange are the mailboxes of the recipients its call
knows. -/
structure RoutedTo (X : Wattswarm) (calls : Nat → Call) (s : State) (r : Routed)
    (c : DeliveryClass) (session : VerifiedSession) (frame : PublishFrame) (vf : ValidatedFrame)
    (l a v : String) (ps : List String) : Prop where
  call : calls r.call = .publish session frame
  validated : validateRecordFrame X frame session = .ok vf
  label : X.scopeLabel vf.route.scope = some l
  recipients : Recipients X (calls r.call) (s.threads r.call).hist session.networkId l a v ps
  queues : ∀ q, q ∈ r.queues ↔ ∃ p ∈ ps, q = queueName X session.networkId p c

section

variable (hX : X.LabelsGlobal) (hw : Begins config w)
  (hr : ReachableIf X config calls w (Steady X config calls) s)
include hX hw hr

lemma routedTo_of_reaches {r : Routed} (hm : r ∈ s.world.broker.routed)
    (hex : r.exchange = .scope c) :
    ∃ session frame vf l a v ps, RoutedTo X calls s r c session frame vf l a v ps := by
  induction hr with
  | refl =>
    replace hm : r ∈ w.broker.routed := hm
    rw [hw.broker] at hm
    cases hm
  | @step s a hr _ ih =>
    have hold : ∃ session frame vf l a v ps, RoutedTo X calls s r c session frame vf l a v ps := by
      rcases routed_step s a hm with hm | ⟨t, _, _, key, _, _, -, hp, rfl, rfl, hq⟩
      · exact ih hm
      · have hi := (txInv_of_reaches hw.txs hr).running (t := r.call) (by rw [hp]; rfl)
        have hok : PublishOk X (s.threads r.call).hist r.exchange key (calls r.call) :=
          cmdOk_of_reaches hX hr hp
        cases ha : calls r.call with
        | publish session frame =>
          rw [ha] at hok
          obtain ⟨vf, l, a', v, ps, _, _, hv, hl, ht, rfl, he⟩ := hok.2 c hex
          rw [← ha] at he
          refine ⟨session, frame, vf, l, a', v, ps, ha, hv, hl, he, ?_⟩
          rw [hq, hex]
          exact recipients_bound hX hw hr (hi.trans ht) rfl he c
        | _ =>
          rw [ha, hex] at hok
          obtain ⟨_, hc'⟩ := hok
          cases hc'
    obtain ⟨session, frame, vf, l, a', v, ps, hold⟩ := hold
    exact ⟨session, frame, vf, l, a', v, ps, hold.call, hold.validated, hold.label,
      hold.recipients.mono (hist_suffix_step gateway s a r.call), hold.queues⟩

/-! ## Delivery -/

/-- The broker put what it confirmed of call `t` to a scope exactly into the mailboxes of the principals
active in the scope in `db`. -/
def DeliveredTo (X : Wattswarm) (calls : Nat → Call) (s : State) (t : Nat) (db : Db) : Prop :=
  ∀ session frame vf l, calls t = .publish session frame →
    validateRecordFrame X frame session = .ok vf → X.scopeLabel vf.route.scope = some l →
    ∀ r ∈ s.world.broker.routed, r.call = t → r.confirmed = true → ∀ c, r.exchange = .scope c →
      ∀ q, q ∈ r.queues ↔
        ∃ p, db.Active session.networkId l p ∧ q = queueName X session.networkId p c

lemma recipients_active {db' : Db} (hc : AtCommit s t db') {session : VerifiedSession}
    {frame : PublishFrame} {vf : ValidatedFrame} {l : String}
    (ha : calls t = .publish session frame)
    (hvf : validateRecordFrame X frame session = .ok vf)
    (hl : X.scopeLabel vf.route.scope = some l)
    (hrec : Recipients X (calls t) (s.threads t).hist session.networkId l a v ps) (p : String) :
    p ∈ ps ↔ db'.Active session.networkId l p := by
  rcases hrec with ⟨m, existing, hm, rfl, hex, rfl, -⟩ | ⟨_, hno, _, hv', hp, -⟩
  · -- the mutation that commits has read the members the call knows, or others just the same
    obtain ⟨tx, existing', _, -, hex', -, -, ht, -⟩ :=
      hc.mutatedScope hX hw.txs hr ha hm
    have ho : Origin X config calls s session.networkId l m.version (m.desired existing) :=
      .inl ⟨t, m, existing, hm, rfl, hex, rfl⟩
    have ho' : Origin X config calls s session.networkId l m.version (m.desired existing') :=
      .inl ⟨t, m, existing', hm, rfl, hex', rfl⟩
    have hreu := noReuse_of_reaches hX hw.txs hr
    rw [ht.active_iff]
    exact ⟨(hreu _ _ _ _ _ _ ho ho').2 p, (hreu _ _ _ _ _ _ ho' ho).2 p⟩
  · obtain ⟨hok, tx, hx, he⟩ := hc.effect hX hw.txs hr
    -- the commit leaves the scope, and its fence is the one the members were read under
    have hs : Db.SameScope session.networkId l s.world.db db' := by
      cases he with
      | quiet hu => exact hu.sameScope _ _
      | mutated _ _ m _ _ hm _ _ _ ht =>
        apply ht.frame
        intro heq
        cases heq
        exact hno m hm
    have hf : tx.fence = fenceKey session.networkId l := by
      obtain ⟨_, hx', hg, -⟩ := hc.txOf (txInv_of_reaches hw.txs hr)
      rw [hx, Option.some.injEq] at hg
      subst hg
      rw [ha] at hok
      obtain ⟨_, _, _, _, _, hre⟩ := hok
      obtain ⟨_, _, hop⟩ := hre.tx
      rw [hx', Option.some.injEq] at hop
      have hvf' := hre.validated
      rw [hvf, Except.ok.injEq] at hvf'
      subst hvf'
      have hl' := hre.label
      rw [hl, Option.some.injEq] at hl'
      rw [hop, hl']
    rw [hs.active p]
    exact members_active hX hw hr hx hf hv' hp p

/-- The mailboxes a scoped publish that commits was put into are those of the active principals. -/
lemma deliveredTo_of_steady {db' : Db} (hc : AtCommit s t db') : DeliveredTo X calls s t db' := by
  rintro session frame vf l ha hv hl r hm rfl - c hex q
  obtain ⟨_, _, _, _, _, _, _, ht⟩ := routedTo_of_reaches hX hw hr hm hex
  have ha' := ht.call
  rw [ha] at ha'
  cases ha'
  have hv' := ht.validated
  rw [hv, Except.ok.injEq] at hv'
  subst hv'
  have hl' := ht.label
  rw [hl, Option.some.injEq] at hl'
  subst hl'
  rw [ht.queues q]
  constructor
  · rintro ⟨p, hp, rfl⟩
    exact ⟨p, (recipients_active hX hw hr hc ha hv hl ht.recipients p).1 hp, rfl⟩
  · rintro ⟨p, hp, rfl⟩
    exact ⟨p, (recipients_active hX hw hr hc ha hv hl ht.recipients p).2 hp, rfl⟩

end

/-- As long as no version is reused for other members and no challenged principal is removed
before its routes are read, a scoped publish is delivered exactly to the active principals of the
scope in the state it commits. -/
theorem delivered_to_active (hX : X.scopeLabel .global = some "global") (hw : Begins config w)
    (hr : ReachableIf X config calls w (Steady X config calls) s) {t : Nat} {db' : Db}
    (hc : AtCommit s t db') : DeliveredTo X calls s t db' :=
  deliveredTo_of_steady hX hw hr hc

/-- Who is bound to a route is a member by the origin of the binding's version. -/
theorem bindings_have_origins (hX : X.LabelsGlobal) (hw : Begins config w)
    (hr : ReachableIf X config calls w cond s) {n l a p : String} {c : DeliveryClass}
    {row : RouteBindingRow} (hb : s.world.db.routeBindings.get? (n, l, a, p, c) = some row) :
    ∃ ps, ScopeOrigin X config calls s n l row.membershipVersion ps ∧ p ∈ ps := by
  obtain ⟨hv, ha⟩ := bindingsCurrent_of_reaches hX hw hr n l a p c row hb
  obtain ⟨ps, hps⟩ := scopeOrigin_of_reaches hX hw hr hv
  exact ⟨ps, hps, (hps.active p).2 ha⟩

end

/-! ## Two runs -/

def leaving : List Event :=
  [snapshot "join" "g" [("g", [.finalizer]), ("p", [])] 1 ["g"],
    policyTuned "first", snapshot "leave" "g" [("g", [.finalizer])] 1 ["g"],
    policyTuned "second"]

def leavingCalls : Nat → Call
  | 4 => .challenge "n" "p"
  | t => publishOf leaving t

def leavingRun (acts : List (Action Env)) : State :=
  (initial (wattswarm leaving) config leavingCalls world).runActions gateway
    acts

lemma leaving_mutates (h : (leavingCalls t).Mutates (wattswarm leaving) n l m) :
    l = "global" ∧ (m.version = "join" ∧ (∀ ps, m.desired ps = ["g", "p"]) ∨
      m.version = "leave" ∧ ∀ ps, m.desired ps = ["g"]) := by
  match t with
  | 0 =>
    obtain ⟨-, vf, hv, hm, hl⟩ := h
    cases hv
    cases hm
    cases hl
    exact ⟨rfl, .inl ⟨rfl, fun _ => rfl⟩⟩
  | 1 =>
    obtain ⟨-, vf, hv, hm, -⟩ := h
    cases hv
    cases hm
  | 2 =>
    obtain ⟨-, vf, hv, hm, hl⟩ := h
    cases hv
    cases hm
    cases hl
    exact ⟨rfl, .inr ⟨rfl, fun _ => rfl⟩⟩
  | 3 =>
    obtain ⟨-, _, hv, hm, -⟩ := h
    cases hv
    cases hm
  | 4 => exact h.elim
  | t + 5 => exact h.elim

lemma leaving_origin {v : String} (h : Origin (wattswarm leaving) config leavingCalls s n l v ps) :
    l = "global" ∧ (v = "join" ∧ ps = ["g", "p"] ∨ v = "leave" ∧ ps = ["g"] ∨
      v = "trusted-genesis:g" ∧ ps = ["g"]) := by
  rcases h with ⟨_, _, existing, hm, rfl, -, rfl⟩ | ⟨g, hg, rfl, rfl, rfl⟩
  · obtain ⟨hl, ⟨hv, hd⟩ | ⟨hv, hd⟩⟩ := leaving_mutates hm
    · exact ⟨hl, .inl ⟨hv, hd existing⟩⟩
    · exact ⟨hl, .inr (.inl ⟨hv, hd existing⟩)⟩
  · replace hg : (n, g) ∈ [("n", "g")] := hg
    cases mem_singleton.1 hg
    exact ⟨rfl, .inr (.inr ⟨rfl, rfl⟩)⟩

lemma leaving_reuse {l' : String} (hm : (leavingCalls t).Mutates (wattswarm leaving) n l m)
    (ho : Origin (wattswarm leaving) config leavingCalls s n l' m.version ps) :
    l' = l ∧ ∀ p, p ∈ ps ↔ p ∈ m.membersAt s.world.db n l := by
  obtain ⟨rfl, hor⟩ := leaving_origin ho
  obtain ⟨rfl, ⟨hv, hd⟩ | ⟨hv, hd⟩⟩ := leaving_mutates hm
  · refine ⟨rfl, fun p => ?_⟩
    rw [hv] at hor
    rw [membersAt, hd]
    rcases hor with ⟨-, rfl⟩ | ⟨hv', -⟩ | ⟨hv', -⟩
    · exact Iff.rfl
    · exact absurd hv' (by decide)
    · exact absurd hv' (by decide)
  · refine ⟨rfl, fun p => ?_⟩
    rw [hv] at hor
    rw [membersAt, hd]
    rcases hor with ⟨hv', -⟩ | ⟨-, rfl⟩ | ⟨hv', -⟩
    · exact absurd hv' (by decide)
    · exact Iff.rfl
    · exact absurd hv' (by decide)

/-- The publishes one after the other, the last one up to its commit. -/
def leavingActs : List (Action Env) :=
  steps 0 46 ++ steps 1 35 ++ steps 2 41 ++ steps 3 26

lemma leaving_steady : ReachableIf (wattswarm leaving) config leavingCalls
    world (Steady (wattswarm leaving) config leavingCalls)
    (leavingRun leavingActs) := by
  apply reaches_runActions_of
  intro _ ha _
  refine ⟨fun t o n l m k _ hm _ l' ps ho => leaving_reuse hm ho, ?_⟩
  -- the challenge takes no step in this run
  rintro t o n p k rfl hc -
  have ht : t < 4 := by
    simp only [leavingActs, steps, mem_append, mem_replicate] at ha
    rcases ha with ((⟨-, h⟩ | ⟨-, h⟩) | ⟨-, h⟩) | ⟨-, h⟩ <;> cases h <;> omega
  match t, ht with
  | 0, _ => cases hc
  | 1, _ => cases hc
  | 2, _ => cases hc
  | 3, _ => cases hc

lemma sample_begins : Begins config world :=
  ⟨⟨initSchema none, rfl⟩, rfl, rfl⟩

set_option maxRecDepth 100000

/-- The second control event goes to those who are left. -/
theorem delivered_to_active_left : AtCommit (leavingRun leavingActs) 3
        ((leavingRun leavingActs).step gateway (.run 3 .ok)).world.db ∧
      DeliveredTo (wattswarm leaving) leavingCalls (leavingRun leavingActs) 3
        ((leavingRun leavingActs).step gateway (.run 3 .ok)).world.db := by
  have hc : AtCommit (leavingRun leavingActs) 3
      ((leavingRun leavingActs).step gateway (.run 3 .ok)).world.db :=
    atCommit_of_isCommit (by decide)
  exact ⟨hc, delivered_to_active rfl sample_begins leaving_steady hc⟩

theorem bindings_have_origins_left : ∃ row : RouteBindingRow, ∃ ps, ScopeOrigin (wattswarm leaving)
    config leavingCalls (leavingRun leavingActs) "n" "global" row.membershipVersion ps ∧ "g" ∈ ps := by
  obtain ⟨row, hb⟩ : ∃ row, (leavingRun leavingActs).world.db.routeBindings.get?
    ("n", "global", "ws.global.PolicyTuned", "g", .bulk) = some row :=
    Option.isSome_iff_exists.1 (by decide)
  exact ⟨row, bindings_have_origins rfl sample_begins leaving_steady hb⟩

/-- The challenge of `"p"` checks its admission before `"p"` is removed, and reads the routes
after. -/
def lateActs : List (Action Env) :=
  steps 0 46 ++ steps 1 35 ++ steps 4 2 ++ steps 2 41 ++ steps 4 17 ++ steps 3 26

/-- The mailbox of `"p"` gets the second control event, though `"p"` is not active. -/
theorem removed_principal_receives : Reachable (wattswarm leaving) config leavingCalls world
        (leavingRun lateActs) ∧ AtCommit (leavingRun lateActs) 3
        ((leavingRun lateActs).step gateway (.run 3 .ok)).world.db ∧
      ¬ DeliveredTo (wattswarm leaving) leavingCalls (leavingRun lateActs) 3
        ((leavingRun lateActs).step gateway (.run 3 .ok)).world.db := by
  refine ⟨reaches_runActions _ _, atCommit_of_isCommit (by decide), ?_⟩
  intro h
  obtain ⟨⟨r, hr, ha, hc, hex, hq⟩, he⟩ :
      (∃ r ∈ (leavingRun lateActs).world.broker.routed, r.call = 3 ∧ r.confirmed = true ∧
        r.exchange = .scope .interactive ∧ "ws.cs.n.p.interactive" ∈ r.queues) ∧
      Select.run 0 ((leavingRun lateActs).step gateway (.run 3 .ok)).world.db
        (.activePrincipals "n" "global") = ["g"] := by
    decide
  have ha₃ : leavingCalls 3 = .publish ⟨"n", "g"⟩ _ := rfl
  obtain ⟨p, hp, hn⟩ := (h _ _ _ "global" ha₃ rfl rfl r hr ha hc _ hex _).1 hq
  have hm : p ∈ Select.run 0 _ (.activePrincipals "n" "global") := mem_activePrincipals.2 hp
  rw [he] at hm
  cases mem_singleton.1 hm
  exact absurd hn (by decide)

end WattGateway.Message

import WattGateway.Message.Fences

/-!
# Where a membership version comes from

A version is a text that a mutation brings along; its origins are the mutations that carried it,
each with the members it computed, and the seed. The version of a scope has an origin whose members
are the active ones (`scopeOrigin_of_reaches`), and a route binding is of the current version and of
an active member (`bindingsCurrent_of_reaches`). So the branch of `reconcile_scope_bindings` that
unbinds a mailbox is never taken (`never_unbinds`).
-/

namespace WattGateway.Message

open Hist List Option Table

variable {roles : List Role}

/-! ## The seeded tables -/

lemma foldlM_invariant {σ β : Type} {f : σ → β → Except String σ} {P : σ → Prop} {l : List β}
    (hs : ∀ s b s', b ∈ l → P s → f s b = .ok s' → P s') {s s' : σ} (h₀ : P s)
    (h : l.foldlM f s = .ok s') : P s' := by
  induction l generalizing s with
  | nil =>
    cases h
    exact h₀
  | cons b _ ih =>
    rw [foldlM_cons] at h
    cases hb : f s b with
    | error =>
      rw [hb] at h
      cases h
    | ok s₁ =>
      rw [hb] at h
      apply ih _ (hs s b s₁ mem_cons_self h₀ hb) h
      intro s b' s' hb'
      exact hs s b' s' (mem_cons_of_mem b hb')

/-- Every scope is the Global one of a seeded network, with its genesis as the only member. -/
structure Seeded (seeds : List (String × String)) (db : Db) : Prop where
  version : ∀ n l r, db.scopeVersions.get? (n, l) = some r → l = "global" ∧ ∃ g, (n, g) ∈ seeds ∧
    r.activeMembershipVersion = trustedGenesisVersion g ∧
    db.memberships.get? (n, "global", g) = some (genesisRow g)
  member : ∀ n l p r, db.memberships.get? (n, l, p) = some r → l = "global" ∧ (n, p) ∈ seeds ∧
    r = genesisRow p ∧ ∃ v, db.scopeVersions.get? (n, "global") = some v
  bindings : db.routeBindings = .empty

lemma seeded_empty (seeds : List (String × String)) (columns : List Column) :
    Seeded seeds (Db.empty columns) where
  version := by
    intro _ _ _ hr
    cases hr
  member := by
    intro _ _ _ _ hr
    cases hr
  bindings := rfl

variable {n : String} {seeds : List (String × String)} {db db' : Db}

lemma Seeded.seedMembership {g : String} (h : Seeded seeds db) (hs : (n, g) ∈ seeds)
    (hu : seedMembership db n g = .ok db') : Seeded seeds db' := by
  unfold Message.seedMembership at hu
  split at hu
  · cases hu
  rename_i memberships hi
  have he := get?_insert? hi
  cases hu
  refine ⟨?_, ?_, h.bindings⟩
  · intro n' l r hr
    rw [get?_upsert] at hr
    split at hr
    · rename_i hk
      cases hk
      cases hr
      exact ⟨rfl, g, hs, rfl, by rw [he, if_pos rfl]⟩
    · obtain ⟨hl, g', hg', hv, hm⟩ := h.version n' l r hr
      refine ⟨hl, g', hg', hv, ?_⟩
      rw [he]
      split
      · rename_i hk
        cases hk
        rfl
      · exact hm
  · intro n' l p r hr
    rw [he] at hr
    split at hr
    · rename_i hk
      cases hk
      cases hr
      exact ⟨rfl, hs, rfl, _, by rw [get?_upsert, if_pos rfl]⟩
    · obtain ⟨hl, hp, hr, v, hv⟩ := h.member n' l p r hr
      refine ⟨hl, hp, hr, ?_⟩
      rw [get?_upsert]
      split
      · exact ⟨_, rfl⟩
      · exact ⟨v, hv⟩

lemma Seeded.seedNetwork {e : String × String} (h : Seeded seeds db) (hs : e ∈ seeds)
    (hu : seedNetwork db e = .ok db') : Seeded seeds db' := by
  obtain ⟨_, _⟩ := e
  unfold Message.seedNetwork at hu
  dsimp only at hu
  split at hu
  · cases hu
  split at hu
  · cases hu
    exact ⟨h.version, h.member, h.bindings⟩
  · refine Seeded.seedMembership ?_ hs hu
    exact ⟨h.version, h.member, h.bindings⟩

lemma seeded_of_seed {config : Config} {columns : List Column}
    (h : seedTrustedNetworkGenesis config (Db.empty columns) = .ok db) :
    Seeded config.trustedNetworkGenesis.rows db :=
  foldlM_invariant (fun _ _ _ hb hs hu => hs.seedNetwork hb hu) (seeded_empty _ columns) h

/-! ## Origins -/

section

variable {X : Wattswarm} {config : Config} {calls : Nat → Call} {w : World}
  {cond : State → Action Env → Prop} {s s' : State}

/-- The version `v` was given to the members `ps` of the scope `(n, l)`: by a mutation that has
read the members it starts from, whether or not it has committed, or by the seed. -/
def Origin (X : Wattswarm) (config : Config) (calls : Nat → Call) (s : State) (n l v : String)
    (ps : List String) : Prop :=
  (∃ t m existing, (calls t).Mutates X n l m ∧ v = m.version ∧
      (s.threads t).hist.Heard (.txSelect (.activePrincipals n l)) existing ∧
      ps = m.desired existing) ∨ ∃ g, (n, g) ∈ config.trustedNetworkGenesis.rows ∧ l = "global" ∧
      v = trustedGenesisVersion g ∧ ps = [g]

variable {l v : String} {ps : List String}

lemma Origin.step (h : Origin X config calls s n l v ps) (a : Action Env) :
    Origin X config calls (s.step gateway a) n l v ps := by
  rcases h with ⟨t, m, existing, hm, hv, hex, hp⟩ | hs
  · exact .inl ⟨t, m, existing, hm, hv, hex.mono (Sys.hist_suffix_step gateway s a t), hp⟩
  · exact .inr hs

lemma Origin.reaches (h : Origin X config calls s n l v ps) (hr : Sys.Reaches gateway cond s s') :
    Origin X config calls s' n l v ps :=
  hr.invariant (P := fun s => Origin X config calls s n l v ps) h fun _ a _ _ ho => ho.step a

/-- The origin `ps` of the version of a scope: its members are the active ones, all under this
version. -/
structure ScopeOrigin (X : Wattswarm) (config : Config) (calls : Nat → Call) (s : State)
    (n l v : String) (ps : List String) : Prop where
  origin : Origin X config calls s n l v ps
  active : ∀ p, p ∈ ps ↔ s.world.db.Active n l p
  current : ∀ p v' roles, s.world.db.member n l p = some (v', .active, roles) → v' = v

/-- Every scope with a version has its origin, and one without has no active members. -/
def ScopesOrigin (X : Wattswarm) (config : Config) (calls : Nat → Call) (s : State) : Prop :=
  ∀ n l, match s.world.db.scopeVersions.get? (n, l) with
    | some r => ∃ ps, ScopeOrigin X config calls s n l r.activeMembershipVersion ps
    | none => ∀ p, ¬ s.world.db.Active n l p

lemma ScopeOrigin.of_sameScope (h : ScopeOrigin X config calls s n l v ps) (a : Action Env)
    (hs : Db.SameScope n l s.world.db (s.step gateway a).world.db) :
    ScopeOrigin X config calls (s.step gateway a) n l v ps where
  origin := h.origin.step a
  active := fun p => (h.active p).trans (hs.active p).symm
  current := by
    intro p v' roles hm
    rw [hs.1 p] at hm
    exact h.current p v' roles hm

lemma ScopesOrigin.step (hX : X.LabelsGlobal) (hw : w.txs = .empty)
    (hr : ReachableIf X config calls w cond s) (hi : ScopesOrigin X config calls s)
    (a : Action Env) : ScopesOrigin X config calls (s.step gateway a) := by
  intro n l
  rcases scope_step hX hw hr a n l with hs |
    ⟨t, _, _, m, existing, _, -, -, -, -, -, -, hm, hex, hu⟩
  · have hold := hi n l
    rw [hs.2]
    split
    · rename_i r hr'
      rw [hr'] at hold
      obtain ⟨ps, hps⟩ := hold
      exact ⟨ps, hps.of_sameScope a hs⟩
    · rename_i hr'
      rw [hr'] at hold
      intro p hp
      exact hold p ((hs.active p).1 hp)
  · -- the mutation itself is the origin of the new version
    obtain ⟨_, hf⟩ := hu.version
    rw [hf]
    have hor : Origin X config calls s n l m.version (m.desired existing) :=
      Or.inl ⟨t, m, existing, hm, rfl, hex, rfl⟩
    refine ⟨m.desired existing, hor.step a, fun p => (hu.active_iff p).symm, ?_⟩
    intro p v' roles hp
    rw [hu.member p] at hp
    split at hp
    · cases hp
      rfl
    · obtain ⟨_, -, hc⟩ := map_eq_some_iff.1 hp
      cases hc

/-- The start of the runs: the seeded tables, no transaction and an empty broker. -/
structure Begins (config : Config) (w : World) : Prop where
  seeded : ∃ columns, seedTrustedNetworkGenesis config (Db.empty columns) = .ok w.db
  txs : w.txs = .empty
  broker : w.broker = .empty

variable {p : String}

lemma Seeded.member_eq {st : MemberState} (h : Seeded seeds db)
    (hm : db.member n l p = some (v, st, roles)) :
    l = "global" ∧ (n, p) ∈ seeds ∧ v = trustedGenesisVersion p ∧
      ∃ r, db.scopeVersions.get? (n, "global") = some r := by
  obtain ⟨r, hr, hc⟩ := map_eq_some_iff.1 hm
  obtain ⟨hl, hp, rfl, hv⟩ := h.member n l p r hr
  cases hc
  exact ⟨hl, hp, rfl, hv⟩

lemma scopesOrigin_initial (hw : Begins config w) :
    ScopesOrigin X config calls (initial X config calls w) := by
  obtain ⟨_, hc⟩ := hw.seeded
  have hs := seeded_of_seed hc
  intro n l
  show match w.db.scopeVersions.get? (n, l) with | some r => _ | none => _
  split
  · rename_i r hr
    obtain ⟨rfl, g, hg, hv, ho⟩ := hs.version n l r hr
    refine ⟨[g], .inr ⟨g, hg, rfl, hv, rfl⟩, ?_, ?_⟩
    · intro p
      rw [mem_singleton]
      constructor
      · rintro rfl
        exact ⟨_, _, by show (w.db.memberships.get? _).map _ = _; rw [ho]; rfl⟩
      · rintro ⟨v, roles, hm⟩
        exact row_unique (hs.member_eq hm).2.1 hg
    · intro p v' roles hm
      obtain ⟨-, hp, rfl, -⟩ := hs.member_eq hm
      rw [row_unique hp hg]
      exact hv.symm
  · rename_i hr
    rintro _ ⟨_, _, hm⟩
    obtain ⟨rfl, -, -, _, hr'⟩ := hs.member_eq hm
    rw [hr] at hr'
    cases hr'

section

variable (hX : X.LabelsGlobal) (hw : Begins config w)
  (hr : ReachableIf X config calls w cond s)
include hX hw hr

lemma scopesOrigin_of_reaches : ScopesOrigin X config calls s :=
  hr.invariant (scopesOrigin_initial hw) fun _ a hs _ hi => hi.step hX hw.txs hs a

lemma scopeOrigin_of_reaches
    (hv : (s.world.db.scopeVersions.get? (n, l)).map ScopeVersionRow.activeMembershipVersion =
      some v) : ∃ ps, ScopeOrigin X config calls s n l v ps := by
  obtain ⟨_, hr', rfl⟩ := map_eq_some_iff.1 hv
  have hi := scopesOrigin_of_reaches hX hw hr n l
  rw [hr'] at hi
  exact hi

lemma version_of_active (hm : s.world.db.member n l p = some (v, .active, roles)) :
    (s.world.db.scopeVersions.get? (n, l)).map ScopeVersionRow.activeMembershipVersion =
      some v := by
  have hi := scopesOrigin_of_reaches hX hw hr n l
  cases hv : s.world.db.scopeVersions.get? (n, l) with
  | none =>
    rw [hv] at hi
    exact absurd ⟨v, roles, hm⟩ (hi p)
  | some =>
    rw [hv] at hi
    obtain ⟨_, hp⟩ := hi
    exact congrArg some (hp.current p v roles hm).symm

end

/-! ## Route bindings -/

/-- Every route binding has the version of its scope, and its principal is active there. -/
def BindingsCurrent (db : Db) : Prop :=
  ∀ n l a p c row, db.routeBindings.get? (n, l, a, p, c) = some row →
    (db.scopeVersions.get? (n, l)).map ScopeVersionRow.activeMembershipVersion =
      some row.membershipVersion ∧ db.Active n l p

lemma BindingsCurrent.mono (h : BindingsCurrent db) (hs : ∀ n l, Db.SameScope n l db db')
    (hb : ∀ k row, db'.routeBindings.get? k = some row → db.routeBindings.get? k = some row) :
    BindingsCurrent db' := by
  intro n l a p c row ho
  obtain ⟨hv, ha⟩ := h n l a p c row (hb _ row ho)
  rw [(hs n l).2]
  exact ⟨hv, ((hs n l).active p).2 ha⟩

lemma BindingsCurrent.mutated {m : MembershipMutation} {desired routes : List String}
    (h : BindingsCurrent db) (hm : Mutated n l m desired routes db db') : BindingsCurrent db' := by
  intro n' l' a p c row ho
  by_cases heq : (n', l') = (n, l)
  · cases heq
    rw [hm.bindings] at ho
    split at ho
    · rename_i hp
      cases ho
      obtain ⟨_, hf⟩ := hm.version
      rw [hf]
      exact ⟨rfl, (hm.active_iff p).2 hp.2⟩
    · cases ho
  · rw [hm.frameBindings _ _ _ heq] at ho
    obtain ⟨hv, ha⟩ := h n' l' a p c row ho
    have hs := hm.frame n' l' heq
    rw [hs.2]
    exact ⟨hv, (hs.active p).2 ha⟩

lemma BindingsCurrent.exec {call : Call} {h : Hist Cmd Query Ans} {st : Stmt} {now : Nat}
    (hi : BindingsCurrent db) (hok : ExecOk call h st) (hu : st.run now db = .ok db')
    (hf : ∀ n l e ws, txOf h = some ⟨fenceKey n l, e, ws⟩ → ∀ x ∈ h, Fact db n l x.2) :
    BindingsCurrent db' := by
  have hs := hok.pooled.sameScope hu
  obtain ⟨-, hb, -⟩ := Stmt.run_ok hu
  cases st with
  | deleteRouteBindings =>
    apply hi.mono hs
    intro k row ho
    rw [hb, Stmt.onBindings, get?_delete] at ho
    exact eq_some_of_filter_eq_some ho
  | insertBinding n l a p c v =>
    obtain ⟨e, ws, _, ht, ⟨_, hv⟩, ⟨_, hps⟩, hp⟩ := hok
    have he : some v = _ := hf n l e ws ht _ hv rfl rfl
    obtain ⟨roles, hm⟩ := (hf n l e ws ht _ hps rfl rfl p).1 hp
    intro n' l' a' p' c' row ho
    rw [hb, Stmt.onBindings, get?_insertNew] at ho
    rw [(hs n' l').2, (hs n' l').active p']
    cases hold : db.routeBindings.get? (n', l', a', p', c') with
    | some =>
      rw [hold] at ho
      cases ho
      exact hi n' l' a' p' c' row hold
    | none =>
      rw [hold, none_or] at ho
      split at ho
      · rename_i hk
        cases hk
        cases ho
        exact ⟨he.symm, v, roles, hm⟩
      · cases ho
  | activateBindings | insertControlReceipt =>
    apply hi.mono hs
    intro k row ho
    rw [hb] at ho
    exact ho
  | _ => exact hok.elim

lemma bindingsCurrent_of_reaches (hX : X.LabelsGlobal)
    (hw : Begins config w) (hr : ReachableIf X config calls w cond s) :
    BindingsCurrent s.world.db := by
  refine hr.invariant (P := fun s => BindingsCurrent s.world.db) ?_ fun s a hs _ hi => ?_
  · obtain ⟨_, hl⟩ := hw.seeded
    intro n l a p c row ho
    replace ho : w.db.routeBindings.get? (n, l, a, p, c) = some row := ho
    rw [(seeded_of_seed hl).bindings] at ho
    cases ho
  · rcases db_step s a with hd | ⟨t, _, -, hc, -⟩ | ⟨t, _, _, -, hc⟩ | hd
    · rw [hd]
      exact hi
    · obtain ⟨-, _, -, he⟩ := hc.effect hX hw.txs hs
      cases he with
      | quiet hu =>
        apply hi.mono hu.sameScope
        intro _ _ ho
        rw [hu.bindings] at ho
        exact ho
      | mutated _ _ _ _ _ _ _ _ _ hm => exact hi.mutated hm
    · have hok := hc.ok hX hs
      obtain ⟨_, hp, hrun⟩ := hc
      refine hi.exec hok hrun ?_
      intro n l _ _ ht x hx
      have hn := (txInv_of_reaches hw.txs hs).running (t := t) (by rw [hp]; rfl)
      exact fenceFacts_of_reaches hX hw.txs hs t _ n l (hn.trans ht) rfl x hx
    · rw [hd]
      exact hi

/-! ## Unbinding -/

/-- The principals found bound to a route are active in its scope. -/
def BoundFact (db : Db) (n l : String) : Entry Cmd Query Ans → Prop
  | .heard (.select (.boundPrincipals n' l' _)) ps => n' = n → l' = l → ∀ p ∈ ps, db.Active n l p
  | _ => True

lemma protected_boundFact : Protected BoundFact where
  same := by
    intro _ _ _ _ _ hf hs
    unfold BoundFact at hf ⊢
    split
    · intro hn hl p hp
      exact (hs.active p).2 (hf hn hl p hp)
    · trivial
  free := by
    intro _ _ _ _ hf
    unfold BoundFact
    split
    · exact absurd trivial hf
    · trivial

lemma active_of_bound (hi : BindingsCurrent db) {now : Nat} {a : String}
    (hp : p ∈ Select.run now db (.boundPrincipals n l a)) : db.Active n l p := by
  replace hp : p ∈ ((db.routeBindings.select _).map _).dedup := hp
  rw [mem_dedup, List.mem_map] at hp
  obtain ⟨⟨⟨_, _, _, _, _⟩, row⟩, hm, rfl⟩ := hp
  obtain ⟨ho, hk⟩ := mem_select.1 hm
  obtain ⟨rfl, rfl, -, -⟩ := of_decide_eq_true hk
  exact (hi _ _ _ _ _ row ho).2

section

variable (hX : X.LabelsGlobal) (hw : Begins config w) (hr : ReachableIf X config calls w cond s)
include hX hw hr

lemma boundFacts_of_reaches : HoldsFenced BoundFact s := by
  refine hr.invariant holdsFenced_initial fun s a hs _ hi => ?_
  refine HoldsFenced.step protected_boundFact hX hw.txs hs hi a ?_
  intro t q k b x n l _ hb
  unfold BoundFact
  split
  · rename_i n' l' a' ps heq
    cases heq
    cases hb
    rintro rfl rfl p hp
    exact active_of_bound (bindingsCurrent_of_reaches hX hw hs) hp
  · trivial

lemma never_unbinds {t : Nat} {ex : Exchange} {queue : String}
    {key : Digest} {k : Gw Reply} : (s.threads t).prog ≠ .cmd (.queueUnbind ex queue key) k := by
  intro hp
  have hi := (txInv_of_reaches hw.txs hr).running (t := t) (by rw [hp]; rfl)
  obtain ⟨n, l, _, v, _, _, _, _, p, ht, ⟨_, hv⟩, ⟨_, hs⟩, ⟨_, hb⟩, hpb, hn⟩ :=
    cmdOk_of_reaches hX hr hp
  have ho := hi.trans ht
  have hf := fenceFacts_of_reaches hX hw.txs hr t _ n l ho rfl
  obtain ⟨_, roles, hm⟩ := boundFacts_of_reaches hX hw hr t _ n l ho rfl _ hb rfl rfl p hpb
  -- the bound principal is active, so it has the version and is among the members read
  have he : some v = _ := hf _ hv rfl rfl
  rw [version_of_active hX hw hr hm, Option.some.injEq] at he
  subst he
  exact hn ((hf _ hs rfl rfl p).2 ⟨roles, hm⟩)

end

end

end WattGateway.Message

import WattGateway.Message.Walks

/-!
# What a fence protects

A scope changes only by the commit of a mutation of that very scope, and the committing call
holds its exclusive fence (`scope_step`). So whatever a call has read about a scope under its
fence stays true until the call ends (`FenceFacts`).
-/

namespace WattGateway.Message

open Hist Db List Sys

variable {ws : List (Nat × Stmt)} {tx : Tx} {session : VerifiedSession} {m : MembershipMutation}
  {st : Stmt} {now : Nat} {frame : PublishFrame} {row : ReceiptRow}

section

variable {X : Wattswarm} {config : Config} {call : Call} {h : Hist Cmd Query Ans}
  {db db' : Db}

/-! ## Commits -/

/-- What a commit does to the scopes: nothing, or it mutates one whose exclusive fence it holds. -/
inductive ScopeEffect (X : Wattswarm) (call : Call) (h : Hist Cmd Query Ans) (tx : Tx)
    (db db' : Db) : Prop
  | quiet (hu : Untouched db db')
  | mutated (n l : String) (m : MembershipMutation) (existing routes : List String)
      (hm : call.Mutates X n l m) (hex : h.Heard (.txSelect (.activePrincipals n l)) existing)
      (hfence : tx.fence = fenceKey n l) (hexcl : tx.exclusive = true)
      (hmut : Mutated n l m (m.desired existing) routes db db')

lemma Applied.mutated {n l : String} {additional : Option String}
    (pre post : List (Nat × Stmt)) (ha : Applied X n l m additional h ws)
    (hw : tx.writes = pre ++ (ws ++ post)) (hp : ∀ w ∈ pre, w.2.Quiet)
    (ho : ∀ w ∈ post, w.2.Quiet) (hv : tx.view db = .ok db') :
    ∃ existing routes, h.Heard (.txSelect (.activePrincipals n l)) existing ∧
      (∀ a ∈ additional, a ∈ routes) ∧ Mutated n l m (m.desired existing) routes db db' := by
  obtain ⟨existing, routes, _, window, _, hex, rfl, hc, hro, -⟩ := ha
  refine ⟨existing, routes, hex, hro, view_mutation
    (pre.map Prod.snd ++ [.recordMembershipMutation n l m.version window])
    (post.map Prod.snd) hv ?_ ?_ ?_⟩
  · rw [hw]
    simp [hc]
  · intro _ hs
    rcases mem_append.1 hs with hs | hs
    · obtain ⟨w, hm, rfl⟩ := mem_map.1 hs
      exact hp w hm
    · rw [mem_singleton.1 hs]
      trivial
  · intro _ hs
    obtain ⟨w, hm, rfl⟩ := mem_map.1 hs
    exact ho w hm

lemma quiet_receipt {n p rid : String} {audit : AuditRow} {τ τ' : Nat} :
    ∀ w ∈ [(τ, Stmt.insertReceipt n p rid row), (τ', Stmt.recordAudit audit)], w.2.Quiet := by
  simp [Stmt.Quiet]

section PublishReady

variable {vf : ValidatedFrame} {l : String} {τ : Nat}

section

variable (hr : PublishReady X session frame h vf l ws τ row)
include hr

lemma PublishReady.untouched
    (hm : vf.membershipMutation = none) (ht : txOf h = some tx) (hv : tx.view db = .ok db') :
    Untouched db db' := by
  obtain ⟨_, _, ht'⟩ := hr.tx
  rw [ht, Option.some.injEq] at ht'
  subst ht'
  refine view_quiet hv fun s hs => ?_
  obtain ⟨w, hw, rfl⟩ := mem_map.1 hs
  rw [hr.unmutated hm, nil_append] at hw
  exact quiet_receipt w hw

lemma PublishReady.mutates (hm : vf.membershipMutation = some m) :
    (Call.publish session frame).Mutates X session.networkId l m := by
  refine ⟨rfl, vf, hr.validated, hm, ?_⟩
  rw [(validateRecordFrame_mutation hr.validated hm).1]
  exact hr.label

lemma PublishReady.mutatedScope
    (hu : vf.membershipMutation = some m) (ht : txOf h = some tx) (hv : tx.view db = .ok db') :
    ∃ existing routes, h.Heard (.txSelect (.activePrincipals session.networkId l)) existing ∧
      tx.fence = fenceKey session.networkId l ∧ tx.exclusive = true ∧
      Mutated session.networkId l m (m.desired existing) routes db db' := by
  obtain ⟨_, _, ht'⟩ := hr.tx
  rw [ht, Option.some.injEq] at ht'
  subst ht'
  obtain ⟨existing, routes, hex, -, hm⟩ := (hr.mutated m hu).mutated [] _
    (nil_append _).symm (by simp) quiet_receipt hv
  exact ⟨existing, routes, hex, rfl, by rw [hu]; rfl, hm⟩

end

end PublishReady

section GrantReady

variable {grant : NetworkMembershipGrant} {gid : String} {found : Option String}

lemma GrantReady.untouched (hr : GrantReady X config grant h gid found ws)
    (hf : found ≠ none) (ht : txOf h = some tx) (hv : tx.view db = .ok db') :
    Untouched db db' := by
  obtain ⟨_, ht'⟩ := hr.tx
  rw [ht, Option.some.injEq] at ht'
  subst ht'
  refine view_quiet hv fun s hs => ?_
  rw [hr.early hf] at hs
  rw [mem_singleton.1 hs]
  trivial

lemma GrantReady.mutatedGlobal (hr : GrantReady X config grant h gid found ws)
    (hf : found = none) (ht : txOf h = some tx) (hv : tx.view db = .ok db') :
    ∃ existing routes, h.Heard (.txSelect (.activePrincipals grant.networkId "global")) existing ∧
      tx.fence = fenceKey grant.networkId "global" ∧ tx.exclusive = true ∧
      Mutated grant.networkId "global" (grantMutation grant gid)
        ((grantMutation grant gid).desired existing) routes db db' := by
  obtain ⟨τ, ht'⟩ := hr.tx
  rw [ht, Option.some.injEq] at ht'
  subst ht'
  obtain ⟨existing, routes, hex, -, hm⟩ := (hr.mutated hf).mutated
    [(τ, .upsertNetworkMembershipGrant grant.networkId grant.principalId gid grant.issuedAt
      grant.expiresAt)] [] (by simp) (by simp [Stmt.Quiet]) (by simp) hv
  exact ⟨existing, routes, hex, rfl, rfl, hm⟩

end GrantReady

lemma CommitOk.effect (hX : X.LabelsGlobal)
    (hc : CommitOk X config h call) (htx : txOf h = some tx) (hv : tx.view db = .ok db') :
    ScopeEffect X call h tx db db' := by
  cases call with
  | publish =>
    obtain ⟨vf, l, ws, _, _, hr⟩ := hc
    cases hu : vf.membershipMutation with
    | none => exact .quiet (hr.untouched hu htx hv)
    | some m =>
      obtain ⟨existing, routes, hex, hfe, he, hm⟩ := hr.mutatedScope hu htx hv
      exact .mutated _ l m existing routes (hr.mutates hu) hex hfe he hm
  | admitGrant =>
    obtain ⟨gid, found, _, hr⟩ := hc
    by_cases hf : found = none
    · obtain ⟨existing, routes, hex, hfe, he, hm⟩ := hr.mutatedGlobal hf htx hv
      exact .mutated _ "global" _ existing routes ⟨rfl, hX, gid, hr.grantId, rfl⟩ hex hfe he
        hm
    · exact .quiet (hr.untouched hf htx hv)
  | challenge => exact hc.elim
  | control => exact hc.elim

/-! ## Statements through the pool -/

/-- A statement that calls run through the pool. -/
def Stmt.Pooled : Stmt → Prop
  | .activateBindings _ _ => True
  | .deleteRouteBindings _ _ _ => True
  | .insertBinding _ _ _ _ _ _ => True
  | .insertControlReceipt _ _ _ _ _ _ _ => True
  | _ => False

lemma Stmt.Pooled.sameScope (hs : st.Pooled)
    (hu : st.run now db = .ok db') (n l : String) : Db.SameScope n l db db' := by
  obtain ⟨hm, -, hv, -⟩ := Stmt.run_ok hu
  cases st with
  | activateBindings =>
    refine ⟨fun p => ?_, by rw [hv]; rfl⟩
    unfold Db.member
    rw [hm, Stmt.onMemberships, Table.get?_update, Option.map_map]
    refine Option.map_congr fun r _ => ?_
    dsimp only [Function.comp_apply]
    split <;> rfl
  | deleteRouteBindings | insertBinding | insertControlReceipt =>
    exact ⟨fun p => by unfold Db.member; rw [hm]; rfl, by rw [hv]; rfl⟩
  | _ => exact hs.elim

lemma ExecOk.pooled (hok : ExecOk call h st) : st.Pooled := by
  cases st <;> trivial

end

/-! ## Scopes in a run -/

section Runs

variable {X : Wattswarm} {config : Config} {calls : Nat → Call} {w : World}
  {cond : State → Action Env → Prop} {s : State}
variable {t : Nat} {db' : Db}

/-- At its commit a call satisfies `CommitOk`, and its commit has the effect of one. -/
lemma AtCommit.effect (hX : X.LabelsGlobal) (hw : w.txs = .empty)
    (hr : ReachableIf X config calls w cond s) (hc : AtCommit s t db') :
    CommitOk X config (s.threads t).hist (calls t) ∧ ∃ tx, s.world.txs.get? t = some tx ∧
      ScopeEffect X (calls t) (s.threads t).hist tx s.world.db db' := by
  obtain ⟨tx, ht, ht', hv⟩ := hc.txOf (txInv_of_reaches hw hr)
  obtain ⟨_, -, hp, -, -⟩ := hc
  have hok : CommitOk X config (s.threads t).hist (calls t) := cmdOk_of_reaches hX hr hp
  exact ⟨hok, tx, ht', hok.effect hX ht hv⟩

variable {n l : String}

lemma AtCommit.mutatedScope (hX : X.LabelsGlobal) (hw : w.txs = .empty)
    (hr : ReachableIf X config calls w cond s) (hc : AtCommit s t db')
    (ha : calls t = .publish session frame)
    (hm : (calls t).Mutates X n l m) : ∃ tx existing routes, s.world.txs.get? t = some tx ∧
      (s.threads t).hist.Heard (.txSelect (.activePrincipals n l)) existing ∧
      tx.fence = fenceKey n l ∧ tx.exclusive = true ∧
      Mutated n l m (m.desired existing) routes s.world.db db' ∧
      SnapshotChecked X session (s.threads t).hist m := by
  obtain ⟨hok, -⟩ := hc.effect hX hw hr
  obtain ⟨tx, ht, ht', hv⟩ := hc.txOf (txInv_of_reaches hw hr)
  rw [ha] at hok hm
  obtain ⟨_, l', _, _, _, hre⟩ := hok
  obtain ⟨rfl, _, hvf', hu, hla⟩ := hm
  have hvf := hre.validated
  rw [hvf', Except.ok.injEq] at hvf
  subst hvf
  have hl : l' = l := by
    have h1 := hre.label
    rw [← (validateRecordFrame_mutation hvf' hu).1, hla, Option.some.injEq] at h1
    exact h1.symm
  subst hl
  obtain ⟨existing, routes, hex, hf, he, hmu⟩ := hre.mutatedScope hu ht hv
  exact ⟨tx, existing, routes, ht', hex, hf, he, hmu, hre.checked m hu⟩

lemma AtExec.ok (hX : X.LabelsGlobal)
    (hr : ReachableIf X config calls w cond s) (hc : AtExec s t st db') :
    ExecOk (calls t) (s.threads t).hist st := by
  obtain ⟨_, hp, -⟩ := hc
  exact cmdOk_of_reaches hX hr hp

/-- A scope stays the same in a step, or the step is the commit of a mutation of this scope by a
call that holds its exclusive fence. -/
lemma scope_step (hX : X.LabelsGlobal) (hw : w.txs = .empty)
    (hr : ReachableIf X config calls w cond s) (a : Action Env) (n l : String) :
    Db.SameScope n l s.world.db (s.step gateway a).world.db ∨
    ∃ t o tx m existing routes, a = .run t o ∧ AtCommit s t (s.step gateway a).world.db ∧
      (s.step gateway a).world.txs.get? t = none ∧ s.world.txs.get? t = some tx ∧
      tx.fence = fenceKey n l ∧ tx.exclusive = true ∧ (calls t).Mutates X n l m ∧
      (s.threads t).hist.Heard (.txSelect (.activePrincipals n l)) existing ∧
      Mutated n l m (m.desired existing) routes s.world.db (s.step gateway a).world.db := by
  rcases db_step s a with hd | ⟨t, o, ha, hc, hno⟩ | ⟨t, o, _, ha, hc⟩ | hd
  · rw [hd]
    exact .inl (Db.SameScope.refl n l _)
  · obtain ⟨-, tx, ht, heff⟩ := hc.effect hX hw hr
    cases heff with
    | quiet hu => exact .inl (hu.sameScope n l)
    | mutated n' l' m existing routes hm hex hf he hmut =>
      by_cases heq : (n, l) = (n', l')
      · cases heq
        exact .inr ⟨t, o, tx, m, existing, routes, ha, hc, hno, ht, hf, he, hm, hex, hmut⟩
      · exact .inl (hmut.frame n l heq)
  · have hok := hc.ok hX hr
    obtain ⟨_, -, hn⟩ := hc
    exact .inl (hok.pooled.sameScope hn n l)
  · rw [hd]
    exact .inl ⟨fun _ => rfl, rfl⟩

/-! ## Facts read under a fence -/

/-- What an answer about the scope `(n, l)` says of the tables. -/
def Fact (db : Db) (n l : String) : Entry Cmd Query Ans → Prop
  | .heard (.txSelect (.activePrincipals n' l')) ps => n' = n → l' = l →
      ∀ p, p ∈ ps ↔ db.Active n l p
  | .heard (.select (.scopeVersion n' l')) v => n' = n → l' = l →
      v = (db.scopeVersions.get? (n, l)).map ScopeVersionRow.activeMembershipVersion
  | .heard (.select (.members n' l' v)) ps => n' = n → l' = l →
      ∀ p, p ∈ ps ↔ ∃ roles, db.member n l p = some (v, .active, roles)
  | _ => True

variable {db : Db}

variable {e : Entry Cmd Query Ans}

lemma Fact.of_sameScope (hf : Fact db n l e) (hs : Db.SameScope n l db db') : Fact db' n l e := by
  unfold Fact at hf ⊢
  split
  · intro hn hl p
    rw [hs.active]
    exact hf hn hl p
  · intro hn hl
    rw [hs.2]
    exact hf hn hl
  · intro hn hl p
    rw [hs.1 p]
    exact hf hn hl p
  · trivial

lemma Fact.of_not_fenced (hf : ¬ Fenced e) : Fact db n l e := by
  unfold Fact
  split
  · exact absurd trivial hf
  · exact absurd trivial hf
  · exact absurd trivial hf
  · trivial

lemma mem_activePrincipals {p : String} :
    p ∈ Select.run now db (.activePrincipals n l) ↔ db.Active n l p := by
  show p ∈ (db.activeRows n l).map _ ↔ _
  rw [mem_map]
  unfold Db.Active Db.member
  constructor
  · rintro ⟨⟨_, r⟩, hm, rfl⟩
    obtain ⟨hk, hg, hs⟩ := mem_activeRows.1 hm
    rw [hk] at hg
    exact ⟨r.membershipVersion, r.rolesJson, by rw [hg]; simp [MembershipRow.core, hs]⟩
  · rintro ⟨_, _, hm⟩
    obtain ⟨r, hg, hc⟩ := Option.map_eq_some_iff.1 hm
    refine ⟨((n, l, p), r), mem_activeRows.2 ⟨rfl, hg, ?_⟩, rfl⟩
    exact congrArg (fun x => x.2.1) hc

lemma mem_members {v p : String} : p ∈ Select.run now db (.members n l v) ↔
      ∃ roles, db.member n l p = some (v, .active, roles) := by
  show p ∈ ((db.activeRows n l).filter _).map _ ↔ _
  rw [mem_map]
  unfold Db.member
  constructor
  · rintro ⟨⟨_, r⟩, hm, rfl⟩
    obtain ⟨hm, hv⟩ := mem_filter.1 hm
    obtain ⟨hk, hg, hs⟩ := mem_activeRows.1 hm
    rw [hk] at hg
    rw [decide_eq_true_eq] at hv
    exact ⟨r.rolesJson, by rw [hg]; simp [MembershipRow.core, hs, ← hv]⟩
  · rintro ⟨_, hm⟩
    obtain ⟨r, hg, hc⟩ := Option.map_eq_some_iff.1 hm
    have hs : r.state = .active := congrArg (fun x => x.2.1) hc
    have hv : r.membershipVersion = v := congrArg Prod.fst hc
    exact ⟨((n, l, p), r), mem_filter.2 ⟨mem_activeRows.2 ⟨rfl, hg, hs⟩, by simp [hv]⟩, rfl⟩

/-- An answer is a fact when it is given, provided the statements of the transaction it is given
in leave the scopes alone. -/
lemma fact_of_reply {w : World} {b : Bool} {q : Query} {a : Ans q} (n l : String)
    (hq : ∀ tx, w.txs.get? t = some tx → (∃ s, q = .txSelect s) →
      ∀ x ∈ tx.writes, x.2.Quiet) (hr : reply t w b q = .ok a) : Fact w.db n l (.heard q a) := by
  unfold Fact
  split
  · rename_i n' l' ps heq
    cases heq
    rintro rfl rfl p
    simp only [reply] at hr
    split at hr
    · cases hr
    · rename_i tx ht
      cases hv : tx.view w.db with
      | error => rw [hv] at hr; cases hr
      | ok =>
        rw [hv] at hr
        cases hr
        have hu := view_quiet hv fun s hs => by
          obtain ⟨x, hx, rfl⟩ := mem_map.1 hs
          exact hq tx ht ⟨_, rfl⟩ x hx
        rw [← (hu.sameScope n' l').active p]
        exact mem_activePrincipals
  · rename_i n' l' v heq
    cases heq
    rintro rfl rfl
    cases hr
    rfl
  · rename_i n' l' v ps heq
    cases heq
    rintro rfl rfl p
    cases hr
    exact mem_members
  · trivial

/-- `F` holds of the answers a call has about the scope of its fence. -/
def HoldsFenced (F : Db → String → String → Entry Cmd Query Ans → Prop) (s : State) : Prop :=
  ∀ t tx n l, s.world.txs.get? t = some tx → tx.fence = fenceKey n l →
    ∀ e ∈ (s.threads t).hist, F s.world.db n l e.2

/-- A property of answers that a fence keeps: it is about the scope alone, and says nothing of
answers read without a fence. -/
structure Protected (F : Db → String → String → Entry Cmd Query Ans → Prop) : Prop where
  same : ∀ {db db' n l e}, F db n l e → Db.SameScope n l db db' → F db' n l e
  free : ∀ {db n l e}, ¬ Fenced e → F db n l e

/-- What a call has read about the scope of its fence is true of the committed tables. -/
abbrev FenceFacts (s : State) : Prop := HoldsFenced Fact s

lemma sameScope_of_fence (hX : X.LabelsGlobal) (hw : w.txs = .empty)
    (hr : ReachableIf X config calls w cond s) (a : Action Env)
    (ht : (s.step gateway a).world.txs.get? t = some tx) (hfe : tx.fence = fenceKey n l) :
    Db.SameScope n l s.world.db (s.step gateway a).world.db := by
  rcases scope_step hX hw hr a n l with hs |
    ⟨t', _, tx', _, _, _, -, -, hno, ht', hfe', he', -⟩
  · exact hs
  · -- the other call would hold the exclusive fence while `t` holds its own
    exfalso
    have hne : t ≠ t' := by
      rintro rfl
      rw [hno] at ht
      cases ht
    rcases txs_step s a t ht with ⟨tx₀, h₀, hf₀, -⟩ | ⟨hc, -⟩
    · have hx := fenceInv_of_reaches hw hr t t' tx₀ tx' hne h₀ ht' (by rw [← hf₀, hfe, hfe'])
      rw [hx.2] at he'
      cases he'
    · have hx := not_conflicts hc hne.symm ht' (by rw [hfe, hfe'])
      rw [hx.2] at he'
      cases he'

variable {F : Db → String → String → Entry Cmd Query Ans → Prop}

lemma HoldsFenced.step (hF : Protected F) (hX : X.LabelsGlobal) (hw : w.txs = .empty)
    (hr : ReachableIf X config calls w cond s) (hi : HoldsFenced F s) (a : Action Env)
    (hans : ∀ t q k b x n l, (s.threads t).prog = .ask q k → reply t s.world b q = .ok x →
      F s.world.db n l (.heard q x)) : HoldsFenced F (s.step gateway a) := by
  intro t tx n l ht hf e he
  have ha := sameScope_of_fence hX hw hr a ht hf
  have hn := txInv_of_reaches hw hr
  have hn' := (hn.step a) t
  rw [ht] at hn'
  refine hF.same ?_ ha
  rcases step_thread gateway s a t with hs | ⟨_, c, k, _, _, _, hp, hx, hk, hh⟩ |
    ⟨_, q, k, x, _, _, hp, hx, hk, hh⟩ | ⟨_, _, _, _, hk, hh⟩
  · rw [hs, ← hn t] at hn'
    rw [hs] at he
    exact hi t tx n l hn'.symm hf e he
  · -- a command: only `begin` opens a fence, and before it nothing fenced was read
    have hold := hn.running (t := t) (by rw [hp]; rfl)
    rw [hk, hh] at hn'
    split at hn'
    · cases hn'
    rw [hh] at he
    rcases mem_cons.1 he with rfl | hm
    · exact hF.free id
    cases c with
    | begin =>
      have hu : Unfenced (s.threads t).hist := cmdOk_of_reaches hX hr hp
      exact hF.free (hu e hm)
    | stmt =>
      rw [txOf_stmt, ← hold, eq_comm, Option.map_eq_some_iff] at hn'
      obtain ⟨tx₀, h₀, rfl⟩ := hn'
      exact hi t tx₀ n l h₀ hf e hm
    | commit => cases hn'
    | _ => exact hi t tx n l (hold.trans hn'.symm) hf e hm
  · have hold := hn.running (t := t) (by rw [hp]; rfl)
    rw [hk, hh] at hn'
    split at hn'
    · cases hn'
    rw [txOf_heard, ← hold] at hn'
    rw [hh] at he
    rcases mem_cons.1 he with rfl | hm
    · obtain ⟨b, hb⟩ := answer_ok hx
      exact hans t q k b x n l hp hb
    · exact hi t tx n l hn'.symm hf e hm
  · rw [hk] at hn'
    cases hn'

lemma protected_fact : Protected Fact := ⟨Fact.of_sameScope, Fact.of_not_fenced⟩

lemma holdsFenced_initial : HoldsFenced F (initial X config calls w) := by
  intro _ _ _ _ _ _ _ he
  cases he

section

variable (hX : X.LabelsGlobal) (hw : w.txs = .empty)
  (hr : ReachableIf X config calls w cond s)
include hX hw hr

lemma fact_of_ask {q : Query} {k : Ans q → Gw Reply} {b : Bool} {x : Ans q}
    (hp : (s.threads t).prog = .ask q k) (hb : reply t s.world b q = .ok x) (n l : String) :
    Fact s.world.db n l (.heard q x) := by
  refine fact_of_reply n l ?_ hb
  rintro tx ht ⟨_, rfl⟩ y hy
  have hold := (txInv_of_reaches hw hr).running (t := t) (by rw [hp]; rfl)
  exact (askOk_of_reaches hX hr hp).1 tx (hold.symm.trans ht) y hy

lemma fenceFacts_of_reaches : FenceFacts s := by
  refine hr.invariant holdsFenced_initial fun s a hs _ hi => ?_
  refine HoldsFenced.step protected_fact hX hw hs hi a ?_
  intro _ _ _ _ _ n l hp hb
  exact fact_of_ask hX hw hs hp hb n l

lemma AtCommit.existing (ht : s.world.txs.get? t = some tx)
    (hf : tx.fence = fenceKey n l) {existing : List String}
    (hex : (s.threads t).hist.Heard (.txSelect (.activePrincipals n l)) existing) (p : String) :
    p ∈ existing ↔ s.world.db.Active n l p := by
  obtain ⟨_, hm⟩ := hex
  exact fenceFacts_of_reaches hX hw hr t tx n l ht hf _ hm rfl rfl p

end

/-! ## Answers and ends of calls -/

lemma select_asked (hr : ReachableIf X config calls w cond s) {sel : Select} {x : sel.Row}
    (hx : (s.threads t).hist.Heard (.select sel) x) :
    ∃ s' o k, ReachableIf X config calls w cond s' ∧ cond s' (.run t o) ∧
      Reaches gateway cond s' s ∧ (s'.threads t).prog = .ask (.select sel) k ∧
      x = sel.run s'.world.now s'.world.db := by
  obtain ⟨s', o, k, _, h₁, hc, h₂, hp, ha⟩ := Reaches.asked (fun _ => rfl) hr hx
  obtain ⟨_, hb⟩ := answer_ok ha
  cases hb
  exact ⟨s', o, k, h₁, hc, h₂, hp, rfl⟩

lemma done_of_did_commit (hX : X.LabelsGlobal)
    (hr : ReachableIf X config calls w cond s) (hd : (s.threads t).hist.Did .commit) :
    (s.threads t).prog.isDone = true := by
  have hf := follows_of_reaches hX hr t
  cases hp : (s.threads t).prog with
  | ret => rfl
  | fail => rfl
  | cmd | ask =>
    rw [hp] at hf
    exact absurd hd hf.1.1

lemma done_of_commit (hX : X.LabelsGlobal) (hw : w.txs = .empty)
    (hr : ReachableIf X config calls w cond s) {o : Outcome}
    (hc : isCommit (s.threads t).prog = true) (ht : s.world.txs.get? t = some tx)
    (hno : (s.step gateway (.run t o)).world.txs.get? t = none) :
    ((s.step gateway (.run t o)).threads t).prog.isDone = true := by
  by_contra hu
  rw [Bool.not_eq_true] at hu
  have hi := txInv_of_reaches hw hr
  have hb := hi.running (running_of_step hu)
  have ha := (hi.step (.run t o)).running hu
  rw [ht] at hb
  rw [hno] at ha
  rcases step_thread gateway s (.run t o) t with hs | ⟨_, c, _, _, _, _, hp, _, hk, hh⟩ |
    ⟨_, _, _, _, _, _, hp, _, hk, hh⟩ | ⟨_, _, _, _, hk, hh⟩
  · rw [hs, ← hb] at ha
    cases ha
  · -- the commit succeeded, and nothing follows a commit
    rw [hp] at hc
    cases c with
    | commit =>
      rw [done_of_did_commit hX (Reaches.step (.run t o) hr.any trivial)
        (hh ▸ did_self _ _ _)] at hu
      cases hu
    | _ => cases hc
  · rw [hp] at hc
    cases hc
  · rw [hk] at hu
    cases hu

end Runs

end WattGateway.Message

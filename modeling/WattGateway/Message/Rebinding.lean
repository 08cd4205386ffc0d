import WattGateway.Lib.Progress
import WattGateway.Message.Fences

/-!
# Concurrent rebuilds of a route

Ordinary publishes share the scope fence, so any number of `reconcile_scope_bindings` calls may
rebuild the rows of one route at the same time, each by a `DELETE` and one plain `INSERT` per member
and class. Two that overlap collide on the primary key (`rebuilds_collide`). As long as no call
deletes while another has rows left to insert, every call returns (`rebuilds_apart`).
-/

namespace WattGateway.Message.Rebinding

open Prog Sys Hist List Option Stmt Table Select DeliveryClass

variable {c : DeliveryClass} {p : String} {S : String → DeliveryClass → Prop} {X : Wattswarm}
  {h : Hist Cmd Query Ans} {w : World} {t : Nat} {n l a v : String} {ms : List String}

abbrev RebuildState := Sys Cmd Query Ans World Unit

/-- Any number of calls of `reconcile_scope_bindings` for one network and route, none of them
started. -/
def rebuilds (X : Wattswarm) (network : String) (route : EventTransportRoute) (w : World) :
    RebuildState :=
  start w fun _ => reconcileScopeBindings X network route

section

variable (n l a : String)

/-- The next statement of call `t` is an `INSERT` into the rows of the route: it is between its
`DELETE` and its last `INSERT`. -/
def Inserting (s : RebuildState) (t : Nat) : Prop :=
  ∃ p c v k, (s.threads t).prog = .cmd (.exec (.insertBinding n l a p c v)) k

/-- Database and broker serve every step, and no call deletes the rows of the route while another
is inserting them. -/
def Apart (s : RebuildState) : Action Env → Prop
  | .run t o => o = .ok ∧
      ∀ k, (s.threads t).prog = .cmd (.exec (.deleteRouteBindings n l a)) k →
        ∀ t', t' ≠ t → ¬ Inserting n l a s t'
  | .env _ => True

/-! ## What one call does -/

def NoExec (h : Hist Cmd Query Ans) : Prop := ∀ st, ¬ h.Did (.exec st)

def AllInserted (h : Hist Cmd Query Ans) : Prop :=
  ∃ v ms, h.Heard (.select (.scopeVersion n l)) (some v) ∧ h.Heard (.select (.members n l v)) ms ∧
    ∀ p ∈ ms, ∀ c, h.Did (.exec (.insertBinding n l a p c v))

/-- What a rebuild may issue after a history. -/
inductive CmdOk (h : Hist Cmd Query Ans) : Cmd → Prop
  | declare (q : String) (hn : NoExec h) : CmdOk h (.queueDeclare q)
  | bind (ex : Exchange) (q : String) (key : Digest) (hn : NoExec h)
      (hd : h.Did (.queueDeclare q)) : CmdOk h (.queueBind ex q key)
  | unbind (ex : Exchange) (q : String) (key : Digest) (hn : NoExec h) :
      CmdOk h (.queueUnbind ex q key)
  | delete (hn : NoExec h) : CmdOk h (.exec (.deleteRouteBindings n l a))
  | insert (v : String) (ms : List String) (p : String) (c : DeliveryClass)
      (hd : h.Did (.exec (.deleteRouteBindings n l a)))
      (hv : h.Heard (.select (.scopeVersion n l)) (some v))
      (hms : h.Heard (.select (.members n l v)) ms) (hp : p ∈ ms)
      (hnew : ms.Nodup → ¬ h.Did (.exec (.insertBinding n l a p c v))) :
      CmdOk h (.exec (.insertBinding n l a p c v))
  | activate (hall : AllInserted n l a h) : CmdOk h (.exec (.activateBindings n l))

def rebuildRule : Rule Cmd Query Ans where
  onCmd := CmdOk n l a
  onAsk h q := NoExec h ∧ ∃ st, q = .select st

def Rebuilt (h : Hist Cmd Query Ans) : Prop :=
  h.Did (.exec (.deleteRouteBindings n l a)) ∧ AllInserted n l a h

end

/-- The history has grown, and no statement has gone through the pool. -/
def Before (h h' : Hist Cmd Query Ans) : Prop := h <:+ h' ∧ NoExec h'

lemma Before.refl (hn : NoExec h) : Before h h :=
  ⟨suffix_refl h, hn⟩

lemma Before.trans {h' h'' : Hist Cmd Query Ans} (h₁ : Before h h') (h₂ : Before h' h'') :
    Before h h'' :=
  ⟨h₁.1.trans h₂.1, h₂.2⟩

lemma Before.heard (hn : NoExec h) (τ : Nat) (q : Query) (x : Ans q) :
    Before h ((τ, .heard q x) :: h) := by
  refine ⟨suffix_cons _ _, fun st hd => ?_⟩
  rw [did_heard] at hd
  exact hn st hd

lemma Before.did (hn : NoExec h) (τ : Nat) {c : Cmd} (hc : ∀ st, c ≠ .exec st) :
    Before h ((τ, .did c) :: h) := by
  refine ⟨suffix_cons _ _, fun st hd => ?_⟩
  rw [did_did] at hd
  rcases hd with hd | hd
  · exact hc st hd.symm
  · exact hn st hd

section Walk

variable {n l a : String}

lemma follows_select (hn : NoExec h) (st : Select) : (select st).Follows (rebuildRule n l a)
      (fun x h' => Before h h' ∧ h'.Heard (.select st) x) h :=
  follows_query ⟨hn, st, rfl⟩ fun τ x => ⟨Before.heard hn τ _ x, heard_self τ _ x h⟩

lemma follows_mailboxes (hn : NoExec h) (network principal : String) :
    (ensureTenantMailboxes X network principal).Follows (rebuildRule n l a)
      (fun _ h' => Before h h' ∧
        ∀ c, h'.Did (.queueDeclare (queueName X network principal c))) h := by
  refine (follows_marks (D := fun c h' => h'.Did (.queueDeclare (queueName X network principal c)))
    (Before.refl hn) Before.trans (fun hd hb => Did.mono hd hb.1) fun c _ h₁ hb₁ => ?_).mono
    fun _ _ hi => ⟨hi.1, fun c => hi.2 c (mem_all c)⟩
  refine .bind (follows_run (.declare _ hb₁.2) fun τ => ?_)
  have hb₂ := Before.did hb₁.2 τ (c := .queueDeclare (queueName X network principal c)) (by simp)
  have hd₂ := did_self τ (Cmd.queueDeclare (queueName X network principal c)) h₁
  refine follows_run (.bind _ _ _ hb₂.2 hd₂) fun τ' => ?_
  have hb₃ := Before.did hb₂.2 τ' (c := .queueBind (.direct c)
    (queueName X network principal c) (directRouteKey network principal)) (by simp)
  exact ⟨hb₂.trans hb₃, hd₂.mono hb₃.1⟩

lemma follows_bindMember (hn : NoExec h) (network principal address version : String) :
    (bindScopeMember X network principal address version).Follows (rebuildRule n l a)
      (fun _ h' => Before h h') h := by
  unfold bindScopeMember
  refine .bind ((follows_mailboxes hn network principal).mono ?_)
  rintro _ _ ⟨hb₁, hd₁⟩
  refine (follows_turns (Before.refl hb₁.2) Before.trans fun c _ h₂ hb₂ => ?_).mono
    fun _ _ hb₂ => hb₁.trans hb₂
  exact follows_run (.bind _ _ _ hb₂.2 ((hd₁ c).mono hb₂.1)) fun τ => .did hb₂.2 τ (by simp)

lemma follows_unbindMember (hn : NoExec h) (network principal address version : String) :
    (unbindScopeMember X network principal address version).Follows (rebuildRule n l a)
      (fun _ h' => Before h h') h := by
  refine follows_turns (Before.refl hn) Before.trans fun c _ h₁ hb₁ => ?_
  exact follows_run (.unbind _ _ _ hb₁.2) fun τ => .did hb₁.2 τ (by simp)

def InsertedAre (n l a v : String) (S : String → DeliveryClass → Prop)
    (h : Hist Cmd Query Ans) : Prop :=
  ∀ p c, h.Did (.exec (.insertBinding n l a p c v)) ↔ S p c

variable {v : String}

lemma InsertedAre.insert (hi : InsertedAre n l a v S h) (τ : Nat) :
    InsertedAre n l a v (fun p' c' => S p' c' ∨ p' = p ∧ c' = c)
      ((τ, .did (.exec (.insertBinding n l a p c v))) :: h) := by
  intro p' c'
  rw [did_did, hi p' c']
  simp only [Cmd.exec.injEq, Stmt.insertBinding.injEq, true_and, and_true]
  exact or_comm

lemma InsertedAre.congr {S S' : String → DeliveryClass → Prop} (hi : InsertedAre n l a v S h)
    (hS : ∀ p c, S p c ↔ S' p c) : InsertedAre n l a v S' h :=
  fun p c => (hi p c).trans (hS p c)

lemma follows_insertMember {ms done post : List String}
    (hsp : ms = done ++ p :: post) (hd : h.Did (.exec (.deleteRouteBindings n l a)))
    (hv : h.Heard (.select (.scopeVersion n l)) (some v))
    (hm : h.Heard (.select (.members n l v)) ms)
    (hi : InsertedAre n l a v (fun p' _ => p' ∈ done) h) :
    (forEach all fun c => exec (.insertBinding n l a p c v)).Follows
      (rebuildRule n l a)
      (fun _ h' => h <:+ h' ∧ InsertedAre n l a v (fun p' _ => p' ∈ done ++ [p]) h') h := by
  refine follows_forEach
    (I := fun cs h' => h <:+ h' ∧
      InsertedAre n l a v (fun p' c' => p' ∈ done ∨ p' = p ∧ c' ∈ cs) h')
    ⟨suffix_refl h, hi.congr fun p' c' => by simp⟩ ?_ ?_
  · rintro _ c _ h₁ hcs ⟨hs₁, hi₁⟩
    refine follows_run (.insert v ms p c (hd.mono hs₁) (hv.mono hs₁) (hm.mono hs₁)
      (by rw [hsp]; simp) ?_) fun τ => ?_
    · -- neither the member nor the class has had its turn
      intro hn hdid
      rw [hsp] at hn
      have ha : all.Nodup := by decide
      rw [hcs] at ha
      rcases (hi₁ p c).1 hdid with hp | ⟨-, hc⟩
      · exact (nodup_append.1 hn).2.2 p hp p (by simp) rfl
      · exact (nodup_append.1 ha).2.2 c hc c (by simp) rfl
    · refine ⟨hs₁.trans (suffix_cons _ _), (hi₁.insert τ).congr fun p' c' => ?_⟩
      rw [mem_append, mem_singleton]
      tauto
  · rintro _ ⟨hs₁, hi₁⟩
    refine ⟨hs₁, hi₁.congr fun p' c' => ?_⟩
    rw [mem_append, mem_singleton]
    simp [mem_all c']

lemma follows_rebindRoute (hn : NoExec h) (hv : h.Heard (.select (.scopeVersion n l)) (some v))
    (hm : h.Heard (.select (.members n l v)) ms) (bound : List String) :
    (rebindRoute X n l a v ms bound).Follows (rebuildRule n l a)
      (fun _ => Rebuilt n l a) h := by
  refine .bind ((follows_turns (Before.refl hn) Before.trans fun p _ h₁ hb₁ =>
    follows_bindMember hb₁.2 _ _ _ _).mono fun _ h₁ hb₁ => ?_)
  refine .bind ((follows_turns (Before.refl hb₁.2) Before.trans fun p _ h₂ hb₂ =>
    follows_unbindMember hb₂.2 _ _ _ _).mono fun _ h₂ hb₂ => ?_)
  have hs₂ := hb₁.1.trans hb₂.1
  refine .bind (follows_run (.delete hb₂.2) fun τ => ?_)
  have hs₃ := hs₂.trans (suffix_cons (τ, .did (.exec (.deleteRouteBindings n l a))) h₂)
  have hd₃ := did_self τ (Cmd.exec (.deleteRouteBindings n l a)) h₂
  -- one row per member and class
  refine .bind (follows_forEach
    (I := fun done h' => (τ, .did (.exec (.deleteRouteBindings n l a))) :: h₂ <:+ h' ∧
      InsertedAre n l a v (fun p _ => p ∈ done) h') ⟨suffix_refl _, ?_⟩ ?_ ?_)
  · intro p c
    rw [did_did]
    simpa using hb₂.2 _
  · rintro _ p _ h₄ hsp ⟨hs₄, hi₄⟩
    refine (follows_insertMember hsp (hd₃.mono hs₄) (hv.mono (hs₃.trans hs₄))
      (hm.mono (hs₃.trans hs₄)) hi₄).mono ?_
    rintro _ _ ⟨hs₅, hi₅⟩
    exact ⟨hs₄.trans hs₅, hi₅⟩
  rintro h₄ ⟨hs₄, hi₄⟩
  have hall : AllInserted n l a h₄ :=
    ⟨v, ms, hv.mono (hs₃.trans hs₄), hm.mono (hs₃.trans hs₄), fun p hp c => (hi₄ p c).2 hp⟩
  refine follows_run (.activate hall) fun τ' => ⟨(hd₃.mono hs₄).mono (suffix_cons _ _), ?_⟩
  obtain ⟨v', ms', hv', hm', hall'⟩ := hall
  exact ⟨v', ms', hv'.cons _, hm'.cons _, fun p hp c => (hall' p hp c).mono (suffix_cons _ _)⟩

lemma follows_reconcile {route : EventTransportRoute} (hscope : directRecipient route.scope = none)
    (hl : X.scopeLabel route.scope = some l) :
    (reconcileScopeBindings X n route).Follows (rebuildRule n l route.address)
      (fun _ => Rebuilt n l route.address) [] := by
  unfold reconcileScopeBindings
  split
  · rename_i hs
    rw [hs] at hscope
    cases hscope
  · rw [hl]
    show (reconcileShared X n l route.address).Follows _ _ []
    have hn : NoExec [] := fun st => not_did_nil _
    refine .bind ((follows_select hn _).mono ?_)
    rintro _ _ ⟨hb₁, hv⟩
    refine .bind (follows_ofOption fun v ho => ?_)
    subst ho
    refine .bind ((follows_select hb₁.2 _).mono ?_)
    rintro _ _ ⟨hb₂, hm⟩
    refine .bind ((follows_select hb₂.2 _).mono ?_)
    rintro bound _ ⟨hb₃, -⟩
    exact follows_rebindRoute hb₃.2 (hv.mono (hb₂.1.trans hb₃.1)) (hm.mono hb₃.1) bound

lemma errs_rebindRoute (v : String) (ms bound : List String) :
    (rebindRoute X n l a v ms bound).Errs fun _ => False := by
  have mailboxes : ∀ network principal, (ensureTenantMailboxes X network principal).Errs
      fun _ => False := fun _ _ => errs_forEach fun _ _ => (errs_run _).bind fun _ => errs_run _
  unfold rebindRoute
  refine (errs_forEach fun p _ => (mailboxes n p).bind fun _ => ?_).bind fun _ => ?_
  · exact errs_forEach fun _ _ => errs_run _
  refine (errs_forEach fun p _ => errs_forEach fun _ _ => errs_run _).bind fun _ => ?_
  refine (errs_run _).bind fun _ => ?_
  refine (errs_forEach fun p _ => errs_forEach fun _ _ => errs_run _).bind fun _ => errs_run _

lemma fails_reconcile {route : EventTransportRoute} (hscope : directRecipient route.scope = none)
    (hl : X.scopeLabel route.scope = some l) : (reconcileScopeBindings X n route).FailsWhen
      (fun _ h => h.Heard (.select (.scopeVersion n l)) none) [] := by
  unfold reconcileScopeBindings
  split
  · rename_i hs
    rw [hs] at hscope
    cases hscope
  · rw [hl]
    intro τ version
    cases version with
    | none => exact heard_self τ _ _ _
    | some v =>
      refine Errs.failsWhen (E := fun _ => False) ?_ fun _ _ hf => hf.elim
      exact (errs_query _).bind fun ms => (errs_query _).bind fun bound => errs_rebindRoute v ms bound

end Walk

/-! ## The rows of the route -/

section Rows

variable {db db' : Db} {now : Nat}

/-- The rows of the route are those of `S`, active under version `v`. -/
def RowsAre (n l a v : String) (S : String → DeliveryClass → Prop) (db : Db) : Prop :=
  ∀ p c r, db.routeBindings.get? (n, l, a, p, c) = some r ↔ S p c ∧ r = ⟨v, .active⟩

lemma RowsAre.congr {S' : String → DeliveryClass → Prop} (h : RowsAre n l a v S db)
    (hS : ∀ p c, S p c ↔ S' p c) : RowsAre n l a v S' db := by
  intro p c r
  rw [h p c r, hS p c]

lemma rowsAre_delete (h : Stmt.run now db (.deleteRouteBindings n l a) = .ok db') :
    RowsAre n l a v (fun _ _ => False) db' := by
  obtain ⟨-, hb, -⟩ := run_ok h
  intro _ _ _
  rw [hb, Stmt.onBindings, get?_delete, filter_eq_some_iff]
  simp

lemma RowsAre.insert (h : RowsAre n l a v S db)
    (hnew : ¬ S p c) (hrun : Stmt.run now db (.insertBinding n l a p c v) = .ok db') :
    RowsAre n l a v (fun p' c' => S p' c' ∨ p' = p ∧ c' = c) db' := by
  obtain ⟨-, hb, -⟩ := run_ok hrun
  intro p' c' r
  rw [hb, Stmt.onBindings, get?_insertNew]
  by_cases hk : p' = p ∧ c' = c
  · obtain ⟨rfl, rfl⟩ := hk
    have hno : db.routeBindings.get? (n, l, a, p', c') = none := by
      rw [eq_none_iff_forall_ne_some]
      exact fun r hr => hnew ((h p' c' r).1 hr).1
    simp [hno, eq_comm]
  · have hne : ¬ (n, l, a, p', c') = (n, l, a, p, c) := by simpa using hk
    rw [if_neg hne, or_none, h p' c' r]
    simp [hk]

lemma RowsAre.can_insert (h : RowsAre n l a v S db)
    (hn : ¬ S p c) (now : Nat) : ∃ db', Stmt.run now db (.insertBinding n l a p c v) = .ok db' := by
  simp only [Stmt.run]
  split
  · exact ⟨_, rfl⟩
  · rename_i hno
    obtain ⟨r, hr⟩ := insert?_eq_none.1 hno
    exact absurd ((h p c r).1 hr).1 hn

lemma members_nodup (now : Nat) (db : Db) (n l v : String) :
    (run now db (.members n l v)).Nodup := by
  show (((db.activeRows n l).filter _).map _).Nodup
  refine (List.Nodup.filter _ (List.Nodup.filter _ (List.Nodup.of_map _ db.memberships.nodup))).map_on
    ?_
  rintro ⟨⟨_, _, _⟩, _⟩ h₁ ⟨⟨_, _, _⟩, _⟩ h₂ hp
  obtain ⟨hk₁, hg₁, -⟩ := Db.mem_activeRows.1 (mem_of_mem_filter h₁)
  obtain ⟨hk₂, hg₂, -⟩ := Db.mem_activeRows.1 (mem_of_mem_filter h₂)
  dsimp only at hp hk₁ hk₂ hg₁ hg₂
  rw [hk₁] at hg₁ ⊢
  rw [hk₂] at hg₂ ⊢
  subst hp
  rw [hg₁] at hg₂
  rw [Option.some.inj hg₂]

end Rows

/-! ## Runs -/

section Runs

variable {n l v : String} {route : EventTransportRoute} {s : RebuildState}

abbrev Runs (X : Wattswarm) (n l : String) (route : EventTransportRoute) (w : World)
    (s : RebuildState) : Prop :=
  Reaches gateway (Apart n l route.address) (rebuilds X n route w) s

def IsMember (n l v : String) (w : World) (p : String) : Prop :=
  ∃ roles, w.db.member n l p = some (v, .active, roles)

lemma declared_of_runs (h : Runs X n l route w s) {q : String}
    (hd : (s.threads t).hist.Did (.queueDeclare q)) : q ∈ s.world.broker.queues := by
  have hi : ∀ t q, (s.threads t).hist.Did (.queueDeclare q) → q ∈ s.world.broker.queues := by
    refine h.invariant
      (P := fun s => ∀ t q, (s.threads t).hist.Did (.queueDeclare q) → q ∈ s.world.broker.queues)
      (fun t q hd => absurd hd (not_did_nil _)) ?_
    intro s act hr _ hs t q ⟨τ, hm⟩
    have hg : s.world.broker.queues ⊆ (s.step gateway act).world.broker.queues := by
      rcases world_step s act with ⟨-, hb, -⟩ | ⟨e, -, hw⟩ | ⟨t, o, _, k, _, w', -, -, -, he, -, hb, -⟩
      · rw [hb]
        exact List.Subset.refl _
      · rw [hw]
        cases e <;> exact List.Subset.refl _
      · rw [hb]
        exact he.queues
    rcases did_of_step hm with hold | ⟨_, _, _, w', -, -, -, hx, ht⟩
    · exact hg (hs t q ⟨τ, hold⟩)
    · rw [ht, settle_broker, advance_world]
      have he : Cmd.Effect t (.ok ()) s.world w' (.queueDeclare q) := perform_ok hx
      rw [he]
      exact Broker.mem_queueDeclare.2 (.inl rfl)
  exact hi t q hd

variable (hscope : directRecipient route.scope = none) (hl : X.scopeLabel route.scope = some l)
  (hv : run w.now w.db (.scopeVersion n l) = some v)

include hscope hl

lemma follows_of_runs (h : Runs X n l route w s) :
    FollowsAll (fun _ => rebuildRule n l route.address) (fun _ _ => Rebuilt n l route.address)
      s :=
  h.follows fun _ => follows_reconcile hscope hl

lemma cmdOk_of_runs (h : Runs X n l route w s) {c : Cmd} {k : Gw Unit}
    (hp : (s.threads t).prog = .cmd c k) : CmdOk n l route.address (s.threads t).hist c := by
  have hf := follows_of_runs hscope hl h t
  rw [hp] at hf
  exact hf.1

lemma sameScope_of_runs (h : Runs X n l route w s) : Db.SameScope n l w.db s.world.db := by
  refine h.invariant (P := fun s => Db.SameScope n l w.db s.world.db) (Db.SameScope.refl _ _ _) ?_
  intro s act hr _ hs
  refine hs.trans ?_
  rcases world_step s act with ⟨hd, -⟩ | ⟨e, -, hw⟩ | ⟨_, _, _, _, _, _, -, hp, -, he, hd, -⟩
  · rw [hd]
    exact Db.SameScope.refl _ _ _
  · rw [hw]
    cases e <;> exact ⟨fun _ => rfl, rfl⟩
  · rw [hd]
    rcases he.db with hb | ⟨_, rfl, hu⟩ | ⟨rfl, -⟩
    · rw [hb]
      exact Db.SameScope.refl _ _ _
    · refine Stmt.Pooled.sameScope ?_ hu n l
      cases cmdOk_of_runs hscope hl hr hp <;> trivial
    · cases cmdOk_of_runs hscope hl hr hp

/-- What a call hears is what the tables held at the start of the run, on the version and the
members of the scope. -/
lemma select_of_heard (h : Runs X n l route w s) {sel : Select} {x : sel.Row}
    (hx : (s.threads t).hist.Heard (.select sel) x) :
    ∃ now db, x = sel.run now db ∧ Db.SameScope n l w.db db := by
  obtain ⟨s', _, _, _, h₁, -, -, -, ha⟩ := Reaches.asked (fun _ => rfl) h hx
  obtain ⟨_, hb⟩ := answer_ok ha
  exact ⟨s'.world.now, s'.world.db, (Except.ok.inj hb).symm, sameScope_of_runs hscope hl h₁⟩

include hv

lemma version_of_heard (h : Runs X n l route w s) {x : Option String}
    (hx : (s.threads t).hist.Heard (.select (.scopeVersion n l)) x) : x = some v := by
  obtain ⟨_, db, rfl, hs⟩ := select_of_heard hscope hl h hx
  rw [← hv]
  show (db.scopeVersions.get? (n, l)).map _ = (w.db.scopeVersions.get? (n, l)).map _
  rw [hs.2]

omit hv in
lemma members_of_heard (h : Runs X n l route w s)
    (hx : (s.threads t).hist.Heard (.select (.members n l v)) ms) :
    ms.Nodup ∧ ∀ p, p ∈ ms ↔ IsMember n l v w p := by
  obtain ⟨now, db, rfl, hs⟩ := select_of_heard hscope hl h hx
  refine ⟨members_nodup now db n l v, fun p => ?_⟩
  rw [mem_members, hs.1 p]
  exact Iff.rfl

lemma inserted_of_allInserted (h : Runs X n l route w s)
    (ha : AllInserted n l route.address (s.threads t).hist) (hp : IsMember n l v w p)
    (c : DeliveryClass) :
    (s.threads t).hist.Did (.exec (.insertBinding n l route.address p c v)) := by
  obtain ⟨_, _, hv', hm, hd⟩ := ha
  cases version_of_heard hscope hl hv h hv'
  exact hd p (((members_of_heard hscope hl h hm).2 p).2 hp) c

lemma member_of_inserted (h : Runs X n l route w s) {p v' : String}
    (hd : (s.threads t).hist.Did (.exec (.insertBinding n l route.address p c v'))) :
    IsMember n l v w p := by
  have he : ∀ t, ((rebuilds X n route w).threads t).hist = [] := fun _ => rfl
  obtain ⟨_, hs, hok⟩ := h.did_allowed (fun _ => follows_reconcile hscope hl) he hd
  cases hok with
  | insert _ _ _ _ _ hv' hm hp =>
    cases version_of_heard hscope hl hv h (hv'.mono hs)
    exact ((members_of_heard hscope hl h (hm.mono hs)).2 p).1 hp

end Runs

/-! ## The rows in a run -/

section Invariant

variable {s s' : RebuildState}

/-- Call `t` has deleted the rows of the route and not inserted all of them. -/
def Rebuilding (n l a v : String) (w : World) (s : RebuildState) (t : Nat) : Prop :=
  (s.threads t).hist.Did (.exec (.deleteRouteBindings n l a)) ∧ ∃ p c, IsMember n l v w p ∧
      ¬ (s.threads t).hist.Did (.exec (.insertBinding n l a p c v))

/-- At most one call is rebuilding; the rows are those it has inserted, or, after a rebuild, those
of all members. -/
structure RowsInv (n l a v : String) (w : World) (s : RebuildState) : Prop where
  one : ∀ t t', Rebuilding n l a v w s t → Rebuilding n l a v w s t' → t = t'
  rows : ∀ t, Rebuilding n l a v w s t → RowsAre n l a v
    (fun p c => (s.threads t).hist.Did (.exec (.insertBinding n l a p c v))) s.world.db
  full : ∀ t, (s.threads t).hist.Did (.exec (.deleteRouteBindings n l a)) →
    (∀ t', ¬ Rebuilding n l a v w s t') → RowsAre n l a v (fun p _ => IsMember n l v w p) s.world.db

lemma RowsInv.of_same (hi : RowsInv n l a v w s)
    (hd : ∀ t, (s'.threads t).hist.Did (.exec (.deleteRouteBindings n l a)) ↔
      (s.threads t).hist.Did (.exec (.deleteRouteBindings n l a)))
    (hn : ∀ t p c, (s'.threads t).hist.Did (.exec (.insertBinding n l a p c v)) ↔
      (s.threads t).hist.Did (.exec (.insertBinding n l a p c v)))
    (hb : s'.world.db.routeBindings = s.world.db.routeBindings) : RowsInv n l a v w s' := by
  have hr : ∀ t, Rebuilding n l a v w s' t ↔ Rebuilding n l a v w s t := by
    intro t
    unfold Rebuilding
    simp only [hd, hn]
  have ho : ∀ {S}, RowsAre n l a v S s.world.db → RowsAre n l a v S s'.world.db := by
    intro _ hS p c r
    rw [hb]
    exact hS p c r
  constructor
  · intro t t' ht ht'
    exact hi.one t t' ((hr t).1 ht) ((hr t').1 ht')
  · intro t ht
    exact (ho (hi.rows t ((hr t).1 ht))).congr fun p c => (hn t p c).symm
  · intro t ht hno
    exact ho (hi.full t ((hd t).1 ht) fun t' ht' => hno t' ((hr t').2 ht'))

variable {now : Nat}

lemma rowsInv_delete (hot : ∀ t', t' ≠ t → ¬ Rebuilding n l a v w s t')
    (hn : NoExec (s.threads t).hist)
    (hr : Stmt.run now s.world.db (.deleteRouteBindings n l a) = .ok s'.world.db)
    (hdid : ∀ t' c', (s'.threads t').hist.Did c' ↔
      t' = t ∧ c' = .exec (.deleteRouteBindings n l a) ∨ (s.threads t').hist.Did c') :
    RowsInv n l a v w s' := by
  have hi : ∀ p c, ¬ (s'.threads t).hist.Did (.exec (.insertBinding n l a p c v)) := by
    intro p c hd
    rcases (hdid _ _).1 hd with ⟨-, hc⟩ | hd
    · cases hc
    · exact hn _ hd
  have ho : ∀ t', Rebuilding n l a v w s' t' → t' = t := by
    rintro t' ⟨hdel, p, c, hp, hnot⟩
    by_contra ht
    refine hot t' ht ⟨?_, p, c, hp, fun hd => hnot ((hdid _ _).2 (.inr hd))⟩
    rcases (hdid _ _).1 hdel with ⟨he, -⟩ | hd
    · exact absurd he ht
    · exact hd
  have hm : RowsAre n l a v (fun _ _ => False) s'.world.db := rowsAre_delete hr
  constructor
  · intro t₁ t₂ h₁ h₂
    rw [ho t₁ h₁, ho t₂ h₂]
  · intro t' ht'
    cases ho t' ht'
    exact hm.congr fun p c => iff_of_false not_false (hi p c)
  · -- a call that has inserted nothing and is not rebuilding had nothing to insert
    intro _ _ hno
    have hdel : (s'.threads t).hist.Did (.exec (.deleteRouteBindings n l a)) :=
      (hdid _ _).2 (.inl ⟨rfl, rfl⟩)
    refine hm.congr fun p c => iff_of_false not_false fun hp => ?_
    exact hno t ⟨hdel, p, c, hp, hi p c⟩

lemma RowsInv.insert (hi : RowsInv n l a v w s)
    (hd : (s.threads t).hist.Did (.exec (.deleteRouteBindings n l a)))
    (hp : IsMember n l v w p)
    (hnew : ¬ (s.threads t).hist.Did (.exec (.insertBinding n l a p c v)))
    (hrun : Stmt.run now s.world.db (.insertBinding n l a p c v) = .ok s'.world.db)
    (hdid : ∀ t' c', (s'.threads t').hist.Did c' ↔
      t' = t ∧ c' = .exec (.insertBinding n l a p c v) ∨ (s.threads t').hist.Did c')
    (hmem : ∀ p c, (s'.threads t).hist.Did (.exec (.insertBinding n l a p c v)) →
      IsMember n l v w p) : RowsInv n l a v w s' := by
  have he : Rebuilding n l a v w s t := ⟨hd, p, c, hp, hnew⟩
  have ho : ∀ t', Rebuilding n l a v w s' t' → t' = t := by
    rintro t' ⟨hdel, p', c', hp', hn⟩
    refine hi.one t' t ⟨?_, p', c', hp', fun hd => hn ((hdid _ _).2 (.inr hd))⟩ he
    rcases (hdid _ _).1 hdel with ⟨-, hc⟩ | hd
    · cases hc
    · exact hd
  have hr : RowsAre n l a v
      (fun p c => (s'.threads t).hist.Did (.exec (.insertBinding n l a p c v))) s'.world.db := by
    refine ((hi.rows t he).insert hnew hrun).congr fun p' c' => ?_
    rw [hdid]
    simp only [Cmd.exec.injEq, Stmt.insertBinding.injEq, true_and, and_true]
    exact or_comm
  constructor
  · intro t₁ t₂ h₁ h₂
    rw [ho t₁ h₁, ho t₂ h₂]
  · intro t' ht'
    cases ho t' ht'
    exact hr
  · intro _ _ hno
    refine hr.congr fun p' c' => ⟨hmem p' c', fun hp' => ?_⟩
    by_contra hn
    exact hno t ⟨(hdid _ _).2 (.inr hd), p', c', hp', hn⟩

end Invariant

/-! ## All calls return -/

section Main

variable {X : Wattswarm} {n l v : String} {route : EventTransportRoute} {w : World}
  {s : RebuildState} {t : Nat}
  (hscope : directRecipient route.scope = none) (hl : X.scopeLabel route.scope = some l)
  (hv : run w.now w.db (.scopeVersion n l) = some v)

include hscope hl hv

lemma inserting_of_rebuilding (h : Runs X n l route w s)
    (hfa : ∀ e, (s.threads t).prog ≠ .fail e)
    (hr : Rebuilding n l route.address v w s t) : Inserting n l route.address s t := by
  obtain ⟨hd, _, c, hp, ho⟩ := hr
  have hf := follows_of_runs hscope hl h t
  cases hpr : (s.threads t).prog with
  | ret =>
    rw [hpr] at hf
    exact absurd (inserted_of_allInserted hscope hl hv h hf.2 hp c) ho
  | fail e => exact absurd hpr (hfa e)
  | ask =>
    rw [hpr] at hf
    exact absurd hd (hf.1.1 _)
  | cmd _ k =>
    cases cmdOk_of_runs hscope hl h hpr with
    | declare _ hn | bind _ _ _ hn _ | unbind _ _ _ hn | delete hn => exact absurd hd (hn _)
    | insert v' _ p' c'' => exact ⟨p', c'', v', k, hpr⟩
    | activate ha => exact absurd (inserted_of_allInserted hscope hl hv h ha hp c) ho

lemma perform_of_runs (h : Runs X n l route w s) (hi : RowsInv n l route.address v w s)
    {c : Cmd} {k : Gw Unit} (hp : (s.threads t).prog = .cmd c k) :
    ∃ w', perform t c .ok s.world = some (.ok (), w') := by
  cases cmdOk_of_runs hscope hl h hp with
  | declare | unbind | delete | activate => exact ⟨_, rfl⟩
  | bind ex q key _ hd =>
    refine ⟨{ s.world with broker := s.world.broker.queueBind ex q key }, ?_⟩
    show (if q ∈ s.world.broker.queues then _ else _) = _
    rw [if_pos (declared_of_runs h hd)]
    rfl
  | insert _ _ p c hd hv' hs hm hn =>
    cases version_of_heard hscope hl hv h hv'
    obtain ⟨hno, he⟩ := members_of_heard hscope hl h hs
    have hr := hi.rows t ⟨hd, p, c, (he p).1 hm, hn hno⟩
    obtain ⟨db', hb⟩ := hr.can_insert (hn hno) s.world.now
    refine ⟨{ s.world with db := db' }, ?_⟩
    show execStmt .ok s.world (Stmt.run s.world.now s.world.db _) = _
    rw [hb]
    rfl

lemma rowsInv_step (h : Runs X n l route w s) (hi : RowsInv n l route.address v w s)
    (hf : ∀ t e, (s.threads t).prog ≠ .fail e) {act : Action Env}
    (hc : Apart n l route.address s act) : RowsInv n l route.address v w (s.step gateway act) := by
  have hne := h.step act hc
  rcases step_cases gateway s act with hs | ⟨e, -, hs⟩ | ⟨t, o, c, k, _, w', rfl, hp, hx, hs⟩ |
    ⟨t, o, q, k, _, w', rfl, hp, hx, hs⟩ | ⟨t, o, c, k, e, w', rfl, hp, hx, hs⟩ |
    ⟨t, o, q, k, e, w', rfl, hp, hx, hs⟩
  · rw [hs]
    exact hi
  · rw [hs]
    exact hi.of_same (fun _ => Iff.rfl) (fun _ _ _ => Iff.rfl) (by cases e <;> rfl)
  · have he := perform_ok hx
    have hdid : ∀ t' c', ((s.step gateway (.run t o)).threads t').hist.Did c' ↔
        t' = t ∧ c' = c ∨ (s.threads t').hist.Did c' := by
      intro t' _
      rw [hs]
      exact did_advance
    have hb : (s.step gateway (.run t o)).world.db = w'.db := by
      rw [hs, settle_db, advance_world]
    cases cmdOk_of_runs hscope hl h hp with
    | declare q hn | bind ex q key hn hd | unbind ex q key hn =>
      refine hi.of_same (fun t' => (hdid _ _).trans (by simp))
        (fun t' p c => (hdid _ _).trans (by simp)) ?_
      rw [hb, he]
    | delete hn =>
      obtain ⟨db', hu, rfl⟩ := he
      refine rowsInv_delete (fun t' ht hr => ?_) hn (hu.trans (congrArg Except.ok hb.symm)) hdid
      exact hc.2 k hp t' ht (inserting_of_rebuilding hscope hl hv h (hf t') hr)
    | insert v' ms p c hd hv' hms hm hw =>
      cases version_of_heard hscope hl hv h hv'
      obtain ⟨hno, hme⟩ := members_of_heard hscope hl h hms
      obtain ⟨db', hu, rfl⟩ := he
      exact hi.insert hd ((hme p).1 hm) (hw hno)
        (hu.trans (congrArg Except.ok hb.symm)) hdid
        fun p c hd => member_of_inserted hscope hl hv hne hd
    | activate =>
      obtain ⟨_, hu, rfl⟩ := he
      refine hi.of_same (fun t' => (hdid _ _).trans (by simp))
        (fun t' p c => (hdid _ _).trans (by simp)) ?_
      rw [hb]
      exact (run_ok hu).2.1
  · refine hi.of_same (fun t' => ?_) (fun t' p c => ?_) ?_
    · rw [hs]
      exact did_answer
    · rw [hs]
      exact did_answer
    · rw [hs, settle_db, advance_world, answer_world hx]
  · obtain ⟨_, hok⟩ := perform_of_runs hscope hl hv h hi hp
    have hx' : perform t c o s.world = some (.error e, w') := hx
    rw [hc.1, hok] at hx'
    cases hx'
  · refine hi.of_same (fun t' => ?_) (fun t' p c => ?_) ?_
    · rw [hs, hist_abort]
    · rw [hs, hist_abort]
    · rw [hs, settle_db, abort_world, answer_world hx]

lemma not_fail_of_failsWhen (h : Runs X n l route w s)
    (hf : (s.threads t).prog.FailsWhen
      (fun _ h => h.Heard (.select (.scopeVersion n l)) none) (s.threads t).hist) (e : String) :
    (s.threads t).prog ≠ .fail e := by
  intro hp
  rw [hp] at hf
  cases version_of_heard hscope hl hv h hf

lemma inv_of_runs (h : Runs X n l route w s) :
    RowsInv n l route.address v w s ∧ ∀ t, (s.threads t).prog.FailsWhen
      (fun _ h => h.Heard (.select (.scopeVersion n l)) none) (s.threads t).hist := by
  refine h.invariant (P := fun s => RowsInv n l route.address v w s ∧
    ∀ t, (s.threads t).prog.FailsWhen (fun _ h => h.Heard (.select (.scopeVersion n l)) none)
      (s.threads t).hist) ⟨?_, fun t => fails_reconcile hscope hl⟩ ?_
  · have hn : ∀ t, ¬ Rebuilding n l route.address v w (rebuilds X n route w) t :=
      fun t hr => not_did_nil _ hr.1
    exact ⟨fun t _ ht _ => absurd ht (hn t), fun t ht => absurd ht (hn t),
      fun t ht _ => absurd ht (not_did_nil _)⟩
  · rintro s _ hr hc ⟨hi, hf⟩
    refine ⟨rowsInv_step hscope hl hv hr hi
      (fun t => not_fail_of_failsWhen hscope hl hv hr (hf t)) hc, fun t => ?_⟩
    refine failsWhen_step (hf t) ?_ ?_
    · rintro o c k e w' rfl hp hx
      obtain ⟨_, hok⟩ := perform_of_runs hscope hl hv hr hi hp
      have hx' : perform t c o s.world = some (.error e, w') := hx
      rw [hc.1, hok] at hx'
      cases hx'
    · rintro o q k e w' rfl hp hx
      have ho := follows_of_runs hscope hl hr t
      rw [hp] at ho
      obtain ⟨-, st, rfl⟩ := ho.1
      have hx' : answer t (.select st) o s.world = some (.error e, w') := hx
      rw [hc.1] at hx'
      cases hx'

lemma ret_of_done (h : Runs X n l route w s) (hd : (s.threads t).prog.isDone = true) :
    (s.threads t).prog = .ret () := by
  cases hp : (s.threads t).prog with
  | ret => rfl
  | fail e =>
    exact absurd hp (not_fail_of_failsWhen hscope hl hv h ((inv_of_runs hscope hl hv h).2 t) e)
  | _ =>
    rw [hp] at hd
    cases hd

/-- A call that runs alone while no other has rows left to insert returns. -/
lemma returns_alone (h : Runs X n l route w s)
    (hot : ∀ t', t' ≠ t → ¬ Inserting n l route.address s t') :
    ∃ k, ((s.runActions gateway (List.replicate k (.run t .ok))).threads t).prog = .ret () := by
  have ha := completes_alone (m := gateway) (s := s) (t := t) .ok
    (P := fun s => Runs X n l route w s ∧ ∀ t', t' ≠ t → ¬ Inserting n l route.address s t')
    ?_ ?_ ⟨h, hot⟩
  · obtain ⟨k, ⟨hk, -⟩, hd⟩ := ha
    exact ⟨k, ret_of_done hscope hl hv hk hd⟩
  · rintro s ⟨hs, ho⟩
    refine ⟨hs.step _ ⟨rfl, fun _ _ => ho⟩, fun t' ht ⟨p, c, v, k, hi⟩ => ?_⟩
    rw [step_other ht] at hi
    exact ho t' ht ⟨p, c, v, k, hi⟩
  · rintro s ⟨hs, -⟩ hd
    cases hp : (s.threads t).prog with
    | cmd =>
      obtain ⟨_, hx⟩ := perform_of_runs hscope hl hv hs (inv_of_runs hscope hl hv hs).1 hp
      exact step_ne_of_perform hp hx
    | ask =>
      have hf := follows_of_runs hscope hl hs t
      rw [hp] at hf
      obtain ⟨-, _, rfl⟩ := hf.1
      exact step_ne_of_answer hp rfl
    | _ =>
      rw [hp] at hd
      cases hd

end Main

/-- In every run of any number of calls for one route in which no call deletes the rows while
another has rows left to insert: no call has failed, a call that is let run returns, and once all
calls that have started have returned, the table holds exactly one active row per active member and
class for the route. -/
theorem rebuilds_apart (X : Wattswarm) (n l v : String) (route : EventTransportRoute) (w : World)
    (hscope : directRecipient route.scope = none) (hl : X.scopeLabel route.scope = some l)
    (hv : run w.now w.db (.scopeVersion n l) = some v) (s : RebuildState)
    (h : Sys.Reaches gateway (Apart n l route.address) (rebuilds X n route w) s) :
    (∀ t e, (s.threads t).prog ≠ .fail e) ∧
    (∀ t, (∀ t', t' ≠ t → ¬ Inserting n l route.address s t') →
      ∃ k, ((s.runActions gateway (List.replicate k (.run t .ok))).threads t).prog = .ret ()) ∧
    ((∀ t, (s.threads t).hist = [] ∨ (s.threads t).prog.isDone = true) →
      (∃ t, (s.threads t).hist ≠ []) → ∀ p c r,
        s.world.db.routeBindings.get? (n, l, route.address, p, c) = some r ↔
          p ∈ run s.world.now s.world.db (.members n l v) ∧ r = ⟨v, .active⟩) := by
  obtain ⟨hi, hf⟩ := inv_of_runs hscope hl hv h
  have hfa := fun t => not_fail_of_failsWhen hscope hl hv h (hf t)
  have hr : ∀ t, (s.threads t).prog.isDone = true →
      Rebuilt n l route.address (s.threads t).hist := by
    intro t hd
    have ho := follows_of_runs hscope hl h t
    rw [ret_of_done hscope hl hv h hd] at ho
    exact ho
  refine ⟨hfa, fun t => returns_alone hscope hl hv h, fun ha hs p c r => ?_⟩
  have hno : ∀ t, ¬ Rebuilding n l route.address v w s t := by
    rintro t ⟨hdel, p, c, hp, hn⟩
    rcases ha t with he | hd
    · rw [he] at hdel
      exact not_did_nil _ hdel
    · exact hn (inserted_of_allInserted hscope hl hv h (hr t hd).2 hp c)
  obtain ⟨t, ht⟩ := hs
  have hdel := (hr t ((ha t).resolve_left ht)).1
  rw [hi.full t hdel hno p c r, mem_members, (sameScope_of_runs hscope hl h).1 p]
  exact Iff.rfl

/-! ## Two calls -/

namespace Colliding

open Sample

def route : EventTransportRoute := ⟨.global, .events, "ws.global.PolicyTuned"⟩

def begun : RebuildState := rebuilds (wattswarm []) "n" route world

def first : RebuildState := begun.runActions gateway (steps 0 13)

def second : RebuildState := first.runActions gateway (steps 1 13)

lemma not_inserting_begun (t : Nat) : ¬ Inserting "n" "global" route.address begun t := by
  rintro ⟨_, _, _, _, hp⟩
  cases hp

lemma reaches_first : Reaches gateway (Apart "n" "global" route.address) begun first ∧
      ∀ t, t ≠ 0 → first.threads t = begun.threads t := by
  refine reaches_alone 13 begun fun j _ ho => ⟨rfl, fun k _ t ht hi => ?_⟩
  obtain ⟨p, c, v, k', hp⟩ := hi
  rw [ho t ht] at hp
  exact not_inserting_begun t ⟨p, c, v, k', hp⟩

set_option maxRecDepth 100000

lemma first_done : (first.threads 0).prog.isDone = true := by decide

lemma not_inserting_first (t : Nat) : ¬ Inserting "n" "global" route.address first t := by
  rintro ⟨p, c, v, k, hp⟩
  by_cases ht : t = 0
  · have hd := first_done
    rw [← ht, hp] at hd
    cases hd
  · rw [reaches_first.2 t ht] at hp
    exact not_inserting_begun t ⟨p, c, v, k, hp⟩

lemma reaches_second : Reaches gateway (Apart "n" "global" route.address) first second ∧
      ∀ t, t ≠ 1 → second.threads t = first.threads t := by
  refine reaches_alone 13 first fun j _ ho => ⟨rfl, fun k _ t ht hi => ?_⟩
  obtain ⟨p, c, v, k', hp⟩ := hi
  rw [ho t ht] at hp
  exact not_inserting_first t ⟨p, c, v, k', hp⟩

lemma second_done : (second.threads 1).prog.isDone = true ∧
    (second.threads 1).hist.isEmpty = false := by
  decide

end Colliding

open Colliding Sample in
/-- Two calls that both delete before either inserts: the second insert of the row fails, with
every statement served and the members unchanged. -/
theorem rebuilds_collide : ((begun.runActions gateway
      (steps 0 10 ++ steps 1 10 ++ steps 0 1 ++ steps 1 1)).threads 1).prog =
        .fail "duplicate key value violates unique constraint" :=
  error?_eq_some.1 (by decide)

open Colliding Sample in
theorem rebuilds_apart_in_turn :
    (first.threads 0).prog.isDone = true ∧ (second.threads 1).prog.isDone = true ∧ ∀ p c r,
      second.world.db.routeBindings.get? ("n", "global", route.address, p, c) = some r ↔
        p ∈ run second.world.now second.world.db
          (.members "n" "global" (trustedGenesisVersion "g")) ∧
          r = ⟨trustedGenesisVersion "g", .active⟩ := by
  have hv : run world.now world.db (.scopeVersion "n" "global") =
      some (trustedGenesisVersion "g") := by decide
  have ha := rebuilds_apart (wattswarm []) "n" "global" (trustedGenesisVersion "g") route world
    rfl rfl hv second (reaches_first.1.trans reaches_second.1)
  refine ⟨first_done, second_done.1, ha.2.2 (fun t => ?_) ⟨1, fun he => ?_⟩⟩
  · by_cases h₁ : t = 1
    · rw [h₁]
      exact .inr second_done.1
    · rw [reaches_second.2 t h₁]
      by_cases h₀ : t = 0
      · rw [h₀]
        exact .inr first_done
      · rw [reaches_first.2 t h₀]
        exact .inl rfl
  · have hne := second_done.2
    rw [he] at hne
    cases hne

end WattGateway.Message.Rebinding

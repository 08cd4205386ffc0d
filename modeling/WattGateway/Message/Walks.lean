import WattGateway.Message.Rules

/-!
# The programs follow the rule

One lemma for each program of `Service` and `Publish`: it issues only what `callRule` allows, and
its postcondition says what its history has gained. `prog_follows` puts them together for a call
from its start.
-/

namespace WattGateway.Message

open Prog Hist List

variable {cond : State → Action Env → Prop} {config : Config} {X : Wattswarm} {calls : Nat → Call}
  {c : Cmd}

/-- The history has gone on, with the transaction as it was and without a commit. -/
structure Ext (h h' : Hist Cmd Query Ans) : Prop where
  suffix : h <:+ h'
  tx : txOf h' = txOf h
  live : ¬ h.Did .commit → ¬ h'.Did .commit

namespace Ext

variable {h h' h'' : Hist Cmd Query Ans}

lemma refl (h : Hist Cmd Query Ans) : Ext h h := ⟨suffix_refl h, rfl, id⟩

lemma trans (h₁ : Ext h h') (h₂ : Ext h' h'') : Ext h h'' :=
  ⟨h₁.suffix.trans h₂.suffix, h₂.tx.trans h₁.tx, h₂.live ∘ h₁.live⟩

lemma heard (he : Ext h h') (τ : Nat) (q : Query) (a : Ans q) : Ext h ((τ, .heard q a) :: h') :=
  he.trans ⟨suffix_cons _ _, rfl, by simp⟩

lemma did (he : Ext h h') (τ : Nat) (htx : ∀ tx, c.onTx τ tx = tx) : Ext h ((τ, .did c) :: h') := by
  refine he.trans ⟨suffix_cons _ _, htx _, fun hli hd => ?_⟩
  rw [did_did] at hd
  rcases hd with rfl | hd
  · cases htx (some ⟨fenceKey "" "", true, []⟩)
  · exact hli hd

lemma quietTx (he : Ext h h') (hq : QuietTx h) : QuietTx h' := by
  unfold QuietTx
  rw [he.tx]
  exact hq

end Ext

section Walk

variable {call : Call} {h : Hist Cmd Query Ans}
variable {q : Query} {Q : Ans q → Hist Cmd Query Ans → Prop}

lemma follows_ask (hli : ¬ h.Did .commit) (hok : AskOk call h q)
    (hq : ∀ a h', Ext h h' → h'.Heard q a → Q a h') :
    (query q).Follows (callRule X config call) Q h :=
  follows_query ⟨hli, hok⟩ fun τ a => hq a _ ((Ext.refl h).heard τ q a) (heard_self τ q a h)

lemma follows_askFree (hf : ¬ q.Fenced) (hu : Unfenced h) (hli : ¬ h.Did .commit)
    (hok : AskOk call h q) (hq : ∀ a h', Ext h h' → Unfenced h' → h'.Heard q a → Q a h') :
    (query q).Follows (callRule X config call) Q h := by
  refine follows_query ⟨hli, hok⟩ fun τ a => ?_
  refine hq a _ ((Ext.refl h).heard τ q a) ?_ (heard_self τ q a h)
  intro e he
  rcases mem_cons.1 he with rfl | he
  · exact hf
  · exact hu e he

lemma follows_do {Q : Unit → Hist Cmd Query Ans → Prop} (hli : ¬ h.Did .commit)
    (hok : CmdOk X config call h c) (ht : ∀ τ tx, c.onTx τ tx = tx)
    (hq : ∀ h', Ext h h' → h'.Did c → Q () h') : (run c).Follows (callRule X config call) Q h :=
  follows_run ⟨hli, hok⟩ fun τ => hq _ ((Ext.refl h).did τ (ht τ)) (did_self τ c h)

lemma unfenced_nil : Unfenced [] := by
  intro _ he
  cases he

/-! ## The broker adapter -/

lemma follows_mailboxes (hli : ¬ h.Did .commit) (n p : String) :
    (ensureTenantMailboxes X n p).Follows (callRule X config call) (fun _ h' => Ext h h') h := by
  refine follows_turns (Ext.refl h) Ext.trans fun c _ h' he => ?_
  refine .bind (follows_do (he.live hli) trivial (fun _ _ => rfl) fun h₁ he₁ _ => ?_)
  exact follows_do (he₁.live (he.live hli)) trivial (fun _ _ => rfl) fun h₂ he₂ _ => he₁.trans he₂

variable {n a v : String}

lemma follows_bindScopeMember (hli : ¬ h.Did .commit) {p : String}
    (hok : ∀ c h', h <:+ h' → BindOk X call h' c (queueName X n p c) (scopeRouteKey n a v)) :
    (bindScopeMember X n p a v).Follows (callRule X config call)
      (fun _ h' => Ext h h' ∧ ∀ c, h'.Did (scopeBinding X n p a v c)) h := by
  refine .bind ((follows_mailboxes hli n p).mono fun _ h₁ he₁ => ?_)
  refine (follows_marks (D := fun c h' => h'.Did (scopeBinding X n p a v c)) (Ext.refl h₁)
    Ext.trans (fun hd he => hd.mono he.suffix) fun c _ h' he => ?_).mono
    fun _ _ hi => ⟨he₁.trans hi.1, fun c => hi.2 c (DeliveryClass.mem_all c)⟩
  replace he₁ := he₁.trans he
  exact follows_do (he₁.live hli) (hok c h' he₁.suffix) (fun _ _ => rfl) fun _ he hd => ⟨he, hd⟩

lemma follows_unbindScopeMember (hli : ¬ h.Did .commit) {p : String}
    (hok : ∀ h', Ext h h' → UnbindOk h') :
    (unbindScopeMember X n p a v).Follows (callRule X config call) (fun _ h' => Ext h h') h := by
  refine follows_turns (Ext.refl h) Ext.trans fun c _ h' he => ?_
  exact follows_do (he.live hli) (hok h' he) (fun _ _ => rfl) fun _ he _ => he

/-! ## Mutations -/

variable {l : String} {m : MembershipMutation}

lemma follows_bindMembers (hli : ¬ h.Did .commit) (hm : call.Mutates X n l m)
    {existing : List String} (hex : h.Heard (.txSelect (.activePrincipals n l)) existing)
    (routes : List String) :
    (bindMembers X n m.version existing (m.desired existing) routes).Follows
      (callRule X config call)
      (fun _ h' => Ext h h' ∧ ∀ a ∈ routes, ∀ p ∈ m.desired existing, ∀ c,
        h'.Did (scopeBinding X n p a m.version c)) h := by
  refine .bind ((follows_marks (D := fun a h' => ∀ p ∈ m.desired existing, ∀ c,
    h'.Did (scopeBinding X n p a m.version c)) (Ext.refl h) Ext.trans
    (fun hd he p hp c => (hd p hp c).mono he.suffix) fun a _ h₁ he₁ => ?_).mono ?_)
  · refine follows_marks (Ext.refl h₁) Ext.trans (fun hd he c => (hd c).mono he.suffix)
      fun p hp h₂ he₂ => follows_bindScopeMember (he₂.live (he₁.live hli)) fun c h' hs => ?_
    refine ⟨n, p, a, m.version, rfl, rfl, .inl ⟨l, m, existing, hm, rfl, ?_, hp⟩⟩
    exact hex.mono ((he₁.suffix.trans he₂.suffix).trans hs)
  · rintro _ h₁ ⟨he₁, hd₁⟩
    refine (follows_turns (Ext.refl h₁) Ext.trans fun p _ h₂ he₂ =>
      follows_mailboxes (he₂.live (he₁.live hli)) n p).mono fun _ h₂ he₂ => ?_
    exact ⟨he₁.trans he₂, fun a ha p hp c => (hd₁ a ha p hp c).mono he₂.suffix⟩

/-- The history has gone on, with the statements `ws` added to the transaction. -/
structure ExtTx (h h' : Hist Cmd Query Ans) (ws : List (Nat × Stmt)) : Prop where
  suffix : h <:+ h'
  tx : ∀ tx, txOf h = some tx → txOf h' = some { tx with writes := tx.writes ++ ws }
  live : ¬ h.Did .commit → ¬ h'.Did .commit

namespace ExtTx

variable {h' h'' : Hist Cmd Query Ans} {ws ws' : List (Nat × Stmt)}

lemma ofExt (he : Ext h h') : ExtTx h h' [] :=
  ⟨he.suffix, fun tx ht => by rw [he.tx, ht, append_nil], he.live⟩

lemma trans (h₁ : ExtTx h h' ws) (h₂ : ExtTx h' h'' ws') : ExtTx h h'' (ws ++ ws') := by
  refine ⟨h₁.suffix.trans h₂.suffix, fun tx ht => ?_, h₂.live ∘ h₁.live⟩
  rw [h₂.tx _ (h₁.tx tx ht), append_assoc]

lemma ext (h₁ : ExtTx h h' ws) (h₂ : Ext h' h'') : ExtTx h h'' ws := by
  have := h₁.trans (ofExt h₂)
  rwa [append_nil] at this

lemma stmt (τ : Nat) (s : Stmt) : ExtTx h ((τ, .did (.stmt s)) :: h) [(τ, s)] := by
  refine ⟨suffix_cons _ _, fun tx ht => ?_, by simp⟩
  rw [txOf_stmt, ht]
  rfl

end ExtTx

lemma follows_stmt (hli : ¬ h.Did .commit) {s : Stmt} (hok : StmtOk X call h s) :
    (stmt s).Follows (callRule X config call)
      (fun _ h' => ∃ τ, ExtTx h h' [(τ, s)]) h :=
  follows_run ⟨hli, hok⟩ fun τ => ⟨τ, ExtTx.stmt τ s⟩

lemma follows_stmts (hli : ¬ h.Did .commit) {ss : List Stmt}
    (hok : ∀ s ∈ ss, ∀ h', StmtOk X call h' s) : (forEach ss stmt).Follows (callRule X config call)
      (fun _ h' => ∃ ws, ws.map Prod.snd = ss ∧ ExtTx h h' ws) h := by
  refine follows_forEach (I := fun done h' => ∃ ws, ws.map Prod.snd = done ∧ ExtTx h h' ws)
    ⟨[], rfl, ExtTx.ofExt (Ext.refl h)⟩ ?_ fun h' hi => hi
  rintro _ s _ h₁ hs ⟨ws, hw, he⟩
  have hm : s ∈ ss := by rw [hs]; simp
  refine (follows_stmt (he.live hli) (hok s hm h₁)).mono ?_
  rintro _ _ ⟨τ, he₂⟩
  exact ⟨ws ++ [(τ, s)], by rw [map_append, hw]; rfl, he.trans he₂⟩

lemma stmtOk_of_mutation {desired routes : List String} {s : Stmt}
    (hs : s ∈ mutationStmts n l m desired routes) (h : Hist Cmd Query Ans) : StmtOk X call h s := by
  rcases mem_mutationStmts hs with rfl | ⟨_, rfl⟩ | rfl | ⟨_, _, _, rfl⟩ | rfl <;> trivial

/-- `apply_membership_mutation` in a transaction whose statements so far leave the scopes
alone. -/
lemma follows_apply (hm : call.Mutates X n l m) (hl : X.scopeLabel m.scope = some l)
    (hli : ¬ h.Did .commit) {tx : Tx} (ht : txOf h = some tx) (hq : QuietTx h)
    (additional : Option String) :
    (applyMembershipMutation X config n m additional).Follows (callRule X config call)
      (fun _ h' => ∃ ws, ExtTx h h' ws ∧ Applied X n l m additional h' ws) h := by
  refine .bind (follows_ask hli trivial fun started h₀ he₀ _ => ?_)
  rw [hl]
  -- the rate window
  refine .bind (.bind ?_)
  refine .bind ((follows_stmt (he₀.live hli) ?_).mono ?_)
  · trivial
  rintro _ h₁ ⟨τ, he₁⟩
  replace he₁ := (ExtTx.ofExt he₀).trans he₁
  rw [nil_append] at he₁
  have hq₁ : QuietTx h₁ := by
    intro _ ht' w hw
    rw [he₁.tx tx ht, Option.some.injEq] at ht'
    rw [← ht'] at hw
    rcases mem_append.1 hw with hw | hw
    · exact hq tx ht w hw
    · rw [mem_singleton.1 hw]
      trivial
  refine .bind (follows_ask (he₁.live hli) ⟨hq₁, by simp⟩ fun count h₂ he₂ _ => ?_)
  refine .bind (follows_ofOption fun count _ => ?_)
  refine follows_bailIf fun _ => ?_
  -- members and routes
  have hli₂ := he₂.live (he₁.live hli)
  refine .bind (follows_ask hli₂ ⟨he₂.quietTx hq₁, by simp⟩
    fun existing h₃ he₃ hex => ?_)
  refine .bind (follows_ofExcept fun _ _ => ?_)
  have he₂₃ := he₂.trans he₃
  refine .bind (follows_ask (he₃.live hli₂) ⟨he₂₃.quietTx hq₁, by simp⟩
    fun stored h₄ he₄ _ => ?_)
  have he₂₄ := he₂₃.trans he₄
  have hli₄ := he₂₄.live (he₁.live hli)
  refine .bind ((follows_bindMembers hli₄ hm (hex.mono he₄.suffix)
    (withRoute additional stored)).mono ?_)
  rintro _ _ ⟨he₅, hb⟩
  -- the statements
  refine .bind ((follows_stmts (he₅.live hli₄) fun _ hs => stmtOk_of_mutation hs).mono ?_)
  rintro _ _ ⟨core, hc, he₆⟩
  have he := (he₁.ext (he₂₄.trans he₅)).trans he₆
  refine .bind (follows_ask (he.live hli) trivial fun ended h₇ he₇ _ => ?_)
  refine .bind (follows_bailIf fun _ => ?_)
  have hs := ((he₄.suffix.trans he₅.suffix).trans he₆.suffix).trans he₇.suffix
  refine ⟨_, he.ext he₇, existing, _, τ, _, core, hex.mono hs, rfl, hc, ?_, ?_⟩
  · intro a ha
    rw [ha]
    unfold withRoute
    by_cases hmem : a ∈ stored <;> simp [hmem]
  · intro a ha p hp c
    exact (hb a ha p hp c).mono (he₆.suffix.trans he₇.suffix)

/-! ## Challenges -/

lemma follows_challenge (n p : String) :
    (ensureTenantTransportAdmission X config n p).Follows (callRule X config (.challenge n p))
      (fun _ _ => True) [] := by
  refine .bind (.bind (follows_ask (by simp) trivial fun active h₁ he₁ _ => ?_))
  refine follows_ofExcept fun _ _ => ?_
  have hli₁ := he₁.live (by simp)
  refine .bind (follows_ask hli₁ trivial fun admitted h₂ he₂ _ => ?_)
  refine .bind (follows_bailIf fun _ => ?_)
  have hli₂ := he₂.live hli₁
  refine .bind ((follows_mailboxes hli₂ n p).mono fun _ h₃ he₃ => ?_)
  have hli₃ := he₃.live hli₂
  refine .bind (follows_ask hli₃ rfl fun routes h₄ he₄ ho => ?_)
  refine (follows_turns (Ext.refl h₄) Ext.trans fun r hr h₅ he₅ => ?_).mono fun _ _ _ => trivial
  refine (follows_bindScopeMember (he₅.live (he₄.live hli₃)) fun c h' hs => ?_).mono
    fun _ _ he₆ => he₆.1
  exact ⟨n, p, r.1, r.2, rfl, rfl, Or.inr (Or.inr ⟨routes, ho.mono (he₅.suffix.trans hs), hr⟩)⟩

/-! ## Grants -/

lemma follows_admitGrant (hX : X.LabelsGlobal)
    (grant : NetworkMembershipGrant) :
    (admitGrant X config grant).Follows (callRule X config (.admitGrant grant))
      (fun _ h' => h'.Did .commit) [] := by
  refine .bind (follows_ofOption fun genesis hge => ?_)
  refine .bind (follows_askFree id unfenced_nil (by simp) trivial
    fun now h₁ he₁ hu₁ hn => ?_)
  refine .bind (follows_bailIf fun hve => ?_)
  have hli₁ := he₁.live (by simp)
  refine .bind (follows_askFree id hu₁ hli₁ trivial fun authority h₂ he₂ hu₂ _ => ?_)
  refine .bind (follows_bailIf fun _ => ?_)
  refine .bind (follows_ofOption fun gid hi => ?_)
  have hli₂ := he₂.live hli₁
  -- the fence
  refine .bind (follows_run ⟨hli₂, hu₂⟩ fun τ₃ => ?_)
  refine .bind (follows_ofExcept fun _ _ => ?_)
  refine .bind (follows_run ⟨by simpa using hli₂, trivial⟩ fun τ₄ => ?_)
  generalize hg₄ : (τ₄, Entry.did (Cmd.stmt (Stmt.upsertNetworkMembershipGrant grant.networkId
    grant.principalId gid grant.issuedAt grant.expiresAt))) :: _ = h₄
  have hli₄ : ¬ Did h₄ .commit := by rw [← hg₄]; simpa using hli₂
  have ht₄ : txOf h₄ = some ⟨fenceKey grant.networkId "global", true, [(τ₄,
      .upsertNetworkMembershipGrant grant.networkId grant.principalId gid grant.issuedAt
        grant.expiresAt)]⟩ := by
    rw [← hg₄, txOf_stmt, txOf_begin]
    rfl
  have hq₄ : QuietTx h₄ := by
    intro _ ht _ hw
    rw [ht₄, Option.some.injEq] at ht
    rw [← ht] at hw
    rw [mem_singleton.1 hw]
    trivial
  have hun : ∀ n p, Select.admittedVersion grant.networkId grant.principalId =
      .admittedVersion n p → ∀ r,
      ¬ Heard h₄ (.txSelect (.admittedVersion grant.networkId grant.principalId)) r := by
    rintro n p - r hr
    rw [← hg₄, heard_did, heard_did] at hr
    obtain ⟨_, hm⟩ := hr
    exact hu₂ _ hm trivial
  have hs₄ : h₁ <:+ h₄ := by
    rw [← hg₄]
    exact (he₂.suffix.trans (suffix_cons _ _)).trans (suffix_cons _ _)
  refine .bind (follows_ask hli₄ ⟨hq₄, hun⟩ fun found h₅ he₅ ho => ?_)
  have hli₅ := he₅.live hli₄
  have hv : X.verifyNetworkMembershipGrant grant genesis now = true := by
    simpa using hve
  cases hf : found with
  | some =>
    refine .bind (follows_run ⟨hli₅, gid, found, [], ?_⟩ fun τ₆ => did_self τ₆ _ h₅)
    exact ⟨⟨genesis, now, hge, (hn.mono hs₄).mono he₅.suffix, hv⟩, hi, ho,
      ⟨τ₄, he₅.tx.trans ht₄⟩, fun _ => rfl, fun hc => by rw [hf] at hc; cases hc⟩
  | none =>
    have hm : (Call.admitGrant grant).Mutates X grant.networkId "global"
        (grantMutation grant gid) := ⟨rfl, hX, gid, hi, rfl⟩
    refine .bind ((follows_apply hm hX hli₅ (he₅.tx.trans ht₄) (he₅.quietTx hq₄)
      none).mono ?_)
    rintro _ h₆ ⟨ws, he₆, ha⟩
    refine .bind (follows_run ⟨he₆.live hli₅, gid, found, ws, ?_⟩
      fun τ₇ => did_self τ₇ _ h₆)
    have hs₆ := he₅.suffix.trans he₆.suffix
    exact ⟨⟨genesis, now, hge, (hn.mono hs₄).mono hs₆, hv⟩, hi,
      ho.mono he₆.suffix, ⟨τ₄, he₆.tx _ (he₅.tx.trans ht₄)⟩, fun hc => absurd hf hc, fun _ => ha⟩

/-! ## Control frames -/

lemma follows_sendControl (session : VerifiedSession) (frame : ControlFrame) :
    (sendControl X config session frame).Follows (callRule X config (.control session frame))
      (fun r h' => ReplyOk X (.control session frame) h' (.control r)) [] := by
  refine .bind (follows_bailIf fun _ => ?_)
  refine .bind (follows_query ⟨by simp, trivial⟩ fun τ₁ admitted => ?_)
  refine .bind (follows_bailIf fun _ => ?_)
  refine .bind (follows_bailIf fun _ => ?_)
  refine .bind (follows_ofOption fun deliveryId _ => ?_)
  refine .bind (follows_ofOption fun gapRoute _ => ?_)
  refine .bind (follows_query ⟨by simp, trivial⟩ fun τ₂ duplicate => ?_)
  cases duplicate with
  | some =>
    refine .bind (follows_bailIf fun _ => ?_)
    exact ⟨⟨session, frame, rfl⟩, .inl (by simp)⟩
  | none =>
    refine .bind (follows_ask (by simp) trivial fun enqueuedAt h₃ he₃ _ => ?_)
    have hli₃ := he₃.live (by simp)
    refine .bind (follows_ask hli₃ trivial fun now h₄ he₄ _ => ?_)
    have hli₄ := he₄.live hli₃
    refine .bind (.bind ((follows_mailboxes hli₄ _ _).mono fun _ h₅ he₅ => ?_))
    refine follows_do (he₅.live hli₄) ⟨_, rfl⟩ (fun _ _ => rfl) fun h₆ he₆ _ => ?_
    have hli₆ := he₆.live (he₅.live hli₄)
    refine .bind (follows_ask hli₆ trivial fun now' h₇ he₇ _ => ?_)
    refine .bind (follows_do (he₇.live hli₆) ⟨session, frame, rfl, rfl, rfl⟩
      (fun _ _ => rfl) fun h₈ _ hd => ?_)
    exact ⟨⟨session, frame, rfl⟩, .inr ⟨_, _, _, _, _, _, _, hd⟩⟩

/-! ## Publishing, up to the fence -/

section Publish

variable {session : VerifiedSession} {frame : PublishFrame}

/-- A publish that has neither looked its receipt up nor begun its transaction. -/
structure Early (session : VerifiedSession) (frame : PublishFrame) (h : Hist Cmd Query Ans) :
    Prop where
  live : ¬ h.Did .commit
  unfenced : Unfenced h
  unlooked : ∀ r, ¬ h.Heard (.select (receiptLookup session frame)) r

lemma early_nil : Early session frame [] := ⟨by simp, unfenced_nil, by simp⟩

section

variable (he : Early session frame h)
include he

lemma follows_askEarly (hf : ¬ q.Fenced)
    (hne : q ≠ .select (receiptLookup session frame)) (hok : AskOk call h q)
    (hq : ∀ a h', Ext h h' → Early session frame h' → h'.Heard q a → Q a h') :
    (query q).Follows (callRule X config call) Q h := by
  refine follows_query ⟨he.live, hok⟩ fun τ a => ?_
  refine hq a _ ((Ext.refl h).heard τ q a) ⟨by simpa using he.live, ?_, ?_⟩ (heard_self τ q a h)
  · intro e hm
    rcases mem_cons.1 hm with rfl | hm
    · exact hf
    · exact he.unfenced e hm
  · intro r hr
    rcases hr.of_cons with heq | hr
    · exact hne (congrArg Sigma.fst heq).symm
    · exact he.unlooked r hr

lemma follows_checkSnapshot (mutation : Option MembershipMutation) :
    (checkSnapshot X session mutation).Follows (callRule X config (.publish session frame))
      (fun _ h' => Early session frame h' ∧ ∀ m ∈ mutation, SnapshotChecked X session h' m) h := by
  rcases mutation with _ | ⟨_, _, _, _, _⟩ | ⟨_, _, _, _⟩
  · exact ⟨he, by simp⟩
  · refine .bind (follows_bailIf fun _ => ?_)
    refine .bind (follows_askEarly he id (by simp [receiptLookup]) trivial
      fun genesis h₁ he₁ ha₁ hg => ?_)
    refine .bind (follows_bailIf fun _ => ?_)
    refine .bind (follows_askEarly ha₁ id (by simp [receiptLookup])
      ⟨session, frame, rfl, rfl⟩ fun rows h₂ he₂ ha₂ ho => ?_)
    refine follows_ofExcept fun _ hok => ⟨ha₂, ?_⟩
    rintro m ⟨⟩
    exact ⟨genesis, rows, hg.mono he₂.suffix, ho, hok⟩
  · refine ⟨he, ?_⟩
    rintro _ ⟨⟩
    trivial

lemma follows_checkGlobalAuthority (route : EventTransportRoute) :
    (checkGlobalAuthority session route).Follows (callRule X config call)
      (fun _ h' => Early session frame h' ∧ h <:+ h') h := by
  unfold checkGlobalAuthority
  by_cases hn : needsGlobalAuthority route
  · rw [if_pos hn]
    refine .bind (follows_askEarly he id (by simp [receiptLookup]) trivial
      fun authority h₁ he₁ ha₁ _ => ?_)
    exact follows_bailIf fun _ => ⟨ha₁, he₁.suffix⟩
  · rw [if_neg hn]
    exact ⟨he, suffix_refl h⟩

lemma follows_loadConfirmedReceipt (recordHash routeHash : Digest) :
    (loadConfirmedReceipt session.networkId session.principalId frame.recordId recordHash
      routeHash).Follows (callRule X config (.publish session frame))
      (fun r h' => h <:+ h' ∧ ¬ h'.Did .commit ∧ Unfenced h' ∧
        (r = none → h'.Heard (.select (receiptLookup session frame)) none) ∧
        ∀ acc, r = some acc → ∃ receipt,
          h'.Heard (.select (receiptLookup session frame)) (some receipt) ∧
          receiptAcceptance frame.recordId recordHash routeHash receipt = .ok acc) h := by
  refine .bind (follows_askFree id he.unfenced he.live ⟨rfl, he.unlooked⟩
    fun row h₁ he₁ hu₁ ho => ?_)
  have hli₁ := he₁.live he.live
  cases row with
  | none => exact ⟨he₁.suffix, hli₁, hu₁, fun _ => ho, by simp⟩
  | some receipt =>
    refine .bind (follows_ofExcept fun acc ha => ?_)
    refine ⟨he₁.suffix, hli₁, hu₁, by simp, ?_⟩
    rintro _ ⟨⟩
    exact ⟨receipt, ho, ha⟩

end

/-! ## Publishing, under the fence -/

section

variable (hli : ¬ h.Did .commit)
include hli

lemma follows_authorized {scope : SwarmScope}
    (hl : X.scopeLabel scope = some l) (p : String) (allow : Bool) :
    (authorizedScopeVersionAndCount X n scope p allow).Follows (callRule X config call)
      (fun r h' => Ext h h' ∧ (directRecipient scope = none →
        h'.Heard (.select (.scopeVersion n l)) r.1)) h := by
  have shared : (authorizedShared n l p allow).Follows (callRule X config call)
      (fun r h' => Ext h h' ∧ h'.Heard (.select (.scopeVersion n l)) r.1) h := by
    refine .bind (follows_ask hli trivial fun allowed h₁ he₁ _ => ?_)
    refine .bind (follows_bailIf fun _ => ?_)
    have hli₁ := he₁.live hli
    refine .bind (follows_ask hli₁ trivial fun version h₂ he₂ hv => ?_)
    refine .bind (follows_ask (he₂.live hli₁) trivial fun count h₃ he₃ _ => ?_)
    exact ⟨(he₁.trans he₂).trans he₃, hv.mono he₃.suffix⟩
  unfold authorizedScopeVersionAndCount
  split
  · refine .bind (follows_ask hli trivial fun author h₁ he₁ _ => ?_)
    refine .bind (follows_bailIf fun _ => ?_)
    refine .bind (follows_ask (he₁.live hli) trivial fun target h₂ he₂ _ => ?_)
    refine .bind (follows_bailIf fun _ => ?_)
    exact ⟨he₁.trans he₂, by simp [directRecipient]⟩
  · rw [hl]
    exact shared.mono fun _ h' hi => ⟨hi.1, fun _ => hi.2⟩

lemma follows_scopeContains (n : String) (scope : SwarmScope) (p : String) (v : Option String) :
    (scopeContainsPrincipal X n scope p v).Follows (callRule X config call)
      (fun _ h' => Ext h h') h := by
  cases scope with
  | node => exact Ext.refl h
  | _ =>
    refine .bind (follows_ofOption fun label _ => ?_)
    exact follows_ask hli trivial fun _ h₁ he₁ _ => he₁

lemma follows_authorIsRecipient (scope : SwarmScope)
    (v : Option String) (mutation : Option MembershipMutation) :
    (authorIsRecipient X session scope v mutation).Follows (callRule X config call)
      (fun _ h' => Ext h h') h := by
  rcases mutation with _ | ⟨_, _, _, _, _⟩ | ⟨_, p, _, _⟩
  · exact follows_scopeContains hli _ _ _ _
  · exact Ext.refl h
  · unfold authorIsRecipient
    dsimp only
    by_cases hp : p = session.principalId
    · rw [if_pos hp]
      exact Ext.refl h
    · rw [if_neg hp]
      exact follows_scopeContains hli _ _ _ _

lemma follows_acquireTokens (n : String) (scope : SwarmScope)
    (cls : DeliveryClass) (recipients : Nat) :
    (acquireTokens config n scope cls recipients).Follows (callRule X config call)
      (fun _ h' => Ext h h') h := by
  have shared : Follows (callRule X config call) (fun _ h' => Ext h h')
      (do
        let allowed ← acquireNonGlobalDeliveryTokens n recipients
          config.reservedNonGlobalDeliveriesPerSecond
        bailIf (allowed = false)
          "non-Global fanout is backpressured by the shared cell token bucket") h := by
    refine .bind (Follows.mono (P := fun _ h' => Ext h h') ?_ fun allowed h₁ he₁ =>
      follows_bailIf fun _ => he₁)
    unfold acquireNonGlobalDeliveryTokens
    by_cases hc : recipients = 0
    · rw [if_pos hc]
      exact Ext.refl h
    · rw [if_neg hc]
      by_cases hr : config.reservedNonGlobalDeliveriesPerSecond = 0 ∨
          recipients > config.reservedNonGlobalDeliveriesPerSecond
      · rw [if_pos hr]
        exact Ext.refl h
      · rw [if_neg hr]
        exact follows_ask hli trivial fun _ h₁ he₁ _ => he₁
  cases scope with
  | node => exact Ext.refl h
  | global =>
    refine .bind (follows_ask hli trivial fun allowed h₁ he₁ _ => ?_)
    exact follows_bailIf fun _ => he₁
  | region => exact shared
  | group => exact shared

end

/-- What reconciling has read and bound. -/
def Reconciled (X : Wattswarm) (n l a : String) (h : Hist Cmd Query Ans) : Prop :=
  ∃ v ps, h.Heard (.select (.scopeVersion n l)) (some v) ∧
    h.Heard (.select (.members n l v)) ps ∧ ∀ p ∈ ps, ∀ c, h.Did (scopeBinding X n p a v c)

lemma Reconciled.mono {h' : Hist Cmd Query Ans} (hr : Reconciled X n l a h) (hs : h <:+ h') :
    Reconciled X n l a h' := by
  obtain ⟨v, ps, hv, hps, hd⟩ := hr
  exact ⟨v, ps, hv.mono hs, hps.mono hs, fun p hp c => (hd p hp c).mono hs⟩

variable {ws : List (Nat × Stmt)} {e : Bool}

lemma follows_rebind (hli : ¬ h.Did .commit) (ht : txOf h = some ⟨fenceKey n l, e, ws⟩)
    {ps bs : List String} (hv : h.Heard (.select (.scopeVersion n l)) (some v))
    (hps : h.Heard (.select (.members n l v)) ps)
    (hb : h.Heard (.select (.boundPrincipals n l a)) bs) :
    (rebindRoute X n l a v ps bs).Follows (callRule X config call)
      (fun _ h' => Ext h h' ∧ Reconciled X n l a h') h := by
  -- bind every member
  refine .bind ((follows_marks (Ext.refl h) Ext.trans (fun hd he c => (hd c).mono he.suffix)
    fun p hp h₁ he₁ => follows_bindScopeMember (he₁.live hli) fun c h' hs => ?_).mono ?_)
  · exact ⟨n, p, a, v, rfl, rfl, .inr (Or.inl ⟨l, ps, hps.mono (he₁.suffix.trans hs), hp⟩)⟩
  rintro _ h₁ ⟨he₁, hd₁⟩
  -- unbind the others
  refine .bind ((follows_turns (Ext.refl h₁) Ext.trans fun p hp h₂ he₂ =>
    follows_unbindScopeMember (he₂.live (he₁.live hli)) fun h' he' => ?_).mono ?_)
  · rw [mem_filter, decide_eq_true_eq] at hp
    have he := (he₁.trans he₂).trans he'
    exact ⟨n, l, a, v, e, ws, ps, bs, p, he.tx.trans ht, hv.mono he.suffix, hps.mono he.suffix,
      hb.mono he.suffix, hp⟩
  intro _ _ he₂
  have hli₂ := he₂.live (he₁.live hli)
  -- rewrite the rows of the route
  refine .bind (follows_do hli₂ trivial (fun _ _ => rfl) fun h₃ he₃ _ => ?_)
  have hli₃ := he₃.live hli₂
  have he₀₃ := (he₁.trans he₂).trans he₃
  refine .bind ((follows_turns (Ext.refl h₃) Ext.trans fun p hp h₄ he₄ =>
    follows_turns (Ext.refl h₄) Ext.trans fun c _ h₅ he₅ => ?_).mono ?_)
  · replace he₅ := he₄.trans he₅
    have he := he₀₃.trans he₅
    refine follows_do (he₅.live hli₃) ?_ (fun _ _ => rfl) fun h₆ he₆ _ => he₆
    exact ⟨e, ws, ps, he.tx.trans ht, hv.mono he.suffix, hps.mono he.suffix, hp⟩
  intro _ _ he₄
  refine follows_do (he₄.live hli₃) trivial (fun _ _ => rfl) fun h₅ he₅ _ => ?_
  have he := (he₀₃.trans he₄).trans he₅
  refine ⟨he, v, ps, hv.mono he.suffix, hps.mono he.suffix, fun p hp c => ?_⟩
  exact (hd₁ p hp c).mono (((he₂.suffix.trans he₃.suffix).trans he₄.suffix).trans he₅.suffix)

variable {route : EventTransportRoute}

lemma follows_reconcile (hli : ¬ h.Did .commit)
    (hl : X.scopeLabel route.scope = some l) (ht : txOf h = some ⟨fenceKey n l, e, ws⟩) :
    (reconcileScopeBindings X n route).Follows (callRule X config call)
      (fun _ h' => Ext h h' ∧
        (directRecipient route.scope = none → Reconciled X n l route.address h')) h := by
  have shared : (reconcileShared X n l route.address).Follows (callRule X config call)
      (fun _ h' => Ext h h' ∧ Reconciled X n l route.address h') h := by
    refine .bind (follows_ask hli trivial fun version h₁ he₁ hv => ?_)
    have hli₁ := he₁.live hli
    refine .bind (follows_ofOption fun v ho => ?_)
    subst ho
    refine .bind (follows_ask hli₁ trivial fun ps h₂ he₂ hp => ?_)
    have hli₂ := he₂.live hli₁
    refine .bind (follows_ask hli₂ trivial fun bs h₃ he₃ hb => ?_)
    have he := (he₁.trans he₂).trans he₃
    refine (follows_rebind (he₃.live hli₂) (he.tx.trans ht)
      (hv.mono (he₂.suffix.trans he₃.suffix)) (hp.mono he₃.suffix) hb).mono ?_
    exact fun _ h₄ hi => ⟨he.trans hi.1, hi.2⟩
  unfold reconcileScopeBindings
  split
  · rename_i hs
    exact ⟨Ext.refl h, by simp [directRecipient, hs]⟩
  · rw [hl]
    exact shared.mono fun _ h' hi => ⟨hi.1, fun _ => hi.2⟩

variable {vf : ValidatedFrame}

section

variable (hvf : validateRecordFrame X frame session = .ok vf)
  (hl : X.scopeLabel vf.route.scope = some l) (hli : ¬ h.Did .commit)
include hvf hl hli

lemma follows_applyFrameMutation
    (ht : txOf h = some ⟨fenceKey session.networkId l, e, []⟩) (current : Option String × Nat) :
    (applyFrameMutation X config session vf.route current vf.membershipMutation).Follows
      (callRule X config (.publish session frame))
      (fun r h' => ∃ ws, ExtTx h h' ws ∧ (vf.membershipMutation = none → ws = [] ∧ r = current) ∧
        ∀ m ∈ vf.membershipMutation, r.1 = some m.version ∧
          Applied X session.networkId l m (some vf.route.address) h' ws) h := by
  have hq : QuietTx h := by
    intro _ ht' _ hw
    rw [ht, Option.some.injEq] at ht'
    rw [← ht'] at hw
    cases hw
  cases hu : vf.membershipMutation with
  | none => exact ⟨[], ExtTx.ofExt (Ext.refl h), fun _ => ⟨rfl, rfl⟩, by simp⟩
  | some m =>
    have hla : X.scopeLabel m.scope = some l := by
      rw [(validateRecordFrame_mutation hvf hu).1]
      exact hl
    have hm : (Call.publish session frame).Mutates X session.networkId l m :=
      ⟨rfl, vf, hvf, hu, hla⟩
    refine .bind ((follows_apply hm hla hli ht hq _).mono ?_)
    rintro _ _ ⟨ws, he₁, ha⟩
    refine ⟨ws, he₁, by simp, ?_⟩
    rintro _ ⟨⟩
    exact ⟨rfl, ha⟩

lemma follows_publishRecord (ht : txOf h = some ⟨fenceKey session.networkId l, e, ws⟩)
    (ho : h.Heard (.select (receiptLookup session frame)) none) {r : BrokerRecord}
    (hn : r.networkId = session.networkId) (hro : r.route = vf.route)
    (hrec : directRecipient vf.route.scope = none → ∀ v, r.membershipVersion = some v →
      ∃ ps, Recipients X (.publish session frame) h session.networkId l vf.route.address v ps) :
    (publishRecord X (directRecipient vf.route.scope) r).Follows
      (callRule X config (.publish session frame)) (fun _ h' => Ext h h') h := by
  unfold publishRecord
  split
  · refine .bind ((follows_mailboxes hli _ _).mono fun _ h₁ he₁ => ?_)
    refine follows_do (he₁.live hli) ⟨ho.mono he₁.suffix, fun c hc => ?_⟩
      (fun _ _ => rfl) fun h₂ he₂ _ => he₁.trans he₂
    cases hc
  · rename_i hd
    refine .bind (follows_ofOption fun v hv => ?_)
    obtain ⟨ps, hp⟩ := hrec hd v hv
    refine follows_do hli ⟨ho, fun c hc => ?_⟩ (fun _ _ => rfl)
      fun h₁ he₁ _ => he₁
    exact ⟨vf, l, vf.route.address, v, ps, e, ws, hvf, hl, ht, by rw [hn, hro], hp⟩

end

lemma follows_reconcileUnlessMutated (hli : ¬ h.Did .commit)
    (hl : X.scopeLabel route.scope = some l) (ht : txOf h = some ⟨fenceKey n l, e, ws⟩)
    (mutation : Option MembershipMutation) :
    (reconcileUnlessMutated X n route mutation).Follows (callRule X config call)
      (fun _ h' => Ext h h' ∧ (mutation = none → directRecipient route.scope = none →
        Reconciled X n l route.address h')) h := by
  cases mutation with
  | some => exact ⟨Ext.refl h, by simp⟩
  | none => exact (follows_reconcile hli hl ht).mono fun _ h' hi => ⟨hi.1, fun _ => hi.2⟩

section

variable (hvf : validateRecordFrame X frame session = .ok vf)
include hvf

/-- The recipients of a publish whose mutation was applied, or whose scope was reconciled. -/
lemma recipients_of (hl : X.scopeLabel vf.route.scope = some l) {current : Option String × Nat}
    {version : Option String} (ws : List (Nat × Stmt))
    (hcu : h.Heard (.select (.scopeVersion session.networkId l)) current.1)
    (hno : vf.membershipMutation = none → version = current.1 ∧
      Reconciled X session.networkId l vf.route.address h)
    (hs : ∀ m ∈ vf.membershipMutation, version = some m.version ∧
      Applied X session.networkId l m (some vf.route.address) h ws) (hv : version = some v) :
    ∃ ps, Recipients X (.publish session frame) h session.networkId l vf.route.address v ps := by
  cases hu : vf.membershipMutation with
  | none =>
    obtain ⟨hc, v', ps, hv', hp, hd⟩ := hno hu
    rw [← hc, hv] at hcu
    refine ⟨ps, .inr ⟨v', ?_, hcu, hv', hp, hd⟩⟩
    rintro m ⟨-, _, hvf', hm, -⟩
    rw [hvf] at hvf'
    cases hvf'
    rw [hu] at hm
    cases hm
  | some m =>
    obtain ⟨hver, existing, _, _, _, _, hex, -, -, ho, hd⟩ := hs m hu
    have ha : X.scopeLabel m.scope = some l := by
      rw [(validateRecordFrame_mutation hvf hu).1]
      exact hl
    rw [hv, Option.some.injEq] at hver
    subst hver
    exact ⟨_, .inl ⟨m, existing, ⟨rfl, vf, hvf, hu, ha⟩, rfl, hex, rfl, hd _ (ho _ rfl)⟩⟩

lemma follows_publishFenced (hli : ¬ h.Did .commit) (hu : Unfenced h)
    (ho : h.Heard (.select (receiptLookup session frame)) none)
    (hh : ∀ m ∈ vf.membershipMutation, SnapshotChecked X session h m) :
    (publishFenced X config session frame vf
      (X.deliveryClassForRecord vf.route.lane vf.urgency)).Follows
      (callRule X config (.publish session frame)) (fun _ h' => h'.Did .commit) h := by
  refine .bind (follows_ofOption fun l hl => ?_)
  -- the fence
  refine .bind (follows_run ⟨hli, hu⟩ fun τ₁ => ?_)
  have hli₁ : ¬ Did ((τ₁, .did (.begin session.networkId l vf.membershipMutation.isSome)) :: h)
      .commit := by simpa using hli
  refine .bind ((follows_authorized hli₁ hl _ _).mono ?_)
  rintro current _ ⟨he₂, hc⟩
  have hli₂ := he₂.live hli₁
  refine .bind ((follows_applyFrameMutation hvf hl hli₂ he₂.tx current).mono ?_)
  rintro ⟨version, _⟩ _ ⟨ws, he₃, hno, hso⟩
  have hli₃ := he₃.live hli₂
  have hx₃ := he₃.tx _ he₂.tx
  rw [nil_append] at hx₃
  refine .bind (follows_bailIf fun _ => ?_)
  refine .bind ((follows_authorIsRecipient hli₃ _ _ _).mono fun isRecipient h₄ he₄ => ?_)
  refine .bind (follows_ofOption fun bytes _ => ?_)
  refine .bind (follows_bailIf fun _ => ?_)
  refine .bind ((follows_acquireTokens (he₄.live hli₃) _ _ _ _).mono fun _ h₅ he₅ => ?_)
  have he₃₅ := he₄.trans he₅
  have hli₅ := he₃₅.live hli₃
  refine .bind ((follows_reconcileUnlessMutated hli₅ hl (he₃₅.tx.trans hx₃) _).mono ?_)
  rintro _ _ ⟨he₆, hrec⟩
  have hli₆ := he₆.live hli₅
  refine .bind (follows_ask hli₆ trivial fun enqueuedAt h₇ he₇ _ => ?_)
  have hli₇ := he₇.live hli₆
  refine .bind (follows_ask hli₇ trivial fun ttlFrom h₈ he₈ _ => ?_)
  have hli₈ := he₈.live hli₇
  -- the broker
  have he₃₈ := ((he₃₅.trans he₆).trans he₇).trans he₈
  have hs₈ : h <:+ h₈ := (((suffix_cons _ _).trans he₂.suffix).trans he₃.suffix).trans
    he₃₈.suffix
  refine .bind ((follows_publishRecord hvf hl hli₈ (he₃₈.tx.trans hx₃)
    (ho.mono hs₈) rfl rfl ?_).mono fun _ h₉ he₉ => ?_)
  · intro hd _ hv
    refine recipients_of hvf hl ws ((hc hd).mono (he₃.suffix.trans he₃₈.suffix)) ?_ ?_ hv
    · intro ht
      exact ⟨congrArg Prod.fst (hno ht).2, (hrec ht hd).mono (he₇.suffix.trans he₈.suffix)⟩
    · exact fun m hm => ⟨(hso m hm).1, (hso m hm).2.mono he₃₈.suffix⟩
  -- the receipt
  have hli₉ := he₉.live hli₈
  refine .bind (follows_ask hli₉ trivial fun now h₁₀ he₁₀ hn => ?_)
  have hli₁₀ := he₁₀.live hli₉
  have hs₁₀ : h <:+ h₁₀ := (hs₈.trans he₉.suffix).trans he₁₀.suffix
  refine .bind ((follows_stmt hli₁₀ ?_).mono ?_)
  · exact ⟨session, frame, vf, version, _, now, rfl, rfl, rfl, rfl, hvf, ho.mono hs₁₀, hn, rfl⟩
  rintro _ _ ⟨τ₁₁, he₁₁⟩
  refine .bind ((follows_stmt (he₁₁.live hli₁₀) ?_).mono ?_)
  · trivial
  rintro _ h₁₂ ⟨τ₁₂, he₁₂⟩
  have he₁₀₁₂ := he₁₁.trans he₁₂
  have he₃₁₀ := (he₃₈.trans he₉).trans he₁₀
  have hs₁₂ : h <:+ h₁₂ := hs₁₀.trans he₁₀₁₂.suffix
  have hre : CommitOk X config h₁₂ (.publish session frame) :=
    ⟨vf, l, ws, τ₁₁, _, hvf, hl, ho.mono hs₁₂, fun m hm => (hh m hm).mono hs₁₂,
      ⟨τ₁₂, _, he₁₀₁₂.tx _ (he₃₁₀.tx.trans hx₃)⟩, fun ht => (hno ht).1,
      fun m hm => (hso m hm).2.mono (he₃₁₀.suffix.trans he₁₀₁₂.suffix)⟩
  refine .bind (follows_run ⟨he₁₀₁₂.live hli₁₀, hre⟩ fun τ₁₃ => ?_)
  exact did_self τ₁₃ _ h₁₂

end

lemma follows_publish :
    (publish X config session frame).Follows (callRule X config (.publish session frame))
      (fun r h' => ReplyOk X (.publish session frame) h' (.publish r)) [] := by
  refine .bind (follows_bailIf fun _ => ?_)
  refine .bind (follows_ofExcept fun vf hvf => ?_)
  refine .bind ((follows_checkSnapshot early_nil vf.membershipMutation).mono ?_)
  rintro _ _ ⟨he₁, hh⟩
  refine .bind ((follows_checkGlobalAuthority he₁ vf.route).mono ?_)
  rintro _ _ ⟨he₂, hs₂⟩
  refine .bind ((follows_loadConfirmedReceipt he₂ _ _).mono ?_)
  rintro receipt _ ⟨hs₃, hli₃, hu₃, hno, hso⟩
  cases receipt with
  | some acc =>
    refine .bind (follows_bailIf fun hc => ?_)
    push Not at hc
    obtain ⟨row, ho, ha⟩ := hso acc rfl
    exact ⟨session, frame, vf, rfl, hvf, .inr ⟨row, ho, ha, hc⟩⟩
  | none =>
    refine (follows_publishFenced hvf hli₃ hu₃ (hno rfl)
      fun m hm => (hh m hm).mono (hs₂.trans hs₃)).mono fun r h₄ hd => ?_
    exact ⟨session, frame, vf, rfl, hvf, .inl hd⟩

end Publish

/-! ## Calls -/

lemma prog_follows (hX : X.LabelsGlobal) (call : Call) :
    (call.prog X config).Follows (callRule X config call) (fun r h' => ReplyOk X call h' r) [] := by
  cases call with
  | challenge n p => exact .bind ((follows_challenge n p).mono fun _ _ _ => ⟨n, p, rfl⟩)
  | admitGrant grant =>
    exact .bind ((follows_admitGrant hX grant).mono fun _ _ hd => ⟨⟨grant, rfl⟩, hd⟩)
  | control session frame =>
    exact .bind ((follows_sendControl session frame).mono fun _ _ hr => hr)
  | publish => exact .bind (follows_publish.mono fun _ _ hr => hr)

end Walk

lemma follows_of_reaches {w : World} {s : State} (hX : X.LabelsGlobal)
    (h : ReachableIf X config calls w cond s) :
    Sys.FollowsAll (fun t => callRule X config (calls t))
      (fun t r h' => ReplyOk X (calls t) h' r) s :=
  h.follows fun t => prog_follows hX (calls t)

section Allowed

variable {w : World} {s : State} {t : Nat}

section

variable (hX : X.LabelsGlobal) (hr : ReachableIf X config calls w cond s)
include hX hr

lemma cmdOk_of_reaches {k : Gw Reply}
    (hp : (s.threads t).prog = .cmd c k) : CmdOk X config (calls t) (s.threads t).hist c := by
  have hf := follows_of_reaches hX hr t
  rw [hp] at hf
  exact hf.1.2

lemma askOk_of_reaches {q : Query} {k : Ans q → Gw Reply}
    (hp : (s.threads t).prog = .ask q k) : AskOk (calls t) (s.threads t).hist q := by
  have hf := follows_of_reaches hX hr t
  rw [hp] at hf
  exact hf.1.2

end

end Allowed

end WattGateway.Message

import WattGateway.Message.ProofSteps

/-!
# Sessions in runs

A challenge is locked by the proof that has read it until that proof ends, and no other proof reads
it before. From this the invariant `UseInv` of challenges and sessions follows step by step: a
committed transaction has consumed a challenge that no earlier one consumed.
-/

namespace WattGateway.Message

open Prog Sys Bool List Option Table

variable {r : Except String Unit} {q : SessionQuery} {c : SessionCmd} {o : Outcome}
  {s : SessionState} {id : String} {w w' : SessionWorld} {row : ChallengeRow}

/-! ## Open transactions -/

/-- Each running call's transaction is the one its history describes. -/
def TxsInv (s : SessionState) : Prop :=
  ∀ t, s.world.auth.txs.get? t =
    if (s.threads t).prog.isDone then none else proofTx (s.threads t).hist

section TxsInv

variable {t : Nat}

lemma Performed.txs (hx : Performed t o s.world c r w) (t' : Nat) :
    (t' ≠ t → w.auth.txs.get? t' = s.world.auth.txs.get? t') ∧
    (r = .ok () → s.world.auth.txs.get? t = proofTx (s.threads t).hist →
      w.auth.txs.get? t = proofTx ((s.world.gateway.now, .did c) :: (s.threads t).hist)) := by
  cases hx with
  | failed => exact ⟨fun _ => rfl, nofun⟩
  | begun =>
    refine ⟨fun ht => ?_, fun _ _ => ?_⟩
    · rw [get?_authSetTx, if_neg ht]
    · rw [get?_authSetTx, if_pos rfl]
      rfl
  | wrote _ _ htx =>
    refine ⟨fun ht => ?_, fun _ hp => ?_⟩
    · rw [get?_authSetTx, if_neg ht]
    · rw [get?_authSetTx, if_pos rfl, proofTx, ← hp, htx]
      rfl
  | committed =>
    refine ⟨fun ht => ?_, fun _ _ => ?_⟩
    · exact (get?_authDropTx _ t t').trans (if_neg ht)
    · exact (get?_authDropTx _ t t).trans (if_pos rfl)
  | _ => exact ⟨fun _ => rfl, fun _ hp => hp⟩

lemma Answered.txs {r : Except String (SessionAns q)}
    (hx : Answered t s.world q r w) (t' : Nat) :
    (t' ≠ t → w.auth.txs.get? t' = s.world.auth.txs.get? t') ∧
    (∀ x, r = .ok x → s.world.auth.txs.get? t = proofTx (s.threads t).hist →
      w.auth.txs.get? t = proofTx ((s.world.gateway.now, .heard q x) :: (s.threads t).hist)) := by
  cases hx with
  | failed => exact ⟨fun _ => rfl, nofun⟩
  | locked _ _ _ _ _ htx =>
    refine ⟨fun ht => ?_, fun x hx hp => ?_⟩
    · rw [get?_authSetTx, if_neg ht]
    · cases hx
      rw [get?_authSetTx, if_pos rfl, proofTx, ← hp, htx]
      rfl
  | unknown =>
    refine ⟨fun _ => rfl, fun x hx hp => ?_⟩
    cases hx
    exact hp
  | registered _ _ _ _ _ htx =>
    refine ⟨fun ht => ?_, fun x hx hp => ?_⟩
    · rw [get?_authSetTx, if_neg ht]
    · rw [get?_authSetTx, if_pos rfl, proofTx, ← hp, htx]
      rfl
  | _ => exact ⟨fun _ => rfl, fun _ _ hp => hp⟩

lemma TxsInv.step (h : TxsInv s) (a : Action SessionEnv) : TxsInv (s.step sessions a) := by
  intro t'
  rcases session_step_cases s a with hs | ⟨e, hs⟩ | ⟨t, _, _, _, r, _, -, hp, hx, hs⟩ |
    ⟨t, _, _, _, r, _, -, hp, hx, hs⟩
  · rw [hs]
    exact h t'
  · rw [hs]
    cases e <;> exact h t'
  · have ho := h t
    simp only [hp, isDone_cmd, false_eq_true, if_false] at ho
    obtain ⟨hot, hw⟩ := hx.txs t'
    rw [hs, (settle_session _ t).2.2.2.2 t', settle_prog, settle_hist, world_afterCmd]
    by_cases ht : t' = t
    · subst ht
      cases r with
      | ok => simp [afterCmd, sessions, hw rfl ho]
      | error => simp [afterCmd]
    · rw [afterCmd_ne ht, if_neg (fun h => ht h.1), hot ht]
      exact h t'
  · have ho := h t
    simp only [hp, isDone_ask, false_eq_true, if_false] at ho
    obtain ⟨hot, hw⟩ := hx.txs t'
    rw [hs, (settle_session _ t).2.2.2.2 t', settle_prog, settle_hist, world_afterAsk]
    by_cases ht : t' = t
    · subst ht
      cases r with
      | ok x => simp [afterAsk, sessions, hw x rfl ho]
      | error => simp [afterAsk]
    · rw [afterAsk_ne ht, if_neg (fun h => ht h.1), hot ht]
      exact h t'

end TxsInv

/-! ## Locked challenges -/

/-- A challenge is locked by one transaction at most. -/
def LocksInv (s : SessionState) : Prop :=
  ∀ t t' tx tx' id, s.world.auth.txs.get? t = some tx → s.world.auth.txs.get? t' = some tx' →
    .challenge id ∈ tx.locks → .challenge id ∈ tx'.locks → t = t'

section Locks

variable {t t' : Nat} {tx : AuthTx}

lemma Performed.locks (hx : Performed t o w c r w')
    (htx : w'.auth.txs.get? t' = some tx) (hid : .challenge id ∈ tx.locks) :
    ∃ tx₀, w.auth.txs.get? t' = some tx₀ ∧ .challenge id ∈ tx₀.locks := by
  cases hx with
  | begun =>
    rw [get?_authSetTx] at htx
    split at htx
    · cases htx
      exact absurd hid not_mem_nil
    · exact ⟨tx, htx, hid⟩
  | wrote st tx₀ htx₀ =>
    rw [get?_authSetTx] at htx
    split at htx
    · rename_i ht
      cases htx
      exact ⟨tx₀, ht ▸ htx₀, hid⟩
    · exact ⟨tx, htx, hid⟩
  | committed =>
    replace htx : (w.auth.dropTx t).txs.get? t' = some tx := htx
    rw [get?_authDropTx] at htx
    split at htx
    · cases htx
    · exact ⟨tx, htx, hid⟩
  | _ => exact ⟨tx, htx, hid⟩

lemma Answered.locks {r : Except String (SessionAns q)}
    (hx : Answered t w q r w') (htx : w'.auth.txs.get? t' = some tx)
    (hid : .challenge id ∈ tx.locks) :
    (∃ tx₀, w.auth.txs.get? t' = some tx₀ ∧ .challenge id ∈ tx₀.locks) ∨
      t' = t ∧ ¬ w.auth.LockedByOther t (.challenge id) := by
  cases hx with
  | locked id' row tx₀ db hfr htx₀ hv hg hr =>
    rw [get?_authSetTx] at htx
    split at htx
    · rename_i ht
      cases htx
      rcases mem_cons.1 hid with heq | hid
      · cases heq
        exact .inr ⟨ht, hfr⟩
      · exact .inl ⟨tx₀, ht ▸ htx₀, hid⟩
    · exact .inl ⟨tx, htx, hid⟩
  | registered n p i b tx₀ htx₀ =>
    rw [get?_authSetTx] at htx
    split at htx
    · rename_i ht
      cases htx
      refine .inl ⟨tx₀, ht ▸ htx₀, ?_⟩
      simpa [AuthTx.lock, AuthTx.push] using hid
    · exact .inl ⟨tx, htx, hid⟩
  | _ => exact .inl ⟨tx, htx, hid⟩

lemma lockedByOther_of_get? (hx : w.auth.txs.get? t' = some tx) (ht : t' ≠ t)
    (hi : .challenge id ∈ tx.locks) : w.auth.LockedByOther t (.challenge id) :=
  ⟨(t', tx), get?_eq_some.1 hx, ht, hi⟩

lemma get?_of_settle (h : (s.settle sessions t).world.auth.txs.get? t' = some tx) :
    s.world.auth.txs.get? t' = some tx := by
  rw [(settle_session s t).2.2.2.2 t'] at h
  split at h
  · cases h
  · exact h

lemma LocksInv.step (h : LocksInv s) (a : Action SessionEnv) : LocksInv (s.step sessions a) := by
  intro t₁ t₂ tx₁ tx₂ id h₁ h₂ hi₁ hi₂
  rcases session_step_cases s a with hs | ⟨e, hs⟩ | ⟨_, _, _, _, _, _, -, _, hx, hs⟩ |
    ⟨_, _, _, _, _, _, -, _, hx, hs⟩
  · rw [hs] at h₁ h₂
    exact h t₁ t₂ tx₁ tx₂ id h₁ h₂ hi₁ hi₂
  · rw [hs] at h₁ h₂
    cases e <;> exact h t₁ t₂ tx₁ tx₂ id h₁ h₂ hi₁ hi₂
  · rw [hs] at h₁ h₂
    replace h₁ := get?_of_settle h₁
    replace h₂ := get?_of_settle h₂
    rw [world_afterCmd] at h₁ h₂
    obtain ⟨tx₁', h₁', hi₁'⟩ := hx.locks h₁ hi₁
    obtain ⟨tx₂', h₂', hi₂'⟩ := hx.locks h₂ hi₂
    exact h t₁ t₂ tx₁' tx₂' id h₁' h₂' hi₁' hi₂'
  · rw [hs] at h₁ h₂
    replace h₁ := get?_of_settle h₁
    replace h₂ := get?_of_settle h₂
    rw [world_afterAsk] at h₁ h₂
    -- who has the lock since before the step excludes that another gets it now
    rcases hx.locks h₁ hi₁ with ⟨tx₁', h₁', hi₁'⟩ | ⟨rfl, hr⟩
    · rcases hx.locks h₂ hi₂ with ⟨tx₂', h₂', hi₂'⟩ | ⟨rfl, hr⟩
      · exact h t₁ t₂ tx₁' tx₂' id h₁' h₂' hi₁' hi₂'
      · by_contra ht
        exact hr (lockedByOther_of_get? h₁' ht hi₁')
    · rcases hx.locks h₂ hi₂ with ⟨_, h₂', hi₂'⟩ | ⟨rfl, -⟩
      · by_contra ht
        exact hr (lockedByOther_of_get? h₂' (Ne.symm ht) hi₂')
      · rfl

end Locks

/-! ## UUIDs -/

/-- UUIDs are new: each was made for one call. -/
def UuidsInv (s : SessionState) : Prop :=
  (∀ t id, (s.threads t).hist.Heard (.auth .newUuid) id →
    ∃ n, n < s.world.auth.uuids ∧ id = toString n) ∧
  ∀ t t' id, (s.threads t).hist.Heard (.auth .newUuid) id →
    (s.threads t').hist.Heard (.auth .newUuid) id → t = t'

lemma toString_injective {m n : Nat} (h : toString m = toString n) : m = n := by
  rw [Nat.toString_eq_ofList_toDigits, Nat.toString_eq_ofList_toDigits] at h
  have hd := String.ofList_injective h
  rw [← Nat.ofDigitChars_ten_toDigits (n := m), hd, Nat.ofDigitChars_ten_toDigits]

section Uuids

variable {t : Nat}

lemma Performed.uuids (hx : Performed t o w c r w') : w'.auth.uuids = w.auth.uuids := by
  cases hx <;> rfl

lemma Answered.uuids {r : Except String (SessionAns q)}
    (hx : Answered t w q r w') : w.auth.uuids ≤ w'.auth.uuids := by
  cases hx <;> first | exact Nat.le_refl _ | exact Nat.le_succ _

lemma uuids_le_step (s : SessionState) (a : Action SessionEnv) :
    s.world.auth.uuids ≤ (s.step sessions a).world.auth.uuids := by
  rcases session_step_cases s a with hs | ⟨e, hs⟩ | ⟨t, _, _, _, _, _, -, _, hx, hs⟩ |
    ⟨t, _, _, _, _, _, -, _, hx, hs⟩
  · exact Nat.le_of_eq (by rw [hs])
  · rw [hs]
    cases e <;> exact Nat.le_refl _
  · rw [hs, (settle_session _ t).2.2.1, world_afterCmd]
    exact Nat.le_of_eq hx.uuids.symm
  · rw [hs, (settle_session _ t).2.2.1, world_afterAsk]
    exact hx.uuids

lemma heard_newUuid_of_step {a : Action SessionEnv}
    (h : ((s.step sessions a).threads t).hist.Heard (.auth .newUuid) id) :
    (s.threads t).hist.Heard (.auth .newUuid) id ∨
      (∃ o, a = .run t o) ∧ id = toString s.world.auth.uuids ∧
        s.world.auth.uuids < (s.step sessions a).world.auth.uuids := by
  rcases heard_of_step h with h | ⟨o, _, w, ha, -, hx, hs⟩
  · exact .inl h
  · refine .inr ⟨⟨o, ha⟩, ?_⟩
    rw [hs, (settle_session _ t).2.2.1, advance_world]
    have hx : Answered t s.world (.auth .newUuid) (.ok id) w := answered hx
    cases hx
    exact ⟨rfl, Nat.lt_succ_self _⟩

lemma UuidsInv.step (h : UuidsInv s) (a : Action SessionEnv) : UuidsInv (s.step sessions a) := by
  obtain ⟨hm, ho⟩ := h
  have hr (t : Nat) : ¬ (s.threads t).hist.Heard (.auth .newUuid) (toString s.world.auth.uuids) := by
    intro hold
    obtain ⟨n, hn, heq⟩ := hm t _ hold
    rw [toString_injective heq] at hn
    exact Nat.lt_irrefl _ hn
  refine ⟨fun t id hi => ?_, fun t t' id hi hi' => ?_⟩
  · rcases heard_newUuid_of_step hi with hold | ⟨-, heq, hlt⟩
    · obtain ⟨n, hn, heq⟩ := hm t id hold
      exact ⟨n, Nat.lt_of_lt_of_le hn (uuids_le_step s a), heq⟩
    · exact ⟨_, hlt, heq⟩
  · rcases heard_newUuid_of_step hi with hold | ⟨⟨_, ha⟩, heq, -⟩
    · rcases heard_newUuid_of_step hi' with hold' | ⟨-, heq', -⟩
      · exact ho t t' id hold hold'
      · exact absurd (heq' ▸ hold) (hr t)
    · rcases heard_newUuid_of_step hi' with hold' | ⟨⟨_, ha'⟩, -, -⟩
      · exact absurd (heq ▸ hold') (hr t')
      · rw [ha] at ha'
        cases ha'
        rfl

end Uuids

/-! ## Challenges and sessions in runs -/

def consumedIds (log : List (Nat × AuthTx)) : List String := log.flatMap fun e => e.2.consumed

/-- What is known of the call whose transaction `tx` was committed. -/
def Granted (A : AuthCrates) (calls : Nat → SessionCall) (s : SessionState) (t : Nat) (g : Grant) :
    Prop :=
  ∃ ttl request, calls t = .proveSession ttl request ∧
    Checked A request (s.threads t).hist g.challengeId g.challenge g.claim ∧
    (s.threads t).hist.Heard (.auth .newUuid) g.sessionId ∧
    g.session.networkId = g.challenge.networkId ∧ g.claim.principalId = g.claim.publicKeyHex

/-- The challenges and sessions that a run has come to. -/
structure UseInv (A : AuthCrates) (calls : Nat → SessionCall) (s : SessionState) : Prop where
  /-- A locked challenge is there as it was read. -/
  held : ∀ t tx id, s.world.auth.txs.get? t = some tx → .challenge id ∈ tx.locks →
    ∃ row, (s.threads t).hist.Heard (.auth (.challengeForUpdate id)) (some row) ∧
      s.world.auth.db.challenges.get? id = some row ∧ row.consumedAt = none
  keyed : ∀ id row, s.world.auth.db.challenges.get? id = some row →
    ∃ claim, row.principals = [claim] ∧ claim.principalId = claim.publicKeyHex
  /-- The call that made a challenge makes no second one. -/
  issued : ∀ id, (∃ row, s.world.auth.db.challenges.get? id = some row) ∨
      id ∈ consumedIds s.world.log → ∃ t, (s.threads t).hist.Heard (.auth .newUuid) id ∧
      ((s.threads t).prog.isDone = true ∨ ∃ row, (s.threads t).hist.Did (.insertChallenge id row))
  spent : ∀ id ∈ consumedIds s.world.log, ∀ row,
    s.world.auth.db.challenges.get? id = some row → row.consumedAt ≠ none
  once : (consumedIds s.world.log).Nodup
  granted : ∀ e ∈ s.world.log, ∃ g, Grants g e.2 ∧ Granted A calls s e.1 g
  ended : ∀ e ∈ s.world.log,
    (s.threads e.1).prog.isDone = true ∨ (s.threads e.1).hist.Did (.auth .commit)
  callers : (s.world.log.map Prod.fst).Nodup
  stored : ∀ sid row, s.world.auth.db.sessions.get? sid = some row →
    ∃ e ∈ s.world.log, ∃ g, Grants g e.2 ∧ g.sessionId = sid ∧ g.session = row ∧
      ∃ x, s.world.auth.db.sessionPrincipals.get? (sid, g.claim.principalId) = some x
  principals : ∀ sid principal x, s.world.auth.db.sessionPrincipals.get? (sid, principal) = some x →
    ∃ e ∈ s.world.log, ∃ g, Grants g e.2 ∧ g.sessionId = sid ∧ g.claim.principalId = principal

section Uses

variable {A : AuthCrates} {calls : Nat → SessionCall} {s s' : SessionState} {t t' : Nat}

/-- Histories have grown, and what was done is done. -/
structure Later (s s' : SessionState) : Prop where
  hist : ∀ t, (s.threads t).hist <:+ (s'.threads t).hist
  done : ∀ t, (s.threads t).prog.isDone = true → (s'.threads t).prog.isDone = true

lemma later_step (s : SessionState) (a : Action SessionEnv) : Later s (s.step sessions a) where
  hist t := hist_suffix_step sessions s a t
  done t hd := by rw [step_of_done hd]; exact hd

lemma Granted.later (hs : Later s s') {g : Grant} (h : Granted A calls s t g) :
    Granted A calls s' t g := by
  obtain ⟨ttl, request, hc, hh, hn, hr⟩ := h
  exact ⟨ttl, request, hc, hh.mono (hs.hist t), hn.mono (hs.hist t), hr⟩

section

variable (h : UseInv A calls s) (hs : Later s s')
include h hs

/-- The part of the invariant that no table decides. -/
lemma UseInv.later :
    (∀ id, (∃ row, s.world.auth.db.challenges.get? id = some row) ∨ id ∈ consumedIds s.world.log →
      ∃ t, (s'.threads t).hist.Heard (.auth .newUuid) id ∧ ((s'.threads t).prog.isDone = true ∨
        ∃ row, (s'.threads t).hist.Did (.insertChallenge id row))) ∧
    (∀ e ∈ s.world.log, ∃ g, Grants g e.2 ∧ Granted A calls s' e.1 g) ∧ ∀ e ∈ s.world.log,
      (s'.threads e.1).prog.isDone = true ∨ (s'.threads e.1).hist.Did (.auth .commit) := by
  refine ⟨fun id hi => ?_, fun e he => ?_, fun e he => ?_⟩
  · obtain ⟨t, hn, hp⟩ := h.issued id hi
    refine ⟨t, hn.mono (hs.hist t), ?_⟩
    rcases hp with hd | ⟨row, hd⟩
    · exact .inl (hs.done t hd)
    · exact .inr ⟨row, hd.mono (hs.hist t)⟩
  · obtain ⟨g, hg, hr⟩ := h.granted e he
    exact ⟨g, hg, hr.later hs⟩
  · exact (h.ended e he).imp (hs.done e.1) fun hd => hd.mono (hs.hist e.1)

lemma UseInv.frame (hdb : s'.world.auth.db = s.world.auth.db) (hlog : s'.world.log = s.world.log)
    (hhe : ∀ t tx id, s'.world.auth.txs.get? t = some tx → .challenge id ∈ tx.locks →
      ∃ row, (s'.threads t).hist.Heard (.auth (.challengeForUpdate id)) (some row) ∧
        s.world.auth.db.challenges.get? id = some row ∧ row.consumedAt = none) :
    UseInv A calls s' := by
  obtain ⟨hi, hg, he⟩ := h.later hs
  exact
    { held := hdb ▸ hhe
      keyed := hdb ▸ h.keyed
      issued := by rw [hdb, hlog]; exact hi
      spent := by rw [hdb, hlog]; exact h.spent
      once := hlog ▸ h.once
      granted := hlog ▸ hg
      ended := hlog ▸ he
      callers := hlog ▸ h.callers
      stored := by rw [hdb, hlog]; exact h.stored
      principals := by rw [hdb, hlog]; exact h.principals }

/-- What a step leaves locked was locked before, by the same call. -/
def LocksFrom (s s' : SessionState) : Prop :=
  ∀ t tx id, s'.world.auth.txs.get? t = some tx → .challenge id ∈ tx.locks →
    ∃ tx₀, s.world.auth.txs.get? t = some tx₀ ∧ .challenge id ∈ tx₀.locks

lemma UseInv.held_later (hlo : LocksFrom s s') (t : Nat)
    (tx : AuthTx) (id : String) (ht : s'.world.auth.txs.get? t = some tx)
    (hi : .challenge id ∈ tx.locks) :
    ∃ row, (s'.threads t).hist.Heard (.auth (.challengeForUpdate id)) (some row) ∧
      s.world.auth.db.challenges.get? id = some row ∧ row.consumedAt = none := by
  obtain ⟨tx₀, ht₀, hi₀⟩ := hlo t tx id ht hi
  obtain ⟨row, hr, hg⟩ := h.held t tx₀ id ht₀ hi₀
  exact ⟨row, hr.mono (hs.hist t), hg⟩

end

section

variable (h : UseInv A calls s) (hs : Later s s') (hlo : LocksFrom s s')
include h hs hlo

lemma UseInv.insert {challenges : Table String ChallengeRow}
    (hins : s.world.auth.db.challenges.insert? id row = some challenges)
    (hdb : s'.world.auth.db = { s.world.auth.db with challenges := challenges })
    (hlog : s'.world.log = s.world.log)
    (hkey : ∃ claim, row.principals = [claim] ∧ claim.principalId = claim.publicKeyHex)
    (hfr : id ∉ consumedIds s.world.log)
    (hma : ∃ t, (s'.threads t).hist.Heard (.auth .newUuid) id ∧ ((s'.threads t).prog.isDone = true ∨
      ∃ row, (s'.threads t).hist.Did (.insertChallenge id row))) : UseInv A calls s' := by
  obtain ⟨his, hg, he⟩ := h.later hs
  have hget : ∀ id', s'.world.auth.db.challenges.get? id' =
      if id' = id then some row else s.world.auth.db.challenges.get? id' := by
    rw [hdb]
    exact get?_insert? hins
  have hno : s.world.auth.db.challenges.get? id = none := by
    by_contra ho
    rw [insert?_eq_none.2 (ne_none_iff_exists'.1 ho)] at hins
    cases hins
  exact
    { held := by
        intro t tx id' ht hi
        obtain ⟨row', hr, hget', hc⟩ := h.held_later hs hlo t tx id' ht hi
        refine ⟨row', hr, ?_, hc⟩
        rw [hget, if_neg, hget']
        rintro rfl
        rw [hno] at hget'
        cases hget'
      keyed := by
        intro id' row' hr
        rw [hget] at hr
        split at hr
        · cases hr
          exact hkey
        · exact h.keyed id' row' hr
      issued := by
        intro id' hi
        by_cases heq : id' = id
        · exact heq ▸ hma
        · refine his id' ?_
          rw [hget, if_neg heq, hlog] at hi
          exact hi
      spent := by
        intro id' hi row' hr
        rw [hlog] at hi
        have hne : id' ≠ id := fun heq => hfr (heq ▸ hi)
        rw [hget, if_neg hne] at hr
        exact h.spent id' hi row' hr
      once := hlog ▸ h.once
      granted := hlog ▸ hg
      ended := hlog ▸ he
      callers := hlog ▸ h.callers
      stored := by rw [hdb, hlog]; exact h.stored
      principals := by rw [hdb, hlog]; exact h.principals }

lemma UseInv.expireChallenges (hfr : ¬ s.world.ExpiredLocked)
    (hd : s'.world.auth.db = s.world.auth.db.dropExpiredChallenges s.world.gateway.now)
    (hl : s'.world.log = s.world.log) : UseInv A calls s' := by
  obtain ⟨hi, hg, he⟩ := h.later hs
  have ht : ∀ id row, s'.world.auth.db.challenges.get? id = some row →
      s.world.auth.db.challenges.get? id = some row := by
    intro id row hr
    rw [hd] at hr
    exact (filter_eq_some_iff.1 ((get?_delete _ _ _).symm.trans hr)).1
  exact
    { held := by
        intro t tx id htx hid
        obtain ⟨row, hr, ht', hc⟩ := h.held_later hs hlo t tx id htx hid
        obtain ⟨tx₀, htx₀, hid₀⟩ := hlo t tx id htx hid
        refine ⟨row, hr, ?_, hc⟩
        rw [hd]
        refine (get?_delete _ _ _).trans (filter_eq_some_iff.2 ⟨ht', ?_⟩)
        rw [not_eq_true', decide_eq_false_iff_not]
        intro hx
        exact hfr ⟨(id, row), get?_eq_some.1 ht', hx, (t, tx₀), get?_eq_some.1 htx₀, hid₀⟩
      keyed := fun id row hr => h.keyed id row (ht id row hr)
      issued := by
        intro id hid
        rw [hl] at hid
        exact hi id (hid.imp_left fun ⟨row, hr⟩ => ⟨row, ht id row hr⟩)
      spent := by
        intro id hid row hr
        exact h.spent id (hl ▸ hid) row (ht id row hr)
      once := hl ▸ h.once
      granted := hl ▸ hg
      ended := hl ▸ he
      callers := hl ▸ h.callers
      stored := by rw [hd, hl]; exact h.stored
      principals := by rw [hd, hl]; exact h.principals }

lemma UseInv.expireSessions
    (hd : s'.world.auth.db = s.world.auth.db.dropExpiredSessions s.world.gateway.now)
    (hl : s'.world.log = s.world.log) : UseInv A calls s' := by
  obtain ⟨hi, hgr, hn⟩ := h.later hs
  have hc : s'.world.auth.db.challenges = s.world.auth.db.challenges := by rw [hd]; rfl
  exact
    { held := hc ▸ h.held_later hs hlo
      keyed := hc ▸ h.keyed
      issued := by rw [hc, hl]; exact hi
      spent := by rw [hc, hl]; exact h.spent
      once := hl ▸ h.once
      granted := hl ▸ hgr
      ended := hl ▸ hn
      callers := hl ▸ h.callers
      stored := by
        intro sid row hr
        rw [hd] at hr
        obtain ⟨hold, hv⟩ :=
          filter_eq_some_iff.1 ((get?_delete _ _ _).symm.trans hr)
        obtain ⟨e, he, g, hg, hsid, hse, x, hx⟩ := h.stored sid row hold
        refine ⟨e, hl ▸ he, g, hg, hsid, hse, x, ?_⟩
        rw [hd]
        refine (get?_delete _ _ _).trans (filter_eq_some_iff.2 ⟨hx, ?_⟩)
        simpa [hold] using hv
      principals := by
        intro sid principal x hx
        rw [hd] at hx
        rw [hl]
        exact h.principals sid principal x
          (filter_eq_some_iff.1 ((get?_delete _ _ _).symm.trans hx)).1 }

end

lemma UseInv.commit (h : UseInv A calls s) (hloc : LocksInv s) (hs : Later s s')
    {tx : AuthTx} {db : AuthDb} {g : Grant} (htx : s.world.auth.txs.get? t = some tx)
    (hg : Grants g tx) (hgra : Granted A calls s t g) (hvi : tx.view s.world.auth.db = .ok db)
    (hlo : ∀ t' tx' id, s'.world.auth.txs.get? t' = some tx' → .challenge id ∈ tx'.locks →
      t' ≠ t ∧ ∃ tx₀, s.world.auth.txs.get? t' = some tx₀ ∧ .challenge id ∈ tx₀.locks)
    (hnew : t ∉ s.world.log.map Prod.fst)
    (hend : (s'.threads t).prog.isDone = true ∨ (s'.threads t).hist.Did (.auth .commit))
    (hdb : s'.world.auth.db = db) (hlog : s'.world.log = (t, tx) :: s.world.log) :
    UseInv A calls s' := by
  obtain ⟨his, hgr, hn⟩ := h.later hs
  obtain ⟨⟨τ, hh⟩, hses, hpr⟩ := hg.view hvi
  have hi : consumedIds s'.world.log = g.challengeId :: consumedIds s.world.log := by
    rw [hlog, consumedIds, flatMap_cons, hg.consumed]
    rfl
  obtain ⟨row, -, hw, hu⟩ := h.held t tx g.challengeId htx hg.locked
  have ht (id : String) : s'.world.auth.db.challenges.get? id =
      (s.world.auth.db.challenges.get? id).map fun r =>
        if id = g.challengeId then { r with consumedAt := some τ } else r := by
    rw [hdb, hh]
    simp
  have hse (sid : String) : s'.world.auth.db.sessions.get? sid =
      if sid = g.sessionId then some g.session else s.world.auth.db.sessions.get? sid := by
    rw [hdb]
    exact get?_insert? hses sid
  have hp (key : String × String) : s'.world.auth.db.sessionPrincipals.get? key =
      if key = (g.sessionId, g.claim.principalId) then some g.session.expiresAt
      else s.world.auth.db.sessionPrincipals.get? key := by
    rw [hdb]
    exact get?_insert? hpr key
  have hold {e : Nat × AuthTx} (he : e ∈ s.world.log) : e ∈ s'.world.log :=
    hlog ▸ mem_cons_of_mem _ he
  exact
    { held := by
        intro t' tx' id htx' hid
        obtain ⟨hne, tx₀, htx₀, hid₀⟩ := hlo t' tx' id htx' hid
        obtain ⟨row', hr, hw', hco⟩ := h.held t' tx₀ id htx₀ hid₀
        refine ⟨row', hr.mono (hs.hist t'), ?_, hco⟩
        -- the committed challenge was locked by `t`, so this is another one
        have ho : id ≠ g.challengeId := by
          rintro rfl
          exact hne (hloc t' t tx₀ tx _ htx₀ htx hid₀ hg.locked)
        rw [ht, hw', map_some, if_neg ho]
      keyed := by
        intro id row' hw'
        rw [ht] at hw'
        obtain ⟨row₀, hw₀, rfl⟩ := map_eq_some_iff.1 hw'
        obtain ⟨claim, hc⟩ := h.keyed id row₀ hw₀
        refine ⟨claim, ?_⟩
        split
        · exact hc
        · exact hc
      issued := by
        intro id hid
        refine his id ?_
        rw [ht, hi, mem_cons] at hid
        rcases hid with ⟨row', hw'⟩ | rfl | hid
        · obtain ⟨row₀, hw₀, -⟩ := map_eq_some_iff.1 hw'
          exact .inl ⟨row₀, hw₀⟩
        · exact .inl ⟨row, hw⟩
        · exact .inr hid
      spent := by
        intro id hid row' hw'
        rw [ht] at hw'
        obtain ⟨row₀, hw₀, rfl⟩ := map_eq_some_iff.1 hw'
        rw [hi, mem_cons] at hid
        by_cases heq : id = g.challengeId
        · rw [if_pos heq]
          exact some_ne_none τ
        · rw [if_neg heq]
          exact h.spent id (hid.resolve_left heq) row₀ hw₀
      once := by
        rw [hi]
        refine nodup_cons.2 ⟨fun hid => ?_, h.once⟩
        exact h.spent g.challengeId hid row hw hu
      granted := by
        intro e he
        rw [hlog] at he
        rcases mem_cons.1 he with rfl | he
        · exact ⟨g, hg, hgra.later hs⟩
        · exact hgr e he
      ended := by
        intro e he
        rw [hlog] at he
        rcases mem_cons.1 he with rfl | he
        · exact hend
        · exact hn e he
      callers := by
        rw [hlog]
        exact nodup_cons.2 ⟨hnew, h.callers⟩
      stored := by
        intro sid row' hw'
        rw [hse] at hw'
        split at hw'
        · rename_i heq
          cases hw'
          refine ⟨(t, tx), hlog ▸ mem_cons_self, g, hg, heq.symm, rfl, g.session.expiresAt, ?_⟩
          rw [hp, if_pos (by rw [heq])]
        · obtain ⟨e, he, g', hg', hd, hw'', x, hx⟩ := h.stored sid row' hw'
          refine ⟨e, hold he, g', hg', hd, hw'', x, ?_⟩
          rename_i hne
          rw [hp, if_neg (fun heq => hne (congrArg Prod.fst heq)), hx]
      principals := by
        intro sid principal x hx
        rw [hp] at hx
        split at hx
        · rename_i heq
          cases heq
          exact ⟨(t, tx), hlog ▸ mem_cons_self, g, hg, rfl, rfl⟩
        · obtain ⟨e, he, hres⟩ := h.principals sid principal x hx
          exact ⟨e, hold he, hres⟩ }

/-! ### One step -/

abbrev FollowsSessions (A : AuthCrates) (calls : Nat → SessionCall) (s : SessionState) : Prop :=
  FollowsAll (fun t => sessionRule A (calls t)) (fun _ _ _ => True) s

variable {hist : SessionHist} {call : SessionCall}

lemma insert_of_rule (h : (sessionRule A call).onCmd hist (.insertChallenge id row)) :
    hist.Heard (.auth .newUuid) id ∧
      (∃ claim, row.principals = [claim] ∧ claim.principalId = claim.publicKeyHex) ∧
      ∀ id' row', ¬ hist.Did (.insertChallenge id' row') := by
  cases call with
  | createChallenge => exact ⟨h.1, h.2.2.1, h.2.2.2⟩
  | proveSession => exact h.2.elim
  | cleanupExpiredMetadata => simp [sessionRule] at h

lemma commit_of_rule (h : (sessionRule A call).onCmd hist (.auth .commit)) :
    ∃ ttl request, call = .proveSession ttl request ∧ ¬ hist.Did (.auth .commit) ∧
      ∃ g tx, proofTx hist = some tx ∧ Grants g tx ∧
        Checked A request hist g.challengeId g.challenge g.claim ∧
        hist.Heard (.auth .newUuid) g.sessionId ∧ g.session.networkId = g.challenge.networkId := by
  cases call with
  | createChallenge => exact h.elim
  | proveSession ttl request => exact ⟨ttl, request, rfl, h⟩
  | cleanupExpiredMetadata => simp [sessionRule] at h

variable {k : SessionProg SessionReply}

lemma locksFrom_cmd (hx : Performed t o s.world c r w) :
    LocksFrom s ((s.afterCmd sessions t c k r w).settle sessions t) := by
  intro _ _ _ ht hi
  have ht := get?_of_settle ht
  rw [world_afterCmd] at ht
  exact hx.locks ht hi

lemma past_cmd :
    (((s.afterCmd sessions t c k r w).settle sessions t).threads t).prog.isDone = true ∨
      (((s.afterCmd sessions t c k r w).settle sessions t).threads t).hist.Did c := by
  rw [settle_prog, settle_hist]
  cases r with
  | ok => exact .inr (by simp [afterCmd])
  | error => exact .inl (by simp [afterCmd])

/-- A call reads one challenge. -/
def ReadsOnce (s : SessionState) : Prop :=
  ∀ t id x y, (s.threads t).hist.Heard (.auth (.challengeForUpdate id)) x →
    (s.threads t).hist.Heard (.auth (.challengeForUpdate id)) y → x = y

lemma UseInv.cmd (h : UseInv A calls s) (hf : FollowsSessions A calls s) (htxs : TxsInv s)
    (hlo : LocksInv s) (hu : UuidsInv s) (ha : ReadsOnce s)
    (hp : (s.threads t).prog = .cmd c k) (hx : Performed t o s.world c r w)
    (hs : Later s ((s.afterCmd sessions t c k r w).settle sessions t)) :
    UseInv A calls ((s.afterCmd sessions t c k r w).settle sessions t) := by
  have hfr := locksFrom_cmd (k := k) hx
  obtain ⟨hb, hl, -, -, _⟩ := settle_session (s.afterCmd sessions t c k r w) t
  rw [world_afterCmd] at hb hl
  have hpa := past_cmd (s := s) (t := t) (c := c) (k := k) (r := r) (w := w)
  cases hx with
  | failed | begun | wrote | elsewhere => exact h.frame hs hb hl (h.held_later hs hfr)
  | expiredChallenges _ hfre => exact h.expireChallenges hs hfr hfre hb hl
  | expiredSessions => exact h.expireSessions hs hfr hb hl
  | inserted _ id row _ hi =>
    obtain ⟨hw, hke, hon⟩ := insert_of_rule (hf.cmd hp)
    refine h.insert hs hfr hi hb hl hke (fun hid => ?_)
      ⟨t, hw.mono (hs.hist t), hpa.imp_right fun hd => ⟨row, hd⟩⟩
    -- a consumed challenge was made by the call that got its UUID, which is this one
    obtain ⟨t', hw', hdo⟩ := h.issued id (Or.inr hid)
    cases hu.2 t' t id hw' hw
    rcases hdo with hdo | ⟨row', hdid⟩
    · rw [hp] at hdo
      cases hdo
    · exact hon id row' hdid
  | committed _ tx _ htx hv =>
    obtain ⟨ttl, request, hca, ho, g, tx', htx'', hg, hc, hw, hn⟩ :=
      commit_of_rule (hf.cmd hp)
    have heq : tx' = tx := by
      have ho := htxs t
      rw [hp, htx, htx''] at ho
      exact (Option.some.inj ho).symm
    subst heq
    obtain ⟨_, hre, hr, -⟩ := h.held t tx' g.challengeId htx hg.locked
    refine h.commit hlo hs htx hg ⟨ttl, request, hca, hc, hw, hn, ?_⟩ hv ?_ ?_
      hpa hb hl
    · cases ha t _ _ _ hre hc.challenge
      obtain ⟨_, hcl, hk⟩ := h.keyed _ _ hr
      rw [hc.named] at hcl
      cases hcl
      exact hk
    · intro t' tx id ht hid
      refine ⟨?_, hfr t' tx id ht hid⟩
      rintro rfl
      have hdr := get?_of_settle ht
      rw [world_afterCmd] at hdr
      replace hdr : (s.world.auth.dropTx t').txs.get? t' = some tx := hdr
      rw [get?_authDropTx, if_pos rfl] at hdr
      cases hdr
    · intro hm
      obtain ⟨e, he, rfl⟩ := mem_map.1 hm
      rcases h.ended e he with hdo | hdid
      · rw [hp] at hdo
        cases hdo
      · exact ho hdid

lemma lock_of_rule (h : (sessionRule A call).onAsk hist (.auth (.challengeForUpdate id))) :
    proofTx hist = some ⟨[], []⟩ ∧ ∀ x, ¬ hist.Heard (.auth (.challengeForUpdate id)) x := by
  cases call with
  | createChallenge => simp [sessionRule] at h
  | proveSession => exact ⟨h.2.2.2, h.2.2.1⟩
  | cleanupExpiredMetadata => exact h.elim

section

variable (h : UseInv A calls s) (hf : FollowsSessions A calls s) (htxs : TxsInv s)
include h hf htxs

lemma UseInv.ask {k : SessionAns q → SessionProg SessionReply}
    {r : Except String (SessionAns q)} (hp : (s.threads t).prog = .ask q k)
    (hx : Answered t s.world q r w)
    (hs : Later s ((s.afterAsk sessions t q k r w).settle sessions t)) :
    UseInv A calls ((s.afterAsk sessions t q k r w).settle sessions t) := by
  obtain ⟨hd, hl, -, -, -⟩ := settle_session (s.afterAsk sessions t q k r w) t
  rw [world_afterAsk] at hd hl
  have hd' : w.auth.db = s.world.auth.db ∧ w.log = s.world.log := by
    cases hx <;> exact ⟨rfl, rfl⟩
  refine h.frame hs (hd.trans hd'.1) (hl.trans hd'.2) fun t' tx' id htx' hi => ?_
  replace htx' := get?_of_settle htx'
  rw [world_afterAsk] at htx'
  have hold (tx₀ : AuthTx) (htx₀ : s.world.auth.txs.get? t' = some tx₀)
      (hi₀ : .challenge id ∈ tx₀.locks) :
      ∃ row, (((s.afterAsk sessions t q k r w).settle sessions t).threads t').hist.Heard
          (.auth (.challengeForUpdate id)) (some row) ∧
        s.world.auth.db.challenges.get? id = some row ∧ row.consumedAt = none := by
    obtain ⟨row, hre, hr⟩ := h.held t' tx₀ id htx₀ hi₀
    exact ⟨row, hre.mono (hs.hist t'), hr⟩
  cases hx with
  | locked id' row tx db hfr htx hv hg hr =>
    have he : tx = ⟨[], []⟩ := by
      have ho := htxs t
      rw [hp, htx] at ho
      exact Option.some.inj (ho.trans (lock_of_rule (hf.ask hp)).1)
    subst he
    cases hv
    rw [get?_authSetTx] at htx'
    split at htx'
    · rename_i ht
      cases htx'
      subst ht
      cases mem_singleton.1 hi
      refine ⟨row, ?_, hg, hr⟩
      rw [settle_hist]
      exact ⟨s.world.gateway.now, by simp [afterAsk, sessions]⟩
    · exact hold tx' htx' hi
  | registered n p i b tx htx =>
    rw [get?_authSetTx] at htx'
    split at htx'
    · rename_i ht
      cases htx'
      subst ht
      exact hold tx htx (by simpa [AuthTx.lock, AuthTx.push] using hi)
    · exact hold tx' htx' hi
  | _ => exact hold tx' htx' hi

lemma UseInv.step
    (hlo : LocksInv s) (huu : UuidsInv s) (hre : ReadsOnce s) (a : Action SessionEnv) :
    UseInv A calls (s.step Message.sessions a) := by
  have hs := later_step s a
  rcases session_step_cases s a with heq | ⟨e, heq⟩ | ⟨t, _, _, _, _, _, -, hp, hx, heq⟩ |
    ⟨t, _, _, _, _, _, -, hp, hx, heq⟩
  · rw [heq]
    exact h
  · rw [heq] at hs ⊢
    refine h.frame hs (by cases e <;> rfl) (by cases e <;> rfl) (h.held_later hs fun t tx id ht hi => ?_)
    exact ⟨tx, by cases e <;> exact ht, hi⟩
  · rw [heq] at hs ⊢
    exact h.cmd hf htxs hlo huu hre hp hx hs
  · rw [heq] at hs ⊢
    exact h.ask hf htxs hp hx hs

end

end Uses

end WattGateway.Message

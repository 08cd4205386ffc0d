import WattGateway.Message.Publish
import WattGateway.Message.Statements

/-!
# Transactions and fences in runs

What one step of a run does to the transactions, the tables and the broker, and the two
invariants every later proof rests on: a call's open transaction is the one its own history
describes (`TxInv`), and an exclusive fence admits no second holder (`FenceInv`). Both hold in
every run from a world without open transactions, whatever the calls are.
-/

namespace WattGateway.Message

open Sys Table

variable {o : Outcome} {t : Nat} {q : Query} {tx : Tx} {w w' : World} {x : Except String Db}
  {s : Stmt} {m : BrokerEnvelope} {c : Cmd}

/-! ## The transaction a history describes -/

def Cmd.onTx (τ : Nat) (tx : Option Tx) : Cmd → Option Tx
  | begin n l e => some ⟨fenceKey n l, e, []⟩
  | stmt s => tx.map fun tx => tx.push (τ, s)
  | commit => none
  | _ => tx

def txOf : Hist Cmd Query Ans → Option Tx
  | [] => none
  | (τ, .did c) :: h => c.onTx τ (txOf h)
  | (_, .heard _ _) :: h => txOf h

section TxOf

variable {τ : Nat} {h : Hist Cmd Query Ans}

@[simp] lemma txOf_nil : txOf [] = none := rfl

@[simp] lemma txOf_heard {a : Ans q} : txOf ((τ, .heard q a) :: h) = txOf h := rfl

lemma txOf_did : txOf ((τ, .did c) :: h) = c.onTx τ (txOf h) := rfl

@[simp] lemma txOf_begin {n l : String} {e : Bool} :
    txOf ((τ, .did (.begin n l e)) :: h) = some ⟨fenceKey n l, e, []⟩ := rfl

@[simp] lemma txOf_stmt :
    txOf ((τ, .did (.stmt s)) :: h) = (txOf h).map fun tx => tx.push (τ, s) := rfl

@[simp] lemma txOf_commit : txOf ((τ, .did .commit) :: h) = none := rfl

@[simp] lemma txOf_exec : txOf ((τ, .did (.exec s)) :: h) = txOf h := rfl

variable {q : String}

@[simp] lemma txOf_queueDeclare : txOf ((τ, .did (.queueDeclare q)) :: h) = txOf h := rfl

variable {ex : Exchange} {key : Digest}

@[simp] lemma txOf_queueBind : txOf ((τ, .did (.queueBind ex q key)) :: h) = txOf h := rfl

@[simp] lemma txOf_queueUnbind : txOf ((τ, .did (.queueUnbind ex q key)) :: h) = txOf h := rfl

@[simp] lemma txOf_basicPublish : txOf ((τ, .did (.basicPublish ex key m)) :: h) = txOf h := rfl

end TxOf

/-! ## One command -/

section Perform

variable {r : Except String Unit}

lemma request_world {e : String} {w₁ : World} (h : request o e w w₁ = some (r, w')) :
    (w' = w ∧ r ≠ .ok ()) ∨ w' = w₁ := by
  cases o <;> cases h <;> simp

@[simp] lemma get?_setTx (w : World) (t t' : Nat) (tx : Tx) :
    (w.setTx t tx).txs.get? t' = if t' = t then some tx else w.txs.get? t' :=
  get?_upsert _ _ _ _

@[simp] lemma get?_dropTx (w : World) (t t' : Nat) :
    (w.dropTx t).txs.get? t' = if t' = t then none else w.txs.get? t' := by
  unfold World.dropTx
  rw [get?_delete]
  by_cases ht : t' = t
  · subst ht
    cases w.txs.get? t' <;> simp [Option.filter]
  · cases w.txs.get? t' <;> simp [Option.filter, ht]

lemma stmtInTx_world (h : stmtInTx t s o w tx = some (r, w')) :
    (w' = w ∧ r ≠ .ok ()) ∨ w' = w.setTx t (tx.push (w.now, s)) := by
  unfold stmtInTx at h
  split at h
  · split at h
    · cases h
      exact .inr rfl
    · cases h
      exact .inl ⟨rfl, by simp⟩
  · cases h
    exact .inl ⟨rfl, by simp⟩

lemma commitView_world (h : commitView t o w x = some (r, w')) :
    (w' = w ∧ r ≠ .ok ()) ∨ ∃ db, x = .ok db ∧ w' = { w.dropTx t with db := db } := by
  cases x with
  | error =>
    cases h
    exact .inl ⟨rfl, by simp⟩
  | ok db => exact (request_world h).imp_right fun hw => ⟨db, rfl, hw⟩

lemma execStmt_world (h : execStmt o w x = some (r, w')) :
    (w' = w ∧ r ≠ .ok ()) ∨ ∃ db, x = .ok db ∧ w' = { w with db := db } := by
  cases x with
  | error =>
    cases h
    exact .inl ⟨rfl, by simp⟩
  | ok db => exact (request_world h).imp_right fun hw => ⟨db, rfl, hw⟩

lemma publishTo_world {ex : Exchange} {key : Digest}
    (h : publishTo t ex key m o w = some (r, w')) : (w' = w ∧ r ≠ .ok ()) ∨
      ∃ b, w' = { w with broker := w.broker.route t ex key m b } ∧ (b = true ↔ r = .ok ()) := by
  unfold publishTo at h
  split at h
  · cases h
    exact .inl ⟨rfl, by simp⟩
  · cases o <;> cases h
    · exact .inr ⟨true, rfl, by simp⟩
    · exact .inl ⟨rfl, by simp⟩
    · exact .inl ⟨rfl, by simp⟩
    · exact .inr ⟨false, rfl, by simp⟩

def Cmd.Effect (t : Nat) (r : Except String Unit) (w w' : World) : Cmd → Prop
  | begin n l e => w' = w.setTx t ⟨fenceKey n l, e, []⟩ ∧ ¬ w.Conflicts t (fenceKey n l) e
  | stmt s => ∃ tx, w.txs.get? t = some tx ∧ w' = w.setTx t (tx.push (w.now, s))
  | exec s => ∃ db, s.run w.now w.db = .ok db ∧ w' = { w with db := db }
  | commit => ∃ tx db, w.txs.get? t = some tx ∧ tx.view w.db = .ok db ∧
      w' = { w.dropTx t with db := db }
  | queueDeclare q => w' = { w with broker := w.broker.queueDeclare q }
  | queueBind ex q key => w' = { w with broker := w.broker.queueBind ex q key }
  | queueUnbind ex q key => w' = { w with broker := w.broker.queueUnbind ex q key }
  | basicPublish ex key m =>
    ∃ b, w' = { w with broker := w.broker.route t ex key m b } ∧ (b = true ↔ r = .ok ())

/-- A command fails without effect, or has its effect: always so when it succeeds. -/
lemma perform_effect (h : perform t c o w = some (r, w')) :
    (w' = w ∧ r ≠ .ok ()) ∨ c.Effect t r w w' := by
  cases c with
  | begin n l e =>
    simp only [perform] at h
    split at h
    · cases h
      exact .inl ⟨rfl, by simp⟩
    · split at h
      · cases h
      · rename_i hc
        cases h
        exact .inr ⟨rfl, hc⟩
  | stmt s =>
    simp only [perform] at h
    split at h
    · cases h
      exact .inl ⟨rfl, by simp⟩
    · rename_i tx ht
      exact (stmtInTx_world h).imp_right fun hw => ⟨tx, ht, hw⟩
  | exec => exact execStmt_world h
  | commit =>
    simp only [perform] at h
    split at h
    · cases h
      exact .inl ⟨rfl, by simp⟩
    · rename_i tx ht
      rcases commitView_world h with hs | ⟨db, hd, hw⟩
      · exact .inl hs
      · exact .inr ⟨tx, db, ht, hd, hw⟩
  | queueDeclare | queueUnbind => exact request_world h
  | queueBind =>
    simp only [perform] at h
    split at h
    · exact request_world h
    · cases h
      exact .inl ⟨rfl, by simp⟩
  | basicPublish => exact publishTo_world h

lemma perform_ok {u : Unit} (h : perform t c o w = some (.ok u, w')) :
    c.Effect t (.ok ()) w w' := by
  rcases perform_effect h with ⟨-, hr⟩ | he
  · exact absurd rfl hr
  · exact he

namespace Cmd

section

variable (h : c.Effect t r w w')
include h

lemma Effect.now : w'.now = w.now := by
  cases c with
  | begin => obtain ⟨rfl, -⟩ := h; rfl
  | stmt => obtain ⟨tx, -, rfl⟩ := h; rfl
  | exec => obtain ⟨db, -, rfl⟩ := h; rfl
  | commit => obtain ⟨_, _, -, -, rfl⟩ := h; rfl
  | queueDeclare => rw [h]
  | queueBind => rw [h]
  | queueUnbind => rw [h]
  | basicPublish => obtain ⟨_, rfl, -⟩ := h; rfl

lemma Effect.db : w'.db = w.db ∨ (∃ s, c = .exec s ∧ s.run w.now w.db = .ok w'.db) ∨
    (c = .commit ∧ ∃ tx, w.txs.get? t = some tx ∧ tx.view w.db = .ok w'.db) := by
  cases c with
  | begin => obtain ⟨rfl, -⟩ := h; exact .inl rfl
  | stmt => obtain ⟨tx, -, rfl⟩ := h; exact .inl rfl
  | exec s => obtain ⟨db, hd, rfl⟩ := h; exact .inr (.inl ⟨s, rfl, hd⟩)
  | commit => obtain ⟨tx, _, ht, hd, rfl⟩ := h; exact .inr (.inr ⟨rfl, tx, ht, hd⟩)
  | queueDeclare | queueBind | queueUnbind => left; rw [h]
  | basicPublish => obtain ⟨_, rfl, -⟩ := h; exact .inl rfl

lemma Effect.txs (t' : Nat) :
    w'.txs.get? t' = if t' = t then c.onTx w.now (w.txs.get? t) else w.txs.get? t' := by
  cases c with
  | begin =>
    obtain ⟨rfl, -⟩ := h
    rw [get?_setTx]
    rfl
  | stmt =>
    obtain ⟨tx, hx, rfl⟩ := h
    rw [get?_setTx, hx]
    rfl
  | commit =>
    obtain ⟨_, _, -, -, rfl⟩ := h
    exact get?_dropTx w t t'
  | _ =>
    have hx : w'.txs = w.txs := by
      first
        | rw [h]
        | (obtain ⟨x, -, rfl⟩ := h; rfl)
        | (obtain ⟨_, rfl, -⟩ := h; rfl)
    rw [hx]
    by_cases ht : t' = t
    · subst ht
      rw [if_pos rfl]
      rfl
    · rw [if_neg ht]

lemma Effect.bindings : w'.broker.bindings = w.broker.bindings ∨
    (∃ ex q key, c = .queueBind ex q key ∧ w'.broker = w.broker.queueBind ex q key) ∨
    ∃ ex q key, c = .queueUnbind ex q key := by
  cases c with
  | begin => obtain ⟨rfl, -⟩ := h; exact .inl rfl
  | stmt => obtain ⟨tx, -, rfl⟩ := h; exact .inl rfl
  | exec => obtain ⟨db, -, rfl⟩ := h; exact .inl rfl
  | commit => obtain ⟨_, _, -, -, rfl⟩ := h; exact .inl rfl
  | queueDeclare => left; rw [h]; exact Broker.bindings_queueDeclare _ _
  | queueBind ex q key => exact .inr (.inl ⟨ex, q, key, rfl, by rw [h]⟩)
  | queueUnbind ex q key => exact .inr (.inr ⟨ex, q, key, rfl⟩)
  | basicPublish => obtain ⟨_, rfl, -⟩ := h; exact .inl rfl

lemma Effect.queues : w.broker.queues ⊆ w'.broker.queues := by
  cases c with
  | begin => obtain ⟨rfl, -⟩ := h; exact List.Subset.refl _
  | stmt => obtain ⟨tx, -, rfl⟩ := h; exact List.Subset.refl _
  | exec => obtain ⟨db, -, rfl⟩ := h; exact List.Subset.refl _
  | commit => obtain ⟨_, _, -, -, rfl⟩ := h; exact List.Subset.refl _
  | queueDeclare => rw [h]; exact fun x hx => Broker.mem_queueDeclare.2 (.inr hx)
  | queueBind => rw [h, Broker.queues_queueBind]; exact List.Subset.refl _
  | queueUnbind => rw [h]; exact List.Subset.refl _
  | basicPublish => obtain ⟨_, rfl, -⟩ := h; exact List.Subset.refl _

lemma Effect.routed : w'.broker.routed = w.broker.routed ∨
    ∃ ex key m b, c = .basicPublish ex key m ∧ w'.broker = w.broker.route t ex key m b := by
  cases c with
  | begin => obtain ⟨rfl, -⟩ := h; exact .inl rfl
  | stmt => obtain ⟨tx, -, rfl⟩ := h; exact .inl rfl
  | exec => obtain ⟨db, -, rfl⟩ := h; exact .inl rfl
  | commit => obtain ⟨_, _, -, -, rfl⟩ := h; exact .inl rfl
  | queueDeclare => left; rw [h]; exact Broker.routed_queueDeclare _ _
  | queueBind => left; rw [h]; exact Broker.routed_queueBind _ _ _ _
  | queueUnbind => left; rw [h]; rfl
  | basicPublish ex key m => obtain ⟨b, rfl, -⟩ := h; exact .inr ⟨ex, key, m, b, rfl, rfl⟩

end

end Cmd

end Perform

/-! ## One step -/

/-- Call `t` is at its commit, which would make `db'` the committed tables. -/
def AtCommit (s : State) (t : Nat) (db' : Db) : Prop :=
  ∃ k tx, (s.threads t).prog = .cmd .commit k ∧ s.world.txs.get? t = some tx ∧
    tx.view s.world.db = .ok db'

/-- Call `t` is at a statement through the pool, which would make `db'` the committed tables. -/
def AtExec (s : State) (t : Nat) (st : Stmt) (db' : Db) : Prop :=
  ∃ k, (s.threads t).prog = .cmd (.exec st) k ∧ st.run s.world.now s.world.db = .ok db'

section World

variable {α : Type} (s : Sys Cmd Query Ans World α) (a : Action Env)

@[simp] lemma settle_db (t : Nat) : (s.settle gateway t).world.db = s.world.db := by
  unfold settle
  split <;> rfl

@[simp] lemma settle_broker (t : Nat) : (s.settle gateway t).world.broker = s.world.broker := by
  unfold settle
  split <;> rfl

@[simp] lemma settle_now (t : Nat) : (s.settle gateway t).world.now = s.world.now := by
  unfold settle
  split <;> rfl

lemma settle_txs (t t' : Nat) : (s.settle gateway t).world.txs.get? t' =
    if t' = t ∧ (s.threads t).prog.isDone then none else s.world.txs.get? t' := by
  cases hd : (s.threads t).prog.isDone with
  | true =>
    rw [settle_of_done hd]
    show (s.world.dropTx t).txs.get? t' = _
    rw [get?_dropTx]
    simp
  | false =>
    rw [settle_of_not_done hd]
    simp

lemma txs_of_settle {t t' : Nat}
    (h : (s.settle gateway t).world.txs.get? t' = some tx) : s.world.txs.get? t' = some tx := by
  rw [settle_txs] at h
  split at h
  · cases h
  · exact h

lemma answer_world {r : Except String (Ans q)} (h : answer t q o w = some (r, w')) : w' = w := by
  cases o <;> cases h <;> rfl

lemma answer_ok {x : Ans q}
    (h : answer t q o w = some (.ok x, w')) : ∃ b, reply t w b q = .ok x := by
  cases o with
  | ok =>
    simp only [answer, Option.some.injEq, Prod.mk.injEq] at h
    exact ⟨false, h.1⟩
  | refused =>
    simp only [answer, Option.some.injEq, Prod.mk.injEq] at h
    exact ⟨true, h.1⟩
  | failed => cases h
  | lost => cases h

/-- The world after a step, up to the end of the stepping call: an environment move, or the effect
of one command. -/
lemma world_step : (s.step gateway a).world.db = s.world.db ∧
        (s.step gateway a).world.broker = s.world.broker ∧
        (s.step gateway a).world.now = s.world.now ∨
      (∃ e, a = .env e ∧ (s.step gateway a).world = e.run s.world) ∨
      (∃ t o c k r w', a = .run t o ∧ (s.threads t).prog = .cmd c k ∧
        perform t c o s.world = some (r, w') ∧ c.Effect t r s.world w' ∧
        (s.step gateway a).world.db = w'.db ∧ (s.step gateway a).world.broker = w'.broker ∧
        (s.step gateway a).world.now = w'.now ∧
        ∀ t' tx, (s.step gateway a).world.txs.get? t' = some tx → w'.txs.get? t' = some tx) := by
  rcases step_results gateway s a with hs | ⟨e, ha, hs⟩ | ⟨t, o, c, k, _, w, ha, hp, hx, hs⟩ |
    ⟨t, o, _, k, _, w, ha, hp, hx, hs⟩
  · left; rw [hs]; exact ⟨rfl, rfl, rfl⟩
  · right; left; rw [hs]; exact ⟨e, ha, rfl⟩
  · rcases perform_effect hx with ⟨hw, -⟩ | he
    · left
      subst hw
      rw [hs]; simp
    · right; right
      refine ⟨t, o, c, k, _, w, ha, hp, hx, he, by rw [hs]; simp, by rw [hs]; simp,
        by rw [hs]; simp, fun t' tx h => ?_⟩
      rw [hs] at h
      simpa using txs_of_settle _ h
  · left
    have hw := answer_world hx
    subst hw
    rw [hs]; simp

lemma now_le_step : s.world.now ≤ (s.step gateway a).world.now := by
  rcases world_step s a with ⟨-, -, hn⟩ | ⟨e, -, hw⟩ |
    ⟨_, _, _, _, _, _, -, -, -, he, -, -, hn, -⟩
  · exact Nat.le_of_eq hn.symm
  · rw [hw]
    cases e with
    | tick => exact Nat.le_add_right _ _
    | cleanup => exact Nat.le_refl _
  · exact Nat.le_of_eq (hn.trans he.now).symm

end World

section Step

variable (s : State) (a : Action Env)

/-- The tables change by a commit, which closes the transaction, by a statement through the pool,
and by the deletion of expired receipts. -/
lemma db_step : (s.step gateway a).world.db = s.world.db ∨
      (∃ t o, a = .run t o ∧ AtCommit s t (s.step gateway a).world.db ∧
        (s.step gateway a).world.txs.get? t = none) ∨
      (∃ t o st, a = .run t o ∧ AtExec s t st (s.step gateway a).world.db) ∨
      (s.step gateway a).world.db = { s.world.db with
        receipts := s.world.db.receipts.delete fun _ r => r.expiresAt ≤ s.world.now } := by
  rcases world_step s a with ⟨hd, -⟩ | ⟨e, -, hw⟩ |
    ⟨t, o, _, k, _, _, ha, hp, -, he, hd, -, -, ht⟩
  · exact .inl hd
  · rw [hw]
    cases e with
    | tick => exact .inl rfl
    | cleanup => exact .inr (.inr (.inr rfl))
  · rw [hd]
    rcases he.db with hw | ⟨st, rfl, hr⟩ | ⟨rfl, tx, htx, hv⟩
    · exact .inl hw
    · exact .inr (.inr (.inl ⟨t, o, st, ha, k, hp, hr⟩))
    · refine .inr (.inl ⟨t, o, ha, ⟨k, tx, hp, htx, hv⟩, ?_⟩)
      cases hx : (s.step gateway a).world.txs.get? t with
      | none => rfl
      | some tx' =>
        have hc := ht t tx' hx
        rw [he.txs t, if_pos rfl] at hc
        cases hc

variable {s a}
lemma atCommit_of_did (hl : ¬ (s.threads t).hist.Did .commit)
    (hd : ((s.step gateway a).threads t).hist.Did .commit) :
    ∃ o, a = .run t o ∧ AtCommit s t (s.step gateway a).world.db := by
  obtain ⟨τ, hm⟩ := hd
  rcases did_of_step hm with hold | ⟨o, k, _, w, ha, hp, -, hx, hs⟩
  · exact absurd ⟨τ, hold⟩ hl
  · obtain ⟨tx, _, ht, hv, rfl⟩ : Cmd.Effect t (.ok ()) s.world w .commit := perform_ok hx
    exact ⟨o, ha, k, tx, hp, ht, by rw [hs]; simpa using hv⟩

lemma db_of_ask {k : Ans q → Gw Reply}
    (hp : (s.threads t).prog = .ask q k) : (s.step gateway (.run t o)).world.db = s.world.db := by
  rcases world_step s (.run t o) with ⟨hd, -⟩ | ⟨_, ha, -⟩ | ⟨_, _, _, _, _, _, ha, hp', -⟩
  · exact hd
  · cases ha
  · cases ha
    rw [hp] at hp'
    cases hp'

lemma heard_step {x : Ans q} (h : ((s.step gateway a).threads t).hist.Heard q x) :
    (s.threads t).hist.Heard q x ∨
      ∃ o k b, a = .run t o ∧ (s.threads t).prog = .ask q k ∧ reply t s.world b q = .ok x := by
  rcases heard_of_step h with h | ⟨o, k, _, ha, hp, hx, -⟩
  · exact .inl h
  · obtain ⟨b, hb⟩ := answer_ok hx
    exact .inr ⟨o, k, b, ha, hp, hb⟩

lemma did_step {τ : Nat} (h : (τ, .did c) ∈ ((s.step gateway a).threads t).hist) :
    (τ, .did c) ∈ (s.threads t).hist ∨
      ∃ o k w', a = .run t o ∧ (s.threads t).prog = .cmd c k ∧ τ = s.world.now ∧
        c.Effect t (.ok ()) s.world w' ∧ (s.step gateway a).world.broker = w'.broker := by
  rcases did_of_step h with h | ⟨o, k, _, w, ha, hp, hτ, hx, hs⟩
  · exact .inl h
  · refine .inr ⟨o, k, w, ha, hp, hτ, perform_ok hx, ?_⟩
    rw [hs]
    simp

def isCommit : Gw Reply → Bool
  | .cmd .commit _ => true
  | _ => false

lemma atCommit_of_isCommit (h : isCommit (s.threads t).prog = true ∧
    ((s.step gateway (.run t o)).threads t).prog.result?.isSome = true) :
    AtCommit s t (s.step gateway (.run t o)).world.db := by
  obtain ⟨hc, hr⟩ := h
  obtain ⟨_, hp₀⟩ : ∃ k, (s.threads t).prog = .cmd .commit k := by
    unfold isCommit at hc
    split at hc
    · exact ⟨_, ‹_›⟩
    · cases hc
  rcases step_results gateway s (.run t o) with hs | ⟨_, ha, -⟩ |
    ⟨_, _, _, _, r, w, ha, hp, hx, hs⟩ | ⟨_, _, _, _, r, w, ha, hp, -⟩
  · rw [hs, hp₀] at hr
    cases hr
  · cases ha
  · cases ha
    cases hp₀.symm.trans hp
    cases r with
    | ok =>
      obtain ⟨tx, _, ht, hv, rfl⟩ : Cmd.Effect t (.ok ()) s.world w .commit := perform_ok hx
      exact ⟨_, tx, hp₀, ht, by rw [hs]; simpa using hv⟩
    | error =>
      rw [hs, settle_prog, afterCmd, abort_self] at hr
      cases hr
  · cases ha
    cases hp₀.symm.trans hp

end Step

/-! ## Transactions follow histories -/

/-- The open transaction of every call is the one its history describes. -/
def TxInv (s : State) : Prop :=
  ∀ t, s.world.txs.get? t =
    if (s.threads t).prog.isDone then none else txOf (s.threads t).hist

/-- No two calls hold a fence of which one is exclusive. -/
def FenceInv (s : State) : Prop :=
  ∀ t t' tx tx', t ≠ t' → s.world.txs.get? t = some tx → s.world.txs.get? t' = some tx' →
    tx.fence = tx'.fence → tx.exclusive = false ∧ tx'.exclusive = false

section Invariants

variable {s : State}

lemma TxInv.running (h : TxInv s) (hrun : (s.threads t).prog.isDone = false) :
    s.world.txs.get? t = txOf (s.threads t).hist := by
  rw [h t, hrun, if_neg Bool.false_ne_true]

lemma TxInv.step (h : TxInv s) (a : Action Env) : TxInv (s.step gateway a) := by
  intro t'
  rcases step_results gateway s a with hs | ⟨e, _, hs⟩ | ⟨t, _, _, k, r, _, _, hp, hx, hs⟩ |
    ⟨t, _, _, k, r, _, _, hp, hx, hs⟩ <;> rw [hs]
  · exact h t'
  · have htx : (e.run s.world).txs = s.world.txs := by cases e <;> rfl
    show (e.run s.world).txs.get? t' = _
    rw [htx]
    exact h t'
  · rw [settle_txs, settle_prog, settle_hist, world_afterCmd]
    by_cases ht : t' = t
    · subst ht
      cases r with
      | ok =>
        -- a command that succeeds moves the transaction and the history together
        have hold := h.running (t := t') (by rw [hp]; rfl)
        rw [(perform_ok hx).txs t', if_pos rfl, hold]
        by_cases hd : k.isDone <;> simp [afterCmd, hd, txOf_did, gateway]
      | error => simp [afterCmd]
    · rw [afterCmd_ne ht, if_neg (fun hc => ht hc.1)]
      rcases perform_effect hx with ⟨hw, -⟩ | he
      · rw [hw]; exact h t'
      · rw [he.txs t', if_neg ht]; exact h t'
  · have hw := answer_world hx
    subst hw
    rw [settle_txs, settle_prog, settle_hist, world_afterAsk]
    by_cases ht : t' = t
    · subst ht
      cases r with
      | ok x =>
        rw [h.running (t := t') (by rw [hp]; rfl)]
        by_cases hd : (k x).isDone <;> simp [afterAsk, hd]
      | error => simp [afterAsk]
    · rw [afterAsk_ne ht, if_neg (fun hc => ht hc.1)]
      exact h t'

/-- The transactions after a step: each is one of before, with the same fence, or has just been
begun without a conflict. -/
lemma txs_step (s : State) (a : Action Env) (t : Nat)
    (h : (s.step gateway a).world.txs.get? t = some tx) :
    (∃ tx₀, s.world.txs.get? t = some tx₀ ∧ tx.fence = tx₀.fence ∧ tx.exclusive = tx₀.exclusive) ∨
    (¬ s.world.Conflicts t tx.fence tx.exclusive ∧
      ∀ t', t' ≠ t → ∀ tx', (s.step gateway a).world.txs.get? t' = some tx' →
        s.world.txs.get? t' = some tx') := by
  rcases step_results gateway s a with hs | ⟨e, _, hs⟩ | ⟨_, _, c, _, _, _, _, _, hx, hs⟩ |
    ⟨_, _, _, _, _, _, _, _, hx, hs⟩ <;> rw [hs] at h ⊢
  · exact .inl ⟨tx, h, rfl, rfl⟩
  · have htx : (e.run s.world).txs = s.world.txs := by cases e <;> rfl
    replace h : (e.run s.world).txs.get? t = some tx := h
    rw [htx] at h
    exact .inl ⟨tx, h, rfl, rfl⟩
  · replace h := txs_of_settle _ h
    rw [world_afterCmd] at h
    rcases perform_effect hx with ⟨rfl, -⟩ | he
    · exact .inl ⟨tx, h, rfl, rfl⟩
    · rw [he.txs t] at h
      split at h
      · rename_i ht
        subst ht
        cases c with
        | begin =>
          cases h
          refine .inr ⟨he.2, fun t' ht' tx' hx' => ?_⟩
          replace hx' := txs_of_settle _ hx'
          rw [world_afterCmd, he.txs t', if_neg ht'] at hx'
          exact hx'
        | stmt =>
          obtain ⟨tx₀, h₀, rfl⟩ := Option.map_eq_some_iff.1 h
          exact .inl ⟨tx₀, h₀, rfl, rfl⟩
        | commit => cases h
        | _ => exact .inl ⟨tx, h, rfl, rfl⟩
      · exact .inl ⟨tx, h, rfl, rfl⟩
  · replace h := txs_of_settle _ h
    rw [world_afterAsk, answer_world hx] at h
    exact .inl ⟨tx, h, rfl, rfl⟩

lemma not_conflicts {w : World} {t t' : Nat} {fence : String} {e : Bool}
    (hc : ¬ w.Conflicts t fence e) (ht : t' ≠ t) (hx : w.txs.get? t' = some tx)
    (hf : tx.fence = fence) : e = false ∧ tx.exclusive = false := by
  have hm := get?_eq_some.1 hx
  by_contra hne
  refine hc ⟨_, hm, ht, hf, ?_⟩
  cases e with
  | true => exact .inl rfl
  | false => exact .inr (by simpa using hne)

lemma FenceInv.step (h : FenceInv s) (a : Action Env) : FenceInv (s.step gateway a) := by
  intro t t' tx tx' hne hx hx' hf
  rcases txs_step s a t hx with ⟨tx₀, h₀, hf₀, he₀⟩ | ⟨hc, hold⟩
  · rcases txs_step s a t' hx' with ⟨tx₁, h₁, hf₁, he₁⟩ | ⟨hc, hold⟩
    · rw [he₀, he₁]
      exact h t t' tx₀ tx₁ hne h₀ h₁ (by rw [← hf₀, ← hf₁, hf])
    · exact (not_conflicts hc hne (hold t hne tx hx) hf).symm
  · exact not_conflicts hc hne.symm (hold t' hne.symm tx' hx') hf.symm

end Invariants

/-! ## In every run -/

section Runs

variable {X : Wattswarm} {config : Config} {calls : Nat → Call} {w : World} {s : State}
  {cond : State → Action Env → Prop}

abbrev ReachableIf (X : Wattswarm) (config : Config) (calls : Nat → Call) (w : World)
    (cond : State → Action Env → Prop) (s : State) : Prop :=
  Reaches gateway cond (initial X config calls w) s

section

variable (hw : w.txs = .empty) (h : ReachableIf X config calls w cond s)
include hw h

lemma txInv_of_reaches : TxInv s := by
  refine h.invariant ?_ fun s a _ _ hi => hi.step a
  intro t
  show w.txs.get? t = _
  rw [hw]
  split <;> rfl

lemma fenceInv_of_reaches : FenceInv s := by
  refine h.invariant ?_ fun s a _ _ hi => hi.step a
  intro t _ tx _ _ hx
  replace hx : w.txs.get? t = some tx := hx
  rw [hw] at hx
  cases hx

end

lemma AtCommit.txOf {db' : Db} (hi : TxInv s) (h : AtCommit s t db') :
    ∃ tx, Message.txOf (s.threads t).hist = some tx ∧ s.world.txs.get? t = some tx ∧
      tx.view s.world.db = .ok db' := by
  obtain ⟨_, tx, hp, hx, hv⟩ := h
  have ht := hi.running (t := t) (by rw [hp]; rfl)
  exact ⟨tx, ht.symm.trans hx, hx, hv⟩

end Runs

end WattGateway.Message

import WattGateway.Gateway.Walks

/-!
# What is stored, queued or sent was issued by a call

`Holds` is what the world shows of the calls. A query adds only what it makes itself
(`holds_answer`), so whatever is held was made by a query in the history of a call (`Traced`) and is
derived from an admitted submission (`derived_of_holds`).
-/

namespace WattGateway.Gateway

open Sys List Option Table World Function

variable {o : Outcome} {s : Stmt} {e : GatewayUiEvent} {db : Db}

inductive Output where
  | row (w : Write)
  | projection (key : DataKind × String × String) (row : ProjectionRow)
  | audit (r : AuditRecord)
  | artifact (inst : Nat) (nodeId : String) (s : SignedPublicClientSnapshot)
  | queued (t : Nat) (e : GatewayUiEvent)
  | sent (t : Nat) (m : WsMessage)

def Db.Has (db : Db) : Write → Prop
  | .snapshot nodeId row => db.nodeSnapshots.get? nodeId = some row
  | .uiEvent eventId row => db.uiEvents.get? eventId = some row
  | .outbox dedupeKey row => db.p2pOutbox.get? dedupeKey = some row
  | .presence key row => db.spacePresence.get? key = some row
  | .spaceEvent key row => db.spaceEvents.get? key = some row
  | .nodePresence key row => db.nodePresence.get? key = some row

def World.Holds (w : World) : Output → Prop
  | .row write => w.db.Has write ∨ ∃ t tx, w.txs.get? t = some tx ∧ write ∈ tx.writes
  | .projection key row => w.db.projectionRows.get? key = some row
  | .audit r => r ∈ w.db.ingestAudit
  | .artifact inst nodeId s => w.artifacts inst nodeId = some s
  | .queued t e => ∃ r, w.receivers.get? t = some r ∧ e ∈ r.queue
  | .sent t m => m ∈ w.sent t

/-- The rows that a statement may write. -/
def Stmt.Writes : Stmt → Write → Prop
  | .upsertSnapshot r, .snapshot nodeId row => nodeId = r.nodeId ∧ ∃ now old, row = r.row now old
  | .insertUiEvent r, .uiEvent eventId row =>
    eventId = r.eventId ∧ ∃ cursor now, row = r.row cursor now
  | .insertP2pOutbox r, .outbox dedupeKey row => dedupeKey = r.dedupeKey ∧ row.command = r.command
  | .upsertPresence _ _ _, .presence _ _ => True
  | .upsertWorldEvent _ _ _ _, .spaceEvent _ _ => True
  | .upsertNodePresence _ _, .nodePresence _ _ => True
  | _, _ => False

/-- What a query of a call makes. -/
def Makes (t : Nat) : Query → Output → Prop
  | .stmt s, .row write => s.Writes write
  | .write (.upsertProjectionRow r), .projection key row =>
    key = r.key ∧ row.payload = r.payload ∧ row.visibility = r.visibility
  | .write (.insertAuditRecord r), .audit r' => r' = r
  | .persistSnapshotArtifact s, .artifact _ nodeId s' => nodeId = s.payload.nodeId ∧ s' = s
  | .publishUiEvent e, .queued _ e' => e' = e
  | .send m, .sent t' m' => t' = t ∧ m' = m
  | _, _ => False

/-! ## Rows of a transaction -/

variable {write : Write}

lemma writes_of_exec {view : Db} {d : Defaults} {a : s.Result}
    (h : s.exec view d = .ok (a, some write)) : s.Writes write := by
  cases s with
  | upsertSnapshot =>
    rw [Stmt.exec] at h
    split at h
    · cases h
      exact ⟨rfl, d.now, _, rfl⟩
    · cases h
  | insertUiEvent =>
    rw [Stmt.exec] at h
    split at h
    · cases h
      exact ⟨rfl, d.cursor, d.now, rfl⟩
    · cases h
  | insertP2pOutbox =>
    rw [Stmt.exec] at h
    split at h
    · cases h
      exact ⟨rfl, rfl⟩
    · cases h
  | upsertPresence | upsertNodePresence =>
    rw [Stmt.exec] at h
    split at h
    · cases h
      trivial
    · cases h
  | upsertWorldEvent =>
    rw [Stmt.exec] at h
    split at h
    · split at h
      · cases h
        trivial
      · cases h
    · cases h

lemma has_apply {other : Write} (h : (write.apply db).Has other) :
    other = write ∨ db.Has other := by
  cases write <;> cases other <;> simp only [Write.apply, Db.Has, get?_upsert] at h ⊢
  all_goals first
    | exact .inr h
    | (split at h
       · rename_i hk
         rw [hk, Option.some.inj h]
         exact .inl rfl
       · exact .inr h)

lemma has_view {tx : Tx} (h : (tx.view db).Has write) : write ∈ tx.writes ∨ db.Has write := by
  obtain ⟨_, writes⟩ := tx
  unfold Tx.view at h
  simp only at h ⊢
  induction writes generalizing db with
  | nil => exact .inr h
  | cons first _ ih =>
    rcases ih h with hm | hd
    · exact .inl (mem_cons_of_mem first hm)
    · rcases has_apply hd with rfl | hd
      · exact .inl mem_cons_self
      · exact .inr hd

lemma view_others (db : Db) (tx : Tx) : (tx.view db).projectionRows = db.projectionRows ∧
    (tx.view db).ingestAudit = db.ingestAudit ∧ (tx.view db).nodeSources = db.nodeSources := by
  obtain ⟨_, writes⟩ := tx
  unfold Tx.view
  simp only
  induction writes generalizing db with
  | nil => exact ⟨rfl, rfl, rfl⟩
  | cons first _ ih =>
    obtain ⟨hp, ha, hs⟩ := ih (first.apply db)
    rw [foldl_cons, hp, ha, hs]
    cases first <;> exact ⟨rfl, rfl, rfl⟩

/-! ## What a query adds -/

section

variable {w w' : World} {t inst : Nat} {out : Output}

lemma holds_dropTx (h : (w.dropTx t).Holds out) : w.Holds out := by
  cases out with
  | row =>
    rcases h with h | ⟨t', tx, ht, hm⟩
    · exact .inl h
    · have ht' : (w.txs.delete fun k _ => k = t).get? t' = some tx := ht
      rw [get?_delete, filter_eq_some_iff] at ht'
      exact .inr ⟨t', tx, ht'.1, hm⟩
  | _ => exact h

lemma holds_of_txs {txs : Table Nat Tx} (ht : ∀ write, (∃ t' tx, txs.get? t' = some tx ∧
      write ∈ tx.writes) → w.Holds (.row write) ∨ Makes t q (.row write))
    (h : World.Holds { w with txs := txs } out) : w.Holds out ∨ Makes t q out := by
  cases out with
  | row write =>
    rcases h with h | h
    · exact .inl (.inl h)
    · exact ht write h
  | _ => exact .inl h

lemma holds_draw (h : (w.draw s).Holds out) : w.Holds out := by
  cases s <;> cases out <;> exact h

lemma txs_draw (s : Stmt) : (w.draw s).txs = w.txs := by
  cases s <;> rfl

lemma holds_statement {x : Except String s.Result}
    (hs : w.statement t s = some (x, w')) (h : w'.Holds out) :
    w.Holds out ∨ Makes t (.stmt s) out := by
  unfold World.statement at hs
  split at hs
  · cases hs
    exact .inl h
  · rename_i tx ht
    split at hs
    · cases hs
    · split at hs
      · cases hs
        exact .inl (holds_draw (holds_dropTx h))
      · rename_i a write he
        cases hs
        refine (holds_of_txs (w := w.draw s) (t := t) (q := .stmt s) ?_ h).imp_left holds_draw
        rintro _ ⟨t', tx', ht', hm⟩
        rw [get?_upsert] at ht'
        split at ht'
        · cases ht'
          rcases mem_append.1 hm with hm | hm
          · exact .inl (.inr ⟨t, tx, (txs_draw s).symm ▸ ht, hm⟩)
          · rw [mem_toList] at hm
            cases hm
            exact .inr (writes_of_exec he)
        · exact .inl (.inr ⟨t', tx', (txs_draw s).symm ▸ ht', hm⟩)

lemma holds_committed {tx : Tx} (ht : w.txs.get? t = some tx)
    (h : (w.committed t tx).Holds out) : w.Holds out := by
  cases out with
  | row write =>
    rcases h with h | h
    · have hv : (tx.view w.db).Has write := h
      rcases has_view hv with hm | hd
      · exact .inr ⟨t, tx, ht, hm⟩
      · exact .inl hd
    · have hdr : (w.dropTx t).Holds (.row write) := .inr h
      exact holds_dropTx hdr
  | projection key row =>
    have hp : (tx.view w.db).projectionRows.get? key = some row := h
    rw [(view_others w.db tx).1] at hp
    exact hp
  | audit r =>
    have hr : r ∈ (tx.view w.db).ingestAudit := h
    rw [(view_others w.db tx).2.1] at hr
    exact hr
  | _ => exact h

lemma holds_write {a : AutoWrite} (h : World.Holds { w with db := a.apply w.db w.now } out) :
    w.Holds out ∨ Makes t (.write a) out := by
  cases a with
  | upsertProjectionRow r =>
    cases out with
    | projection key row =>
      have hp : (w.db.projectionRows.upsert r.key (r.row w.now)).get? key = some row := h
      rw [get?_upsert] at hp
      split at hp
      · rename_i hk
        subst hk
        cases hold : w.db.projectionRows.get? r.key with
        | none =>
          rw [hold] at hp
          cases hp
          exact .inr ⟨rfl, rfl, rfl⟩
        | some =>
          rw [hold, Option.some.injEq] at hp
          unfold ProjectionRecord.row at hp
          simp only at hp
          split at hp
          · subst hp
            exact .inr ⟨rfl, rfl, rfl⟩
          · subst hp
            exact .inl hold
      · exact .inl hp
    | row write => exact .inl (by cases write <;> exact h)
    | _ => exact .inl h
  | insertAuditRecord =>
    cases out with
    | audit =>
      rcases mem_cons.1 h with rfl | h
      · exact .inr rfl
      · exact .inl h
    | row write => exact .inl (by cases write <;> exact h)
    | _ => exact .inl h
  | updateSourceSyncStatus =>
    refine .inl ?_
    cases out with
    | row write => cases write <;> exact h
    | _ => exact h

lemma mem_push {e e' : GatewayUiEvent} {r : Receiver} (h : e' ∈ (r.push e).queue) :
    e' = e ∨ e' ∈ r.queue := by
  unfold Receiver.push at h
  split at h
  · rcases mem_append.1 h with h | h
    · exact .inr h
    · exact .inl (mem_singleton.1 h)
  · rcases mem_append.1 h with h | h
    · exact .inr (mem_of_mem_tail h)
    · exact .inl (mem_singleton.1 h)

variable {q : Query}

lemma holds_of_receivers {receivers : Table Nat Receiver}
    (hr : ∀ t' e, (∃ r, receivers.get? t' = some r ∧ e ∈ r.queue) →
      w.Holds (.queued t' e) ∨ Makes t q (.queued t' e))
    (h : World.Holds { w with receivers := receivers } out) : w.Holds out ∨ Makes t q out := by
  cases out with
  | queued t' e => exact hr t' e h
  | _ => exact .inl h

lemma holds_publish (h : (w.publish inst e).Holds out) :
    w.Holds out ∨ Makes t (.publishUiEvent e) out := by
  have hd : ∀ (v : World) (p : Nat → Receiver → Bool), (∀ out, v.Holds out → w.Holds out) →
      World.Holds { v with receivers := v.receivers.update p (Receiver.push e) } out →
      w.Holds out ∨ Makes t (.publishUiEvent e) out := by
    intro v _ hv ho
    refine (holds_of_receivers (w := v) (t := t) (q := .publishUiEvent e) ?_ ho).imp_left (hv out)
    rintro _ _ ⟨_, hr, hm⟩
    rw [get?_update] at hr
    obtain ⟨r', hr', rfl⟩ := map_eq_some_iff.1 hr
    split at hm
    · rcases mem_push hm with rfl | hm
      · exact .inr rfl
      · exact .inl ⟨r', hr', hm⟩
    · exact .inl ⟨r', hr', hm⟩
  unfold World.publish at h
  simp only at h
  split at h
  · exact hd w _ (fun _ hv => hv) h
  · split at h
    · exact .inl h
    · refine hd { w with published := _ } _ ?_ h
      intro out' hv
      cases out' <;> exact hv

variable {x : Ans q}

lemma holds_answer (ha : answer inst t w o q = some (x, w')) (h : w'.Holds out) :
    w.Holds out ∨ Makes t q out := by
  cases q with
  | read =>
    cases ha
    exact .inl h
  | fetch =>
    rw [answer] at ha
    split at ha <;> (cases ha; exact .inl h)
  | begin =>
    rw [answer] at ha
    split at ha
    · cases ha
      refine holds_of_txs ?_ h
      rintro write ⟨t', tx, hx, hm⟩
      rw [get?_upsert] at hx
      split at hx
      · cases hx
        cases hm
      · exact .inl (.inr ⟨t', tx, hx, hm⟩)
    · cases ha
      exact .inl (holds_dropTx h)
  | stmt =>
    rw [answer] at ha
    split at ha
    · exact holds_statement ha h
    · cases ha
      exact .inl (holds_dropTx h)
  | commit =>
    rw [answer] at ha
    split at ha
    · cases ha
      exact .inl h
    · rename_i tx hx
      split at ha
      · cases ha
        exact .inl (holds_committed hx h)
      · cases ha
        exact .inl (holds_committed hx h)
      · cases ha
        exact .inl (holds_dropTx h)
  | rollback =>
    cases ha
    exact .inl (holds_dropTx h)
  | write =>
    cases o with
    | ok | lost =>
      cases ha
      exact holds_write h
    | refused | failed =>
      cases ha
      exact .inl h
  | persistSnapshotArtifact s =>
    rw [answer] at ha
    split at ha
    · cases ha
      cases out with
      | artifact inst' nodeId s' =>
        have hs : update w.artifacts inst (update (w.artifacts inst)
          s.payload.nodeId (some s)) inst' nodeId = some s' := h
        by_cases hi : inst' = inst
        · subst hi
          rw [update_self] at hs
          by_cases hn : nodeId = s.payload.nodeId
          · subst hn
            rw [update_self] at hs
            exact .inr ⟨rfl, (Option.some.inj hs).symm⟩
          · rw [update_of_ne hn] at hs
            exact .inl hs
        · rw [update_of_ne hi] at hs
          exact .inl hs
      | _ => exact .inl h
    · cases ha
      exact .inl h
  | publishUiEvent =>
    cases ha
    exact holds_publish h
  | subscribe =>
    cases ha
    refine holds_of_receivers ?_ h
    rintro t' e ⟨r, hr, hm⟩
    rw [get?_upsert] at hr
    split at hr
    · cases hr
      cases hm
    · exact .inl ⟨r, hr, hm⟩
  | recv =>
    rw [answer] at ha
    split at ha
    · cases ha
      exact .inl h
    · rename_i r hr
      -- a receiver that is moved on has a shorter queue
      have hmo : ∀ f : Receiver → Receiver, (∀ e ∈ (f r).queue, e ∈ r.queue) →
          World.Holds { w with receivers := w.receivers.update (fun t' _ => t' = t) f } out →
          w.Holds out ∨ Makes t .recv out := by
        intro f hf ho
        refine holds_of_receivers ?_ ho
        rintro t' e ⟨_, hr', hm⟩
        rw [get?_update] at hr'
        obtain ⟨r'', hr'', rfl⟩ := map_eq_some_iff.1 hr'
        split at hm
        · rename_i ht
          rw [decide_eq_true_eq] at ht
          subst ht
          rw [hr] at hr''
          cases hr''
          exact .inl ⟨r, hr, hf e hm⟩
        · exact .inl ⟨r'', hr'', hm⟩
      split at ha
      · cases ha
        exact hmo _ (fun e he => he) h
      · split at ha
        · cases ha
        · rename_i e queue hq
          cases ha
          refine hmo _ (fun e' he' => ?_) h
          rw [hq]
          exact mem_cons_of_mem e he'
  | send m =>
    rw [answer] at ha
    split at ha
    · cases ha
      cases out with
      | sent t' m' =>
        have hm : m' ∈ update w.sent t (w.sent t ++ [m]) t' := h
        by_cases ht : t' = t
        · subst ht
          rw [update_self] at hm
          rcases mem_append.1 hm with hm | hm
          · exact .inl hm
          · exact .inr ⟨rfl, mem_singleton.1 hm⟩
        · rw [update_of_ne ht] at hm
          exact .inl hm
      | _ => exact .inl h
    · cases ha
      exact .inl h

/-! ### Queries and the tables -/

/-- A commit puts the rows of the transaction into the tables or drops them, and closes it. -/
lemma commit_cases {x : Ans .commit} (ha : answer inst t w o .commit = some (x, w')) :
    w'.txs.get? t = none ∧ (∀ t' tx, w'.txs.get? t' = some tx → w.txs.get? t' = some tx) ∧
      (w'.db = w.db ∨ ∃ tx, w.txs.get? t = some tx ∧ w'.db = tx.view w.db ∧
        (x = .ok () ∨ o = .lost)) := by
  rw [answer] at ha
  split at ha
  · rename_i hno
    cases ha
    exact ⟨hno, fun _ _ h => h, .inl rfl⟩
  · rename_i tx ht
    cases o with
    | ok =>
      cases ha
      exact ⟨w.dropTx_self t, fun _ _ => w.get?_of_dropTx t, .inr ⟨tx, ht, rfl, .inl rfl⟩⟩
    | lost =>
      cases ha
      exact ⟨w.dropTx_self t, fun _ _ => w.get?_of_dropTx t, .inr ⟨tx, ht, rfl, .inr rfl⟩⟩
    | refused | failed =>
      cases ha
      exact ⟨w.dropTx_self t, fun _ _ => w.get?_of_dropTx t, .inl rfl⟩

/-- A statement adds at most its row to the transaction, which an error drops. -/
lemma stmt_cases {st : Stmt} {x : Ans (.stmt st)} (ha : answer inst t w o (.stmt st) = some (x, w')) :
    w'.db = w.db ∧ (∀ t' tx, t' ≠ t → w'.txs.get? t' = some tx → w.txs.get? t' = some tx) ∧
      match x with
      | .error _ => w'.txs.get? t = none
      | .ok a => ∃ tx write d, w.txs.get? t = some tx ∧
          st.exec (tx.view w.db) d = .ok (a, write) ∧
          w'.txs.get? t = some { tx with writes := tx.writes ++ write.toList } := by
  rw [answer] at ha
  split at ha
  · unfold World.statement at ha
    split at ha
    · rename_i hno
      cases ha
      exact ⟨rfl, fun _ _ _ h => h, hno⟩
    · rename_i tx ht
      split at ha
      · cases ha
      · split at ha
        · cases ha
          refine ⟨by cases st <;> rfl, fun t' tx' _ h => ?_, dropTx_self _ t⟩
          have h' := get?_of_dropTx _ t h
          rw [txs_draw] at h'
          exact h'
        · rename_i a write he
          cases ha
          refine ⟨by cases st <;> rfl, fun t' tx' hne h => ?_, tx, write, _, ht, he, ?_⟩
          · have h' : (w.txs.upsert t fun _ => _).get? t' = some tx' := h
            rw [get?_upsert, if_neg hne] at h'
            exact h'
          · show (w.txs.upsert t fun _ => _).get? t = _
            rw [get?_upsert, if_pos rfl]
  · cases ha
    exact ⟨rfl, fun t' tx _ => w.get?_of_dropTx t, w.dropTx_self t⟩

lemma write_cases {a : AutoWrite} {x : Ans (.write a)}
    (ha : answer inst t w o (.write a) = some (x, w')) :
    w'.txs = w.txs ∧ (w'.db = a.apply w.db w.now ∨ w'.db = w.db ∧ ∃ e, x = .error e) := by
  cases o with
  | ok | lost =>
    cases ha
    exact ⟨rfl, .inl rfl⟩
  | refused | failed =>
    cases ha
    exact ⟨rfl, .inr ⟨rfl, _, rfl⟩⟩

/-- The queries that commit, write or go into a transaction. -/
def Query.Writes : Query → Prop
  | .commit => True
  | .stmt _ => True
  | .write _ => True
  | _ => False

lemma other_cases (hq : ¬ q.Writes) (ha : answer inst t w o q = some (x, w')) :
    w'.db = w.db ∧ (∀ t' tx, w'.txs.get? t' = some tx →
      w.txs.get? t' = some tx ∨ t' = t ∧ tx.writes = []) ∧ w'.nextCursor = w.nextCursor := by
  cases q with
  | commit | stmt | write => exact absurd trivial hq
  | fetch | persistSnapshotArtifact | send =>
    rw [answer] at ha
    split at ha <;> (cases ha; exact ⟨rfl, fun _ _ h => .inl h, rfl⟩)
  | begin =>
    rw [answer] at ha
    split at ha
    · cases ha
      refine ⟨rfl, fun t' tx ht => ?_, rfl⟩
      have h' : (w.txs.upsert t fun _ => _).get? t' = some tx := ht
      rw [get?_upsert] at h'
      split at h'
      · rename_i he
        cases h'
        exact .inr ⟨he, rfl⟩
      · exact .inl h'
    · cases ha
      exact ⟨rfl, fun t' tx h => .inl (w.get?_of_dropTx t h), rfl⟩
  | rollback =>
    cases ha
    exact ⟨rfl, fun t' tx h => .inl (w.get?_of_dropTx t h), rfl⟩
  | publishUiEvent =>
    cases ha
    unfold World.publish
    simp only
    split
    · exact ⟨rfl, fun _ _ h => .inl h, rfl⟩
    · split <;> exact ⟨rfl, fun _ _ h => .inl h, rfl⟩
  | recv =>
    rw [answer] at ha
    split at ha
    · cases ha
      exact ⟨rfl, fun _ _ h => .inl h, rfl⟩
    · split at ha
      · cases ha
        exact ⟨rfl, fun _ _ h => .inl h, rfl⟩
      · split at ha
        · cases ha
        · cases ha
          exact ⟨rfl, fun _ _ h => .inl h, rfl⟩
  | _ =>
    cases ha
    exact ⟨rfl, fun _ _ h => .inl h, rfl⟩

lemma nodeSources_answer (ha : answer inst t w o q = some (x, w')) :
    w'.db.nodeSources = w.db.nodeSources := by
  by_cases hq : q.Writes
  · cases q with
    | commit =>
      rcases (commit_cases ha).2.2 with hd | ⟨tx, -, hd, -⟩
      · rw [hd]
      · rw [hd]
        exact (view_others w.db tx).2.2
    | stmt => rw [(stmt_cases ha).1]
    | write a =>
      rcases (write_cases ha).2 with hd | ⟨hd, -⟩
      · rw [hd]
        cases a <;> rfl
      · rw [hd]
    | _ => exact hq.elim
  · rw [(other_cases hq ha).1]

end

/-! ## Runs -/

section

variable {X : Deployment} {sources : Sources} {calls : Nat → Call} {instances : Nat → Nat}
  {cond : GatewaySys → Action Env → Prop} {s : GatewaySys}

lemma gateway_step (instances : Nat → Nat) (s : GatewaySys) (a : Action Env) :
    s.step (machine instances) a = s ∨ (∃ e, a = .env e ∧
      s.step (machine instances) a = { s with world := (machine instances).env e s.world }) ∨
    ∃ t o q k x w, a = .run t o ∧ (s.threads t).prog = .ask q k ∧
      answer (instances t) t s.world o q = some (x, w) ∧ s.step (machine instances) a =
        (s.advance t (k x) (s.world.now, .heard q x) w).settle (machine instances) t := by
  rcases step_cases (machine instances) s a with h | h | ⟨_, _, c, _⟩ |
    ⟨t, o, q, k, x, w, ha, hp, hn, hs⟩ | ⟨_, _, c, _⟩ | ⟨t, o, q, k, x, w, ha, hp, hn, hs⟩
  · exact .inl h
  · exact .inr (.inl h)
  · exact c.elim
  · refine .inr (.inr ⟨t, o, q, k, x, w, ha, hp, ?_, hs⟩)
    obtain ⟨y, hy, hx⟩ := map_eq_some_iff.1 hn
    cases hx
    exact hy
  · exact c.elim
  · obtain ⟨_, -, hx⟩ := map_eq_some_iff.1 hn
    cases hx

lemma settle_world (instances : Nat → Nat) (t : Nat) (s : GatewaySys) :
    (s.settle (machine instances) t).world = s.world ∨
      (s.settle (machine instances) t).world = (machine instances).finish t s.world := by
  unfold settle
  split
  · exact .inr rfl
  · exact .inl rfl

variable {t : Nat} {out : Output} {w : World}

lemma holds_finish (instances : Nat → Nat) (h : ((machine instances).finish t w).Holds out) :
    w.Holds out := by
  refine holds_dropTx (t := t) ?_
  cases out with
  | queued t' =>
    obtain ⟨r, hr, he⟩ := h
    have hr' : (w.receivers.delete fun k _ => k = t).get? t' = some r := hr
    rw [get?_delete, filter_eq_some_iff] at hr'
    exact ⟨r, hr'.1, he⟩
  | _ => exact h

lemma holds_env (instances : Nat → Nat) {e : Env} (h : ((machine instances).env e w).Holds out) :
    w.Holds out := by
  cases e with
  | tick | serve => cases out <;> exact h
  | disconnect => exact holds_dropTx h

lemma not_holds_start (sources : Sources) (out : Output) : ¬ (World.start sources).Holds out := by
  intro h
  cases out with
  | row write =>
    rcases h with h | ⟨_, _, ht, -⟩
    · cases write <;> cases h
    · cases ht
  | projection | audit | artifact | sent => cases h
  | queued =>
    obtain ⟨_, hr, -⟩ := h
    cases hr

/-- Whatever is held was made by a query in the history of a call. -/
lemma made_of_holds (hr : Reaches (machine instances) cond (gatewayStart X sources calls) s)
    (h : s.world.Holds out) : ∃ t q x, (s.threads t).hist.Heard q x ∧ Makes t q out := by
  induction hr with
  | refl => exact absurd h (not_holds_start sources out)
  | @step s a hr _ ih =>
    have hold : s.world.Holds out → ∃ t q x,
        ((s.step (machine instances) a).threads t).hist.Heard q x ∧ Makes t q out := by
      intro h
      obtain ⟨t, q, x, hx, hm⟩ := ih h
      exact ⟨t, q, x, hx.mono (hist_suffix_step (machine instances) s a t), hm⟩
    rcases gateway_step instances s a with hs | ⟨_, -, hs⟩ | ⟨t, _, q, k, x, w, -, -, ha, hs⟩
    · rw [hs] at h
      exact hold h
    · rw [hs] at h
      exact hold (holds_env instances h)
    · rw [hs] at h
      have hw : w.Holds out := by
        rcases settle_world instances t
          (s.advance t (k x) (s.world.now, .heard q x) w) with he | he
        · rwa [he] at h
        · rw [he] at h
          exact holds_finish instances h
      rcases holds_answer ha hw with h' | h'
      · exact hold h'
      · refine ⟨t, q, x, ?_, h'⟩
        rw [hs, settle_hist, advance_self]
        exact Hist.heard_self _ q x _

lemma follows_gatewayStart (X : Deployment) (sources : Sources) (calls : Nat → Call) :
    FollowsAll (fun t => derives X (calls t))
      (fun t reply _ => (∃ query peers, calls t = .board query peers) → BoardTrusted X reply)
      (gatewayStart X sources calls) :=
  fun t => call_follows X (calls t)

section

variable (hr : Reaches (machine instances) cond (gatewayStart X sources calls) s)
include hr

/-- Whatever is held was derived by a call, from what it had heard by then. -/
lemma derived_of_holds (h : s.world.Holds out) :
    ∃ t q h', h' <:+ (s.threads t).hist ∧ Derives X (calls t) h' q ∧ Makes t q out := by
  obtain ⟨t, q, _, hx, hm⟩ := made_of_holds hr h
  obtain ⟨h', hs, hd⟩ :=
    hr.heard_allowed (follows_gatewayStart X sources calls) (fun _ => rfl) hx
  exact ⟨t, q, h', hs, hd, hm⟩

lemma nodeSources_of_reaches : s.world.db.nodeSources = sources := by
  refine hr.invariant (P := fun s => s.world.db.nodeSources = sources) rfl ?_
  intro s a _ _ ih
  rcases gateway_step instances s a with hs | ⟨e, -, hs⟩ | ⟨t, _, q, k, x, w, -, -, ha, hs⟩
  · rw [hs]
    exact ih
  · rw [hs]
    cases e <;> exact ih
  · have hw : w.db.nodeSources = sources := (nodeSources_answer ha).trans ih
    rw [hs]
    rcases settle_world instances t
      (s.advance t (k x) (s.world.now, .heard q x) w) with he | he
    · rw [he]
      exact hw
    · rw [he]
      exact hw

lemma answered_of_heard {q : Query} {x : Ans q} (hx : (s.threads t).hist.Heard q x) :
    ∃ s' o w, Reaches (machine instances) cond (gatewayStart X sources calls) s' ∧
      Reaches (machine instances) cond s' s ∧ cond s' (.run t o) ∧
      answer (instances t) t s'.world o q = some (x, w) := by
  obtain ⟨s', o, _, _, hr', hc, hs, -, ha⟩ := hr.asked (fun _ => rfl) hx
  obtain ⟨y, hy, hxy⟩ := map_eq_some_iff.1 ha
  cases hxy
  exact ⟨s', o, y.2, hr', hs, hc, hy⟩

lemma read_of_heard {r : Read} {x : r.Result} (hx : (s.threads t).hist.Heard (.read r) (.ok x)) :
    ∃ s' o, Reaches (machine instances) cond (gatewayStart X sources calls) s' ∧
      Reaches (machine instances) cond s' s ∧ cond s' (.run t o) ∧ x = r.eval s'.world.db := by
  obtain ⟨s', o, _, hr', hs, hc, ha⟩ := answered_of_heard hr hx
  rw [answer] at ha
  split at ha
  · cases ha
    exact ⟨s', o, hr', hs, hc, rfl⟩
  · cases ha

lemma fetched_of_heard {f : Fetch} {x : f.Result}
    (hx : (s.threads t).hist.Heard (.fetch f) (.ok x)) :
    ∃ s' o, Reaches (machine instances) cond (gatewayStart X sources calls) s' ∧
      cond s' (.run t o) ∧ s'.world.remote f = some x := by
  obtain ⟨s', o, _, hr', -, hc, hn⟩ := answered_of_heard hr hx
  rw [answer] at hn
  split at hn
  · rename_i a ha
    split at hn
    · cases hn
      exact ⟨s', o, hr', hc, ha⟩
    · cases hn
  · cases hn

end

/-! ## Where events come from -/

/-- The row of `gateway_ui_events` is made of a submission that the call admitted. -/
def RowFrom (X : Deployment) (c : Call) (h : History) (eventId : String) (row : UiEventRow) :
    Prop :=
  ∃ sub sourceId r cursor now, Admitted X c h sub sourceId ∧ UiRecordOf X sourceId r sub ∧
    eventId = r.eventId ∧ row = r.row cursor now

/-- The event is an ephemeral one that the call admitted, or a row. -/
def EventFrom (X : Deployment) (c : Call) (h : History) (e : GatewayUiEvent) : Prop :=
  (∃ event sourceId, Admitted X c h (.event event) sourceId ∧
    event.payload.provisionalPolicy = .ephemeralOnly ∧ e = ephemeralUiEvent event.payload) ∨
  ∃ eventId row, RowFrom X c h eventId row ∧ e = .ofRow eventId row

variable {row : UiEventRow} {eventId : String}

variable {h h' : History} {c : Call}

lemma RowFrom.mono (ho : RowFrom X c h eventId row) (hs : h <:+ h') :
    RowFrom X c h' eventId row := by
  obtain ⟨sub, sourceId, r, cursor, now, ha, he⟩ := ho
  exact ⟨sub, sourceId, r, cursor, now, ha.mono hs, he⟩

lemma EventFrom.mono (he : EventFrom X c h e) (hs : h <:+ h') : EventFrom X c h' e := by
  rcases he with ⟨event, sourceId, ha, hre⟩ | ⟨eventId, row, ho, he⟩
  · exact .inl ⟨event, sourceId, ha.mono hs, hre⟩
  · exact .inr ⟨eventId, row, ho.mono hs, he⟩

lemma row_of_inserted {w' : World} {inst : Nat} {r : UiEventRecord}
    (h : answer inst t w o (.stmt (.insertUiEvent r)) = some (.ok (some row), w')) :
    ∃ cursor now, row = r.row cursor now := by
  rw [answer] at h
  split at h
  · unfold World.statement at h
    split at h
    · cases h
    · split at h
      · cases h
      · split at h
        · cases h
        · rename_i he
          unfold Stmt.exec at he
          simp only at he
          split at he
          · cases he
            cases h
            exact ⟨_, _, rfl⟩
          · cases he
            cases h
  · cases h

section

variable (hr : Reaches (machine instances) cond (gatewayStart X sources calls) s)
include hr

lemma rowFrom_of_holds (h : s.world.Holds (.row (.uiEvent eventId row))) :
    ∃ t, RowFrom X (calls t) (s.threads t).hist eventId row := by
  obtain ⟨t, q, _, hs, hd, hm⟩ := derived_of_holds hr h
  refine ⟨t, RowFrom.mono ?_ hs⟩
  cases q with
  | stmt stmt =>
    cases stmt with
    | insertUiEvent r =>
      obtain ⟨sub, sourceId, ha, he⟩ := hd
      obtain ⟨hi, cursor, now, ho⟩ := hm
      exact ⟨sub, sourceId, r, cursor, now, ha, he, hi, ho⟩
    | _ => cases hm
  | write a => cases a <;> cases hm
  | _ => cases hm

lemma rowFrom_of_rowHeard (h : RowHeard (s.threads t).hist eventId row) :
    ∃ t', RowFrom X (calls t') (s.threads t').hist eventId row := by
  rcases h with ⟨r, rfl, hi⟩ | hre
  · obtain ⟨_, hs, sub, sourceId, ha, hc⟩ :=
      hr.heard_allowed (follows_gatewayStart X sources calls) (fun _ => rfl) hi
    obtain ⟨s', o, _, -, -, -, hn⟩ := answered_of_heard hr hi
    obtain ⟨cursor, now, ho⟩ := row_of_inserted hn
    exact ⟨t, sub, sourceId, r, cursor, now, ha.mono hs, hc, rfl, ho⟩
  · obtain ⟨_, _, hr', hs, -, he⟩ := read_of_heard hr hre
    obtain ⟨t', ho⟩ := rowFrom_of_holds hr' (.inl he.symm)
    exact ⟨t', ho.mono (hs.hist_suffix t')⟩

lemma eventFrom_of_queued (h : s.world.Holds (.queued t e)) :
    ∃ t', EventFrom X (calls t') (s.threads t').hist e := by
  obtain ⟨t', q, _, hs, hd, hm⟩ := derived_of_holds hr h
  cases q with
  | publishUiEvent =>
    cases hm
    rcases hd with ⟨event, sourceId, ha, hre⟩ | ⟨eventId, row, ho, he⟩
    · exact ⟨t', .inl ⟨event, sourceId, ha.mono hs, hre⟩⟩
    · obtain ⟨t'', ho⟩ := rowFrom_of_rowHeard hr (ho.mono hs)
      exact ⟨t'', .inr ⟨eventId, row, ho, he⟩⟩
  | write a => cases a <;> cases hm
  | _ => cases hm

end

lemma get?_of_listed {q : Db.ListUiEventsQuery}
    (h : (eventId, row) ∈ db.listUiEventsAfter q) : db.uiEvents.get? eventId = some row := by
  have ho := (mem_filter.1 (mem_of_mem_take h)).1
  have hs := (mem_insertionSort _).1 ho
  exact (mem_select.1 hs).1

lemma mem_queue_of_received {w' : World} {inst : Nat}
    (h : answer inst t w o .recv = some (.ok (.event e), w')) : w.Holds (.queued t e) := by
  rw [answer] at h
  split at h
  · cases h
  · rename_i r hr
    split at h
    · cases h
    · split at h
      · cases h
      · rename_i e' queue hq
        cases h
        exact ⟨r, hr, hq ▸ mem_cons_self⟩

lemma eventFrom_of_sent (hr : Reaches (machine instances) cond (gatewayStart X sources calls) s)
    (h : s.world.Holds (.sent t (.event e))) : (∃ query turns, calls t = .stream query turns ∧
      eventMatchesQuery e query (allowsProtected X query) = true) ∧
      ∃ t', EventFrom X (calls t') (s.threads t').hist e := by
  obtain ⟨t', q, _, hs, hd, hm⟩ := derived_of_holds hr h
  cases q with
  | send =>
    obtain ⟨rfl, rfl⟩ := hm
    obtain ⟨query, turns, hc, ht, hf⟩ := hd
    refine ⟨⟨query, turns, hc, ht⟩, ?_⟩
    rcases hf with hre | ⟨_, eventId, row, hl, hmem, he⟩
    · obtain ⟨s', o, _, hr', hs', -, ha⟩ := answered_of_heard hr (hre.mono hs)
      obtain ⟨t', hf⟩ := eventFrom_of_queued hr' (mem_queue_of_received ha)
      exact ⟨t', hf.mono (hs'.hist_suffix t')⟩
    · obtain ⟨_, _, hr', hs', -, hv⟩ := read_of_heard hr (hl.mono hs)
      rw [hv] at hmem
      obtain ⟨t', ho⟩ := rowFrom_of_holds hr' (.inl (get?_of_listed hmem))
      exact ⟨t', .inr ⟨eventId, row, ho.mono (hs'.hist_suffix t'), he⟩⟩
  | write a => cases a <;> cases hm
  | _ => cases hm

end

/-! ## A small deployment -/

def smallAnnouncement : EventAnnouncementPayload where
  announcementId := "a"
  networkId := "net"
  authorityNodeId := "k1"
  issuedAt := 1000
  content := .null
  authoritySignature := "s1"

/-- A deployment with two keys, the first of which is the authority of the network `"net"`. -/
def smallDeployment : Deployment where
  toCrypto := twoKeys
  presenceOfValue _ := .error "expected struct SignedSpacePresence"
  presenceToValue _ := .null
  nodePresenceOfValue _ := .error "expected struct NodePresence"
  nodePresenceToValue _ := .null
  announcementOfValue _ := .ok smallAnnouncement
  worldEventOfValue _ := .ok ⟨"a", "space", "place", "title", 1, 2, .null⟩
  worldEventToValue world := .string world.title
  validateActivity _ := .ok ()
  toText _ := none
  parseFromRfc3339 _ := none
  trustedNetworkAuthorities := .ok [("net", "k1")]
  p2p := true
  localPeerId := "local"
  registryAdminToken := some "token"

def smallSnapshot (signer signature : String) : SignedPublicClientSnapshot where
  payload :=
    { generatedAt := 1, nodeId := "n", agentIdentity := none, publicId := none, publicKey := signer
      networkName := none, networkOrgName := none, networkStatus := .null, nodes := none
      peers := [], operator := .null, rpcLogs := [], publicBlocks := [], publicTopics := []
      publicTopicMessages := [], publicBoardMessages := [], spacePresences := []
      nodePresence := none, worldEvents := [], swarmTaskActivity := .null, tasks := []
      organizations := [], leaderboard := [] }
  signature := signature
  signerAgentDid := signer

def smallSource (status : SourceStatus) : NodeSourceRow where
  name := "source"
  exportUrl := "http://source"
  wattetheriaSnapshotExportUrl := none
  wattswarmUiBaseUrl := none
  expectedSignerAgentDid := some "k1"
  expectedWattswarmNodeId := some "n"
  sourceStatus := status
  createdAt := 0
  transportContactMaterial := none

end WattGateway.Gateway

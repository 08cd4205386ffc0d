import WattGateway.Gateway.Calls

/-!
# The outbox of the peer to peer task

`drain_p2p_outbox` with the statements it uses, on any number of instances, each of which may stop
after any statement. `attempts` is raised when a row is claimed and looked at when publishing it has
failed, so a row leaves the table after it was published or found malformed, or after ten claims
(`leaves_after_claims`); ten failed attempts there need not have been
(`discarded_after_one_attempt`).
-/

namespace WattGateway.Gateway.Outbox

open Sys Hist List Option Prog Table

/-! ## The table -/

/-- A row of `gateway_p2p_outbox`, without its key `id`. -/
structure Row where
  dedupeKey : String
  commandKind : String
  payload : Json
  attempts : Nat
  claimedUntil : Option Nat

def commandSnapshot : String := "snapshot_announce_v1"

def commandEvent : String := "event_v1"

def maxAttempts : Nat := 10

def batchSize : Nat := 32

/-- One use of a row: it was claimed, or publishing it was attempted. -/
inductive Entry where
  | claimed (id : Nat)
  | published (id : Nat)
  | failed (id : Nat)
  deriving DecidableEq

structure World where
  rows : Table Nat Row
  nextId : Nat
  now : Nat
  log : List Entry

def Row.due (now : Nat) (row : Row) : Bool := row.claimedUntil.all (· < now)

/-- The rows that a claim takes, as they are before it. -/
def World.candidates (w : World) (limit : Nat) : List (Nat × Row) :=
  ((w.rows.select fun _ row => row.due w.now).insertionSort fun a b => a.1 ≤ b.1).take limit

def Row.claim (now : Nat) (row : Row) : Row :=
  { row with attempts := row.attempts + 1, claimedUntil := some (now + 30000) }

def World.claim (w : World) (limit : Nat) : List (Nat × Row) × World :=
  let ids := (w.candidates limit).map Prod.fst
  ((w.candidates limit).map fun row => (row.1, row.2.claim w.now), { w with
      rows := w.rows.update (fun id _ => id ∈ ids) (Row.claim w.now)
      log := ids.map Entry.claimed ++ w.log })

/-- `insert … on conflict (dedupe_key) do nothing`. -/
def World.insert (w : World) (dedupeKey commandKind : String) (payload : Json) : World :=
  if (w.rows.select fun _ row => row.dedupeKey = dedupeKey).isEmpty then
    { w with
      rows := w.rows.upsert w.nextId fun _ => ⟨dedupeKey, commandKind, payload, 0, none⟩
      nextId := w.nextId + 1 }
  else w

/-! ## The machine -/

/-- `serde_json` on the payloads of the table. -/
structure Codec where
  /-- `SnapshotOutboxPayload`: node, signer and time. -/
  snapshotOfValue : Json → Except String (String × String × Int)
  eventOfValue : Json → Except String SignedNodeEvent

inductive Query where
  | claim (limit : Nat)
  | exportTransportContactMaterial
  | publishSyncSummary (id : Nat) (message : GatewayP2pSyncMessage)
  | ack (id : Nat)
  | deleteExhausted (id : Nat)
  | postpone (id : Nat)

variable {row : Row} {contact : Option ContactMaterial} {m : GatewayP2pSyncMessage}
  {rows : List (Nat × Row)} {e : String} {q : Query}

@[reducible] def Query.Result : Query → Type
  | .claim _ => List (Nat × Row)
  | .exportTransportContactMaterial => ContactMaterial
  | .deleteExhausted _ => Bool
  | _ => Unit

@[reducible] def Ans (q : Query) : Type := Except String q.Result

/-- A statement that succeeds, fails, or fails with its effect. -/
def outcome {α : Type} (o : Outcome) (w : World) (x : α × World) : Except String α × World :=
  match o with
  | .ok => (.ok x.1, x.2)
  | .lost => (.error "error communicating with database", x.2)
  | _ => (.error "error communicating with database", w)

def World.delete (w : World) (p : Nat → Row → Bool) : World := { w with rows := w.rows.delete p }

def World.exhausted (w : World) (id : Nat) : Bool :=
  (w.rows.get? id).any fun row => maxAttempts ≤ row.attempts

def World.postpone (w : World) (id : Nat) : World :=
  { w with
    rows := w.rows.update (fun id' _ => id' = id) fun row =>
      { row with claimedUntil := some (w.now + 5000) } }

def answer (contact : ContactMaterial) (w : World) (o : Outcome) : (q : Query) → Ans q × World
  | .claim limit => outcome o w (w.claim (max limit 1))
  | .exportTransportContactMaterial =>
    (if o = .ok then .ok contact else .error "export contact material", w)
  | .publishSyncSummary id _ =>
    match o with
    | .ok => (.ok (), { w with log := .published id :: w.log })
    | .lost => (.error "publish", { w with log := .failed id :: .published id :: w.log })
    | _ => (.error "publish", { w with log := .failed id :: w.log })
  | .ack id => outcome o w ((), w.delete fun id' _ => id' = id)
  | .deleteExhausted id =>
    outcome o w (w.exhausted id, w.delete fun id' row => id' = id && maxAttempts ≤ row.attempts)
  | .postpone id => outcome o w ((), w.postpone id)

inductive Env where
  | tick (d : Nat)
  | insert (dedupeKey commandKind : String) (payload : Json)

/-- The machine, with the contact material of each call's instance. -/
def machine (contacts : Nat → ContactMaterial) : Machine Empty Query Ans World Env where
  clock := World.now
  perform := fun _ c => c.elim
  answer := fun t q o w => some (.ok (answer (contacts t) w o q).1, (answer (contacts t) w o q).2)
  finish := fun _ w => w
  env := fun
    | .tick d, w => { w with now := w.now + d }
    | .insert dedupeKey commandKind payload, w => w.insert dedupeKey commandKind payload

/-! ## The program -/

abbrev Proc := Prog Empty Query Ans

def exec (q : Query) : Proc q.Result := query q >>= ofExcept

section

variable (X : Codec) (localPeerId : String)

def outboxMessage (contact : Option ContactMaterial) (row : Row) :
    Except String GatewayP2pSyncMessage :=
  if row.commandKind = commandSnapshot then do
    let (nodeId, signerAgentDid, generatedAt) ← X.snapshotOfValue row.payload
    let contact ← orFail "snapshot outbox contact material was not exported" contact
    return .snapshotAnnounceV1 localPeerId nodeId signerAgentDid generatedAt contact
  else if row.commandKind = commandEvent then do
    let event ← X.eventOfValue row.payload
    return .eventV1 localPeerId event
  else .error ("unknown gateway p2p outbox command kind " ++ row.commandKind)

def releaseP2pOutbox (id : Nat) : Proc Bool := do
  if ← exec (.deleteExhausted id) then return true
  else
    exec (.postpone id)
    return false

def publishRow (contact : Option ContactMaterial) (row : Nat × Row) : Proc Unit :=
  match outboxMessage X localPeerId contact row.2 with
  | .error _ => exec (.ack row.1)
  | .ok message => do
    match ← query (Query.publishSyncSummary row.1 message) with
    | .ok _ => exec (.ack row.1)
    | .error _ =>
      let _ ← releaseP2pOutbox row.1
      return ()

/-- The contact material, if a row of the batch needs it. -/
def exportContact (rows : List (Nat × Row)) : Proc (Option ContactMaterial) :=
  if rows.any fun row => row.2.commandKind = commandSnapshot then do
    let contact ← exec .exportTransportContactMaterial
    return some contact
  else return none

def drainP2pOutbox : Proc Unit := do
  let rows ← exec (.claim batchSize)
  let contact ← exportContact rows
  forEach rows (publishRow X localPeerId contact)

end

abbrev OutboxSys := Sys Empty Query Ans World Unit

def begun (X : Codec) (peerIds : Nat → String) : OutboxSys :=
  .start ⟨.empty, 1, 0, []⟩ fun t => drainP2pOutbox X (peerIds t)

/-! ## The rule of a call -/

abbrev History := Hist Empty Query Ans

/-- The payload is none that the command takes. -/
def Malformed (X : Codec) (row : Row) : Prop :=
  (row.commandKind = commandSnapshot → ∃ e, X.snapshotOfValue row.payload = .error e) ∧
    (row.commandKind = commandEvent → ∃ e, X.eventOfValue row.payload = .error e)

/-- A row is acknowledged when it was published or found malformed, and given up when publishing it
has failed. -/
def Allowed (X : Codec) (h : History) : Query → Prop
  | .ack id => ∃ limit rows row, h.Heard (.claim limit) (.ok rows) ∧ (id, row) ∈ rows ∧
      (Malformed X row ∨ ∃ m, h.Heard (.publishSyncSummary id m) (.ok ()))
  | .deleteExhausted id => ∃ m e, h.Heard (.publishSyncSummary id m) (.error e)
  | _ => True

def rule (X : Codec) : Rule Empty Query Ans where
  onCmd := fun _ _ => True
  onAsk := Allowed X

section

variable {X : Codec} {localPeerId : String} {h : History}

lemma follows_exec {Q : q.Result → History → Prop} (hq : Allowed X h q)
    (ha : ∀ a (h' : History), h <:+ h' → h'.Heard q (.ok a) → Q a h') :
    (exec q).Follows (rule X) Q h := by
  refine .bind (follows_query hq fun τ a => ?_)
  refine follows_ofExcept fun x hx => ?_
  exact ha x _ (suffix_cons _ _) (hx ▸ heard_self τ q a h)

lemma malformed_of_outboxMessage (ho : row.commandKind = commandSnapshot → contact.isSome)
    (h : outboxMessage X localPeerId contact row = .error e) : Malformed X row := by
  unfold outboxMessage at h
  by_cases hs : row.commandKind = commandSnapshot
  · rw [if_pos hs] at h
    obtain ⟨_, hc⟩ := isSome_iff_exists.1 (ho hs)
    refine ⟨fun _ => ?_, fun he => absurd (hs.symm.trans he) (by decide)⟩
    cases hv : X.snapshotOfValue row.payload with
    | error e => exact ⟨e, rfl⟩
    | ok =>
      rw [hv, hc] at h
      cases h
  · rw [if_neg hs] at h
    refine ⟨fun hs' => absurd hs' hs, fun he => ?_⟩
    rw [if_pos he] at h
    cases hv : X.eventOfValue row.payload with
    | error e => exact ⟨e, rfl⟩
    | ok =>
      rw [hv] at h
      cases h

lemma follows_releaseP2pOutbox {id : Nat}
    (hf : h.Heard (.publishSyncSummary id m) (.error e)) :
    (releaseP2pOutbox id).Follows (rule X) (fun _ h' => h <:+ h') h := by
  unfold releaseP2pOutbox
  refine .bind (follows_exec ⟨m, e, hf⟩ fun gone h₁ hs₁ _ => ?_)
  cases gone with
  | true => exact hs₁
  | false =>
    refine .bind (follows_exec trivial fun _ h₂ hs₂ _ => ?_)
    exact hs₁.trans hs₂

lemma follows_publishRow {limit : Nat} {row : Nat × Row} (hc : h.Heard (.claim limit) (.ok rows))
    (hr : row ∈ rows) (ho : row.2.commandKind = commandSnapshot → contact.isSome) :
    (publishRow X localPeerId contact row).Follows (rule X) (fun _ h' => h <:+ h') h := by
  unfold publishRow
  cases hm : outboxMessage X localPeerId contact row.2 with
  | error =>
    refine follows_exec ⟨limit, rows, row.2, hc, hr, .inl ?_⟩ fun _ _ hs _ => hs
    exact malformed_of_outboxMessage ho hm
  | ok message =>
    refine .bind (follows_query trivial fun τ a => ?_)
    have hs := suffix_cons (τ, Entry.heard (Query.publishSyncSummary row.1 message) a) h
    have hh := heard_self τ (Query.publishSyncSummary row.1 message) a h
    cases a with
    | ok =>
      refine follows_exec ⟨limit, rows, row.2, hc.mono hs, hr, .inr ⟨message, hh⟩⟩ ?_
      exact fun _ _ hs' _ => hs.trans hs'
    | error =>
      refine .bind (Follows.mono (follows_releaseP2pOutbox hh) ?_)
      exact fun _ _ hs' => hs.trans hs'

lemma follows_drainP2pOutbox (X : Codec) (localPeerId : String) :
    (drainP2pOutbox X localPeerId).Follows (rule X) (fun _ _ => True) [] := by
  unfold drainP2pOutbox
  refine .bind (follows_exec trivial fun rows h₁ _ hc => ?_)
  have he : (exportContact rows).Follows (rule X) (fun contact h' => h₁ <:+ h' ∧
      ∀ row ∈ rows, row.2.commandKind = commandSnapshot → contact.isSome) h₁ := by
    unfold exportContact
    split
    · refine .bind (follows_exec trivial fun contact h₂ hs₂ _ => ?_)
      exact ⟨hs₂, fun _ _ _ => rfl⟩
    · rename_i hno
      refine ⟨suffix_refl h₁, fun row hr hk => absurd ?_ hno⟩
      exact any_eq_true.2 ⟨row, hr, decide_eq_true hk⟩
  refine .bind (Follows.mono he ?_)
  rintro _ h₂ ⟨hs₂, ho⟩
  refine Follows.mono (follows_turns (suffix_refl h₂) List.IsSuffix.trans
    fun row hr h' hs' => ?_) fun _ _ _ => trivial
  exact follows_publishRow (hc.mono (hs₂.trans hs')) hr (ho row hr)

end

/-! ## What a statement does to the table -/

/-- A row under an old id is the one that was inserted under it, and the log only grows. -/
structure World.Later (w w' : World) : Prop where
  nextId : w.nextId ≤ w'.nextId
  log : w.log <:+ w'.log
  rows : ∀ id < w.nextId, ∀ row', w'.rows.get? id = some row' →
    ∃ row, w.rows.get? id = some row ∧ row.commandKind = row'.commandKind ∧
      row.payload = row'.payload

lemma World.Later.refl (w : World) : w.Later w :=
  ⟨Nat.le_refl _, suffix_refl _, fun _ _ row hr => ⟨row, hr, rfl, rfl⟩⟩

lemma World.Later.trans {w₁ w₂ w₃ : World} (h : w₁.Later w₂) (h' : w₂.Later w₃) :
    w₁.Later w₃ := by
  refine ⟨h.nextId.trans h'.nextId, h.log.trans h'.log, fun id hi row₃ hr₃ => ?_⟩
  obtain ⟨row₂, hr₂, hk₂, hp₂⟩ := h'.rows id (hi.trans_le h.nextId) row₃ hr₃
  obtain ⟨row₁, hr₁, hk₁, hp₁⟩ := h.rows id hi row₂ hr₂
  exact ⟨row₁, hr₁, hk₁.trans hk₂, hp₁.trans hp₂⟩

/-- Ids are given out in order, and no row has more attempts than claims. -/
def World.Counted (w : World) : Prop :=
  ∀ id row, w.rows.get? id = some row → id < w.nextId ∧ row.attempts ≤ w.log.count (.claimed id)

section

variable {w : World} {contact : ContactMaterial} {o : Outcome}

lemma outcome_world {α : Type} {P : World → Prop} {x : α × World} (hw : P w) (hx : P x.2) :
    P (outcome o w x).2 := by
  cases o with
  | ok => exact hx
  | lost => exact hx
  | refused => exact hw
  | failed => exact hw

lemma get?_claim (w : World) (limit id : Nat) :
    (w.claim limit).2.rows.get? id = (w.rows.get? id).map fun row =>
      if id ∈ (w.candidates limit).map Prod.fst then row.claim w.now else row := by
  unfold World.claim
  rw [get?_update]
  simp only [decide_eq_true_eq]

variable {id : Nat}

lemma row_of_claim {limit : Nat} (h : (id, row) ∈ (w.claim limit).1) :
    ∃ row', w.rows.get? id = some row' ∧ row = row'.claim w.now := by
  unfold World.claim at h
  obtain ⟨⟨_, row'⟩, hm, heq⟩ := mem_map.1 h
  cases heq
  have hs := (mem_insertionSort _).1 (mem_of_mem_take hm)
  exact ⟨row', (mem_select.1 hs).1, rfl⟩

lemma later_of_fewer {w' : World} (hne : w'.nextId = w.nextId) (hl : w.log <:+ w'.log)
    (hr : ∀ id row', w'.rows.get? id = some row' → ∃ row, w.rows.get? id = some row ∧
      row.commandKind = row'.commandKind ∧ row.payload = row'.payload) : w.Later w' :=
  ⟨hne.ge, hl, fun id _ row' => hr id row'⟩

lemma later_delete (w : World) (p : Nat → Row → Bool) : w.Later (w.delete p) := by
  refine later_of_fewer rfl (suffix_refl _) fun id row hr => ?_
  unfold World.delete at hr
  rw [get?_delete] at hr
  exact ⟨row, (filter_eq_some_iff.1 hr).1, rfl, rfl⟩

lemma later_claim (w : World) (limit : Nat) : w.Later (w.claim limit).2 := by
  refine later_of_fewer rfl (suffix_append _ _) fun id row' hr' => ?_
  rw [get?_claim] at hr'
  obtain ⟨row, hr, rfl⟩ := map_eq_some_iff.1 hr'
  refine ⟨row, hr, ?_⟩
  split
  · exact ⟨rfl, rfl⟩
  · exact ⟨rfl, rfl⟩

lemma later_postpone (w : World) (id : Nat) : w.Later (w.postpone id) := by
  refine later_of_fewer rfl (suffix_refl _) fun id' row' hr' => ?_
  unfold World.postpone at hr'
  rw [get?_update] at hr'
  obtain ⟨row, hr, rfl⟩ := map_eq_some_iff.1 hr'
  refine ⟨row, hr, ?_⟩
  split
  · exact ⟨rfl, rfl⟩
  · exact ⟨rfl, rfl⟩

lemma publish_world (contact : ContactMaterial) (w : World) (o : Outcome) (id : Nat)
    (m : GatewayP2pSyncMessage) :
    ∃ log, (answer contact w o (.publishSyncSummary id m)).2 = { w with log := log } ∧
      w.log <:+ log := by
  cases o with
  | ok | refused | failed => exact ⟨_, rfl, suffix_cons _ _⟩
  | lost => exact ⟨_, rfl, (suffix_cons _ _).trans (suffix_cons _ _)⟩

lemma later_answer (contact : ContactMaterial) (w : World) (o : Outcome) (q : Query) :
    w.Later (answer contact w o q).2 := by
  cases q with
  | claim => exact outcome_world (World.Later.refl w) (later_claim w _)
  | exportTransportContactMaterial => exact World.Later.refl w
  | publishSyncSummary id m =>
    obtain ⟨_, hw, hl⟩ := publish_world contact w o id m
    rw [hw]
    exact later_of_fewer rfl hl fun _ row hr => ⟨row, hr, rfl, rfl⟩
  | ack | deleteExhausted => exact outcome_world (World.Later.refl w) (later_delete w _)
  | postpone id => exact outcome_world (World.Later.refl w) (later_postpone w id)

lemma later_env (contacts : Nat → ContactMaterial) (w : World) (e : Env) :
    w.Later ((machine contacts).env e w) := by
  cases e with
  | tick => exact later_of_fewer rfl (suffix_refl _) fun _ row hr => ⟨row, hr, rfl, rfl⟩
  | insert dedupeKey commandKind payload =>
    show w.Later (w.insert dedupeKey commandKind payload)
    unfold World.insert
    split
    · refine ⟨Nat.le_succ _, suffix_refl _, fun id hi row hr => ?_⟩
      rw [get?_upsert, if_neg (Nat.ne_of_lt hi)] at hr
      exact ⟨row, hr, rfl, rfl⟩
    · exact World.Later.refl w

section

variable (h : w.Counted)
include h

lemma counted_claim (limit : Nat) : (w.claim limit).2.Counted := by
  intro id row' hr'
  rw [get?_claim] at hr'
  obtain ⟨row, hr, rfl⟩ := map_eq_some_iff.1 hr'
  obtain ⟨hi, _⟩ := h id row hr
  refine ⟨hi, ?_⟩
  show _ ≤ (((w.candidates limit).map Prod.fst).map Entry.claimed ++ w.log).count _
  rw [count_append]
  split
  · rename_i hm
    have hp := count_pos_iff.2 (mem_map.2 ⟨id, hm, rfl⟩ :
      Entry.claimed id ∈ ((w.candidates limit).map Prod.fst).map Entry.claimed)
    show row.attempts + 1 ≤ _
    omega
  · omega

lemma counted_delete (p : Nat → Row → Bool) : (w.delete p).Counted := by
  intro id row hr
  unfold World.delete at hr
  rw [get?_delete] at hr
  exact h id row (filter_eq_some_iff.1 hr).1

lemma counted_postpone (id : Nat) : (w.postpone id).Counted := by
  intro id' _ hr'
  unfold World.postpone at hr'
  rw [get?_update] at hr'
  obtain ⟨row, hr, rfl⟩ := map_eq_some_iff.1 hr'
  split
  · exact h id' row hr
  · exact h id' row hr

lemma counted_answer (q : Query) : (answer contact w o q).2.Counted := by
  cases q with
  | claim => exact outcome_world h (counted_claim h _)
  | exportTransportContactMaterial => exact h
  | publishSyncSummary id m =>
    obtain ⟨_, hw, hl⟩ := publish_world contact w o id m
    rw [hw]
    intro id' row hr
    obtain ⟨hi, ha⟩ := h id' row hr
    exact ⟨hi, ha.trans (hl.sublist.count_le _)⟩
  | ack | deleteExhausted => exact outcome_world h (counted_delete h _)
  | postpone id => exact outcome_world h (counted_postpone h id)

lemma counted_env {contacts : Nat → ContactMaterial} (e : Env) :
    ((machine contacts).env e w).Counted := by
  cases e with
  | tick => exact h
  | insert dedupeKey commandKind payload =>
    show (w.insert dedupeKey commandKind payload).Counted
    unfold World.insert
    split
    · intro id row hr
      rw [get?_upsert] at hr
      split at hr
      · rename_i hi
        cases hr
        exact ⟨hi ▸ Nat.lt_succ_self _, Nat.zero_le _⟩
      · obtain ⟨hi, ha⟩ := h id row hr
        exact ⟨Nat.lt_succ_of_lt hi, ha⟩
    · exact h

end

/-- Only two statements remove a row, and one of them only after ten claims. -/
lemma removed_by (hr : w.rows.get? id = some row)
    (hg : (answer contact w o q).2.rows.get? id = none) :
    q = .ack id ∨ q = .deleteExhausted id ∧ maxAttempts ≤ row.attempts := by
  have hk : w.rows.get? id ≠ none := by
    rw [hr]
    exact some_ne_none row
  cases q with
  | claim limit =>
    have hc : (w.claim (max limit 1)).2.rows.get? id ≠ none := by
      rw [get?_claim, hr]
      exact some_ne_none _
    exact absurd hg (outcome_world (P := fun w' => w'.rows.get? id ≠ none) hk hc)
  | exportTransportContactMaterial => exact absurd hg hk
  | publishSyncSummary id' m =>
    obtain ⟨_, hw, -⟩ := publish_world contact w o id' m
    rw [hw] at hg
    exact absurd hg hk
  | ack id' =>
    by_contra hne
    have hd : (w.delete fun i _ => i = id').rows.get? id ≠ none := by
      unfold World.delete
      rw [get?_delete, hr]
      have hi : id ≠ id' := fun hi => hne (.inl (by rw [hi]))
      simp [hi]
    exact absurd hg (outcome_world (P := fun w' => w'.rows.get? id ≠ none) hk hd)
  | deleteExhausted id' =>
    by_contra hne
    have hd : (w.delete fun i r => i = id' && maxAttempts ≤ r.attempts).rows.get? id ≠ none := by
      unfold World.delete
      rw [get?_delete, hr]
      have hi : id = id' → ¬ maxAttempts ≤ row.attempts :=
        fun hi hm => hne (.inr ⟨by rw [hi], hm⟩)
      simpa [filter_some] using hi
    exact absurd hg (outcome_world (P := fun w' => w'.rows.get? id ≠ none) hk hd)
  | postpone id' =>
    have hp : (w.postpone id').rows.get? id ≠ none := by
      unfold World.postpone
      rw [get?_update, hr]
      exact some_ne_none _
    exact absurd hg (outcome_world (P := fun w' => w'.rows.get? id ≠ none) hk hp)

lemma published_of_ok (h : (answer contact w o (.publishSyncSummary id m)).1 = .ok ()) :
    .published id ∈ (answer contact w o (.publishSyncSummary id m)).2.log := by
  cases o with
  | ok => exact mem_cons_self
  | refused => cases h
  | failed => cases h
  | lost => cases h

lemma failed_of_error (h : (answer contact w o (.publishSyncSummary id m)).1 = .error e) :
    .failed id ∈ (answer contact w o (.publishSyncSummary id m)).2.log := by
  cases o with
  | ok => cases h
  | refused | failed | lost => exact mem_cons_self

end

/-! ## Runs -/

section

variable {X : Codec} {peerIds : Nat → String} {contacts : Nat → ContactMaterial} {s s' : OutboxSys}

section

variable (contacts : Nat → ContactMaterial)

lemma settle_world (t : Nat) (s : OutboxSys) : (s.settle (machine contacts) t).world = s.world := by
  unfold settle
  split
  · rfl
  · rfl

lemma outbox_step (s : OutboxSys) (a : Action Env) : (s.step (machine contacts) a).world = s.world ∨
    (∃ e, (s.step (machine contacts) a).world = (machine contacts).env e s.world) ∨
    ∃ t o q k, a = .run t o ∧ (s.threads t).prog = .ask q k ∧
      (s.step (machine contacts) a).world = (answer (contacts t) s.world o q).2 := by
  rcases step_cases (machine contacts) s a with hs | ⟨e, -, hs⟩ |
    ⟨t, o, c, k, _, _, -, -, -, -⟩ | ⟨t, o, q, k, _, _, ha, hp, hx, hs⟩ |
    ⟨t, o, c, k, e, _, -, -, -, -⟩ | ⟨t, o, q, k, e, _, -, -, hx, -⟩
  · exact .inl (by rw [hs])
  · exact .inr (.inl ⟨e, by rw [hs]⟩)
  · exact c.elim
  · refine .inr (.inr ⟨t, o, q, k, ha, hp, ?_⟩)
    rw [hs, settle_world]
    cases hx
    rfl
  · exact c.elim
  · cases hx

lemma later_step (s : OutboxSys) (a : Action Env) :
    s.world.Later (s.step (machine contacts) a).world := by
  rcases outbox_step contacts s a with hw | ⟨e, hw⟩ | ⟨t, o, q, _, -, -, hw⟩ <;> rw [hw]
  · exact World.Later.refl s.world
  · exact later_env contacts s.world e
  · exact later_answer (contacts t) s.world o q

end

lemma later_of_reaches (h : Reaches (machine contacts) anyStep s' s) :
    s'.world.Later s.world := by
  induction h with
  | refl => exact World.Later.refl _
  | step a _ _ ih => exact ih.trans (later_step contacts _ a)

section

variable (h : Reaches (machine contacts) anyStep (begun X peerIds) s)
include h

lemma counted_of_reaches : s.world.Counted := by
  induction h with
  | refl =>
    intro _ _ hr
    cases hr
  | @step s a _ _ ih =>
    rcases outbox_step contacts s a with hw | ⟨e, hw⟩ | ⟨_, _, q, _, -, -, hw⟩ <;> rw [hw]
    · exact ih
    · exact counted_env ih e
    · exact counted_answer ih q

lemma log_of_heard {t : Nat} {x : Ans q} (hx : (s.threads t).hist.Heard q x) :
    ∃ s' o, Reaches (machine contacts) anyStep (begun X peerIds) s' ∧
      (answer (contacts t) s'.world o q).1 = x ∧
      (answer (contacts t) s'.world o q).2.Later s.world := by
  obtain ⟨s', o, _, _, hr, -, hl, hp, ha⟩ := h.answered (fun _ => rfl) hx
  have hs := step_ask hp ha
  cases ha
  refine ⟨s', o, hr, rfl, ?_⟩
  have hw := later_of_reaches hl
  rw [hs, settle_world] at hw
  exact hw

lemma content_of_claimed {t limit id : Nat} {claimed row : Row}
    (hx : (s.threads t).hist.Heard (.claim limit) (.ok rows)) (hm : (id, claimed) ∈ rows)
    (hw : s.world.rows.get? id = some row) :
    claimed.commandKind = row.commandKind ∧ claimed.payload = row.payload := by
  obtain ⟨s', o, hr, ha, hl⟩ := log_of_heard h hx
  have ho : rows = (s'.world.claim (max limit 1)).1 := by
    cases o with
    | ok => exact (Except.ok.inj ha).symm
    | refused | failed | lost => cases ha
  rw [ho] at hm
  obtain ⟨before, hb, rfl⟩ := row_of_claim hm
  have hold := (counted_of_reaches hr id before hb).1
  obtain ⟨_, hw', hk, hp⟩ :=
    ((later_answer (contacts t) s'.world o (.claim limit)).trans hl).rows id hold row hw
  cases hb.symm.trans hw'
  exact ⟨hk, hp⟩

end

lemma follows_begun (X : Codec) (peerIds : Nat → String) :
    FollowsAll (fun _ => rule X) (fun _ _ _ => True) (begun X peerIds) :=
  fun t => follows_drainP2pOutbox X (peerIds t)

end

/-- In every run of any number of instances, a row leaves the outbox only after it was published,
when it is malformed, or when it has been claimed ten times and an attempt to publish it has
failed. -/
theorem leaves_after_claims (X : Codec) (peerIds : Nat → String) (contacts : Nat → ContactMaterial)
    (s : OutboxSys) (hr : Reaches (machine contacts) anyStep (begun X peerIds) s)
    (a : Action Env) (id : Nat) (row : Row) (hrow : s.world.rows.get? id = some row)
    (hgone : (s.step (machine contacts) a).world.rows.get? id = none) :
    .published id ∈ s.world.log ∨ Malformed X row ∨
      maxAttempts ≤ s.world.log.count (.claimed id) ∧ .failed id ∈ s.world.log := by
  rcases outbox_step contacts s a with hw | ⟨e, hw⟩ | ⟨t, _, q, _, -, hp, hw⟩ <;> rw [hw] at hgone
  · rw [hrow] at hgone
    cases hgone
  · -- the environment adds rows and lets time pass
    exfalso
    have hk : ((machine contacts).env e s.world).rows.get? id ≠ none := by
      cases e with
      | tick => exact fun hn => some_ne_none row (hrow.symm.trans hn)
      | insert dedupeKey commandKind payload =>
        show (s.world.insert dedupeKey commandKind payload).rows.get? id ≠ none
        unfold World.insert
        split
        · rw [get?_upsert]
          split
          · exact some_ne_none _
          · exact fun hn => some_ne_none row (hrow.symm.trans hn)
        · exact fun hn => some_ne_none row (hrow.symm.trans hn)
    exact hk hgone
  · have ha := (hr.follows (follows_begun X peerIds) t)
    rw [hp] at ha
    have hs : Allowed X (s.threads t).hist q := ha.1
    rcases removed_by hrow hgone with rfl | ⟨rfl, hmax⟩
    · obtain ⟨_, _, claimed, hc, hmem, hm | ⟨m, hok⟩⟩ := hs
      · -- the row in the table has the payload of the claimed one
        obtain ⟨hi, hpa⟩ := content_of_claimed hr hc hmem hrow
        refine .inr (.inl ?_)
        unfold Malformed at hm ⊢
        rw [hi, hpa] at hm
        exact hm
      · obtain ⟨s', o', -, hx, hl⟩ := log_of_heard hr hok
        exact .inl (hl.log.subset (published_of_ok hx))
    · obtain ⟨_, _, he⟩ := hs
      obtain ⟨_, _, -, hx, hl⟩ := log_of_heard hr he
      refine .inr (.inr ⟨?_, hl.log.subset (failed_of_error hx)⟩)
      exact hmax.trans (counted_of_reaches hr id row hrow).2

namespace Tried

def codec : Codec := ⟨fun _ => .ok ("n", "d1", 0), fun _ => .error "event"⟩

def contacts (_ : Nat) : ContactMaterial := ⟨"tcp", "p", "r", none, none⟩

def wasted (t : Nat) : List (Action Env) :=
  [.run t .ok, .run t .failed, .env (.tick 30001)]

def acts : List (Action Env) :=
  .env (.insert "snapshot:n" commandSnapshot .null) ::
    ((List.range 9).flatMap wasted ++ [.run 9 .ok, .run 9 .ok, .run 9 .failed])

def attempted : OutboxSys :=
  (begun codec fun _ => "p").runActions (machine contacts) acts

def published : OutboxSys :=
  (begun codec fun _ => "p").runActions (machine contacts)
    [.env (.insert "snapshot:n" commandSnapshot .null), .run 0 .ok, .run 0 .ok, .run 0 .ok]

lemma not_malformed (h : row.commandKind = commandSnapshot) : ¬ Malformed codec row := by
  intro hm
  obtain ⟨_, he⟩ := hm.1 h
  cases he

end Tried

set_option maxRecDepth 100000

open Tried in
/-- A row that was never published and is not malformed is discarded after the only attempt to
publish it. -/
theorem discarded_after_one_attempt :
    ∃ row, Reaches (machine contacts) anyStep (begun codec fun _ => "p")
        attempted ∧ attempted.world.rows.get? 1 = some row ∧
      (attempted.step (machine contacts) (.run 9 .ok)).world.rows.get? 1 = none ∧
      .published 1 ∉ attempted.world.log ∧ ¬ Malformed codec row ∧
      attempted.world.log.count (.failed 1) = 1 := by
  have hr : (attempted.world.rows.get? 1).map Row.commandKind = some commandSnapshot := by
    decide
  have ho : ((attempted.step (machine contacts) (.run 9 .ok)).world.rows.get? 1).map
      Row.attempts = none := by decide
  obtain ⟨row, hg, hk⟩ := map_eq_some_iff.1 hr
  exact ⟨row, reaches_runActions _ _, hg, map_eq_none_iff.1 ho, by decide,
    not_malformed hk, by decide⟩

open Tried in
theorem leaves_after_claims_published :
    (published.world.rows.get? 1).isSome = true ∧ .published 1 ∈ published.world.log := by
  have hr : (published.world.rows.get? 1).map Row.commandKind = some commandSnapshot := by
    decide
  have ho : ((published.step (machine contacts) (.run 0 .ok)).world.rows.get? 1).map
      Row.attempts = none := by decide
  have hne : .failed 1 ∉ published.world.log := by decide
  obtain ⟨row, hg, hk⟩ := map_eq_some_iff.1 hr
  refine ⟨by rw [hg]; rfl, ?_⟩
  rcases leaves_after_claims codec (fun _ => "p") contacts published
    (reaches_runActions _ _) (.run 0 .ok) 1 row hg (map_eq_none_iff.1 ho) with
    hp | hm | ⟨-, hf⟩
  · exact hp
  · exact absurd hm (not_malformed hk)
  · exact absurd hf hne

end WattGateway.Gateway.Outbox

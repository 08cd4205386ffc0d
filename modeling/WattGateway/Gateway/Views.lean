import WattGateway.Gateway.Board
import WattGateway.Gateway.Merge
import WattGateway.Gateway.Rows

/-!
# A board row in the stream and in the answer of a query

A board event is streamed when it is accepted and on replay, from its stored row, and listed by the
board endpoint from the row of its projection, filtered once more and decorated with the node it is
filed under. A payload that brings its own `source_node_id` keeps it in the stream and loses it on
the board (`board_views_agree_iff`).
-/

namespace WattGateway.Gateway

variable {instances : Nat → Nat} {X : Deployment} {e : SignedNodeEvent} {sources : Sources}
  {q : Query} {actions : List (Action Env)} {o : Outcome} {h : History} {x : Ans q}

section

open Json (Fields)

/-! ## The filter of announcements -/

/-- The `world_event` of a row with this announcement, none if it is to have none. -/
def announcedEvent (X : Deployment) : Option Json → Except String (Option Json)
  | none => .ok none
  | some announcement => do
    let authorities ← X.trustedNetworkAuthorities
    validateWorldEventWithAuthorities X announcement authorities
    let world ← X.worldEventOfValue (announcement.index "content")
    return some (X.worldEventToValue world)

def withEvent (object : Fields) : Option Json → Fields
  | none => object.remove "world_event"
  | some event => object.insert "world_event" event

@[simp] lemma get_withEvent (object : Fields) (event : Option Json) (k : String) :
    (withEvent object event).get k = if k = "world_event" then event else object.get k := by
  cases event <;> simp [withEvent]

lemma trustedBoardMessage_object (object : Fields) : trustedBoardMessage X (.object object) =
      (announcedEvent X (boardAnnouncement (.object object))).map
        fun event => .object (withEvent object event) := by
  unfold trustedBoardMessage trustedBoardMessageWithAuthorities announcedEvent
  cases boardAnnouncement (.object object) with
  | none => rfl
  | some announcement =>
    simp only [Option.isNone_some, Bool.false_eq_true, if_false, Json.asObject]
    cases X.trustedNetworkAuthorities with
    | error => rfl
    | ok authorities =>
      simp only [bind, Except.bind]
      cases validateWorldEventWithAuthorities X announcement authorities with
      | error => rfl
      | ok =>
        cases X.worldEventOfValue (announcement.index "content") with
        | error => rfl
        | ok => rfl

/-- A row that has passed the filter passes it again under the name of its node, and keeps all other
fields. -/
lemma trusted_again {object : Fields} {row : Json} (sourceNodeId : String)
    (h : trustedBoardMessage X (.object object) = .ok row) :
    ∃ served, trustedBoardMessage X (attachSource row sourceNodeId) = .ok served ∧
      (∀ k, served.get k =
        if k = "source_node_id" then some (.string sourceNodeId) else row.get k) ∧
      row.get "source_node_id" = object.get "source_node_id" := by
  rw [trustedBoardMessage_object] at h
  cases he : announcedEvent X (boardAnnouncement (.object object)) with
  | error =>
    rw [he] at h
    cases h
  | ok event =>
    rw [he] at h
    cases h
    have hg : ∀ (fields : Fields) k, (Json.object fields).get k = fields.get k := fun _ _ => rfl
    -- the decoration leaves the fields that carry the announcement
    have hs : boardAnnouncement (.object ((withEvent object event).insert "source_node_id"
        (.string sourceNodeId))) = boardAnnouncement (.object object) :=
      boardAnnouncement_congr (by simp [hg]) (by simp [hg])
    refine ⟨.object (withEvent ((withEvent object event).insert "source_node_id"
      (.string sourceNodeId)) event), ?_, ?_, ?_⟩
    · show trustedBoardMessage X (.object ((withEvent object event).insert "source_node_id"
        (.string sourceNodeId))) = _
      rw [trustedBoardMessage_object, hs, he]
      rfl
    · intro k
      simp only [hg, get_withEvent, Json.Fields.get_insert]
      by_cases hk : k = "world_event"
      · simp [hk]
      · simp [hk]
    · simp [hg]

/-! ## The payload of a board event -/

/-- The payload projects onto the board, and names no source but the node that signs it. -/
def SignsItsNode (event : NodeEventPayload) : Prop :=
  ∃ object, mergedPayloadObject event.payload ["board_message"] = some object ∧
    ∀ value, Fields.get object "source_node_id" = some value → value = .string event.nodeId

/-- The projected row names the node of the event exactly if the event names no other source, and then
the board serves it as it is. -/
lemma served_as_projected {event : NodeEventPayload} {row : Json}
    (hi : event.dataKind = .boardActivity)
    (h : trustedProjection X event = .ok (some (.boardActivity, row))) :
    (row.get "source_node_id" = some (.string event.nodeId) ↔ SignsItsNode event) ∧
    ∃ served, trustedBoardMessage X (attachSource row event.nodeId) = .ok served ∧
      (row.get "source_node_id" = some (.string event.nodeId) → ∀ k, row.get k = served.get k) := by
  obtain ⟨object, merged, row', hm, hs, hr, heq⟩ | ⟨-, hn⟩ :=
    boardProjection_cases hi h
  swap
  · cases hn
  cases heq
  obtain ⟨served, hse, hg, he⟩ := trusted_again event.nodeId hr
  rw [hs] at he
  refine ⟨⟨fun hno => ⟨merged, hm, fun value hv => ?_⟩, ?_⟩, served, hse, fun hno k => ?_⟩
  · rw [hno, hv] at he
    exact (Option.some.inj he).symm
  · rintro ⟨merged', hm', ho⟩
    rw [hm] at hm'
    cases hm'
    rw [he]
    cases hv : Fields.get merged "source_node_id" with
    | none => rfl
    | some value => rw [ho value hv]; rfl
  · rw [hg]
    split
    · rename_i hk
      rw [hk, hno]
    · rfl

end

/-! ## The rows of projections -/

def filedBy (o : Outcome) : Query → Option ProjectionRecord
  | .write (.upsertProjectionRow r) => if o = .ok ∨ o = .lost then some r else none
  | _ => none

def filedIn (s : GatewaySys) : Action Env → Option ProjectionRecord
  | .run t o =>
    match (s.threads t).prog with
    | .ask q _ => filedBy o q
    | _ => none
  | .env _ => none

def filed (instances : Nat → Nat) (s : GatewaySys) : List (Action Env) → List ProjectionRecord
  | [] => []
  | a :: actions =>
    (filedIn s a).toList ++ filed instances (s.step (machine instances) a) actions

section

variable {w w' : World} {t inst : Nat}

lemma projectionRows_answer (ha : answer inst t w o q = some (x, w')) : w'.db.projectionRows =
      match filedBy o q with
      | some r => w.db.projectionRows.upsert r.key (r.row w.now)
      | none => w.db.projectionRows := by
  by_cases hq : q.Writes
  · cases q with
    | commit =>
      rcases (commit_cases ha).2.2 with hd | ⟨tx, -, hd, -⟩
      · rw [hd]
        rfl
      · rw [hd]
        exact (view_others w.db tx).1
    | stmt =>
      rw [(stmt_cases ha).1]
      rfl
    | write a =>
      cases a <;> cases o <;> cases ha <;> rfl
    | _ => exact hq.elim
  · rw [(other_cases hq ha).1]
    have hno : filedBy o q = none := by
      unfold filedBy
      split
      · exact absurd trivial hq
      · rfl
    rw [hno]

lemma projectionRows_step (instances : Nat → Nat) (s : GatewaySys) (a : Action Env) :
    (s.step (machine instances) a).world.db.projectionRows =
      match filedIn s a with
      | some r => s.world.db.projectionRows.upsert r.key (r.row s.world.now)
      | none => s.world.db.projectionRows := by
  cases a with
  | env e => cases e <;> rfl
  | run t o =>
    cases hp : (s.threads t).prog with
    | ret | fail => simp [Sys.step, filedIn, hp]
    | cmd c => exact c.elim
    | ask q k =>
      have hf : filedIn s (.run t o) = filedBy o q := by simp only [filedIn, hp]
      rw [hf]
      cases ha : answer (instances t) t s.world o q with
      | none =>
        have hi : s.step (machine instances) (.run t o) = s := by
          simp [Sys.step, hp, machine, ha]
        have hno : filedBy o q = none := by
          unfold filedBy
          split
          · cases o <;> cases ha
          · rfl
        rw [hi, hno]
      | some answered =>
        obtain ⟨x, w⟩ := answered
        have ht : s.step (machine instances) (.run t o) =
            (s.advance t (k x) (s.world.now, .heard q x) w).settle (machine instances) t :=
          Sys.step_ask hp (by simp [machine, ha])
        rw [ht, ← projectionRows_answer ha]
        rcases settle_world instances t (s.advance t (k x) (s.world.now, .heard q x) w)
          with hs | hs
        · rw [hs]
          rfl
        · rw [hs]
          rfl

lemma filed_append (instances : Nat → Nat) (s : GatewaySys) (actions : List (Action Env))
    (a : Action Env) : filed instances s (actions ++ [a]) = filed instances s actions ++
      (filedIn (s.runActions (machine instances) actions) a).toList := by
  induction actions generalizing s with
  | nil => simp [filed, Sys.runActions]
  | cons _ _ ih =>
    rw [List.cons_append, filed, ih, filed, List.append_assoc]
    rfl

/-- A row is as new as the newest record filed under its key, and made of one that new. -/
structure NewestFiled (rows : Table (DataKind × String × String) ProjectionRow)
    (records : List ProjectionRecord) : Prop where
  made : ∀ key row, rows.get? key = some row → ∃ r ∈ records, r.key = key ∧
    row.payload = r.payload ∧ row.generatedAt = normalizeGeneratedAtMillis r.generatedAt
  newest : ∀ r ∈ records, ∃ row, rows.get? r.key = some row ∧
    normalizeGeneratedAtMillis r.generatedAt ≤ row.generatedAt

lemma row_cases (r : ProjectionRecord) (now : Nat) (old : Option ProjectionRow) :
    ((r.row now old).payload = r.payload ∧
      (r.row now old).generatedAt = normalizeGeneratedAtMillis r.generatedAt ∧
      ∀ row ∈ old, row.generatedAt ≤ (r.row now old).generatedAt) ∨
    ∃ row, old = some row ∧ r.row now old = row ∧
      normalizeGeneratedAtMillis r.generatedAt < row.generatedAt := by
  cases old with
  | none => exact .inl ⟨rfl, rfl, nofun⟩
  | some row =>
    by_cases hle : row.generatedAt ≤ normalizeGeneratedAtMillis r.generatedAt
    · refine .inl ?_
      simp only [ProjectionRecord.row, if_pos hle, Option.mem_some_iff, true_and]
      rintro _ rfl
      exact hle
    · refine .inr ⟨row, rfl, ?_, Int.not_le.1 hle⟩
      simp only [ProjectionRecord.row, if_neg hle]

lemma NewestFiled.upsert {rows : Table (DataKind × String × String) ProjectionRow}
    {records : List ProjectionRecord} (h : NewestFiled rows records) (r : ProjectionRecord)
    (now : Nat) : NewestFiled (rows.upsert r.key (r.row now)) (records ++ [r]) := by
  have hn : r ∈ records ++ [r] := List.mem_append_right _ (List.mem_singleton.2 rfl)
  refine ⟨fun key row ho => ?_, fun r' hr' => ?_⟩
  · rw [Table.get?_upsert] at ho
    split at ho
    · rename_i hk
      cases ho
      rcases row_cases r now (rows.get? r.key) with ⟨hp, ht, -⟩ | ⟨old, hold, heq, -⟩
      · exact ⟨r, hn, hk.symm, hp, ht⟩
      · obtain ⟨r', hr', hk', he⟩ := h.made r.key old hold
        exact ⟨r', List.mem_append_left _ hr', hk'.trans hk.symm, heq ▸ he⟩
    · obtain ⟨r', hr', he⟩ := h.made key row ho
      exact ⟨r', List.mem_append_left _ hr', he⟩
  · rw [Table.get?_upsert]
    rcases List.mem_append.1 hr' with hr' | hr'
    · obtain ⟨row, ho, hle⟩ := h.newest r' hr'
      split
      · rename_i hk
        rw [hk] at ho
        refine ⟨_, rfl, Int.le_trans hle ?_⟩
        rcases row_cases r now (rows.get? r.key) with ⟨-, -, hold⟩ | ⟨old, hold, heq, -⟩
        · exact hold row ho
        · rw [ho] at hold
          cases hold
          exact Int.le_of_eq (congrArg ProjectionRow.generatedAt heq).symm
      · exact ⟨row, ho, hle⟩
    · cases List.mem_singleton.1 hr'
      rw [if_pos rfl]
      refine ⟨_, rfl, ?_⟩
      rcases row_cases r now (rows.get? r.key) with ⟨-, ht, -⟩ | ⟨old, -, heq, hlt⟩
      · exact Int.le_of_eq ht.symm
      · rw [heq]
        exact Int.le_of_lt hlt

lemma newestFiled_run (X : Deployment) (sources : Sources) (calls : Nat → Call)
    (instances : Nat → Nat) (actions : List (Action Env)) : NewestFiled
      ((gatewayStart X sources calls).runActions (machine instances) actions).world.db.projectionRows
      (filed instances (gatewayStart X sources calls) actions) := by
  induction actions using List.reverseRecOn with
  | nil =>
    refine ⟨fun key row h => ?_, fun r h => ?_⟩ <;> cases h
  | append_singleton actions a ih =>
    rw [filed_append, Sys.runActions_append]
    show NewestFiled (Sys.step (machine instances) _ a).world.db.projectionRows _
    rw [projectionRows_step]
    cases filedIn ((gatewayStart X sources calls).runActions (machine instances) actions) a with
    | none => simpa using ih
    | some r => exact ih.upsert r _

lemma mem_filed_of_heard {calls : Nat → Call}
    {t : Nat} {r : ProjectionRecord}
    (h : (((gatewayStart X sources calls).runActions (machine instances) actions).threads t).hist.Heard
      (.write (.upsertProjectionRow r)) (.ok ())) :
    r ∈ filed instances (gatewayStart X sources calls) actions := by
  induction actions using List.reverseRecOn with
  | nil => exact absurd h (Hist.not_heard_nil _ _)
  | append_singleton _ _ ih =>
    rw [filed_append]
    rw [Sys.runActions_append] at h
    rcases Sys.heard_of_step h with hold | ⟨o, k, w, rfl, hp, ha, -⟩
    · exact List.mem_append_left _ (ih hold)
    · refine List.mem_append_right _ ?_
      cases o with
      | ok => simp [filedIn, hp, filedBy]
      | _ => simp [machine, answer] at ha

end

/-! ## The row of an accepted event -/

/-- The last statements of the history insert this row and announce it. -/
def JustInserted (r : UiEventRecord) (row : UiEventRow) : History → Prop
  | (_, .heard (.stmt (.insertUiEvent r')) x) :: _ => r' = r ∧ x = .ok (some row)
  | (_, .heard (.stmt (.insertP2pOutbox _)) (.ok _)) :: h => JustInserted r row h
  | _ => False

def Stored (r : UiEventRecord) (row : UiEventRow) (h : History) : Prop :=
  ∃ τ before, ((τ, .heard .commit (.ok ())) :: before : History) <:+ h ∧ JustInserted r row before

variable {r : UiEventRecord} {row : UiEventRow}

lemma JustInserted.heard (hin : JustInserted r row h) :
    h.Heard (.stmt (.insertUiEvent r)) (.ok (some row)) := by
  induction h with
  | nil => exact hin.elim
  | cons entry h ih =>
    unfold JustInserted at hin
    split at hin
    · rename_i heq
      obtain ⟨rfl, rfl⟩ := hin
      rw [heq]
      exact Hist.heard_self _ _ _ _
    · rename_i heq
      cases heq
      exact (ih hin).cons _
    · exact hin.elim

lemma Stored.heard (hs : Stored r row h) : h.Heard (.stmt (.insertUiEvent r)) (.ok (some row)) := by
  obtain ⟨τ, before, hu, hin⟩ := hs
  exact (hin.heard.cons _).mono hu

/-- The transaction that a history has left open has its row, and the table has those that a
history has committed. -/
structure RowsThere (s : GatewaySys) : Prop where
  inserted : ∀ t r row tx, JustInserted r row (s.threads t).hist → s.world.txs.get? t = some tx →
    .uiEvent r.eventId row ∈ tx.writes
  stored : ∀ t r row, Stored r row (s.threads t).hist →
    s.world.db.uiEvents.get? r.eventId = some row

section

variable {w w' : World} {t inst : Nat}

lemma txs_of_ne (ha : answer inst t w o q = some (x, w')) {t' : Nat}
    {tx : Tx} (hne : t' ≠ t) (h : w'.txs.get? t' = some tx) : w.txs.get? t' = some tx := by
  by_cases hq : q.Writes
  · cases q with
    | commit => exact (commit_cases ha).2.1 t' tx h
    | stmt => exact (stmt_cases ha).2.1 t' tx hne h
    | write => exact (write_cases ha).1 ▸ h
    | _ => exact hq.elim
  · exact ((other_cases hq ha).2.1 t' tx h).resolve_right fun ho => hne ho.1

lemma writes_of_stmt {st : Stmt} {a : st.Result} {tx : Tx}
    (ha : answer inst t w o (.stmt st) = some (.ok a, w')) (h : w'.txs.get? t = some tx) :
    ∃ before write, w.txs.get? t = some before ∧ tx.writes = before.writes ++ write.toList ∧
      ∀ r row, (⟨.insertUiEvent r, some row⟩ : (s : Stmt) × s.Result) = ⟨st, a⟩ →
        write = some (.uiEvent r.eventId row) := by
  obtain ⟨before, write, d, hb, he, hf⟩ := (stmt_cases ha).2.2
  rw [hf] at h
  cases h
  refine ⟨before, write, hb, rfl, ?_⟩
  rintro r row ⟨⟩
  rw [Stmt.exec] at he
  split at he <;> cases he
  rfl

lemma view_of_commit (ha : answer inst t w o .commit = some (.ok (), w')) :
    ∃ tx, w.txs.get? t = some tx ∧ w'.db = tx.view w.db := by
  rw [answer] at ha
  split at ha
  · cases ha
  · rename_i tx ho
    cases o <;> cases ha
    exact ⟨tx, ho, rfl⟩

end

variable {s : GatewaySys}

lemma RowsThere.settle (instances : Nat → Nat) (h : RowsThere s) (t : Nat) :
    RowsThere (s.settle (machine instances) t) := by
  refine ⟨fun t' r row tx hin ht => ?_, fun t' r row hst => ?_⟩
  · rw [Sys.settle_hist] at hin
    refine h.inserted t' r row tx hin ?_
    rcases settle_world instances t s with hs | hs
    · rwa [hs] at ht
    · rw [hs] at ht
      exact s.world.get?_of_dropTx t ht
  · rw [Sys.settle_hist] at hst
    rcases settle_world instances t s with hs | hs <;>
      (rw [hs]; exact h.stored t' r row hst)

variable {t : Nat}

lemma RowsThere.advance (h : RowsThere s) (hr : EventRows s.world) {inst : Nat}
    {w : World} (ha : answer inst t s.world o q = some (x, w))
    (p : Proc Reply) (τ : Nat) : RowsThere (s.advance t p (τ, .heard q x) w) := by
  refine ⟨fun t' r row tx hin ht => ?_, fun t' r row hst => ?_⟩
  · by_cases hne : t' = t
    · subst hne
      rw [Sys.advance_self] at hin
      cases q with
      | stmt st =>
        cases st with
        | insertUiEvent r' =>
          obtain ⟨rfl, rfl⟩ := hin
          obtain ⟨before, write, -, hw, hn⟩ := writes_of_stmt ha ht
          rw [hw, hn r' row rfl]
          exact List.mem_append_right _ (List.mem_singleton.2 rfl)
        | insertP2pOutbox =>
          cases x with
          | error => exact hin.elim
          | ok =>
            obtain ⟨before, write, hb, hw, -⟩ := writes_of_stmt ha ht
            rw [hw]
            exact List.mem_append_left _ (h.inserted t' r row before hin hb)
        | _ => exact hin.elim
      | _ => exact hin.elim
    · rw [Sys.advance_ne hne] at hin
      exact h.inserted t' r row tx hin (txs_of_ne ha hne ht)
  · have hs : s.world.db.uiEvents.get? r.eventId = some row →
        w.db.uiEvents.get? r.eventId = some row := (eventStep_answer ha).row_stays hr
    show w.db.uiEvents.get? r.eventId = some row
    by_cases hne : t' = t
    · subst hne
      rw [Sys.advance_self] at hst
      obtain ⟨τ', before, hu, hin⟩ := hst
      rcases List.suffix_cons_iff.1 hu with heq | hu
      · -- the commit itself
        cases heq
        obtain ⟨tx, ho, hd⟩ := view_of_commit ha
        rw [hd]
        exact hr.view_eq ho (h.inserted t' r row tx hin ho)
      · exact hs (h.stored t' r row ⟨τ', before, hu, hin⟩)
    · rw [Sys.advance_ne hne] at hst
      exact hs (h.stored t' r row hst)

lemma RowsThere.step (instances : Nat → Nat) (h : RowsThere s) (hro : EventRows s.world)
    (a : Action Env) : RowsThere (s.step (machine instances) a) := by
  rcases gateway_step instances s a with hs | ⟨e, -, hs⟩ | ⟨t, o, q, k, x, w, -, -, ha, hs⟩
  · rw [hs]
    exact h
  · rw [hs]
    cases e with
    | disconnect t' =>
      exact ⟨fun t r row tx hin ht => h.inserted t r row tx hin (s.world.get?_of_dropTx t' ht),
        h.stored⟩
    | _ => exact ⟨h.inserted, h.stored⟩
  · rw [hs]
    exact (h.advance hro ha (k x) s.world.now).settle instances t

lemma rowsThere_run (X : Deployment) (sources : Sources) (calls : Nat → Call)
    (instances : Nat → Nat) (actions : List (Action Env)) :
    RowsThere ((gatewayStart X sources calls).runActions (machine instances) actions) := by
  have hr := Sys.reaches_runActions (m := machine instances) actions (gatewayStart X sources calls)
  refine (hr.invariant (P := fun s => EventRows s.world ∧ RowsThere s) ?_ ?_).2
  · refine ⟨eventRows_start sources, fun t r row tx hin => hin.elim, ?_⟩
    rintro t r row ⟨τ, before, hs, -⟩
    cases List.suffix_nil.1 hs
  · intro s a _ _ ih
    obtain ⟨t, ht⟩ := eventStep_step instances s a
    exact ⟨ih.1.step ht, ih.2.step instances ih.1 a⟩

lemma rows_stay (instances : Nat → Nat) {s' : GatewaySys}
    (h : Sys.Reaches (machine instances) Sys.anyStep s s') (hs : EventRows s.world) :
    EventRows s'.world ∧ ∀ eventId row, s.world.db.uiEvents.get? eventId = some row →
      s'.world.db.uiEvents.get? eventId = some row := by
  induction h with
  | refl => exact ⟨hs, fun _ _ hr => hr⟩
  | step a _ _ ih =>
    obtain ⟨t, ht⟩ := eventStep_step instances _ a
    exact ⟨ih.1.step ht, fun _ _ hr => ht.row_stays ih.1 (ih.2 _ _ hr)⟩

/-- In every run no cursor is used twice, and a committed row stays as it is. -/
theorem event_rows_stay (X : Deployment) (sources : Sources) (calls : Nat → Call)
    (instances : Nat → Nat) (actions later : List (Action Env)) :
    EventRows ((gatewayStart X sources calls).runActions (machine instances) actions).world ∧
      ∀ eventId row, ((gatewayStart X sources calls).runActions (machine instances)
          actions).world.db.uiEvents.get? eventId = some row →
        ((gatewayStart X sources calls).runActions (machine instances)
          (actions ++ later)).world.db.uiEvents.get? eventId = some row := by
  have h := rows_stay instances (Sys.reaches_runActions actions (gatewayStart X sources calls))
    (eventRows_start sources)
  rw [Sys.runActions_append]
  exact ⟨h.1, (rows_stay instances (Sys.reaches_runActions later _) h.1).2⟩

/-! ## The three views -/

/-- A call has accepted the event and streamed it so: it has stored its row, filed its projection if
it has one, and published the row. -/
def Accepted (X : Deployment) (h : History) (e : NodeEventPayload) (live : GatewayUiEvent) : Prop :=
  ∃ sourceId projection row, trustedProjection X e = .ok projection ∧
    Stored (uiEventRecord e sourceId projection) row h ∧
    (∀ dataKind payload, projection = some (dataKind, payload) →
      h.Heard (.write (.upsertProjectionRow
        (eventProjectionRecord e sourceId (isProvisional e) dataKind payload))) (.ok ())) ∧
    live = .ofRow e.eventId row ∧ h.Heard (.publishUiEvent live) (.ok ())

section

lemma follows_exec_anything {Q : q.Result → History → Prop}
    (ha : ∀ a τ, Q a ((τ, .heard q (.ok a)) :: h)) : (exec q).Follows Prog.anything Q h := by
  refine .bind (Prog.follows_query trivial fun τ x => ?_)
  refine Prog.follows_ofExcept fun a hx => ?_
  rw [hx]
  exact ha a τ

lemma follows_after {α β : Type} {p : Proc α} {f : α → Proc β} {Q : β → History → Prop}
    (hf : ∀ a h', (f a).Follows Prog.anything Q h') : (p >>= f).Follows Prog.anything Q h :=
  .bind ((Prog.follows_anything p h).mono fun a h' _ => hf a h')

lemma follows_insertUiEventInner (record : UiEventRecord) (outbox : Option OutboxRecord) :
    (insertUiEventInner record outbox).Follows Prog.anything
      (fun row h' => ∀ row', row = some row' → Stored record row' h') h := by
  unfold insertUiEventInner
  refine follows_after fun _ h₁ => ?_
  refine .bind (follows_exec_anything fun row τ => ?_)
  have ho : (outboxIf row.isSome outbox).Follows Prog.anything
      (fun _ h' => ∀ row', row = some row' → JustInserted record row' h')
      ((τ, .heard (.stmt (.insertUiEvent record)) (.ok row)) :: h₁) := by
    have hin : ∀ row', row = some row' → JustInserted record row'
        ((τ, .heard (.stmt (.insertUiEvent record)) (.ok row)) :: h₁) :=
      fun row' hr => ⟨rfl, hr ▸ rfl⟩
    unfold outboxIf
    split
    · split
      · exact follows_exec_anything fun _ _ => hin
      · exact hin
    · exact hin
  refine .bind (ho.mono fun _ h₂ hin => ?_)
  refine .bind (follows_exec_anything fun _ τ' => ?_)
  refine .bind ((Prog.follows_anything _ _).mono fun _ h₃ hs => ?_)
  exact fun row' hr => ⟨τ', h₂, hs, hin row' hr⟩

lemma Stored.mono {h h' : History} (ht : Stored r row h) (hs : h <:+ h') : Stored r row h' := by
  obtain ⟨τ, before, hu, hin⟩ := ht
  exact ⟨τ, before, hu.trans hs, hin⟩

lemma follows_persistConfirmed (hs : isSpaceEvent e = false)
    (sourceId : Option Nat) (announceP2p : Bool) :
    (persistConfirmed X e sourceId announceP2p).Follows Prog.anything
      (fun result h' => ∀ cursor, result = some cursor → ∃ live, Accepted X h' e.payload live)
      h := by
  unfold persistConfirmed
  refine .bind (Prog.follows_ofExcept fun projection hp => ?_)
  unfold insertEvent
  rw [if_neg (by rw [hs]; exact Bool.false_ne_true)]
  refine .bind ((follows_insertUiEventInner _ _).mono fun row h₁ ht => ?_)
  cases row with
  | none =>
    simp only [hs, Bool.false_eq_true, if_false]
    refine follows_after fun _ _ => follows_after fun _ _ => follows_after fun _ _ => ?_
    rintro cursor ⟨⟩
  | some row =>
    have hi : (materializeEventProjection e.payload sourceId projection).Follows Prog.anything
        (fun _ h' => h₁ <:+ h' ∧ ∀ dataKind payload, projection = some (dataKind, payload) →
          h'.Heard (.write (.upsertProjectionRow (eventProjectionRecord e.payload sourceId
            (isProvisional e.payload) dataKind payload))) (.ok ())) h₁ := by
      unfold materializeEventProjection
      split
      · exact ⟨List.suffix_refl _, fun _ _ hno => by cases hno⟩
      · refine follows_exec_anything fun _ τ => ⟨List.suffix_cons _ _, ?_⟩
        rintro dataKind payload ⟨⟩
        exact Hist.heard_self _ _ _ _
    refine .bind (hi.mono fun _ h₂ hf => ?_)
    refine .bind (follows_exec_anything fun _ τ => ?_)
    rintro cursor ⟨⟩
    refine ⟨_, sourceId, projection, row, hp, ?_, ?_, rfl, Hist.heard_self _ _ _ _⟩
    · exact (ht row rfl).mono (hf.1.trans (List.suffix_cons _ _))
    · exact fun dataKind payload heq => (hf.2 dataKind payload heq).cons _

lemma follows_ingestNodeEvent (hs : isSpaceEvent e = false) :
    (ingestNodeEvent X e).Follows Prog.anything
      (fun reply h' => ∀ cursor, reply = .eventIngested cursor →
        ∃ live, Accepted X h' e.payload live) h := by
  have hp : (persistSignedNodeEventWithOptions X e none none true).Follows Prog.anything
      (fun result h' => ∀ cursor, result = some cursor → ∃ live, Accepted X h' e.payload live)
      h := by
    unfold persistSignedNodeEventWithOptions
    refine follows_after fun resolved _ => follows_after fun _ _ => follows_after fun _ _ => ?_
    refine follows_after fun _ _ => follows_after fun _ _ => follows_after fun _ _ => ?_
    split
    · -- an ephemeral event is not stored, and has no cursor
      unfold persistEphemeral
      split
      · refine follows_after fun _ _ => follows_after fun accepted _ => ?_
        cases accepted with
        | true =>
          refine follows_after fun _ _ => ?_
          rintro cursor ⟨⟩
        | false => rintro cursor ⟨⟩
      · refine follows_after fun _ _ => ?_
        rintro cursor ⟨⟩
    · exact follows_persistConfirmed hs _ _
  unfold ingestNodeEvent orBadRequest
  refine .bind (Prog.Follows.attempt (Q := fun result h' =>
    ∀ cursor, result = .ok (some cursor) → ∃ live, Accepted X h' e.payload live) ?_ ?_ |>.mono ?_)
  · exact hp.mono fun result h' hr cursor heq => hr cursor (Except.ok.inj heq)
  · rintro error h' - cursor ⟨⟩
  · intro result _ hr
    cases result with
    | error => rintro cursor ⟨⟩
    | ok result =>
      cases result with
      | none => rintro cursor ⟨⟩
      | some cursor => exact fun _ _ => hr cursor rfl

lemma accepted_of_ingested {calls : Nat → Call} {cond : GatewaySys → Action Env → Prop}
    (hr : Sys.Reaches (machine instances) cond (gatewayStart X sources calls) s) {cursor : Nat}
    (hc : calls t = .ingestNodeEvent e) (hs : isSpaceEvent e = false)
    (he : (s.threads t).prog = .ret (.eventIngested cursor)) :
    ∃ live, Accepted X (s.threads t).hist e.payload live := by
  have hf : Sys.FollowsAll (fun _ => Prog.anything)
      (fun t' reply h => t' = t → ∀ cursor, reply = .eventIngested cursor →
        ∃ live, Accepted X h e.payload live) (gatewayStart X sources calls) := by
    intro t'
    by_cases ht : t' = t
    · subst ht
      show ((calls t').prog X).Follows _ _ _
      rw [hc]
      exact (follows_ingestNodeEvent hs).mono fun reply h he _ => he
    · exact (Prog.follows_anything _ _).mono fun _ _ _ heq => absurd heq ht
  exact (hr.follows hf).ret he rfl cursor rfl

end

def boardKey (nodeId : String) (payload : Json) : DataKind × String × String :=
  (.boardActivity, projectionIdentityKey .boardActivity payload nodeId, nodeId)

/-- Whatever else has been filed for the identity and the node is older than the event. -/
def Newest (records : List ProjectionRecord) (e : NodeEventPayload) (live : GatewayUiEvent) : Prop :=
  ∀ r ∈ records, r.key = boardKey e.nodeId live.payload → r.payload = live.payload ∨
    normalizeGeneratedAtMillis r.generatedAt < normalizeGeneratedAtMillis e.timestamp

/-- The payload that was streamed, the one that is replayed, and a row that the board returns to a
local query agree on every field and name the node of the event. -/
def ViewsAgree (X : Deployment) (query : BoardQuery) (db : Db) (e : NodeEventPayload)
    (live : GatewayUiEvent) : Prop :=
  ∃ stored, db.uiEvents.get? e.eventId = some stored ∧
    ∃ served ∈ boardPage X query (projectionValues db .boardActivity),
      (∀ k, live.payload.get k = served.get k ∧
        (GatewayUiEvent.ofRow e.eventId stored).payload.get k = served.get k) ∧
      served.get "source_node_id" = some (.string e.nodeId)

/-- The board has the row of the event for the query: its source is not hidden, it passes the filters,
no other row with its message id is as late, of whatever node, and at most `limit` rows are. -/
def Listed (X : Deployment) (query : BoardQuery) (db : Db) (e : NodeEventPayload)
    (live : GatewayUiEvent) : Prop :=
  let rows := trustedBoardMessages X (projectionValues db .boardActivity)
  let time (row : Json) := timestampWithFallback X row boardSortKeys
  (∀ shown, db.projectionRows.get? (boardKey e.nodeId live.payload) = some shown →
    db.visible shown.sourceId = true) ∧
  ∀ own ∈ rows, trustedBoardMessage X (attachSource live.payload e.nodeId) = .ok own →
    matchesBoardFilters X own query = true ∧
    (∀ other ∈ rows, other = own ∨ TopK.Separate boardMessageIdentityKey other own ∨
      time other < time own) ∧ rows.countP (fun other => time own ≤ time other) ≤ boardLimit query

variable {live : GatewayUiEvent} {e : NodeEventPayload}

lemma shown_of_newest {calls : Nat → Call} {sourceId : Option Nat} {payload : Json}
    (hf : eventProjectionRecord e sourceId (isProvisional e) .boardActivity payload ∈
      filed instances (gatewayStart X sources calls) actions) (hl : live.payload = payload)
    (hne : Newest (filed instances (gatewayStart X sources calls) actions) e live) :
    ∃ shown, ((gatewayStart X sources calls).runActions (machine instances)
        actions).world.db.projectionRows.get? (boardKey e.nodeId live.payload) = some shown ∧
      shown.payload = payload := by
  have hn := newestFiled_run X sources calls instances actions
  obtain ⟨shown, hs, hle⟩ := hn.newest _ hf
  obtain ⟨r, hm, hk, hp, ht⟩ := hn.made _ shown hs
  subst hl
  refine ⟨shown, hs, ?_⟩
  rcases hne r hm hk with ha | holder
  · rw [hp, ha]
  · rw [ht] at hle
    exact absurd holder (Int.not_lt.2 hle)

lemma Accepted.stored {calls : Nat → Call}
    (h : Accepted X (((gatewayStart X sources calls).runActions (machine instances)
      actions).threads t).hist e live) :
    ∃ sourceId projection row, trustedProjection X e = .ok projection ∧
      ((gatewayStart X sources calls).runActions (machine instances)
        actions).world.db.uiEvents.get? e.eventId = some row ∧
      live = .ofRow e.eventId row ∧ live.payload = uiPayload e projection ∧
      ∀ dataKind payload, projection = some (dataKind, payload) →
        eventProjectionRecord e sourceId (isProvisional e) dataKind payload ∈
          filed instances (gatewayStart X sources calls) actions := by
  obtain ⟨sourceId, projection, row, hp, hs, hf, rfl, -⟩ := h
  have hr := Sys.reaches_runActions (m := machine instances) actions (gatewayStart X sources calls)
  refine ⟨sourceId, projection, row, hp, ?_, rfl, ?_, fun dataKind payload heq => ?_⟩
  · exact (rowsThere_run X sources calls instances actions).stored t _ row hs
  · obtain ⟨s', o, w, -, -, -, ha⟩ := answered_of_heard hr hs.heard
    obtain ⟨cursor, now, rfl⟩ := row_of_inserted ha
    rfl
  · exact mem_filed_of_heard (hf dataKind payload heq)

lemma Listed.mem_boardPage {query : BoardQuery} {db : Db} {shown : ProjectionRow} {served : Json}
    (h : Listed X query db e live)
    (ho : db.projectionRows.get? (boardKey e.nodeId live.payload) = some shown)
    (hp : shown.payload = live.payload)
    (hs : trustedBoardMessage X (attachSource live.payload e.nodeId) = .ok served) :
    served ∈ boardPage X query (projectionValues db .boardActivity) := by
  have hin : served ∈ trustedBoardMessages X (projectionValues db .boardActivity) := by
    refine List.mem_filterMap.2 ⟨attachSource live.payload e.nodeId, ?_, by rw [hs]; rfl⟩
    refine List.mem_map.2 ⟨(boardKey e.nodeId live.payload, shown), ?_, by rw [hp]; rfl⟩
    refine (List.perm_insertionSort _ _).mem_iff.2 (Table.mem_select.2 ⟨ho, ?_⟩)
    exact decide_eq_true ⟨rfl, h.1 shown ho⟩
  obtain ⟨hm, hother, hc⟩ := h.2 served hin hs
  show served ∈ boardRows X _ _
  rw [boardRows_eq]
  refine TopK.mem_topBy_of (List.mem_filter.2 ⟨hin, hm⟩) (fun other ho => ?_) ?_
  · exact hother other (List.mem_filter.1 ho).1
  · exact List.filter_sublist.countP_le.trans hc

/-- While an accepted board event is the newest of its identity and node and the board has its row for
a local query, the three views agree exactly if its payload has something to show and names no other
source. -/
theorem board_views_agree_iff (X : Deployment) (sources : Sources) (calls : Nat → Call)
    (instances : Nat → Nat) (actions : List (Action Env)) (t : Nat) (e : NodeEventPayload)
    (live : GatewayUiEvent) (hkind : e.dataKind = .boardActivity)
    (haccepted : Accepted X
      (((gatewayStart X sources calls).runActions (machine instances) actions).threads t).hist e live)
    (hnewest : Newest (filed instances (gatewayStart X sources calls) actions) e live)
    (query : BoardQuery) (hlisted : Listed X query
      ((gatewayStart X sources calls).runActions (machine instances) actions).world.db e live) :
    ViewsAgree X query ((gatewayStart X sources calls).runActions (machine instances) actions).world.db
      e live ↔ SignsItsNode e := by
  obtain ⟨sourceId, projection, row, hp, hr, hl, hpa, hf⟩ := haccepted.stored
  rcases boardProjection_cases hkind hp with
    ⟨object, merged, payload, -, -, -, rfl⟩ | ⟨hn, rfl⟩
  · have hu : live.payload = payload := by
      rw [hpa, uiPayload]
      simp only [hkind, if_true]
    obtain ⟨hiff, served, hs, ha⟩ := served_as_projected hkind hp
    rw [← hiff]
    constructor
    · rintro ⟨_, -, _, -, ha, hno⟩
      rw [← hu, (ha _).1, hno]
    · intro hno
      obtain ⟨shown, ho, hh⟩ := shown_of_newest (hf .boardActivity payload rfl) hu hnewest
      have hk : ∀ k, live.payload.get k = served.get k := fun k => hu ▸ ha hno k
      refine ⟨row, hr, served, hlisted.mem_boardPage ho (hh.trans hu.symm) (hu ▸ hs),
        fun k => ⟨hk k, hl ▸ hk k⟩, ?_⟩
      rw [← hk, hu, hno]
  · -- nothing is projected, and what is streamed names no source
    constructor
    · rintro ⟨_, -, _, -, ha, hno⟩
      have hi : live.payload.get "source_node_id" = none := by
        rw [hpa]
        exact get_of_unmerged hn (by decide)
      have hl' := (ha "source_node_id").1
      rw [hno] at hl'
      exact absurd (hl'.symm.trans hi) (by simp)
    · rintro ⟨merged, hm, -⟩
      rw [hn] at hm
      cases hm

/-! ## Two messages -/

lemma newest_of_only {calls : Nat → Call} (hk : e.dataKind = .boardActivity)
    (h : Accepted X (((gatewayStart X sources calls).runActions (machine instances)
      actions).threads t).hist e live)
    (he : (mergedPayloadObject e.payload ["board_message"]).isSome = true)
    (ho : (filed instances (gatewayStart X sources calls) actions).length = 1) :
    Newest (filed instances (gatewayStart X sources calls) actions) e live := by
  obtain ⟨sourceId, projection, row, hp, -, -, ha, hf⟩ := h.stored
  rcases boardProjection_cases hk hp with
    ⟨object, merged, payload, -, -, -, rfl⟩ | ⟨hno, -⟩
  · intro _ hr _
    obtain ⟨only, hl⟩ := List.length_eq_one_iff.1 ho
    have hm := hf .boardActivity payload rfl
    rw [hl, List.mem_singleton] at hr hm
    refine .inl ?_
    rw [hr, ← hm, ha, uiPayload]
    simp only [hk, if_true]
    rfl
  · rw [hno] at he
    cases he

namespace Named

def localQuery : BoardQuery := ⟨none, none, none, none, none, none, none, some "local"⟩

lemma listed_of_only {db : Db} (hv : ∀ x ∈ db.projectionRows.rows, db.visible x.2.sourceId = true)
    (ho : (trustedBoardMessages X (projectionValues db .boardActivity)).length = 1) :
    Listed X localQuery db e live := by
  obtain ⟨only, hl⟩ := List.length_eq_one_iff.1 ho
  refine ⟨fun shown hs => hv _ (Table.get?_eq_some.1 hs), fun own hm _ => ⟨rfl, ?_, ?_⟩⟩
  · intro other ho
    rw [hl, List.mem_singleton] at hm ho
    exact .inl (ho.trans hm.symm)
  · exact List.countP_le_length.trans (by rw [hl]; exact Nat.le_of_ble_eq_true rfl)

def calls (payload : Json) (_ : Nat) : Call :=
  .ingestNodeEvent (Forged.event .neverBeforeConfirmation payload)

def push : List (Action Env) := List.replicate 12 (.run 0 .ok)

def pushed (payload : Json) : GatewaySys :=
  (gatewayStart smallDeployment .empty (calls payload)).runActions (machine fun _ => 0) push

def hello : Json := .object [("content", .string "hello")]

def foreign : Json := .object [("content", .string "hello"), ("source_node_id", .string "other")]

def ingested : Proc Reply → Option Nat
  | .ret (.eventIngested cursor) => some cursor
  | _ => none

lemma accepted_of_pushed {payload : Json} {cursor : Nat}
    (h : ingested ((pushed payload).threads 0).prog = some cursor) :
    ∃ live, Accepted smallDeployment ((pushed payload).threads 0).hist
      (Forged.event .neverBeforeConfirmation payload).payload live := by
  have hr : ((pushed payload).threads 0).prog = .ret (.eventIngested cursor) := by
    unfold ingested at h
    split at h
    · rename_i hp
      cases h
      exact hp
    · cases h
  exact accepted_of_ingested (Sys.reaches_runActions _ _) rfl rfl hr

set_option maxRecDepth 100000

/-- A message that names no source is streamed as it is served. -/
theorem board_views_agree_iff_hello :
    ∃ live, Accepted smallDeployment ((pushed hello).threads 0).hist
        (Forged.event .neverBeforeConfirmation hello).payload live ∧
      ViewsAgree smallDeployment localQuery (pushed hello).world.db
        (Forged.event .neverBeforeConfirmation hello).payload live := by
  have hr : ingested ((pushed hello).threads 0).prog = some 1 ∧
      (filed (fun _ => 0) (gatewayStart smallDeployment .empty (calls hello)) push).length = 1 := by
    decide
  have hp : (∀ x ∈ (pushed hello).world.db.projectionRows.rows,
        (pushed hello).world.db.visible x.2.sourceId = true) ∧
      (trustedBoardMessages smallDeployment
        (projectionValues (pushed hello).world.db .boardActivity)).length = 1 := by
    decide
  obtain ⟨live, hl⟩ := accepted_of_pushed hr.1
  have hn := newest_of_only rfl hl rfl hr.2
  have hs : SignsItsNode (Forged.event .neverBeforeConfirmation hello).payload :=
    ⟨_, rfl, fun value h => by cases h⟩
  exact ⟨live, hl, (board_views_agree_iff smallDeployment .empty (calls hello) (fun _ => 0) push 0
    _ live rfl hl hn localQuery (listed_of_only hp.1 hp.2)).2 hs⟩

/-- One that names another node is streamed and replayed under that name, and served under the
node that signed it. -/
theorem foreign_source_streamed : ∃ live, Accepted smallDeployment ((pushed foreign).threads 0).hist
        (Forged.event .neverBeforeConfirmation foreign).payload live ∧
      Newest (filed (fun _ => 0) (gatewayStart smallDeployment .empty (calls foreign)) push)
        (Forged.event .neverBeforeConfirmation foreign).payload live ∧
      (boardPage smallDeployment localQuery (projectionValues (pushed foreign).world.db
        .boardActivity)).map (fun row => (row.get "source_node_id").bind Json.asStr) = [some "n"] ∧
      ¬ ViewsAgree smallDeployment localQuery (pushed foreign).world.db
        (Forged.event .neverBeforeConfirmation foreign).payload live := by
  have hr : ingested ((pushed foreign).threads 0).prog = some 1 ∧
      (filed (fun _ => 0) (gatewayStart smallDeployment .empty (calls foreign)) push).length = 1 ∧
      (((pushed foreign).world.db.uiEvents.get? "e").bind
        fun row => (row.payload.get "source_node_id").bind Json.asStr) = some "other" := by
    decide
  obtain ⟨live, hl⟩ := accepted_of_pushed hr.1
  refine ⟨live, hl, newest_of_only rfl hl rfl hr.2.1, by decide, ?_⟩
  rintro ⟨stored, hs, served, -, ha, hno⟩
  have he := hr.2.2
  have ho : (pushed foreign).world.db.uiEvents.get? "e" = some stored := hs
  have hsa : stored.payload.get "source_node_id" = some (.string "n") :=
    (ha "source_node_id").2.trans hno
  rw [ho, Option.bind_some, hsa] at he
  exact absurd he (by decide)

end Named

end WattGateway.Gateway

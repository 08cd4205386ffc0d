import WattGateway.Gateway.Footprints
import WattGateway.Gateway.ReadModels

/-!
# Two runs that agree

The marks of a submission are the rows that decide what it does: the one under its id, those of its
records in the space tables, and the numbers of the events of its node. Tables that agree at the
marks take it alike (`Received.agree`, `Ingested.agree`), and other marks stay as they are
(`Received.frame`, `Ingested.frame`; `Submitted.leaves` for one row). Cursors, times and outbox ids
decide nothing and are left out.
-/

namespace WattGateway.Gateway

open List Table Db

variable {sourceId : Option Nat} {item : SpaceItem} {X : Deployment} {items : List SpaceItem}
  {db' : Db} {e : SignedNodeEvent} {announceP2p : Bool} {target : Target}
  {s : SignedPublicClientSnapshot} {r : Except String (Option Nat)} {p : SignedSpacePresence}
  {key : String × String} {db : Db}

/-- What a submission may read or write, apart from projections, outbox and notes. -/
inductive Mark where
  | row (target : Target)
  /-- The numbers of the events of a node. -/
  | seqs (nodeId : String)
  deriving DecidableEq

def eventMarks (X : Deployment) (e : SignedNodeEvent) : List Mark :=
  .seqs e.payload.nodeId :: .row (.uiEvent e.payload.eventId) ::
    (spaceTarget X e).toList.map .row

def snapshotMarks (X : Deployment) (s : SignedPublicClientSnapshot) : List Mark :=
  .row (.snapshot s.payload.nodeId) ::
    ((spaceItems X s.payload s.signerAgentDid).flatMap (SpaceItem.targets X)).map .row

/-- The row apart from its cursor and the time it was stored at. -/
def UiEventRow.said (row : UiEventRow) : UiEventRow := { row with cursor := 0, ingestedAt := 0 }

/-- The numbers of the events that are stored for a node and a source. -/
def Db.seqs (db : Db) (nodeId : String) (sourceId : Option Nat) : List Int :=
  (db.uiEvents.select fun _ row => row.nodeId = nodeId ∧ row.sourceId = sourceId).filterMap
    fun row => row.2.sourceCursorOrSeq

structure Db.AgreeAt (P : Mark → Prop) (db db' : Db) : Prop where
  sources : db'.nodeSources = db.nodeSources
  snapshot : ∀ nodeId, P (.row (.snapshot nodeId)) →
    (db'.nodeSnapshots.get? nodeId).map SnapshotRow.generatedAt =
      (db.nodeSnapshots.get? nodeId).map SnapshotRow.generatedAt
  uiEvent : ∀ id, P (.row (.uiEvent id)) →
    (db'.uiEvents.get? id).map UiEventRow.said = (db.uiEvents.get? id).map UiEventRow.said
  presence : ∀ key, P (.row (.presence key)) →
    db'.spacePresence.get? key = db.spacePresence.get? key
  spaceEvent : ∀ key : String × String, P (.row (.spaceEvent (some key.1, some key.2))) →
    db'.spaceEvents.get? key = db.spaceEvents.get? key
  nodePresence : ∀ key, P (.row (.nodePresence key)) →
    db'.nodePresence.get? key = db.nodePresence.get? key
  seqs : ∀ nodeId, P (.seqs nodeId) → ∀ id row, row.nodeId = nodeId → row.sourceCursorOrSeq ≠ none →
    ((db'.uiEvents.get? id).map UiEventRow.said = some row ↔
      (db.uiEvents.get? id).map UiEventRow.said = some row)

variable {P : Mark → Prop}

namespace Db.AgreeAt

variable {db db' db₁ db₂ : Db}

lemma refl (P : Mark → Prop) (db : Db) : db.AgreeAt P db where
  sources := rfl
  snapshot _ _ := rfl
  uiEvent _ _ := rfl
  presence _ _ := rfl
  spaceEvent _ _ := rfl
  nodePresence _ _ := rfl
  seqs _ _ _ _ _ _ := Iff.rfl

lemma symm (h : db.AgreeAt P db') : db'.AgreeAt P db where
  sources := h.sources.symm
  snapshot nodeId hm := (h.snapshot nodeId hm).symm
  uiEvent id hm := (h.uiEvent id hm).symm
  presence key hm := (h.presence key hm).symm
  spaceEvent key hm := (h.spaceEvent key hm).symm
  nodePresence key hm := (h.nodePresence key hm).symm
  seqs nodeId hm id row hno hs := (h.seqs nodeId hm id row hno hs).symm

lemma trans (h : db.AgreeAt P db₁) (h' : db₁.AgreeAt P db₂) : db.AgreeAt P db₂ where
  sources := h'.sources.trans h.sources
  snapshot nodeId hm := (h'.snapshot nodeId hm).trans (h.snapshot nodeId hm)
  uiEvent id hm := (h'.uiEvent id hm).trans (h.uiEvent id hm)
  presence key hm := (h'.presence key hm).trans (h.presence key hm)
  spaceEvent key hm := (h'.spaceEvent key hm).trans (h.spaceEvent key hm)
  nodePresence key hm := (h'.nodePresence key hm).trans (h.nodePresence key hm)
  seqs nodeId hm id row hno hs :=
    (h'.seqs nodeId hm id row hno hs).trans (h.seqs nodeId hm id row hno hs)

/-! ### What is decided alike -/

section

variable (h : db.AgreeAt P db')
include h

lemma takesSnapshot {r : SnapshotRecord}
    (hm : P (.row (.snapshot r.nodeId))) : db'.takesSnapshot r = db.takesSnapshot r := by
  have ha : ∀ db : Db, db.takesSnapshot r =
      ((db.nodeSnapshots.get? r.nodeId).map SnapshotRow.generatedAt).all
        fun time => time ≤ normalizeGeneratedAtMillis r.generatedAt := by
    intro _
    rw [Option.all_map]
    rfl
  rw [ha, ha, h.snapshot r.nodeId hm]

lemma takesPresence
    (hm : P (.row (.presence (presenceKey p)))) : db'.takesPresence p = db.takesPresence p := by
  unfold Db.takesPresence
  rw [h.presence _ hm]

lemma takesNodePresence {p : NodePresence}
    (hm : P (.row (.nodePresence (p.nodeId, p.agentDid)))) :
    db'.takesNodePresence p = db.takesNodePresence p := by
  unfold Db.takesNodePresence
  rw [h.nodePresence _ hm]

lemma idTaken {id : String} (hm : P (.row (.uiEvent id))) :
    (db'.uiEvents.get? id).isSome = (db.uiEvents.get? id).isSome := by
  have hi := congrArg Option.isSome (h.uiEvent id hm)
  rw [Option.isSome_map, Option.isSome_map] at hi
  exact hi

end

variable {nodeId : String}

lemma mem_seqs {n : Int} : n ∈ db.seqs nodeId sourceId ↔
      ∃ id row, (db.uiEvents.get? id).map UiEventRow.said = some row ∧ row.nodeId = nodeId ∧
        row.sourceId = sourceId ∧ row.sourceCursorOrSeq = some n := by
  unfold Db.seqs
  rw [mem_filterMap]
  constructor
  · rintro ⟨⟨id, row⟩, hr, hn⟩
    obtain ⟨hg, hk⟩ := mem_select.1 hr
    obtain ⟨hno, hs⟩ := of_decide_eq_true hk
    exact ⟨id, row.said, by rw [hg]; rfl, hno, hs, hn⟩
  · rintro ⟨id, _, hg, hno, hs, hn⟩
    obtain ⟨row, hr, rfl⟩ := Option.map_eq_some_iff.1 hg
    exact ⟨(id, row), mem_select.2 ⟨hr, decide_eq_true ⟨hno, hs⟩⟩, hn⟩

section

variable (h : db.AgreeAt P db')
include h

lemma mem_seqs_iff (hm : P (.seqs nodeId)) (sourceId : Option Nat) (n : Int) :
    n ∈ db'.seqs nodeId sourceId ↔ n ∈ db.seqs nodeId sourceId := by
  rw [mem_seqs, mem_seqs]
  refine exists_congr fun id => exists_congr fun row => ?_
  refine and_congr_left fun ⟨hno, _, hn⟩ => h.seqs nodeId hm id row hno ?_
  rw [hn]
  exact Option.some_ne_none n

lemma maxUiEventSourceSeq (hm : P (.seqs nodeId)) (sourceId : Option Nat) :
    db'.maxUiEventSourceSeq nodeId sourceId = db.maxUiEventSourceSeq nodeId sourceId := by
  have he := h.mem_seqs_iff hm sourceId
  refine Option.ext fun n => ?_
  show (db'.seqs nodeId sourceId).max? = some n ↔ (db.seqs nodeId sourceId).max? = some n
  rw [max?_eq_some_iff, max?_eq_some_iff, he]
  exact and_congr_right fun _ => forall_congr' fun n' => by rw [he]

lemma sourceOf (e : SignedNodeEvent) : db'.sourceOf e = db.sourceOf e :=
  sourceOf_of_sources h.sources e

lemma gap (hm : P (.seqs e.payload.nodeId)) : db'.gap e = db.gap e := by
  unfold Db.gap
  rw [h.sourceOf, h.maxUiEventSourceSeq hm]

/-! ### Statements -/

lemma storeSnapshot (r : SnapshotRecord) (now now' : Nat) :
    (db.storeSnapshot r now).AgreeAt P (db'.storeSnapshot r now') := by
  refine { h with snapshot := fun nodeId hm => ?_ }
  unfold Db.storeSnapshot
  simp only [get?_upsert]
  split
  · rfl
  · exact h.snapshot nodeId hm

lemma storePresence (p : SignedSpacePresence) (nodeId : String) (sourceId : Option Nat) :
    (db.storePresence p nodeId sourceId).AgreeAt P (db'.storePresence p nodeId sourceId) := by
  refine { h with presence := fun key hm => ?_ }
  unfold Db.storePresence
  simp only [get?_upsert]
  split
  · rfl
  · exact h.presence key hm

lemma storeNodePresence (p : NodePresence) (sourceId : Option Nat) :
    (db.storeNodePresence p sourceId).AgreeAt P (db'.storeNodePresence p sourceId) := by
  refine { h with nodePresence := fun key hm => ?_ }
  unfold Db.storeNodePresence
  simp only [get?_upsert]
  split
  · rfl
  · exact h.nodePresence key hm

lemma storeWorldEvent (key : String × String) (world : WorldEvent)
    (payload : Json) (nodeId : String) (sourceId : Option Nat) :
    (db.storeWorldEvent key world payload nodeId sourceId).AgreeAt P
      (db'.storeWorldEvent key world payload nodeId sourceId) := by
  refine { h with spaceEvent := fun key' hm => ?_ }
  unfold Db.storeWorldEvent
  simp only [get?_upsert]
  split
  · rfl
  · exact h.spaceEvent key' hm

end

lemma said_storeUiEvent (db : Db) (r : UiEventRecord) (cursor now : Nat) (id : String) :
    ((db.storeUiEvent r cursor now).uiEvents.get? id).map UiEventRow.said =
      ((db.uiEvents.get? id).map UiEventRow.said).or
        (if id = r.eventId then some (r.row 0 0) else none) := by
  unfold storeUiEvent
  rw [get?_insertNew]
  cases db.uiEvents.get? id with
  | some => rfl
  | none =>
    simp only [Option.none_or, Option.map_none]
    split <;> rfl

lemma storeUiEvent (h : db.AgreeAt P db') {r : UiEventRecord}
    (hm : P (.row (.uiEvent r.eventId))) (cursor now cursor' now' : Nat) :
    (db.storeUiEvent r cursor now).AgreeAt P (db'.storeUiEvent r cursor' now') := by
  refine { h with uiEvent := fun id hi => ?_, seqs := fun nodeId hno id row hr hs => ?_ }
  · rw [said_storeUiEvent, said_storeUiEvent, h.uiEvent id hi]
  · rw [said_storeUiEvent, said_storeUiEvent]
    by_cases hi : id = r.eventId
    · subst hi
      rw [h.uiEvent _ hm]
    · rw [if_neg hi, Option.or_none, Option.or_none]
      exact h.seqs nodeId hno id row hr hs

end Db.AgreeAt

/-! ## Nothing changes elsewhere -/

section

variable (P : Mark → Prop) (db : Db)

lemma agree_enqueue (id : Nat) (outbox : Option OutboxRecord) :
    db.AgreeAt P (db.enqueue id outbox) := { Db.AgreeAt.refl P db with }

lemma agree_noted (audit : List AuditRecord) (status : Table Nat (String × Option String)) :
    db.AgreeAt P (db.noted audit status) := { Db.AgreeAt.refl P db with }

lemma agree_storeUiEvent (r : UiEventRecord) (cursor now cursor' now' : Nat) :
    (db.storeUiEvent r cursor now).AgreeAt P (db.storeUiEvent r cursor' now') := by
  refine { Db.AgreeAt.refl P db with uiEvent := fun id _ => ?_, seqs := fun _ _ id _ _ _ => ?_ }
  all_goals rw [Db.AgreeAt.said_storeUiEvent, Db.AgreeAt.said_storeUiEvent]

lemma agree_materialize (event : NodeEventPayload) (sourceId : Option Nat) (now : Nat)
    (projection : Option (DataKind × Json)) :
    db.AgreeAt P (db.materialize event sourceId now projection) := by
  cases projection with
  | none => exact .refl P db
  | some => exact { Db.AgreeAt.refl P db with }

variable {P}

lemma agree_of_projected {seeds : List ProjectionRecord} (h : Projected seeds db db') :
    db.AgreeAt P db' := by
  rw [h.others]
  exact { Db.AgreeAt.refl P db with }

lemma frame_storeSnapshot {r : SnapshotRecord} (hm : ¬ P (.row (.snapshot r.nodeId))) (now : Nat) :
    db.AgreeAt P (db.storeSnapshot r now) := by
  refine { Db.AgreeAt.refl P db with snapshot := fun nodeId hno => ?_ }
  unfold storeSnapshot
  rw [get?_upsert, if_neg]
  rintro rfl
  exact hm hno

lemma frame_storePresence (hm : ¬ P (.row (.presence (presenceKey p))))
    (nodeId : String) (sourceId : Option Nat) :
    db.AgreeAt P (db.storePresence p nodeId sourceId) := by
  refine { Db.AgreeAt.refl P db with presence := fun key hk => ?_ }
  unfold storePresence
  rw [get?_upsert, if_neg]
  rintro rfl
  exact hm hk

lemma frame_storeNodePresence {p : NodePresence}
    (hm : ¬ P (.row (.nodePresence (p.nodeId, p.agentDid)))) (sourceId : Option Nat) :
    db.AgreeAt P (db.storeNodePresence p sourceId) := by
  refine { Db.AgreeAt.refl P db with nodePresence := fun key hk => ?_ }
  unfold storeNodePresence
  rw [get?_upsert, if_neg]
  rintro rfl
  exact hm hk

lemma frame_storeWorldEvent
    (hm : ¬ P (.row (.spaceEvent (some key.1, some key.2)))) (world : WorldEvent) (payload : Json)
    (nodeId : String) (sourceId : Option Nat) :
    db.AgreeAt P (db.storeWorldEvent key world payload nodeId sourceId) := by
  refine { Db.AgreeAt.refl P db with spaceEvent := fun key' hk => ?_ }
  unfold storeWorldEvent
  rw [get?_upsert, if_neg]
  rintro rfl
  exact hm hk

lemma frame_storeUiEvent {r : UiEventRecord} (hm : ¬ P (.row (.uiEvent r.eventId)))
    (he : r.sourceCursorOrSeq ≠ none → ¬ P (.seqs r.nodeId)) (cursor now : Nat) :
    db.AgreeAt P (db.storeUiEvent r cursor now) := by
  refine { Db.AgreeAt.refl P db with
    uiEvent := fun id hi => ?_, seqs := fun nodeId hno id row ho hs => ?_ }
  · rw [Db.AgreeAt.said_storeUiEvent, if_neg, Option.or_none]
    rintro rfl
    exact hm hi
  · rw [Db.AgreeAt.said_storeUiEvent]
    by_cases hi : id = r.eventId
    · rw [if_pos hi]
      cases (db.uiEvents.get? id).map UiEventRow.said with
      | some => exact Iff.rfl
      | none =>
        refine ⟨fun hr => ?_, fun hr => nomatch hr⟩
        cases hr
        cases ho
        exact absurd hno (he hs)
    · rw [if_neg hi, Option.or_none]

end

/-! ## The records of a snapshot -/

section

variable {snapshot : PublicClientSnapshot} {signerAgentDid : String}
variable {db₁ db : Db} {payload : Json} {cursor now : Nat}

lemma spaceEvent_mem (hk : worldEventKey payload = some key) :
    Target.spaceEvent (some key.1, some key.2) ∈ (SpaceItem.worldEvent payload).targets X := by
  have hn := worldEventKey_eq_some hk
  simp only [SpaceItem.targets, hn]
  exact mem_cons_self

lemma uiEvent_mem {announcement : EventAnnouncementPayload}
    (ha : X.announcementOfValue payload = .ok announcement) :
    Target.uiEvent ("world-event:" ++ announcement.networkId ++ ":" ++ announcement.announcementId) ∈
      (SpaceItem.worldEvent payload).targets X := by
  simp only [SpaceItem.targets, ha]
  exact mem_cons_of_mem _ mem_cons_self

lemma store_agree {db' db₁' : Db} {cursor' now' : Nat}
    (ha : db.AgreeAt P db') (hm : ∀ target ∈ item.targets X, P (.row target))
    (h : item.store X sourceId snapshot signerAgentDid db cursor now = .ok db₁)
    (h' : item.store X sourceId snapshot signerAgentDid db' cursor' now' = .ok db₁') :
    db₁.AgreeAt P db₁' := by
  cases item with
  | presence p =>
    have hk := hm _ mem_cons_self
    have hi := hm _ (mem_cons_of_mem _ mem_cons_self)
    cases h
    cases h'
    rw [ha.takesPresence hk]
    split
    · exact (ha.storePresence p _ _).storeUiEvent hi _ _ _ _
    · exact ha
  | nodePresence p =>
    have hk := hm _ mem_cons_self
    have hi := hm _ (mem_cons_of_mem _ mem_cons_self)
    cases h
    cases h'
    rw [ha.takesNodePresence hk]
    split
    · exact (ha.storeNodePresence p _).storeUiEvent hi _ _ _ _
    · exact ha
  | worldEvent payload =>
    obtain ⟨world, key, hw, hk, hc⟩ := store_worldEvent h
    obtain ⟨_, _, hw', hk', hc'⟩ := store_worldEvent h'
    cases hw.symm.trans hw'
    cases hk.symm.trans hk'
    rw [ha.spaceEvent key (hm _ (spaceEvent_mem hk))] at hc'
    rcases hc with ⟨hold, rfl⟩ | ⟨hn, _, _, hann, ht, rfl⟩
    · rcases hc' with ⟨-, rfl⟩ | ⟨hn, -⟩
      · exact ha
      · cases hold.symm.trans hn
    · rcases hc' with ⟨hold, -⟩ | ⟨-, _, _, hann', ht', rfl⟩
      · cases hold.symm.trans hn
      · cases hann.symm.trans hann'
        cases ht.symm.trans ht'
        exact (ha.storeWorldEvent key world payload _ _).storeUiEvent
          (hm _ (uiEvent_mem hann)) _ _ _ _

lemma store_frame (hm : ∀ target ∈ item.targets X, ¬ P (.row target))
    (h : item.store X sourceId snapshot signerAgentDid db cursor now = .ok db₁) :
    db.AgreeAt P db₁ := by
  cases item with
  | presence =>
    have hk := hm _ mem_cons_self
    have hi := hm _ (mem_cons_of_mem _ mem_cons_self)
    cases h
    split
    · exact (frame_storePresence db hk _ _).trans
        (frame_storeUiEvent _ hi (fun hno => absurd rfl hno) _ _)
    · exact .refl P db
  | nodePresence =>
    have hk := hm _ mem_cons_self
    have hi := hm _ (mem_cons_of_mem _ mem_cons_self)
    cases h
    split
    · exact (frame_storeNodePresence db hk _).trans
        (frame_storeUiEvent _ hi (fun hno => absurd rfl hno) _ _)
    · exact .refl P db
  | worldEvent =>
    obtain ⟨_, _, -, hk, hc⟩ := store_worldEvent h
    rcases hc with ⟨-, rfl⟩ | ⟨-, _, _, ha, -, rfl⟩
    · exact .refl P _
    · exact (frame_storeWorldEvent db (hm _ (spaceEvent_mem hk)) _ _ _ _).trans
        (frame_storeUiEvent _ (hm _ (uiEvent_mem ha)) (fun hno => absurd rfl hno) _ _)

lemma SpaceStored.agree {db' db₁' : Db} (hag : db.AgreeAt P db')
    (hm : ∀ item ∈ items, ∀ target ∈ item.targets X, P (.row target))
    (h : SpaceStored X sourceId snapshot signerAgentDid items db db₁)
    (h' : SpaceStored X sourceId snapshot signerAgentDid items db' db₁') : db₁.AgreeAt P db₁' := by
  induction items generalizing db db' with
  | nil =>
    cases h
    cases h'
    exact hag
  | cons item _ ih =>
    obtain ⟨_, _, _, hs, hr⟩ := h
    obtain ⟨_, _, _, hs', hr'⟩ := h'
    have hit := store_agree hag (hm item mem_cons_self) hs hs'
    exact ih hit (fun item' hi => hm item' (mem_cons_of_mem item hi)) hr hr'

/-- What is stored in one of two tables that agree is stored in the other. -/
lemma store_ok_of_agree (ha : db.AgreeAt P db') (hm : ∀ target ∈ item.targets X, P (.row target))
    (h : item.store X sourceId snapshot signerAgentDid db cursor now = .ok db₁)
    (cursor' now' : Nat) :
    ∃ db₁', item.store X sourceId snapshot signerAgentDid db' cursor' now' = .ok db₁' := by
  cases item with
  | presence => exact ⟨_, rfl⟩
  | nodePresence => exact ⟨_, rfl⟩
  | worldEvent payload =>
    obtain ⟨_, key, hw, hk, hc⟩ := store_worldEvent h
    rw [← ha.spaceEvent key (hm _ (spaceEvent_mem hk))] at hc
    unfold SpaceItem.store
    rcases hc with ⟨hold, -⟩ | ⟨hn, _, _, hann, ht, -⟩
    · simp [hw, hk, hold, bind, Except.bind, orFail, pure, Except.pure]
    · simp [hw, hk, hn, hann, ht, bind, Except.bind, orFail, pure, Except.pure]

lemma SpaceStored.not_fails (hag : db.AgreeAt P db')
    (hm : ∀ item ∈ items, ∀ target ∈ item.targets X, P (.row target))
    (h : SpaceStored X sourceId snapshot signerAgentDid items db db₁) :
    ¬ SpaceFails X sourceId snapshot signerAgentDid items db' := by
  induction items generalizing db db' with
  | nil => exact id
  | cons item _ ih =>
    obtain ⟨_, _, _, hs, hr⟩ := h
    rintro ⟨cursor', now', hf⟩
    obtain ⟨_, hs'⟩ := store_ok_of_agree hag (hm item mem_cons_self) hs cursor' now'
    rw [hs'] at hf
    exact ih (store_agree hag (hm item mem_cons_self) hs hs')
      (fun item' hi => hm item' (mem_cons_of_mem item hi)) hr hf

lemma SpaceStored.frame (hm : ∀ item ∈ items, ∀ target ∈ item.targets X, ¬ P (.row target))
    (h : SpaceStored X sourceId snapshot signerAgentDid items db db₁) : db.AgreeAt P db₁ := by
  induction items generalizing db with
  | nil =>
    cases h
    exact .refl P _
  | cons item _ ih =>
    obtain ⟨_, _, _, hs, hr⟩ := h
    exact (store_frame (hm item mem_cons_self) hs).trans
      (ih (fun item' hi => hm item' (mem_cons_of_mem item hi)) hr)

end

/-! ## Snapshots -/

section

variable {expected : Option String}

lemma item_mem_marks (hi : item ∈ spaceItems X s.payload s.signerAgentDid)
    (ht : target ∈ item.targets X) : Mark.row target ∈ snapshotMarks X s := by
  refine mem_cons_of_mem _ (mem_map_of_mem ?_)
  exact mem_flatMap.2 ⟨item, hi, ht⟩

lemma agree_ingest {db db' : Db} (ha : db.AgreeAt P db') (now id now' id' : Nat) :
    (db.ingest X s sourceId announceP2p now id).AgreeAt P
      (db'.ingest X s sourceId announceP2p now' id') := by
  have hs := ha.storeSnapshot (snapshotRecord s sourceId) now now'
  exact ((agree_enqueue P _ id _).symm.trans hs).trans (agree_enqueue P _ id' _)

lemma frame_ingest (hm : ¬ P (.row (.snapshot s.payload.nodeId))) (now id : Nat) :
    db.AgreeAt P (db.ingest X s sourceId announceP2p now id) :=
  (frame_storeSnapshot db hm now).trans (agree_enqueue P _ id _)

variable {r : Except String Bool} {c₁ : Core}

lemma Ingested.refused_eq {e : String}
    (hv : verifySignedSnapshot X.toCrypto s expected = .error e) {c : Core}
    (h : Ingested X s sourceId expected announceP2p c r c₁) : c₁ = c := by
  cases h with
  | refused => rfl
  | stale hv' | spaceFailed hv' | applied hv' => cases hv.symm.trans hv'

/-- A snapshot that is not refused is taken alike by tables that agree at its marks. -/
lemma Ingested.agree {c c' c₁' : Core} {r' : Except String Bool}
    (hag : c.db.AgreeAt P c'.db)
    (hm : verifySignedSnapshot X.toCrypto s expected = .ok () → ∀ m ∈ snapshotMarks X s, P m)
    (h : Ingested X s sourceId expected announceP2p c r c₁)
    (h' : Ingested X s sourceId expected announceP2p c' r' c₁') : c₁.db.AgreeAt P c₁'.db := by
  cases hv : verifySignedSnapshot X.toCrypto s expected with
  | error =>
    rw [h.refused_eq hv, h'.refused_eq hv]
    exact hag
  | ok =>
    have hm := hm hv
    have ha : c'.db.takesSnapshot (snapshotRecord s sourceId) =
      c.db.takesSnapshot (snapshotRecord s sourceId) := hag.takesSnapshot (hm _ mem_cons_self)
    have hit : ∀ item ∈ spaceItems X s.payload s.signerAgentDid, ∀ target ∈ item.targets X,
        P (.row target) := fun item hi target ht => hm _ (item_mem_marks hi ht)
    cases h with
    | refused _ hv' => cases hv.symm.trans hv'
    | spaceFailed _ hne _ now id _ hf =>
      cases h' with
      | refused _ hv' => cases hv.symm.trans hv'
      | stale _ hs => cases (hs.symm.trans ha).trans hne
      | spaceFailed _ _ _ now' id' => exact agree_ingest hag now id now' id'
      | applied _ _ now' id' _ _ hsp =>
        exact absurd hf (hsp.not_fails (agree_ingest hag now id now' id').symm hit)
    | stale _ hs =>
      cases h' with
      | refused _ hv' => cases hv.symm.trans hv'
      | stale => exact hag
      | spaceFailed _ hne | applied _ hne => cases (hne.symm.trans ha).trans hs
    | applied _ hne now id db₁ _ hsp hp =>
      cases h' with
      | refused _ hv' => cases hv.symm.trans hv'
      | stale _ hs => cases (hs.symm.trans ha).trans hne
      | spaceFailed _ _ _ now' id' _ hf =>
        exact absurd hf (hsp.not_fails (agree_ingest hag now id now' id') hit)
      | applied _ _ now' id' db₁' _ hsp' hp' =>
        have hb := hsp.agree (agree_ingest hag now id now' id') hit hsp'
        exact ((agree_of_projected db₁ hp).symm.trans hb).trans
          (agree_of_projected db₁' hp')

lemma Ingested.frame {c : Core}
    (hm : verifySignedSnapshot X.toCrypto s expected = .ok () → ∀ m ∈ snapshotMarks X s, ¬ P m)
    (h : Ingested X s sourceId expected announceP2p c r c₁) : c.db.AgreeAt P c₁.db := by
  cases h with
  | refused => exact .refl P _
  | stale => exact .refl P _
  | spaceFailed hv _ _ now id => exact frame_ingest (hm hv _ mem_cons_self) now id
  | applied hv _ now id db₁ _ hs hp =>
    have hit := hs.frame (P := P) fun item hi target ht => hm hv _ (item_mem_marks hi ht)
    exact ((frame_ingest (hm hv _ mem_cons_self) now id).trans hit).trans
      (agree_of_projected db₁ hp)

end

/-! ## Events -/

instance (e : SignedNodeEvent) : Decidable (IsHeartbeat e) :=
  inferInstanceAs (Decidable (_ ∧ _))

def Db.takeHeartbeat (X : Deployment) (e : SignedNodeEvent) (sourceId : Option Nat) (db : Db) : Db :=
  match X.nodePresenceOfValue e.payload.payload with
  | .error _ => db
  | .ok presence =>
    if db.takesNodePresence presence then db.storeNodePresence presence sourceId else db

/-- The tables with a space event, if it is news and its id is free. -/
def Db.takeSpaceEvent (X : Deployment) (e : SignedNodeEvent) (sourceId : Option Nat) (db : Db) : Db :=
  match db.spaceRecord X e.payload sourceId with
  | .ok (some db₁) =>
    if (db.uiEvents.get? e.payload.eventId).isSome then db
    else db₁.storeUiEvent (spaceEventRecord e.payload sourceId) 0 0
  | _ => db

/-- The tables with an event that has been accepted, apart from projections, outbox and notes, and
with the cursor and the time left at 0. -/
def Db.takeEvent (X : Deployment) (e : SignedNodeEvent) (sourceId : Option Nat) (db : Db) : Db :=
  if e.payload.provisionalPolicy = .ephemeralOnly then
    if IsHeartbeat e then db.takeHeartbeat X e sourceId else db
  else if isSpaceEvent e then db.takeSpaceEvent X e sourceId
  else match trustedProjection X e.payload with
    | .error _ => db
    | .ok projection => db.storeUiEvent (uiEventRecord e.payload sourceId projection) 0 0

section

lemma uiEvents_spaceRecord {event : NodeEventPayload} {db₁ : Db}
    (h : db.spaceRecord X event sourceId = .ok (some db₁)) : db₁.uiEvents = db.uiEvents := by
  rw [spaceRecord_others h]

variable {c c' : Core}

lemma EventStored.takeEvent (h : EventStored X e sourceId announceP2p c r c') :
    (c.db.takeEvent X e sourceId).AgreeAt P c'.db := by
  unfold Db.takeEvent
  cases h with
  | ephemeral hp hk =>
    rw [if_pos hp, if_neg hk]
    exact .refl P _
  | heartbeatUnread hp hk err hr | heartbeat hp hk presence hr =>
    rw [if_pos hp, if_pos hk, Db.takeHeartbeat, hr]
    exact .refl P _
  | unprojected hp _ ht =>
    have hs : isSpaceEvent e = false := by
      by_contra hs
      have hno := trustedProjection_of_space (X := X) (Bool.not_eq_false _ ▸ hs)
      cases ht.symm.trans hno
    rw [if_neg hp, hs, ht]
    exact .refl P _
  | inserted hp hs projection ht _ cursor now now' id audit =>
    rw [if_neg hp, hs, ht]
    exact (((agree_storeUiEvent P c.db _ 0 0 cursor now).trans (agree_enqueue P _ id _)).trans
      (agree_noted P _ audit c.db.syncStatus)).trans (agree_materialize P _ _ _ now' projection)
  | duplicate hp hs projection ht _ hold now =>
    rw [if_neg hp, hs, ht]
    have ha : c.db.storeUiEvent (uiEventRecord e.payload sourceId projection) 0 0 = c.db := by
      unfold Db.storeUiEvent
      rw [insertNew_of_some (k := (uiEventRecord e.payload sourceId projection).eventId) hold]
    simp only [ha]
    exact agree_materialize P c.db _ _ now projection
  | spaceUnread hp hs err hr | spaceStale hp hs hr =>
    rw [if_neg hp, if_pos hs, Db.takeSpaceEvent, hr]
    exact .refl P _
  | spaceTaken hp hs _ hr _ hold =>
    rw [uiEvents_spaceRecord hr] at hold
    rw [if_neg hp, if_pos hs, Db.takeSpaceEvent, hr]
    simp only [hold, Option.isSome_some, if_true]
    exact .refl P _
  | spaceStored hp hs db₁ hr hn cursor now id =>
    rw [uiEvents_spaceRecord hr] at hn
    rw [if_neg hp, if_pos hs, Db.takeSpaceEvent, hr]
    simp only [hn, Option.isSome_none, Bool.false_eq_true, if_false]
    exact (agree_storeUiEvent P db₁ _ 0 0 cursor now).trans (agree_enqueue P _ id _)

lemma Db.AgreeAt.spaceRecord (sourceId : Option Nat) (ha : db.AgreeAt P db')
    (hm : ∀ target ∈ spaceTarget X e, P (.row target)) :
    (∃ db₁ db₁', db.spaceRecord X e.payload sourceId = .ok (some db₁) ∧
        db'.spaceRecord X e.payload sourceId = .ok (some db₁') ∧ db₁.AgreeAt P db₁') ∨
      (∀ db₁, db.spaceRecord X e.payload sourceId ≠ .ok (some db₁)) ∧
        ∀ db₁, db'.spaceRecord X e.payload sourceId ≠ .ok (some db₁) := by
  unfold spaceTarget at hm
  unfold Db.spaceRecord
  cases hi : e.payload.dataKind with
  | spacePresence =>
    rw [hi] at hm
    simp only at hm ⊢
    cases hr : X.presenceOfValue e.payload.payload with
    | error => exact .inr (by simp)
    | ok presence =>
      rw [hr] at hm
      simp only
      rw [ha.takesPresence (hm _ rfl)]
      cases db.takesPresence presence with
      | true => exact .inl ⟨_, _, rfl, rfl, ha.storePresence presence _ _⟩
      | false => exact .inr (by simp)
  | worldEvent =>
    rw [hi] at hm
    simp only at hm ⊢
    cases X.worldEventOfValue (e.payload.payload.index "content") with
    | error => exact .inr (by simp)
    | ok world =>
      cases hk : Db.worldEventKey e.payload.payload with
      | none => exact .inr (by simp)
      | some key =>
        rw [worldEventKey_eq_some hk] at hm
        simp only
        rw [ha.spaceEvent key (hm _ rfl)]
        cases (db.spaceEvents.get? key).isNone with
        | true => exact .inl ⟨_, _, rfl, rfl, ha.storeWorldEvent key world _ _ _⟩
        | false => exact .inr (by simp)
  | _ => exact .inr (by simp)

lemma frame_spaceRecord {db₁ : Db} (hm : ∀ target ∈ spaceTarget X e, ¬ P (.row target))
    (h : db.spaceRecord X e.payload sourceId = .ok (some db₁)) : db.AgreeAt P db₁ := by
  unfold spaceTarget at hm
  rcases spaceRecord_eq_some h with ⟨p, hi, hp, -, rfl⟩ | ⟨key, _, hi, hk, -, -, rfl⟩
  · simp only [hi, hp] at hm
    exact frame_storePresence db (hm _ rfl) _ _
  · simp only [hi, worldEventKey_eq_some hk] at hm
    exact frame_storeWorldEvent db (hm _ rfl) _ _ _ _

lemma spaceTarget_mem_marks (h : target ∈ spaceTarget X e) : Mark.row target ∈ eventMarks X e := by
  refine mem_cons_of_mem _ (mem_cons_of_mem _ (mem_map_of_mem ?_))
  exact Option.mem_toList.2 h

lemma id_mem_marks : Mark.row (.uiEvent e.payload.eventId) ∈ eventMarks X e :=
  mem_cons_of_mem _ mem_cons_self

lemma heartbeat_mem_marks (hk : IsHeartbeat e) {presence : NodePresence}
    (hr : X.nodePresenceOfValue e.payload.payload = .ok presence) :
    Mark.row (.nodePresence (presence.nodeId, presence.agentDid)) ∈ eventMarks X e := by
  refine spaceTarget_mem_marks ?_
  unfold spaceTarget
  rw [hk.1, hr]
  rfl

lemma Db.AgreeAt.takeEvent (ha : db.AgreeAt P db') (hm : ∀ m ∈ eventMarks X e, P m)
    (sourceId : Option Nat) :
    (db.takeEvent X e sourceId).AgreeAt P (db'.takeEvent X e sourceId) := by
  unfold Db.takeEvent
  split
  · split
    · rename_i hk
      unfold Db.takeHeartbeat
      cases hr : X.nodePresenceOfValue e.payload.payload with
      | error => exact ha
      | ok presence =>
        simp only
        rw [ha.takesNodePresence (hm _ (heartbeat_mem_marks hk hr))]
        split
        · exact ha.storeNodePresence presence sourceId
        · exact ha
    · exact ha
  · split
    · unfold Db.takeSpaceEvent
      rcases ha.spaceRecord sourceId fun target ht =>
        hm _ (spaceTarget_mem_marks ht) with ⟨_, _, hr, hr', ha₁⟩ | ⟨hn, _⟩
      · rw [hr, hr']
        simp only
        rw [ha.idTaken (hm _ id_mem_marks)]
        split
        · exact ha
        · exact ha₁.storeUiEvent (hm _ id_mem_marks) 0 0 0 0
      · split
        · exact absurd ‹_› (hn _)
        · exact ha
    · cases trustedProjection X e.payload with
      | error => exact ha
      | ok => exact ha.storeUiEvent (hm _ id_mem_marks) 0 0 0 0

lemma frame_takeEvent (hm : ∀ m ∈ eventMarks X e, ¬ P m) (sourceId : Option Nat) (db : Db) :
    db.AgreeAt P (db.takeEvent X e sourceId) := by
  have hi : ¬ P (.row (.uiEvent e.payload.eventId)) := hm _ id_mem_marks
  have hs : ¬ P (.seqs e.payload.nodeId) := hm _ mem_cons_self
  unfold takeEvent
  split
  · split
    · rename_i hk
      unfold takeHeartbeat
      cases hr : X.nodePresenceOfValue e.payload.payload with
      | error => exact .refl P db
      | ok =>
        simp only
        split
        · exact frame_storeNodePresence db (hm _ (heartbeat_mem_marks hk hr)) sourceId
        · exact .refl P db
    · exact .refl P db
  · split
    · unfold takeSpaceEvent
      split
      · rename_i db₁ hr
        split
        · exact .refl P db
        · exact (frame_spaceRecord (fun target ht => hm _ (spaceTarget_mem_marks ht)) hr).trans
            (frame_storeUiEvent db₁ hi (fun _ => hs) 0 0)
      · exact .refl P db
    · cases trustedProjection X e.payload with
      | error => exact .refl P db
      | ok => exact frame_storeUiEvent db hi (fun _ => hs) 0 0

variable {c₁ c₁' : Core}

variable {r' : Except String (Option Nat)}

lemma EventStored.agree (hag : c.db.AgreeAt P c'.db)
    (hm : ∀ m ∈ eventMarks X e, P m) (h : EventStored X e sourceId announceP2p c r c₁)
    (h' : EventStored X e sourceId announceP2p c' r' c₁') : c₁.db.AgreeAt P c₁'.db :=
  (h.takeEvent.symm.trans (hag.takeEvent hm sourceId)).trans h'.takeEvent

lemma EventStored.frame (hm : ∀ m ∈ eventMarks X e, ¬ P m)
    (h : EventStored X e sourceId announceP2p c r c₁) : c.db.AgreeAt P c₁.db :=
  (frame_takeEvent hm sourceId c.db).trans h.takeEvent

/-- A snapshot is served to both and its marks are among those that agree, or to the first only and
none of them is. -/
def ServedAlike (X : Deployment) (P : Mark → Prop) (o o' : Option SignedPublicClientSnapshot) : Prop :=
  o' = o ∧ (∀ s ∈ o, ∀ expected, verifySignedSnapshot X.toCrypto s expected = .ok () →
      ∀ m ∈ snapshotMarks X s, P m) ∨
    o' = none ∧ ∀ s ∈ o, ∀ expected, verifySignedSnapshot X.toCrypto s expected = .ok () →
      ∀ m ∈ snapshotMarks X s, ¬ P m

lemma Refreshed.agree (hag : c.db.AgreeAt P c'.db)
    (hse : P (.seqs e.payload.nodeId)) (hser : ∀ source, c.db.sourceOf e = some source →
      ServedAlike X P (c.remote (.signedSnapshot (.http (snapshotUrl source.2))))
        (c'.remote (.signedSnapshot (.http (snapshotUrl source.2))))) (h : Refreshed X e c c₁)
    (h' : Refreshed X e c' c₁') : c₁.db.AgreeAt P c₁'.db := by
  have hg : c'.db.gap e = c.db.gap e := hag.gap hse
  have ho : c'.db.sourceOf e = c.db.sourceOf e := hag.sourceOf e
  cases h with
  | complete ha =>
    cases h' with
    | complete => exact hag
    | unreachable ha' | fetched ha' => cases (ha'.symm.trans hg).trans ha
  | unreachable ha _ source hu he audit status =>
    cases h' with
    | complete ha' => cases (ha'.symm.trans hg).trans ha
    | unreachable _ _ _ _ _ audit' status' =>
      exact ((agree_noted P _ audit status).symm.trans hag).trans (agree_noted P _ audit' status')
    | fetched _ _ _ hu' _ he' =>
      -- what is not served to the first is not served to the second
      cases (hu'.symm.trans ho).trans hu
      have hno : c'.remote (.signedSnapshot (.http (snapshotUrl source))) = none := by
        rcases hser _ hu with ⟨hs, -⟩ | ⟨hno, -⟩
        · exact hs.trans he
        · exact hno
      cases hno.symm.trans he'
  | fetched ha _ _ hu s he _ _ hin audit status =>
    cases h' with
    | complete ha' => cases (ha'.symm.trans hg).trans ha
    | unreachable _ _ _ hu' he' audit' status' =>
      cases (hu'.symm.trans ho).trans hu
      rcases hser _ hu with ⟨hs, -⟩ | ⟨-, hf⟩
      · cases (he'.symm.trans hs).trans he
      · have hq := hin.frame fun hv => hf s he _ hv
        exact (((agree_noted P _ audit status).symm.trans hq.symm).trans hag).trans
          (agree_noted P _ audit' status')
    | fetched _ _ _ hu' _ he' _ _ hin' audit' status' =>
      cases (hu'.symm.trans ho).trans hu
      rcases hser _ hu with ⟨hs, hm⟩ | ⟨hno, -⟩
      · cases (he'.symm.trans hs).trans he
        have hb := hin.agree hag (fun hv => hm s he _ hv) hin'
        exact ((agree_noted P _ audit status).symm.trans hb).trans (agree_noted P _ audit' status')
      · cases he'.symm.trans hno

lemma Refreshed.frame (hse : ∀ source, c.db.sourceOf e = some source →
      ∀ s ∈ c.remote (.signedSnapshot (.http (snapshotUrl source.2))), ∀ expected,
        verifySignedSnapshot X.toCrypto s expected = .ok () → ∀ m ∈ snapshotMarks X s, ¬ P m)
    (h : Refreshed X e c c₁) : c.db.AgreeAt P c₁.db := by
  cases h with
  | complete => exact .refl P _
  | unreachable _ _ _ _ _ audit status => exact agree_noted P _ audit status
  | fetched _ _ _ hs s hf _ _ hin audit status =>
    exact (hin.frame fun hv => hse _ hs s hf _ hv).trans
      (agree_noted P _ audit status)

/-- An event that is not refused is taken alike by tables that agree at its marks. -/
lemma Received.agree (hag : c.db.AgreeAt P c'.db) (hm : Accepts X c.db e → ∀ m ∈ eventMarks X e, P m)
    (hse : Accepts X c.db e → ∀ source, c.db.sourceOf e = some source →
      ServedAlike X P (c.remote (.signedSnapshot (.http (snapshotUrl source.2))))
        (c'.remote (.signedSnapshot (.http (snapshotUrl source.2)))))
    (h : Received X e announceP2p c r c₁) (h' : Received X e announceP2p c' r' c₁') :
    c₁.db.AgreeAt P c₁'.db := by
  cases h with
  | refused _ hn =>
    cases h' with
    | refused => exact hag
    | taken ha => exact absurd (ha.congr hag.sources.symm) hn
  | taken ha _ hr _ _ hs =>
    cases h' with
    | refused _ hn => exact absurd (ha.congr hag.sources) hn
    | taken _ _ hr' _ _ hs' =>
      have hb := hr.agree hag (hm ha _ mem_cons_self)
        (hse ha) hr'
      rw [hag.sourceOf e] at hs'
      exact hs.agree hb (hm ha) hs'

lemma Received.frame (hm : Accepts X c.db e → ∀ m ∈ eventMarks X e, ¬ P m)
    (hse : Accepts X c.db e → ∀ source, c.db.sourceOf e = some source →
      ∀ s ∈ c.remote (.signedSnapshot (.http (snapshotUrl source.2))), ∀ expected,
        verifySignedSnapshot X.toCrypto s expected = .ok () → ∀ m ∈ snapshotMarks X s, ¬ P m)
    (h : Received X e announceP2p c r c₁) : c.db.AgreeAt P c₁.db := by
  cases h with
  | refused => exact .refl P _
  | taken ha _ hr _ _ hs =>
    exact (hr.frame (hse ha)).trans (hs.frame (hm ha))

end

/-! ## One row -/

section

variable {c c₁ : Core}

lemma mem_snapshotTargets (h : .row target ∈ snapshotMarks X s) : target ∈ snapshotTargets X s := by
  unfold snapshotMarks at h
  unfold snapshotTargets
  simp only [mem_cons, mem_map, Mark.row.injEq, exists_eq_right] at h ⊢
  exact h.imp_right Or.inr

lemma EventStored.leaves (hta : target ∉ eventTargets X e)
    (h : EventStored X e sourceId announceP2p c r c₁) : c.db.AgreeAt (· = .row target) c₁.db := by
  refine h.frame fun m hm he => hta ?_
  subst he
  unfold eventMarks at hm
  unfold eventTargets
  simp only [mem_cons, mem_map, Mark.row.injEq, exists_eq_right, reduceCtorEq, false_or] at hm ⊢
  exact hm.imp_right Or.inr

lemma Refreshed.leaves (hta : ∀ url s, c.remote (.signedSnapshot (.http url)) = some s →
      target ∉ snapshotTargets X s)
    (h : Refreshed X e c c₁) : c.db.AgreeAt (· = .row target) c₁.db :=
  h.frame fun _ _ s hs _ _ _ hm he => hta _ s hs (mem_snapshotTargets (he ▸ hm))

/-- A row that a submission and what it makes the gateway fetch do not go into stays. -/
lemma Submitted.leaves {submit : Submit} (hsub : target ∉ submit.targets X)
    (hfe : ∀ url s, c.remote (.signedSnapshot (.http url)) = some s →
      target ∉ snapshotTargets X s) (h : Submitted X c c₁ submit) :
    c.db.AgreeAt (· = .row target) c₁.db := by
  cases submit with
  | snapshot =>
    obtain ⟨r, h⟩ := h
    exact h.frame fun _ _ hm he => hsub (mem_snapshotTargets (he ▸ hm))
  | event =>
    obtain ⟨_, h⟩ := h
    cases h with
    | refused => exact .refl _ _
    | taken _ _ hr _ _ hs =>
      exact (hr.leaves hfe).trans (hs.leaves hsub)

lemma Db.AgreeAt.uiEvent_eq {db db' : Db} (h : db.AgreeAt P db')
    (hg : db.Grows db') {id : String} (hm : P (.row (.uiEvent id))) :
    db'.uiEvents.get? id = db.uiEvents.get? id := by
  have ht := h.idTaken hm
  cases hr : db.uiEvents.get? id with
  | some row => exact hg.uiEvents id row hr
  | none =>
    rw [hr] at ht
    exact Option.isNone_iff_eq_none.1 (Option.isSome_eq_false_iff.1 ht)

end

end WattGateway.Gateway

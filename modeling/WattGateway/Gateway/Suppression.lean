import WattGateway.Gateway.Relays

/-!
# Events and other signers

Ids of events, keys of presences and announcements, and node ids are shared by all signers, and
whoever is first takes one (`id_taken_by_another`). That is the only way in which signers meet: if
nothing a key has signed has a mark in common with the rest, the events and records of the others
are the same with and without it (`others_do_not_suppress`).
-/

namespace WattGateway.Gateway

open List Option World

variable {e : SignedNodeEvent} {X : Deployment} {s : SignedPublicClientSnapshot} {key : String}
  {expected : Option String} {db : Db} {P : Mark → Prop}

section

variable {C : Crypto}

lemma verifySignedSnapshot_none
    (h : verifySignedSnapshot C s expected = .ok ()) : verifySignedSnapshot C s none = .ok () := by
  unfold verifySignedSnapshot checkExpectedSigner at h ⊢
  simp only [bind_eq_ok] at h ⊢
  obtain ⟨key, hk, _, hno, _, hp, _, -, rest⟩ := h
  exact ⟨key, hk, _, hno, _, hp, (), trivial, rest⟩

lemma verifySignedNodeEvent_none
    (h : verifySignedNodeEvent C e expected = .ok ()) : verifySignedNodeEvent C e none = .ok () := by
  unfold verifySignedNodeEvent checkExpectedSigner at h ⊢
  simp only [bind_eq_ok] at h ⊢
  obtain ⟨key, hk, _, hi, _, hno, _, hp, _, hki, _, -, rest⟩ := h
  exact ⟨key, hk, _, hi, _, hno, _, hp, _, hki, (), trivial, rest⟩

end

/-! ## Who has signed what -/

section

variable (C : Crypto)

def eventSigner (e : SignedNodeEvent) : Option String :=
  if (verifySignedNodeEvent C e none).isOk then some e.payload.publicKey else none

def snapshotSigner (s : SignedPublicClientSnapshot) : Option String :=
  if (verifySignedSnapshot C s none).isOk then some s.payload.publicKey else none

def Submit.signer : Submit → Option String
  | .event e _ => eventSigner C e
  | .snapshot s _ _ _ => snapshotSigner C s

/-- The answers without the snapshots that the key has signed. -/
def Remote.without (key : String) (remote : Remote) : Remote
  | .signedSnapshot endpoint => (remote (.signedSnapshot endpoint)).filter fun s =>
      snapshotSigner C s ≠ some key
  | f => remote f

/-- The run without the events and snapshots that the key has signed. -/
def without (key : String) (turns : List Turn) : List Turn :=
  (turns.filter fun turn => turn.submit.signer C ≠ some key).map fun turn =>
    { turn with remote := turn.remote.without C key }

end

section

variable {C : Crypto}

lemma snapshotSigner_of_verified (h : verifySignedSnapshot C s expected = .ok ()) :
    snapshotSigner C s = some s.payload.publicKey := by
  unfold snapshotSigner
  rw [verifySignedSnapshot_none h]
  rfl

lemma eventSigner_of_accepts
    (h : Accepts X db e) : eventSigner X.toCrypto e = some e.payload.publicKey := by
  unfold eventSigner
  rw [verifySignedNodeEvent_none h.2.1]
  rfl

end

/-! ## Marks of a run -/

section

variable (X : Deployment) (sources : Sources)

/-- What the source of an event serves, for the case that there is a gap in front of the event. -/
def Turn.served (turn : Turn) : Option SignedPublicClientSnapshot :=
  match turn.submit with
  | .event e _ => ((Db.start sources).sourceOf e).bind fun source =>
      turn.remote (.signedSnapshot (.http (snapshotUrl source.2)))
  | .snapshot _ _ _ _ => none

def Submit.marks : Submit → List Mark
  | .event e _ => eventMarks X e
  | .snapshot s _ _ _ => snapshotMarks X s

/-- The mark belongs to the key: to something it has signed, or to a snapshot that is fetched for an
event it has signed. -/
def Turn.MarkOf (key : String) (m : Mark) (turn : Turn) : Prop :=
  turn.submit.signer X.toCrypto = some key ∧ m ∈ turn.submit.marks X ∨
    ∃ s signer, turn.served sources = some s ∧ snapshotSigner X.toCrypto s = some signer ∧
      (signer = key ∨ turn.submit.signer X.toCrypto = some key) ∧ m ∈ snapshotMarks X s

def Turn.MarkOfOther (key : String) (m : Mark) (turn : Turn) : Prop :=
  ∃ other, other ≠ key ∧ turn.submit.signer X.toCrypto = some other ∧ (m ∈ turn.submit.marks X ∨
      ∃ s signer, turn.served sources = some s ∧ snapshotSigner X.toCrypto s = some signer ∧
        signer ≠ key ∧ m ∈ snapshotMarks X s)

def Apart (key : String) (turns : List Turn) : Prop :=
  ∀ m, (∃ turn ∈ turns, turn.MarkOf X sources key m) →
    ¬ ∃ turn ∈ turns, turn.MarkOfOther X sources key m

/-! ## Rows of an event -/

/-- The record that an event goes into `gateway_ui_events` as. -/
def ownRecord (e : SignedNodeEvent) (sourceId : Option Nat) : Except String UiEventRecord :=
  if isSpaceEvent e then .ok (spaceEventRecord e.payload sourceId)
  else (trustedProjection X e.payload).map (uiEventRecord e.payload sourceId)

def OwnRow (db : Db) (e : SignedNodeEvent) : Prop :=
  ∃ r row, ownRecord X e ((db.sourceOf e).map Prod.fst) = .ok r ∧
    db.uiEvents.get? e.payload.eventId = some row ∧ row.said = r.row 0 0

def OwnSpaceRecord (db : Db) (e : SignedNodeEvent) : Prop :=
  match e.payload.dataKind with
  | .spacePresence => ∃ presence row, X.presenceOfValue e.payload.payload = .ok presence ∧
      db.spacePresence.get? (presenceKey presence) = some row ∧
      row = ⟨presence.record.seq, e.payload.nodeId, (db.sourceOf e).map Prod.fst, presence⟩
  | .worldEvent => ∃ world key row,
      X.worldEventOfValue (e.payload.payload.index "content") = .ok world ∧
      Db.worldEventKey e.payload.payload = some key ∧ db.spaceEvents.get? key = some row ∧
      row = ⟨world.spaceId, world.placeId, e.payload.nodeId, (db.sourceOf e).map Prod.fst,
        e.payload.payload⟩
  | _ => False

end

section

variable {db db' : Db}

section

variable (h : db.AgreeAt P db') (hm : ∀ m ∈ eventMarks X e, P m)
include h hm

lemma Db.AgreeAt.ownRow (ho : OwnRow X db e) : OwnRow X db' e := by
  obtain ⟨r, _, hr, hw, ha⟩ := ho
  have hs := h.uiEvent _ (hm _ id_mem_marks)
  rw [hw] at hs
  obtain ⟨row', hw', ha'⟩ := map_eq_some_iff.1 hs
  rw [← h.sourceOf e] at hr
  exact ⟨r, row', hr, hw', ha'.trans ha⟩

lemma Db.AgreeAt.ownSpaceRecord (ho : OwnSpaceRecord X db e) : OwnSpaceRecord X db' e := by
  have ha : ∀ target ∈ spaceTarget X e, P (.row target) :=
    fun target ht => hm _ (spaceTarget_mem_marks ht)
  unfold spaceTarget at ha
  unfold OwnSpaceRecord at ho ⊢
  rw [h.sourceOf e]
  split at ho
  · rename_i hi
    obtain ⟨presence, row, he, hr, heq⟩ := ho
    simp only [hi, he] at ha
    refine ⟨presence, row, he, ?_, heq⟩
    rw [h.presence _ (ha _ rfl)]
    exact hr
  · rename_i hi
    obtain ⟨world, key, row, hw, hk, hr, heq⟩ := ho
    simp only [hi, worldEventKey_eq_some hk] at ha
    refine ⟨world, key, row, hw, hk, ?_, heq⟩
    rw [h.spaceEvent key (ha _ rfl)]
    exact hr
  · exact ho

end

end

/-! ## The two runs -/

section

variable {sources : Sources} {w w' : World} {turn : Turn}

lemma served_eq (hs : db.nodeSources = sources)
    {source : Nat × NodeSourceRow} (ho : db.sourceOf e = some source) (inst elapsed : Nat)
    (remote : Remote) (announceP2p : Bool) :
    Turn.served sources ⟨inst, elapsed, remote, .event e announceP2p⟩ =
      remote (.signedSnapshot (.http (snapshotUrl source.2))) := by
  have ht : (Db.start sources).sourceOf e = some source :=
    (sourceOf_of_sources hs.symm e).trans ho
  simp only [Turn.served, ht, bind_some]

lemma frame_turn (ha : w.Alone) (ho : w.db.nodeSources = sources)
    (hk : turn.submit.signer X.toCrypto = some key)
    (hm : ∀ m, turn.MarkOf X sources key m → ¬ P m) : w.db.AgreeAt P (w.turn X turn).db := by
  obtain ⟨-, c, hu, hc⟩ := turn_submitted (X := X) ha turn
  have hd : (w.turn X turn).db = c.db := congrArg Core.db hc
  rw [hd]
  obtain ⟨inst, elapsed, remote, submit⟩ := turn
  cases submit with
  | snapshot =>
    obtain ⟨r, hin⟩ := hu
    exact hin.frame fun _ m he => hm m (Or.inl ⟨hk, he⟩)
  | event _ announceP2p =>
    obtain ⟨_, hr⟩ := hu
    refine hr.frame (fun _ m he => hm m (Or.inl ⟨hk, he⟩)) ?_
    intro _ _ hso s hs _ hv m he
    have hse := (served_eq ho hso inst elapsed remote announceP2p).trans hs
    exact hm m (Or.inr ⟨s, _, hse, snapshotSigner_of_verified hv, .inr hk, he⟩)

lemma servedAlike_without (key : String) {o : Option SignedPublicClientSnapshot}
    (hf : ∀ s ∈ o, snapshotSigner X.toCrypto s = some key → ∀ m ∈ snapshotMarks X s, ¬ P m)
    (ha : ∀ s ∈ o, ∀ signer, snapshotSigner X.toCrypto s = some signer → signer ≠ key →
      ∀ m ∈ snapshotMarks X s, P m) :
    ServedAlike X P o (o.filter fun s => snapshotSigner X.toCrypto s ≠ some key) := by
  cases o with
  | none => exact .inl ⟨rfl, fun s hs => nomatch hs⟩
  | some s =>
    by_cases hi : snapshotSigner X.toCrypto s = some key
    · refine .inr ⟨filter_eq_none_iff.2 fun s' hs' => ?_, fun s' hs' _ _ => ?_⟩
      · cases hs'
        simpa using hi
      · cases hs'
        exact hf s rfl hi
    · refine .inl ⟨filter_some_pos (decide_eq_true hi), fun s' hs' expected hv => ?_⟩
      cases hs'
      have he := snapshotSigner_of_verified hv
      exact ha s rfl _ he fun heq => hi (heq ▸ he)

lemma agree_turn (ha : w.Alone) (ha' : w'.Alone)
    (hu : w.db.nodeSources = sources) (hg : w.db.AgreeAt P w'.db)
    (hk : turn.submit.signer X.toCrypto ≠ some key)
    (hm : ∀ m, turn.MarkOf X sources key m → ¬ P m)
    (hm' : ∀ m, turn.MarkOfOther X sources key m → P m) : (w.turn X turn).db.AgreeAt P
      (w'.turn X { turn with remote := turn.remote.without X.toCrypto key }).db := by
  obtain ⟨-, c, hb, hco⟩ := turn_submitted (X := X) ha turn
  obtain ⟨-, c', hb', hco'⟩ := turn_submitted (X := X) ha'
    { turn with remote := turn.remote.without X.toCrypto key }
  have hd : (w.turn X turn).db = c.db := congrArg Core.db hco
  have hd' := congrArg Core.db hco'
  rw [hd, show (World.turn X w' _).db = c'.db from hd']
  obtain ⟨inst, elapsed, remote, submit⟩ := turn
  cases submit with
  | snapshot =>
    obtain ⟨r, hin⟩ := hb
    obtain ⟨r', hin'⟩ := hb'
    refine hin.agree hg (fun hv m he => ?_) hin'
    have hi := snapshotSigner_of_verified hv
    exact hm' m ⟨_, fun heq => hk (heq ▸ hi), hi, .inl he⟩
  | event e announceP2p =>
    obtain ⟨_, hr⟩ := hb
    obtain ⟨_, hr'⟩ := hb'
    have ho : Accepts X w.db e → e.payload.publicKey ≠ key ∧
        eventSigner X.toCrypto e = some e.payload.publicKey := by
      intro hc
      have hi := eventSigner_of_accepts hc
      exact ⟨fun heq => hk (heq ▸ hi), hi⟩
    refine hr.agree hg (fun hc m he => ?_) ?_ hr'
    · obtain ⟨hne, hi⟩ := ho hc
      exact hm' m ⟨_, hne, hi, .inl he⟩
    · intro hc _ hso
      obtain ⟨hne, hi⟩ := ho hc
      have hse := served_eq hu hso inst elapsed remote announceP2p
      refine servedAlike_without key (fun s hs hs' m he => ?_)
        fun s hs signer hs' hne' m he => ?_
      · exact hm m (Or.inr ⟨s, key, hse.trans hs, hs', .inl rfl, he⟩)
      · exact hm' m ⟨_, hne, hi, .inr ⟨s, signer, hse.trans hs, hs', hne', he⟩⟩

lemma agree_without (turns : List Turn) (ha : w.Alone) (ha' : w'.Alone)
    (hs : w.db.nodeSources = sources) (hg : w.db.AgreeAt P w'.db)
    (hm : ∀ turn ∈ turns, ∀ m, turn.MarkOf X sources key m → ¬ P m)
    (hm' : ∀ turn ∈ turns, ∀ m, turn.MarkOfOther X sources key m → P m) :
    (w.turns X turns).db.AgreeAt P (w'.turns X (without X.toCrypto key turns)).db := by
  induction turns generalizing w w' with
  | nil => exact hg
  | cons turn turns ih =>
    have hr := fun turn' he => hm turn' (mem_cons_of_mem turn he)
    have hr' := fun turn' he => hm' turn' (mem_cons_of_mem turn he)
    have hl := (turn_submitted (X := X) ha turn).1
    have hke : (w.turn X turn).db.nodeSources = sources := (turn_grows ha turn).sources.trans hs
    by_cases hk : turn.submit.signer X.toCrypto = some key
    · have hsk : without X.toCrypto key (turn :: turns) = without X.toCrypto key turns := by
        unfold without
        rw [filter_cons_of_neg]
        simpa using hk
      have hq := frame_turn ha hs hk (hm turn mem_cons_self)
      rw [hsk]
      exact ih hl ha' hke (hq.symm.trans hg) hr hr'
    · have hb := agree_turn ha ha' hs hg hk (hm turn mem_cons_self)
        (hm' turn mem_cons_self)
      have ht : without X.toCrypto key (turn :: turns) =
          { turn with remote := turn.remote.without X.toCrypto key } ::
            without X.toCrypto key turns := by
        unfold without
        rw [filter_cons_of_pos]
        · rfl
        · simpa using hk
      rw [ht]
      exact ih hl (turn_submitted (X := X) ha' _).1 hke hb hr hr'

end

/-- Whatever a key has signed, or is fetched for its events, may be left out of a run: if it has no
mark in common with what others have signed, the events of the others leave the same rows, and their
space records are the same. -/
theorem others_do_not_suppress (X : Deployment) (sources : Sources)
    (turns : List Turn) (keyA keyB : String) (hne : keyA ≠ keyB) (hapart : Apart X sources keyB turns)
    (turn : Turn) (hturn : turn ∈ turns) (e : SignedNodeEvent) (announceP2p : Bool)
    (hsubmit : turn.submit = .event e announceP2p)
    (hsigner : eventSigner X.toCrypto e = some keyA) :
    let db := ((start sources).turns X turns).db
    let db' := ((start sources).turns X (without X.toCrypto keyB turns)).db
    (OwnRow X db e ↔ OwnRow X db' e) ∧ (OwnSpaceRecord X db e ↔ OwnSpaceRecord X db' e) := by
  intro db db'
  have ha : db.AgreeAt (fun m => ¬ ∃ turn ∈ turns, turn.MarkOf X sources keyB m) db' := by
    refine agree_without turns (alone_start _) (alone_start _) rfl (.refl _ _) ?_ ?_
    · intro turn he m hma hn
      exact hn ⟨turn, he, hma⟩
    · intro turn he m hma ho
      exact hapart m ho ⟨turn, he, hma⟩
  have hr : ∀ m ∈ eventMarks X e, ¬ ∃ turn ∈ turns, turn.MarkOf X sources keyB m := by
    intro m hm ho
    refine hapart m ho ⟨turn, hturn, keyA, hne, ?_, .inl ?_⟩
    · rw [hsubmit]
      exact hsigner
    · rw [hsubmit]
      exact hm
  exact ⟨⟨ha.ownRow hr, ha.symm.ownRow hr⟩, ha.ownSpaceRecord hr, ha.symm.ownSpaceRecord hr⟩

/-! ### An id that another key takes -/

lemma OwnRow.signer (h : OwnRow X db e) :
    (db.uiEvents.get? e.payload.eventId).map UiEventRow.signerAgentDid =
      some e.payload.signerAgentDid := by
  obtain ⟨r, row, hr, ho, hs⟩ := h
  have hi : r.signerAgentDid = e.payload.signerAgentDid := by
    unfold ownRecord at hr
    split at hr
    · cases hr
      rfl
    · cases ht : trustedProjection X e.payload with
      | error =>
        rw [ht] at hr
        cases hr
      | ok =>
        rw [ht] at hr
        cases hr
        rfl
  have ho' : row.signerAgentDid = r.signerAgentDid := congrArg UiEventRow.signerAgentDid hs
  rw [ho, map_some, ho', hi]

namespace Squatting

open Relay
open OneAgent (deployment event push presence)

def squatter (eventId : String) : SignedNodeEvent where
  payload :=
    { (event eventId "m" "mission" .missionLifecycle .neverBeforeConfirmation .null).payload with
      publicKey := "k2", signerAgentDid := "k2" }
  signature := "s2"

def mission : SignedNodeEvent :=
  event "e2" "n" "mission" .missionLifecycle .neverBeforeConfirmation .null

def squatted : List Turn := [push (squatter "e1"), push (squatter "e2"), push own, push mission]

def spared : List Turn := [push (squatter "e3"), push own, push mission]

def signerOf (turns : List Turn) (id : String) : Option String :=
  (((start .empty).turns deployment turns).db.uiEvents.get? id).map UiEventRow.signerAgentDid

def present (turns : List Turn) : Bool :=
  (((start .empty).turns deployment turns).db.spacePresence.get?
    (presenceKey (presence "park" 1 true))).isSome

lemma not_ownSpaceRecord {turns : List Turn} (h : present turns = false) :
    ¬ OwnSpaceRecord deployment ((start .empty).turns deployment turns).db own := by
  rintro ⟨_, row, he, hr, -⟩
  cases he
  have hs : present turns = true := isSome_iff_exists.2 ⟨row, hr⟩
  cases h.symm.trans hs

lemma markOf_push {m : Mark} (h : (push e).MarkOf deployment .empty key m) :
    eventSigner deployment.toCrypto e = some key ∧ m ∈ eventMarks deployment e := by
  rcases h with h | ⟨_, _, hs, -⟩
  · exact h
  · cases hs

lemma markOfOther_push {m : Mark} (h : (push e).MarkOfOther deployment .empty key m) :
    eventSigner deployment.toCrypto e ≠ some key ∧ m ∈ eventMarks deployment e := by
  obtain ⟨_, hne, hs, hm | ⟨_, _, he, -⟩⟩ := h
  · refine ⟨fun hk => hne ?_, hm⟩
    exact Option.some.inj (hs.symm.trans hk)
  · cases he

set_option maxRecDepth 100000

lemma apart_spared : Apart deployment .empty "k2" spared := by
  have ht : ∀ turn ∈ spared, turn = push (squatter "e3") ∨ turn = push own ∨
      turn = push mission := by
    intro turn hu
    simpa [spared] using hu
  have ha : ∀ m ∈ eventMarks deployment (squatter "e3"),
      m ∉ eventMarks deployment own ∧ m ∉ eventMarks deployment mission := by decide
  rintro m ⟨turn, hu, ho⟩ ⟨turn', hu', hot⟩
  have hm : m ∈ eventMarks deployment (squatter "e3") := by
    rcases ht turn hu with rfl | rfl | rfl
    · exact (markOf_push ho).2
    · exact absurd (markOf_push ho).1 (by decide +kernel)
    · exact absurd (markOf_push ho).1 (by decide +kernel)
  rcases ht turn' hu' with rfl | rfl | rfl
  · exact absurd (show eventSigner deployment.toCrypto (squatter "e3") = some "k2" by decide)
      (markOfOther_push hot).1
  · exact (ha m hm).1 (markOfOther_push hot).2
  · exact (ha m hm).2 (markOfOther_push hot).2

end Squatting

open OneAgent (deployment) in
open Relay Squatting in
/-- A key takes the ids of two events of another key: neither of them has a row, and the presence that
one of them tells of is not there. In the run without the key both have their rows. -/
theorem id_taken_by_another :
    let db := ((start .empty).turns deployment squatted).db
    (¬ OwnRow deployment db own ∧ ¬ OwnSpaceRecord deployment db own ∧
      ¬ OwnRow deployment db mission) ∧
    signerOf (without deployment.toCrypto "k2" squatted) "e1" = some own.payload.signerAgentDid ∧
    present (without deployment.toCrypto "k2" squatted) = true ∧
    signerOf (without deployment.toCrypto "k2" squatted) "e2" = some mission.payload.signerAgentDid := by
  have ht : signerOf squatted "e1" = some "k2" ∧ signerOf squatted "e2" = some "k2" := by
    decide +kernel
  refine ⟨⟨fun h => ?_, not_ownSpaceRecord (by decide +kernel), fun h => ?_⟩, by decide +kernel,
    by decide +kernel, by decide +kernel⟩
  · exact absurd (h.signer.symm.trans ht.1) (by decide)
  · exact absurd (h.signer.symm.trans ht.2) (by decide)

open OneAgent (deployment) in
open Relay Squatting in
theorem others_do_not_suppress_spared :
    let db := ((start .empty).turns deployment spared).db
    let db' := ((start .empty).turns deployment (without deployment.toCrypto "k2" spared)).db
    signerOf spared "e1" = some own.payload.signerAgentDid ∧ present spared = true ∧
    (OwnRow deployment db own ↔ OwnRow deployment db' own) ∧
      (OwnSpaceRecord deployment db own ↔ OwnSpaceRecord deployment db' own) :=
  ⟨by decide +kernel, by decide +kernel,
    others_do_not_suppress deployment .empty spared "k1" "k2" (by decide) apart_spared
      (OneAgent.push own) (mem_cons_of_mem _ mem_cons_self) own true rfl (by decide +kernel)⟩

end WattGateway.Gateway

import WattGateway.Gateway.Verify
import WattGateway.Lib.Table

/-!
# The gateway registry

`register_gateway` checks a manifest under the key that the manifest itself names, and
`upsert_gateway_manifest` replaces every manifest column of an entry but keeps its status: another
key can take over an approved entry (`taken_over`). As long as approved entries are replaced under
their own key only, they are the reviewed ones, or signed by the reviewed key
(`approved_is_reviewed`). The time of a manifest is not looked at: an entry has the manifest that was
registered last (`newest_manifest_iff`).
-/

namespace WattGateway.Gateway.Registry

open Table Function

/-! ## `gateway_registry_entries` -/

inductive Status where
  | pending
  | approved
  | rejected
  | suspended
  deriving DecidableEq

inductive DiscoveryTier where
  | official
  | verified
  | community
  | manual
  deriving DecidableEq

structure Entry where
  displayName : String
  baseUrl : String
  publicKey : String
  region : Option String
  operatorDid : Option String
  roles : List String
  supportedEndpoints : List String
  federationPeers : List String
  allowsPublicIngest : Bool
  manifestPayload : GatewayManifest
  manifestSignature : String
  status : Status
  discoveryTier : DiscoveryTier
  reviewReason : Option String
  reviewedAt : Option Nat
  reviewedBy : Option String
  createdAt : Nat
  updatedAt : Nat
  deriving DecidableEq

abbrev Entries := Table String Entry

def Entry.ofManifest (now : Nat) (manifest : SignedGatewayManifest) : Entry where
  displayName := manifest.payload.displayName
  baseUrl := manifest.payload.baseUrl
  publicKey := manifest.payload.publicKey
  region := manifest.payload.region
  operatorDid := manifest.payload.operatorDid
  roles := manifest.payload.roles
  supportedEndpoints := manifest.payload.supportedEndpoints
  federationPeers := manifest.payload.federationPeers
  allowsPublicIngest := manifest.payload.allowsPublicIngest
  manifestPayload := manifest.payload
  manifestSignature := manifest.signature
  status := .pending
  discoveryTier := .community
  reviewReason := none
  reviewedAt := none
  reviewedBy := none
  createdAt := now
  updatedAt := now

/-- `on conflict (gateway_id) do update`: the columns of the review and `created_at` stay. -/
def Entry.replacedBy (now : Nat) (manifest : SignedGatewayManifest) (e : Entry) : Entry :=
  { Entry.ofManifest now manifest with
    status := e.status
    discoveryTier := e.discoveryTier
    reviewReason := e.reviewReason
    reviewedAt := e.reviewedAt
    reviewedBy := e.reviewedBy
    createdAt := e.createdAt }

def Entry.upserted (now : Nat) (manifest : SignedGatewayManifest) : Option Entry → Entry
  | none => Entry.ofManifest now manifest
  | some e => e.replacedBy now manifest

/-- `base_url` is unique: another entry has the manifest's. -/
def baseUrlTaken (manifest : SignedGatewayManifest) (entries : Entries) : Bool :=
  !(entries.select fun id e =>
    id ≠ manifest.payload.gatewayId && e.baseUrl = manifest.payload.baseUrl).isEmpty

def upsertGatewayManifest (now : Nat) (manifest : SignedGatewayManifest) (entries : Entries) :
    Except String (Entry × Entries) := do
  failIf (baseUrlTaken manifest entries)
    "duplicate key value violates unique constraint \"gateway_registry_entries_base_url_key\""
  let entries := entries.upsert manifest.payload.gatewayId (Entry.upserted now manifest)
  let entry ← orFail "registered gateway entry missing after upsert"
    (entries.get? manifest.payload.gatewayId)
  return (entry, entries)

def Entry.reviewedAs (now : Nat) (status : Status) (discoveryTier : DiscoveryTier)
    (reason reviewedBy : Option String) (e : Entry) : Entry :=
  { e with
    status := status
    discoveryTier := discoveryTier
    reviewReason := reason
    reviewedBy := reviewedBy
    reviewedAt := some now
    updatedAt := now }

def reviewGatewayManifest (now : Nat) (gatewayId : String) (status : Status)
    (discoveryTier : DiscoveryTier) (reason reviewedBy : Option String) (entries : Entries) :
    Option Entry × Entries :=
  let entries := entries.update (fun id _ => id = gatewayId)
    (Entry.reviewedAs now status discoveryTier reason reviewedBy)
  (entries.get? gatewayId, entries)

/-! ## The handlers -/

inductive StatusCode where
  | badRequest
  | unauthorized
  | forbidden
  | notFound
  deriving DecidableEq

inductive Response where
  | registered (gatewayId : String) (status : Status) (discoveryTier : DiscoveryTier)
  | reviewed (gatewayId : String) (entry : Entry)
  | error (code : StatusCode) (text : String)
  deriving DecidableEq

def Response.isRegistered : Response → Bool
  | .registered _ _ _ => true
  | _ => false

structure ReviewGatewayRequest where
  status : String
  discoveryTier : Option String
  reason : Option String
  reviewedBy : Option String
  deriving DecidableEq

/-- The requests that write. A review carries its `authorization` header, whose value may be no
text. -/
inductive Request where
  | register (now : Nat) (manifest : SignedGatewayManifest)
  | review (now : Nat) (authorization : Option (Option String)) (gatewayId : String)
      (body : ReviewGatewayRequest)

def registerGateway (C : Crypto) (now : Nat) (manifest : SignedGatewayManifest)
    (entries : Entries) : Response × Entries :=
  match verifySignedGatewayManifest C manifest with
  | .error e => (.error .badRequest e, entries)
  | .ok _ =>
    match upsertGatewayManifest now manifest entries with
    | .error e => (.error .badRequest e, entries)
    | .ok (entry, entries) =>
      (.registered manifest.payload.gatewayId entry.status entry.discoveryTier, entries)

/-- The answer to a request that is not the administrator's. -/
def authorizeRegistryAdmin (adminToken : Option String) (authorization : Option (Option String)) :
    Option Response :=
  match adminToken, authorization with
  | none, _ => some (.error .forbidden "registry admin token is not configured")
  | some _, none => some (.error .unauthorized "missing authorization header")
  | some _, some none => some (.error .unauthorized "invalid authorization header")
  | some expected, some (some value) =>
    if value = "Bearer " ++ expected ∨ value = "bearer " ++ expected then none
    else some (.error .forbidden "invalid registry admin token")

def normalizedGatewayRegistryStatus (status : String) : Except String Status :=
  if status = "pending" then .ok .pending
  else if status = "approved" then .ok .approved
  else if status = "rejected" then .ok .rejected
  else if status = "suspended" then .ok .suspended
  else .error "unsupported status; expected pending, approved, rejected, or suspended"

def normalizedGatewayDiscoveryTier (discoveryTier : Option String) : Except String DiscoveryTier :=
  let tier := discoveryTier.getD "community"
  if tier = "official" then .ok .official
  else if tier = "verified" then .ok .verified
  else if tier = "community" then .ok .community
  else if tier = "manual" then .ok .manual
  else .error "unsupported discovery_tier; expected official, verified, community, or manual"

def reviewGateway (adminToken : Option String) (now : Nat) (authorization : Option (Option String))
    (gatewayId : String) (body : ReviewGatewayRequest) (entries : Entries) : Response × Entries :=
  match authorizeRegistryAdmin adminToken authorization with
  | some response => (response, entries)
  | none =>
    match normalizedGatewayRegistryStatus body.status with
    | .error e => (.error .badRequest e, entries)
    | .ok status =>
      match normalizedGatewayDiscoveryTier body.discoveryTier with
      | .error e => (.error .badRequest e, entries)
      | .ok tier =>
        match reviewGatewayManifest now gatewayId status tier body.reason body.reviewedBy
            entries with
        | (some entry, entries) => (.reviewed gatewayId entry, entries)
        | (none, entries) => (.error .notFound "gateway not found", entries)

section Runs

variable (C : Crypto) (adminToken : Option String)

def handle (entries : Entries) : Request → Response × Entries
  | .register now manifest => registerGateway C now manifest entries
  | .review now authorization gatewayId body =>
    reviewGateway adminToken now authorization gatewayId body entries

/-! ## Runs -/

/-- The table, and for each entry the row that the last approving review approved. -/
structure State where
  entries : Entries
  approved : String → Option Entry

/-- The rows approved last, after an answer. -/
def approvals (approved : String → Option Entry) : Response → String → Option Entry
  | .reviewed gatewayId entry =>
    if entry.status = .approved then update approved gatewayId (some entry) else approved
  | _ => approved

def State.step (s : State) (r : Request) : State :=
  let (response, entries) := handle C adminToken s.entries r
  ⟨entries, approvals s.approved response⟩

/-- The states of the runs from an empty table whose requests meet a condition. -/
inductive Reaches (cond : State → Request → Prop) : State → Prop
  | start : Reaches cond ⟨.empty, fun _ => none⟩
  | step {s : State} (r : Request) (h : Reaches cond s) (hc : cond s r) :
      Reaches cond (s.step C adminToken r)

/-- Every approved entry has the key and the URL that were approved last, or its manifest is signed
by the key that was. -/
def Reviewed (s : State) : Prop :=
  ∀ id e, s.entries.get? id = some e → e.status = .approved → ∃ a, s.approved id = some a ∧
      (e.publicKey = a.publicKey ∧ e.baseUrl = a.baseUrl ∨
        Verifies C (.manifest e.manifestPayload) e.manifestSignature a.publicKey)

/-- A manifest that is registered for an approved entry carries the entry's key. -/
def KeepsKey (s : State) : Request → Prop
  | .register _ manifest => ∀ e, s.entries.get? manifest.payload.gatewayId = some e →
      e.status = .approved → manifest.payload.publicKey = e.publicKey
  | .review _ _ _ _ => True

variable {C adminToken}

/-! ## What a request does -/

/-- A registration leaves the table, or the manifest verifies and takes the columns of its entry. -/
lemma registerGateway_cases (now : Nat) (manifest : SignedGatewayManifest) (entries : Entries) :
    ((registerGateway C now manifest entries).1.isRegistered = false ∧
        (registerGateway C now manifest entries).2 = entries) ∨
      (registerGateway C now manifest entries).1.isRegistered = true ∧
        Verifies C (.manifest manifest.payload) manifest.signature manifest.payload.publicKey ∧
        ∀ id, (registerGateway C now manifest entries).2.get? id =
          if id = manifest.payload.gatewayId then
            some (Entry.upserted now manifest (entries.get? manifest.payload.gatewayId))
          else entries.get? id := by
  unfold registerGateway
  split
  · exact .inl ⟨rfl, rfl⟩
  · rename_i hv
    split
    · exact .inl ⟨rfl, rfl⟩
    · rename_i entry entries' hu
      unfold upsertGatewayManifest at hu
      obtain ⟨-, -, hu⟩ := bind_eq_ok.1 hu
      obtain ⟨_, -, hu⟩ := bind_eq_ok.1 hu
      cases hu
      refine .inr ⟨rfl, verifies_of_manifest hv, fun id => ?_⟩
      rw [get?_upsert]

lemma approvals_register (now : Nat) (manifest : SignedGatewayManifest) (entries : Entries)
    (approved : String → Option Entry) :
    approvals approved (registerGateway C now manifest entries).1 = approved := by
  unfold registerGateway
  split
  · rfl
  · split <;> rfl

lemma approvals_reviewed (approved : String → Option Entry) (gatewayId id : String) (e : Entry) :
    approvals approved (.reviewed gatewayId e) id =
      if e.status = .approved ∧ id = gatewayId then some e else approved id := by
  show (if e.status = .approved then update approved gatewayId (some e) else approved) id = _
  by_cases hs : e.status = .approved
  · by_cases hi : id = gatewayId
    · subst hi
      rw [if_pos hs, if_pos ⟨hs, rfl⟩, update_self]
    · rw [if_pos hs, if_neg fun h => hi h.2, update_of_ne hi]
  · rw [if_neg hs, if_neg fun h => hs h.1]

variable (adminToken) in
/-- A review changes nothing, or sets the columns of the review in the entry it answers with. -/
lemma reviewGateway_cases (now : Nat) (authorization : Option (Option String))
    (gatewayId : String) (body : ReviewGatewayRequest) (entries : Entries) :
    ((∀ id, (reviewGateway adminToken now authorization gatewayId body entries).2.get? id =
          entries.get? id) ∧ ∀ approved, approvals approved
          (reviewGateway adminToken now authorization gatewayId body entries).1 = approved) ∨
      ∃ status tier e, entries.get? gatewayId = some e ∧
        (reviewGateway adminToken now authorization gatewayId body entries).1 =
          .reviewed gatewayId (e.reviewedAs now status tier body.reason body.reviewedBy) ∧
        ∀ id, (reviewGateway adminToken now authorization gatewayId body entries).2.get? id =
          if id = gatewayId then
            some (e.reviewedAs now status tier body.reason body.reviewedBy)
          else entries.get? id := by
  unfold reviewGateway
  split
  · rename_i response hr
    refine .inl ⟨fun _ => rfl, fun approved => ?_⟩
    unfold authorizeRegistryAdmin at hr
    split at hr
    · cases hr; rfl
    · cases hr; rfl
    · cases hr; rfl
    · split at hr
      · cases hr
      · cases hr; rfl
  · split
    · exact .inl ⟨fun _ => rfl, fun _ => rfl⟩
    · rename_i status _
      split
      · exact .inl ⟨fun _ => rfl, fun _ => rfl⟩
      · rename_i tier _
        unfold reviewGatewayManifest
        cases he : entries.get? gatewayId with
        | none =>
          refine .inl ⟨fun id => ?_, fun approved => ?_⟩
          · simp only [get?_update, he]
            by_cases hi : id = gatewayId
            · simp [hi, he]
            · simp [hi]
          · simp only [get?_update, he]
            rfl
        | some e =>
          refine .inr ⟨status, tier, e, rfl, ?_, fun id => ?_⟩
          · simp [get?_update, he]
          · simp only [get?_update, he]
            by_cases hi : id = gatewayId
            · simp [hi, he]
            · simp [hi]

/-! ## Approved entries -/

/-- An approved entry has the key that was approved, and the URL unless its manifest is signed by
that key. -/
def ApprovedKey (C : Crypto) (s : State) (id : String) (e : Entry) : Prop :=
  ∃ a, s.approved id = some a ∧ e.publicKey = a.publicKey ∧ (e.baseUrl = a.baseUrl ∨
      Verifies C (.manifest e.manifestPayload) e.manifestSignature a.publicKey)

lemma approvedKey_of_reaches {s : State} (h : Reaches C adminToken KeepsKey s) :
    ∀ id e, s.entries.get? id = some e → e.status = .approved → ApprovedKey C s id e := by
  induction h with
  | start =>
    intro id e he
    cases he
  | @step s r _ hc ih =>
    intro id e he hs
    cases r with
    | register now manifest =>
      have hp : (s.step C adminToken (.register now manifest)).approved = s.approved :=
        approvals_register now manifest s.entries s.approved
      unfold ApprovedKey
      rw [hp]
      rcases registerGateway_cases now manifest s.entries with ⟨-, hsa⟩ | ⟨-, hv, hg⟩
      · exact ih id e (hsa ▸ he) hs
      · replace he := (hg id).symm.trans he
        by_cases hi : id = manifest.payload.gatewayId
        · subst hi
          rw [if_pos rfl] at he
          cases hold : s.entries.get? manifest.payload.gatewayId with
          | none =>
            rw [hold] at he
            cases he
            cases hs
          | some e₀ =>
            rw [hold] at he
            cases he
            -- the manifest carries the key of the approved entry, and is signed by it
            obtain ⟨a, ha, hk, -⟩ := ih _ e₀ hold hs
            have hsa : manifest.payload.publicKey = a.publicKey :=
              (hc e₀ hold hs).trans hk
            exact ⟨a, ha, hsa, .inr (hsa ▸ hv)⟩
        · rw [if_neg hi] at he
          exact ih id e he hs
    | review now authorization gatewayId body =>
      rcases reviewGateway_cases adminToken now authorization gatewayId body s.entries with
        ⟨hg, hp⟩ | ⟨status, tier, e₀, _, hre, hg⟩
      · unfold ApprovedKey
        rw [show (s.step C adminToken (.review now authorization gatewayId body)).approved =
          s.approved from hp s.approved]
        exact ih id e ((hg id).symm.trans he) hs
      · have hp : (s.step C adminToken (.review now authorization gatewayId body)).approved =
            approvals s.approved (.reviewed gatewayId
              (e₀.reviewedAs now status tier body.reason body.reviewedBy)) :=
          congrArg (approvals s.approved) hre
        unfold ApprovedKey
        rw [hp]
        replace he := (hg id).symm.trans he
        by_cases hi : id = gatewayId
        · subst hi
          rw [if_pos rfl] at he
          cases he
          refine ⟨_, ?_, rfl, .inl rfl⟩
          rw [approvals_reviewed, if_pos ⟨hs, rfl⟩]
        · rw [if_neg hi] at he
          obtain ⟨a, ha, hr⟩ := ih id e he hs
          refine ⟨a, ?_, hr⟩
          rw [approvals_reviewed, if_neg fun h => hi h.2, ha]

end Runs

/-- In every run in which an approved entry is replaced by manifests with its own key only, every
approved entry has the key and the URL of the manifest that the last approving review found, or its
manifest is signed by that manifest's key. -/
theorem approved_is_reviewed (C : Crypto) (adminToken : Option String) (s : State)
    (h : Reaches C adminToken KeepsKey s) : Reviewed C s := by
  intro id e he hs
  obtain ⟨a, ha, hk, hu | hv⟩ := approvedKey_of_reaches h id e he hs
  · exact ⟨a, ha, .inl ⟨hk, hu⟩⟩
  · exact ⟨a, ha, .inr hv⟩

/-! ## The manifest of an entry -/

/-- The manifest columns of the entry are those of the manifest: it would change none. -/
def Entry.Holds (manifest : SignedGatewayManifest) (e : Entry) : Prop :=
  e.replacedBy e.updatedAt manifest = e

def State.Holds (id : String) (manifest : SignedGatewayManifest) (s : State) : Prop :=
  ∃ e, s.entries.get? id = some e ∧ e.Holds manifest

section Manifests

variable (C : Crypto) (adminToken : Option String) (id : String)

def registeredBy (s : State) : Request → Option SignedGatewayManifest
  | .register now manifest =>
    if manifest.payload.gatewayId = id ∧ (registerGateway C now manifest s.entries).1.isRegistered
    then some manifest else none
  | .review _ _ _ _ => none

def registeredIn : State → List Request → List SignedGatewayManifest
  | _, [] => []
  | s, r :: requests =>
    (registeredBy C id s r).toList ++ registeredIn (s.step C adminToken r) requests

variable {C adminToken id} {s : State} {m : SignedGatewayManifest}

lemma Entry.Holds.eq {e : Entry} {m' : SignedGatewayManifest} (h : e.Holds m) (h' : e.Holds m') :
    m = m' := by
  have hp := (congrArg Entry.manifestPayload h).trans (congrArg Entry.manifestPayload h').symm
  have hs :=
    (congrArg Entry.manifestSignature h).trans (congrArg Entry.manifestSignature h').symm
  cases m
  cases m'
  exact congrArg₂ SignedGatewayManifest.mk hp hs

lemma holds_of_registered {r : Request} (h : registeredBy C id s r = some m) :
    (s.step C adminToken r).Holds id m := by
  cases r with
  | review => cases h
  | register now manifest =>
    obtain ⟨⟨hi, hr⟩, hm⟩ := Option.ite_none_right_eq_some.1 h
    cases hm
    rcases registerGateway_cases (C := C) now m s.entries with ⟨he, -⟩ | ⟨-, -, hg⟩
    · rw [he] at hr
      cases hr
    · refine ⟨_, (hg id).trans (if_pos hi.symm), ?_⟩
      cases s.entries.get? m.payload.gatewayId <;> rfl

lemma State.Holds.step {r : Request} (h : s.Holds id m) (hr : registeredBy C id s r = none) :
    (s.step C adminToken r).Holds id m := by
  obtain ⟨e, he, hh⟩ := h
  cases r with
  | register now manifest =>
    rcases registerGateway_cases (C := C) now manifest s.entries with ⟨-, hs⟩ | ⟨hok, -, hg⟩
    · exact ⟨e, (congrArg (Table.get? · id) hs).trans he, hh⟩
    · by_cases hi : manifest.payload.gatewayId = id
      · rw [registeredBy, if_pos ⟨hi, hok⟩] at hr
        cases hr
      · exact ⟨e, (hg id).trans ((if_neg fun h => hi h.symm).trans he), hh⟩
  | review now authorization gatewayId body =>
    rcases reviewGateway_cases adminToken now authorization gatewayId body s.entries with
      ⟨hg, -⟩ | ⟨status, tier, e₀, he₀, -, hg⟩
    · exact ⟨e, (hg id).trans he, hh⟩
    · by_cases hi : id = gatewayId
      · subst hi
        cases he.symm.trans he₀
        refine ⟨_, (hg id).trans (if_pos rfl), ?_⟩
        exact congrArg (Entry.reviewedAs now status tier body.reason body.reviewedBy) hh
      · exact ⟨e, (hg id).trans ((if_neg hi).trans he), hh⟩

lemma holds_last (requests : List Request)
    (h : (registeredIn C adminToken id s requests).getLast? = some m ∨
      registeredIn C adminToken id s requests = [] ∧ s.Holds id m) :
    (requests.foldl (State.step C adminToken) s).Holds id m := by
  induction requests generalizing s with
  | nil =>
    rcases h with h | h
    · cases h
    · exact h.2
  | cons r requests ih =>
    rw [registeredIn] at h
    refine ih ?_
    cases hr : registeredBy C id s r with
    | none =>
      rw [hr] at h
      exact h.imp_right fun h => ⟨h.1, h.2.step hr⟩
    | some m' =>
      rw [hr] at h
      rcases h with h | ⟨h, -⟩
      · cases he : registeredIn C adminToken id (s.step C adminToken r) requests with
        | nil =>
          rw [he] at h
          cases h
          exact .inr ⟨rfl, holds_of_registered hr⟩
        | cons => exact .inl (he ▸ he ▸ h)
      · cases h

end Manifests

/-- A manifest among others that are all older. -/
def Newest (m : SignedGatewayManifest) (ms : List SignedGatewayManifest) : Prop :=
  m ∈ ms ∧ ∀ m' ∈ ms, m' ≠ m → m'.payload.generatedAt < m.payload.generatedAt

/-- After a run, the entry of a gateway has the newest of the manifests that were registered for it
just if that is the one that was registered last. -/
theorem newest_manifest_iff (C : Crypto) (adminToken : Option String) (id : String) (s : State)
    (requests : List Request) :
    let registered := registeredIn C adminToken id s requests
    (∀ m, Newest m registered → (requests.foldl (State.step C adminToken) s).Holds id m) ↔
      ∀ m, Newest m registered → registered.getLast? = some m := by
  refine forall₂_congr fun m hm => ⟨fun h => ?_, fun h => holds_last requests (.inl h)⟩
  obtain ⟨last, hl⟩ := Option.ne_none_iff_exists'.1
    (mt List.getLast?_eq_none_iff.1 (List.ne_nil_of_mem hm.1))
  obtain ⟨e, he, hh⟩ := h
  obtain ⟨e', he', hh'⟩ := holds_last requests (.inl hl)
  cases he.symm.trans he'
  rw [hh.eq hh']
  exact hl

/-! ## Two registrations for one gateway -/

namespace Takeover

def manifest (baseUrl key signature : String) : SignedGatewayManifest :=
  ⟨⟨0, "gw", "Gateway", baseUrl, key, none, none, ["query"], [], [], true⟩, signature⟩

def begun : State := ⟨.empty, fun _ => none⟩

def approved : State :=
  (begun.step twoKeys (some "token") (.register 1 (manifest "https://gw.example" "k1" "s1"))).step
    twoKeys (some "token")
    (.review 2 (some (some "Bearer token")) "gw" ⟨"approved", some "verified", none, none⟩)

def taken : State :=
  approved.step twoKeys (some "token") (.register 3 (manifest "https://other.example" "k2" "s2"))

def moved : State :=
  approved.step twoKeys (some "token") (.register 3 (manifest "https://moved.example" "k1" "s1"))

def dated (generatedAt : Int) : SignedGatewayManifest :=
  let old := manifest "https://gw.example" "k1" "s1"
  { old with payload := { old.payload with generatedAt } }

lemma approved_reaches {cond : State → Request → Prop} (h : ∀ s r, s.entries.rows = [] → cond s r)
    (h' : ∀ s now he id body, cond s (.review now he id body)) :
    Reaches twoKeys (some "token") cond approved :=
  .step _ (.step _ .start (h _ _ rfl)) (h' _ _ _ _ _)

end Takeover

set_option maxRecDepth 100000

open Takeover in
/-- The approved entry has a key and a URL that nobody reviewed, and no signature of the reviewed
key. -/
theorem taken_over :
    Reaches twoKeys (some "token") (fun _ _ => True) taken ∧ ¬ Reviewed twoKeys taken := by
  refine ⟨.step _ (approved_reaches (fun _ _ _ => trivial) fun _ _ _ _ _ => trivial) trivial, ?_⟩
  intro h
  have he : taken.entries.get? "gw" = some
      ((Entry.ofManifest 1 (manifest "https://gw.example" "k1" "s1")).reviewedAs 2 .approved
        .verified none none |>.replacedBy 3 (manifest "https://other.example" "k2" "s2")) := by
    decide
  have hp : taken.approved "gw" = some
      ((Entry.ofManifest 1 (manifest "https://gw.example" "k1" "s1")).reviewedAs 2 .approved
        .verified none none) := by
    decide
  obtain ⟨_, ha, hs | hv⟩ := h "gw" _ he rfl
  · rw [hp] at ha
    cases ha
    exact absurd hs.1 (by decide)
  · rw [hp] at ha
    cases ha
    exact not_verifies_s2 _ hv

open Takeover in
theorem approved_is_reviewed_moved :
    (moved.entries.get? "gw").map Entry.baseUrl = some "https://moved.example" ∧
      (moved.entries.get? "gw").map Entry.status = some .approved ∧ Reviewed twoKeys moved := by
  refine ⟨by decide, by decide,
    approved_is_reviewed twoKeys (some "token") moved (.step _ (approved_reaches ?_ ?_) ?_)⟩
  · intro _ r hs
    cases r with
    | register =>
      intro e he
      rw [get?_eq_some, hs] at he
      cases he
    | review => trivial
  · exact fun _ _ _ _ _ => trivial
  · intro e he _
    have hk : (approved.entries.get? "gw").map Entry.publicKey = some "k1" := by decide
    rw [show approved.entries.get? "gw" = some e from he] at hk
    exact (Option.some.inj hk).symm

open Takeover in
/-- A manifest that is submitted again replaces the newer one. -/
theorem old_manifest_returns :
    let requests := [Request.register 1 (dated 2), .register 2 (dated 1)]
    registeredIn twoKeys none "gw" begun requests = [dated 2, dated 1] ∧
      ¬ (requests.foldl (State.step twoKeys none) begun).Holds "gw" (dated 2) := by
  intro requests
  refine ⟨by decide, ?_⟩
  rintro ⟨e, he, hh⟩
  have hl : (registeredIn twoKeys none "gw" begun requests).getLast? = some (dated 1) := by decide
  obtain ⟨e', he', hh'⟩ := holds_last requests (.inl hl)
  cases he.symm.trans he'
  exact absurd (hh.eq hh') (by decide)

end WattGateway.Gateway.Registry

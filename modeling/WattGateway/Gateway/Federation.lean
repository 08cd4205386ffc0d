import WattGateway.Gateway.Registry
import Mathlib.Algebra.GroupWithZero.Nat
import Mathlib.Data.List.Destutter
import Mathlib.Data.List.Sort
import Mathlib.Algebra.Order.Ring.Nat
import Mathlib.Algebra.Order.Ring.Rat
import Mathlib.Algebra.Order.BigOperators.Group.List

/-!
# Federation

The gateways a query is sent on to: `federated_gateway_base_urls` with the identity of
`gateway_identity.rs` and the settings of `config.rs`. The mode is a field of the identity, and
there is an identity only if one of six other settings is present: `trusted_peers_only_iff`.
-/

namespace WattGateway.Gateway

open List Option

/-! ## Settings -/

/-- `std::env::var`. -/
abbrev Environment := String → Option String

def parseCsv (value : String) : List String :=
  ((value.toList.splitOn ',').map fun part => trim (String.ofList part)).filter (· ≠ "")

def parseCsvEnv (env : Environment) (name : String) : List String :=
  ((env name).map parseCsv).getD []

def sortDedup (values : List String) : List String :=
  (values.insertionSort (· ≤ ·)).destutter (· ≠ ·)

structure GatewayIdentityConfig where
  gatewayId : Option String
  displayName : Option String
  baseUrl : Option String
  region : Option String
  operatorDid : Option String
  roles : List String
  supportedEndpoints : List String
  federationMode : Option String
  federationPeers : List String
  allowsPublicIngest : Bool
  signingKeyB64 : Option String

variable {config : GatewayIdentityConfig}

section

variable (env : Environment)

/-- The peers that are configured, under the two names of the setting. -/
def configuredPeers : List String :=
  parseCsvEnv env "WATTETHERIA_GATEWAY_FEDERATION_TRUSTED_PEERS" ++
    parseCsvEnv env "WATTETHERIA_GATEWAY_IDENTITY_FEDERATION_PEERS"

/-- The part of `Config::from_env` that becomes the identity. -/
def GatewayIdentityConfig.fromEnv : GatewayIdentityConfig where
  gatewayId := env "WATTETHERIA_GATEWAY_IDENTITY_ID"
  displayName := env "WATTETHERIA_GATEWAY_IDENTITY_DISPLAY_NAME"
  baseUrl := env "WATTETHERIA_GATEWAY_IDENTITY_BASE_URL"
  region := env "WATTETHERIA_GATEWAY_IDENTITY_REGION"
  operatorDid := env "WATTETHERIA_GATEWAY_IDENTITY_OPERATOR_DID" <|>
    env "WATTETHERIA_GATEWAY_IDENTITY_OPERATOR_ID"
  roles := parseCsvEnv env "WATTETHERIA_GATEWAY_IDENTITY_ROLES"
  supportedEndpoints := parseCsvEnv env "WATTETHERIA_GATEWAY_IDENTITY_SUPPORTED_ENDPOINTS"
  federationMode := env "WATTETHERIA_GATEWAY_FEDERATION_MODE"
  federationPeers := sortDedup (configuredPeers env)
  allowsPublicIngest := ((env "WATTETHERIA_GATEWAY_IDENTITY_ALLOWS_PUBLIC_INGEST").map
    fun value => decide (value ∈ ["1", "true", "TRUE", "yes", "YES"])).getD true
  signingKeyB64 := env "WATTETHERIA_GATEWAY_IDENTITY_SIGNING_KEY"

def bootstrapRegistryUrls : List String :=
  parseCsvEnv env "WATTETHERIA_GATEWAY_BOOTSTRAP_REGISTRY_URLS"

end

/-! ## The identity -/

inductive FederationMode where
  | open
  | trusted
  deriving DecidableEq

def FederationMode.fromRaw (value : Option String) : FederationMode :=
  match value.map fun s => (trim s).toList.map Char.toLower with
  | some s => if s ∈ ["trusted", "allowlist", "allow-list"].map String.toList then .trusted else .open
  | none => .open

structure GatewayIdentity where
  gatewayId : String
  displayName : String
  baseUrl : String
  region : Option String
  operatorDid : Option String
  roles : List String
  supportedEndpoints : List String
  federationMode : FederationMode
  federationPeers : List String
  allowsPublicIngest : Bool
  signingKey : List UInt8

def GatewayIdentity.allowsRegistryFederation (identity : GatewayIdentity) : Bool :=
  identity.federationMode = .open

def trimEndSlashes (s : String) : String :=
  String.ofList (s.toList.reverse.dropWhile (· = '/')).reverse

def normalizedList (values defaults : List String) : List String :=
  let entries := (values.map trim).filter (· ≠ "")
  sortDedup (if entries.isEmpty then defaults else entries)

def defaultRoles : List String := ["ingest", "query", "federation"]

def defaultEndpoints : List String :=
  ["/api/network/status", "/api/peers", "/api/hives", "/api/hive-messages", "/api/board",
    "/api/missions", "/api/organizations", "/api/leaderboard", "/api/registry/bootstrap",
    "/api/registry/discovery", "/api/registry/gateways", "/api/registry/self-manifest",
    "/api/registry/self-register"]

def decodeSigningKey (C : Crypto) (signingKeyB64 : String) : Except String (List UInt8) := do
  let bytes ← orFail "decode gateway signing key base64" (C.base64Decode signingKeyB64)
  failIf (bytes.length ≠ 32) "gateway signing key must decode to 32 bytes"
  return bytes

namespace GatewayIdentityConfig

variable (config : GatewayIdentityConfig)

/-- One of the settings that ask for an identity is there. -/
def anyPresent : Bool :=
  config.gatewayId.isSome || config.displayName.isSome || config.baseUrl.isSome ||
    config.signingKeyB64.isSome || config.region.isSome || config.operatorDid.isSome

end GatewayIdentityConfig

def requiredSetting (name : String) (value : Option String) : Except String String :=
  orFail (name ++ " is required") (value.filter fun s => !isBlank s)

def GatewayIdentity.fromConfig (C : Crypto) (config : GatewayIdentityConfig) :
    Except String (Option GatewayIdentity) :=
  if config.anyPresent = false then .ok none
  else do
    let gatewayId ← requiredSetting "WATTETHERIA_GATEWAY_IDENTITY_ID" config.gatewayId
    let displayName ← requiredSetting "WATTETHERIA_GATEWAY_IDENTITY_DISPLAY_NAME" config.displayName
    let baseUrl ← requiredSetting "WATTETHERIA_GATEWAY_IDENTITY_BASE_URL" config.baseUrl
    let signingKeyB64 ← requiredSetting "WATTETHERIA_GATEWAY_IDENTITY_SIGNING_KEY" config.signingKeyB64
    let signingKey ← decodeSigningKey C signingKeyB64
    return some
      { gatewayId, displayName, signingKey
        baseUrl := trimEndSlashes baseUrl
        region := config.region
        operatorDid := config.operatorDid
        roles := normalizedList config.roles defaultRoles
        supportedEndpoints := normalizedList config.supportedEndpoints defaultEndpoints
        federationMode := .fromRaw config.federationMode
        federationPeers := config.federationPeers
        allowsPublicIngest := config.allowsPublicIngest }

/-! ## The fan-out -/

/-- `GatewayRegistryEntry`, as far as it decides where a query goes. -/
structure GatewayRegistryEntry where
  baseUrl : String
  roles : List String
  supportedEndpoints : List String
  status : String

def Registry.Status.wireName : Registry.Status → String
  | .pending => "pending"
  | .approved => "approved"
  | .rejected => "rejected"
  | .suspended => "suspended"

def Registry.DiscoveryTier.rank : Registry.DiscoveryTier → Nat
  | .official => 0
  | .verified => 1
  | .community => 2
  | .manual => 3

def GatewayRegistryEntry.ofRow (e : Registry.Entry) : GatewayRegistryEntry :=
  ⟨e.baseUrl, e.roles, e.supportedEndpoints, e.status.wireName⟩

/-- `list_gateway_registry_entries` for the approved gateways with the role of a query. -/
def listQueryGateways (entries : Registry.Entries) : List GatewayRegistryEntry :=
  let rows := entries.select fun _ e => e.status = .approved && decide ("query" ∈ e.roles)
  (rows.insertionSort fun a b => a.2.discoveryTier.rank < b.2.discoveryTier.rank ∨
    a.2.discoveryTier.rank = b.2.discoveryTier.rank ∧ b.2.updatedAt ≤ a.2.updatedAt).map
    fun row => .ofRow row.2

/-- What the registries answer: the own table, none if the statement fails, and each bootstrap
registry. -/
structure Registries where
  table : Option Registry.Entries
  fetchPublicGateways : String → Option (List GatewayRegistryEntry)

def normalizeGatewayBaseUrl (value : String) : String := trimEndSlashes (trim value)

def gatewaySupportsEndpoint (endpoint : String) (gateway : GatewayRegistryEntry) : Bool :=
  gateway.status = "approved" && gateway.roles.any (· = "query") &&
    gateway.supportedEndpoints.any fun candidate => candidate = endpoint || candidate = "*"

/-- The normalised URLs that are not empty and not the gateway's own, each once. -/
def dedupeAndFilterGatewayBaseUrls (identity : Option GatewayIdentity) :
    List String → List String → List String
  | _, [] => []
  | seen, baseUrl :: baseUrls =>
    let url := normalizeGatewayBaseUrl baseUrl
    if url ≠ "" ∧ identity.map (fun i => normalizeGatewayBaseUrl i.baseUrl) ≠ some url ∧
        url ∉ seen then
      url :: dedupeAndFilterGatewayBaseUrls identity (url :: seen) baseUrls
    else dedupeAndFilterGatewayBaseUrls identity seen baseUrls

def federatedGatewayBaseUrls (identity : Option GatewayIdentity) (bootstrapUrls : List String)
    (registries : Registries) (endpoint : String) : List String :=
  let peers := (identity.map GatewayIdentity.federationPeers).getD []
  if identity.any fun i => !i.allowsRegistryFederation then
    dedupeAndFilterGatewayBaseUrls identity [] peers
  else
    let gateways := (registries.table.map listQueryGateways).getD [] ++
      bootstrapUrls.flatMap fun url => (registries.fetchPublicGateways url).getD []
    dedupeAndFilterGatewayBaseUrls identity [] (peers ++
      (gateways.filter (gatewaySupportsEndpoint endpoint)).map GatewayRegistryEntry.baseUrl)

/-- The base URLs that a gateway started in an environment queries; one whose identity cannot be
built does not start. -/
def queriedBaseUrls (C : Crypto) (env : Environment) (registries : Registries)
    (endpoint : String) : List String :=
  match GatewayIdentity.fromConfig C (.fromEnv env) with
  | .error _ => []
  | .ok identity =>
    federatedGatewayBaseUrls identity (bootstrapRegistryUrls env) registries endpoint

/-! ## Trusted mode -/

lemma mem_sortDedup {values : List String} {x : String} (h : x ∈ sortDedup values) :
    x ∈ values := by
  unfold sortDedup at h
  exact (mem_insertionSort (· ≤ ·)).1 ((destutter_sublist _ _).subset h)

variable {url : String}

lemma mem_dedupe {identity : Option GatewayIdentity} (baseUrls seen : List String) :
    url ∈ dedupeAndFilterGatewayBaseUrls identity seen baseUrls ↔
      (∃ s ∈ baseUrls, normalizeGatewayBaseUrl s = url) ∧ url ≠ "" ∧
        identity.map (fun i => normalizeGatewayBaseUrl i.baseUrl) ≠ some url ∧ url ∉ seen := by
  induction baseUrls generalizing seen with
  | nil => simp [dedupeAndFilterGatewayBaseUrls]
  | cons s _ ih =>
    rw [dedupeAndFilterGatewayBaseUrls]
    by_cases hu : normalizeGatewayBaseUrl s = url
    · subst hu
      split
      · rename_i hc
        simp [hc]
      · rename_i hc
        simp only [ih, mem_cons, exists_eq_or_imp, true_or, true_and]
        exact iff_of_false (fun h => hc h.2) hc
    · split <;> simp [ih, hu, Ne.symm hu]

variable {identity : GatewayIdentity} {C : Crypto}

lemma fromConfig_some (h : GatewayIdentity.fromConfig C config = .ok (some identity)) :
    identity.federationMode = .fromRaw config.federationMode ∧
      identity.federationPeers = config.federationPeers := by
  unfold GatewayIdentity.fromConfig at h
  split at h
  · cases h
  · simp only [bind_eq_ok] at h
    obtain ⟨_, -, _, -, _, -, _, -, _, -, h⟩ := h
    cases h
    exact ⟨rfl, rfl⟩

lemma fromConfig_ne_none
    (h : config.anyPresent = true) : GatewayIdentity.fromConfig C config ≠ .ok none := by
  intro hno
  unfold GatewayIdentity.fromConfig at hno
  rw [if_neg (by rw [h]; decide)] at hno
  simp only [bind_eq_ok] at hno
  obtain ⟨_, -, _, -, _, -, _, -, _, -, hno⟩ := hno
  cases hno

lemma trusted_queries (hm : identity.federationMode = .trusted)
    {bootstrapUrls : List String} {registries : Registries} {endpoint : String}
    (h : url ∈ federatedGatewayBaseUrls (some identity) bootstrapUrls registries endpoint) :
    url ∈ identity.federationPeers.map normalizeGatewayBaseUrl := by
  have ha : (some identity).any (fun i => !i.allowsRegistryFederation) = true := by
    simp [GatewayIdentity.allowsRegistryFederation, hm]
  unfold federatedGatewayBaseUrls at h
  simp only [ha, if_true] at h
  exact mem_map.2 ((mem_dedupe _ _).1 h).1

/-! ## Without an identity -/

section

variable (urls : List String)

/-- A URL longer than all that are given together. -/
def freshUrl : String :=
  String.ofList (['h', 't', 't', 'p', 's', ':', '/', '/'] ++
    replicate ((urls.map String.length).sum + 1) 'a')

lemma freshUrl_not_mem : freshUrl urls ∉ urls := by
  intro h
  have hle := le_sum_of_mem (mem_map_of_mem (f := String.length) h)
  rw [freshUrl, String.length_ofList, length_append, length_replicate] at hle
  omega

lemma normalize_freshUrl : normalizeGatewayBaseUrl (freshUrl urls) = freshUrl urls := by
  have he {p : Char → Bool} (hp : p 'a' = false) (l : List Char) (n : Nat) :
      dropWhile p (l ++ replicate (n + 1) 'a').reverse = (l ++ replicate (n + 1) 'a').reverse := by
    rw [reverse_append, reverse_replicate, replicate_succ, cons_append]
    exact dropWhile_cons_of_neg (by simp [hp])
  unfold normalizeGatewayBaseUrl trimEndSlashes trim freshUrl
  simp only [String.toList_ofList]
  rw [cons_append, dropWhile_cons_of_neg (by decide), ← cons_append, he (by decide),
    reverse_reverse, he (by decide), reverse_reverse]

lemma freshUrl_ne_empty : freshUrl urls ≠ "" := by
  intro h
  have hl := congrArg String.length h
  rw [freshUrl, String.length_ofList, length_append] at hl
  exact absurd hl (by simp)

end

def registryWith (baseUrl : String) : Registries where
  table := some (.ofList [("gw",
    { displayName := "Gateway", baseUrl := baseUrl, publicKey := "k", region := none
      operatorDid := none, roles := ["query"], supportedEndpoints := ["*"], federationPeers := []
      allowsPublicIngest := true
      manifestPayload := ⟨0, "gw", "Gateway", baseUrl, "k", none, none, ["query"], ["*"], [], true⟩
      manifestSignature := "s", status := .approved, discoveryTier := .community
      reviewReason := none, reviewedAt := some 0, reviewedBy := none, createdAt := 0
      updatedAt := 0 })])
  fetchPublicGateways _ := none

lemma queried_without_identity (bootstrapUrls : List String) (endpoint : String)
    (hno : normalizeGatewayBaseUrl url = url) (hne : url ≠ "") :
    federatedGatewayBaseUrls none bootstrapUrls (registryWith url) endpoint = [url] := by
  have hs : gatewaySupportsEndpoint endpoint ⟨url, ["query"], ["*"], "approved"⟩ = true := by
    unfold gatewaySupportsEndpoint
    simp
  have hl : ((registryWith url).table.map listQueryGateways).getD [] =
      [⟨url, ["query"], ["*"], "approved"⟩] := rfl
  have hf : bootstrapUrls.flatMap
      (fun u => ((registryWith url).fetchPublicGateways u).getD []) = [] := by
    rw [flatMap_eq_nil_iff]
    intro _ _
    rfl
  unfold federatedGatewayBaseUrls
  simp only [any_none, Bool.false_eq_true, if_false, map_none, getD_none,
    nil_append, hl, hf, append_nil, filter_cons, hs, if_true, filter_nil, map_cons, map_nil]
  rw [dedupeAndFilterGatewayBaseUrls]
  simp only [hno, map_none]
  rw [if_pos ⟨hne, by simp, not_mem_nil⟩, dedupeAndFilterGatewayBaseUrls]

/-- In trusted mode the gateway queries configured peers only, whatever the registries answer, just
if one of the settings that ask for an identity is there. -/
theorem trusted_peers_only_iff (C : Crypto) (env : Environment)
    (hmode : FederationMode.fromRaw (env "WATTETHERIA_GATEWAY_FEDERATION_MODE") = .trusted) :
    (∀ registries endpoint, ∀ url ∈ queriedBaseUrls C env registries endpoint,
      url ∈ (configuredPeers env).map normalizeGatewayBaseUrl) ↔
      (GatewayIdentityConfig.fromEnv env).anyPresent = true := by
  constructor
  · intro ha
    by_contra hno
    rw [Bool.not_eq_true] at hno
    -- without an identity an approved gateway that is no peer is queried
    let url := freshUrl ((configuredPeers env).map normalizeGatewayBaseUrl)
    have hi : GatewayIdentity.fromConfig C (.fromEnv env) = .ok none := by
      unfold GatewayIdentity.fromConfig
      rw [if_pos hno]
    have hq : queriedBaseUrls C env (registryWith url) "/api/board" = [url] := by
      unfold queriedBaseUrls
      rw [hi]
      exact queried_without_identity _ _ (normalize_freshUrl _) (freshUrl_ne_empty _)
    refine freshUrl_not_mem _ (ha (registryWith url) "/api/board" url ?_)
    rw [hq]
    exact mem_singleton_self url
  · intro hp _ _ _ hu
    unfold queriedBaseUrls at hu
    cases hc : GatewayIdentity.fromConfig C (.fromEnv env) with
    | error =>
      rw [hc] at hu
      cases hu
    | ok identity =>
      cases identity with
      | none => exact absurd hc (fromConfig_ne_none hp)
      | some =>
        rw [hc] at hu
        obtain ⟨hm, hpee⟩ := fromConfig_some hc
        have he := trusted_queries (hm.trans hmode) hu
        rw [hpee] at he
        obtain ⟨_, hpe, rfl⟩ := mem_map.1 he
        exact mem_map_of_mem (mem_sortDedup hpe)

/-! ## The settings of the README -/

def trustedSettings : Environment := fun name =>
  if name = "WATTETHERIA_GATEWAY_FEDERATION_MODE" then some "trusted"
  else if name = "WATTETHERIA_GATEWAY_FEDERATION_TRUSTED_PEERS" then some "https://peer"
  else none

def identitySettings : Environment := fun name =>
  if name = "WATTETHERIA_GATEWAY_IDENTITY_ID" then some "gw"
  else if name = "WATTETHERIA_GATEWAY_IDENTITY_DISPLAY_NAME" then some "Gateway"
  else if name = "WATTETHERIA_GATEWAY_IDENTITY_BASE_URL" then some "https://self/"
  else if name = "WATTETHERIA_GATEWAY_IDENTITY_SIGNING_KEY" then some "k1"
  else trustedSettings name

set_option maxRecDepth 100000

/-- A gateway that is in the registry only is queried. -/
theorem registry_gateway_queried :
    FederationMode.fromRaw (trustedSettings "WATTETHERIA_GATEWAY_FEDERATION_MODE") = .trusted ∧
    queriedBaseUrls twoKeys trustedSettings (registryWith "https://other") "/api/missions" =
      ["https://other"] ∧
    "https://other" ∉ (configuredPeers trustedSettings).map normalizeGatewayBaseUrl := by
  decide

theorem trusted_peers_only_iff_identity :
    queriedBaseUrls twoKeys identitySettings (registryWith "https://other") "/api/missions" =
      ["https://peer"] ∧
    ∀ registries endpoint, ∀ url ∈ queriedBaseUrls twoKeys identitySettings registries endpoint,
      url ∈ (configuredPeers identitySettings).map normalizeGatewayBaseUrl :=
  ⟨by decide, (trusted_peers_only_iff twoKeys identitySettings (by decide)).2
    (by decide)⟩

/-! ## The status of the network -/

def countKeys : List String :=
  ["nodes", "peers", "tasks", "organizations", "topics", "topic_messages", "public_blocks"]

def sharedKeys : List String := ["network_id", "network_name", "network_org_name"]

def countAt (key : String) (status : Json) : Nat :=
  match status.get key with
  | some (.number (.int n)) => if 0 ≤ n ∧ n < 2 ^ 64 then n.toNat else 0
  | _ => 0

def singleSharedStatusString (statuses : List Json) (key : String) : Json :=
  match sortDedup (statuses.filterMap fun status =>
    (((status.get key).bind Json.asStr).map trim).filter (· ≠ "")) with
  | [value] => .string value
  | _ => .null

/-- The sums of unsigned numbers wrap around, as they do in a release build. -/
def mergeNetworkStatusValues (now : String) (localStatus : Json) (remotes : List Json) : Json :=
  let statuses := localStatus :: remotes
  match localStatus with
  | .object object =>
    let counted := countKeys.foldl (fun (o : Json.Fields) key => o.insert key
      (.ofNat ((statuses.map (countAt key)).sum % 2 ^ 64))) object
    let named := sharedKeys.foldl (fun (o : Json.Fields) key => o.insert key
      (singleSharedStatusString statuses key)) counted
    .object ((named.insert "federated_gateways" (.ofNat remotes.length)).insert
      "updated_at" (.string now))
  | _ => localStatus

section Status

variable {now : String} {object : Json.Fields} {remotes remotes' : List Json} {key : String}

lemma get_mergeNetworkStatusValues (hk : key ∈ countKeys ++ sharedKeys) :
    (mergeNetworkStatusValues now (.object object) remotes).get key = some
      (if key ∈ countKeys then .ofNat (((.object object :: remotes).map (countAt key)).sum % 2 ^ 64)
        else singleSharedStatusString (.object object :: remotes) key) := by
  have hr : ∀ key ∈ countKeys ++ sharedKeys, key ≠ "federated_gateways" ∧ key ≠ "updated_at" ∧
      (key ∈ countKeys ↔ key ∉ sharedKeys) := by decide
  obtain ⟨hg, hu, ho⟩ := hr key hk
  rw [mergeNetworkStatusValues, Json.get, Json.asObject, Option.bind_some, Json.Fields.get_insert,
    if_neg hu, Json.Fields.get_insert, if_neg hg, Json.Fields.get_foldl_insert,
    Json.Fields.get_foldl_insert]
  by_cases h : key ∈ sharedKeys
  · rw [if_pos h, if_neg fun hc => ho.1 hc h]
  · rw [if_neg h, if_pos (ho.2 h), if_pos (ho.2 h)]

lemma sortDedup_perm {a b : List String} (h : a ~ b) : sortDedup a = sortDedup b := by
  unfold sortDedup
  rw [Perm.eq_of_pairwise' (pairwise_insertionSort (· ≤ ·) a) (pairwise_insertionSort (· ≤ ·) b)
    (((perm_insertionSort _ a).trans h).trans (perm_insertionSort _ b).symm)]

lemma get_merge_perm (h : remotes' ~ remotes) (hkey : key ∈ countKeys ++ sharedKeys) :
    (mergeNetworkStatusValues now (.object object) remotes').get key =
      (mergeNetworkStatusValues now (.object object) remotes).get key := by
  have hs := h.cons (Json.object object)
  rw [get_mergeNetworkStatusValues hkey, get_mergeNetworkStatusValues hkey,
    (hs.map (countAt key)).sum_nat]
  unfold singleSharedStatusString
  rw [sortDedup_perm (hs.filterMap _)]

end Status

/-- The number that is meant, a float by its fields of IEEE 754. -/
def numberValue : Number → ℚ
  | .int n => n
  | .float bits =>
    let exponent : Nat := bits.toNat / 2 ^ 52 % 2 ^ 11
    let fraction : Nat := bits.toNat % 2 ^ 52
    let magnitude : ℚ := if exponent = 0 then fraction / 2 ^ 1074
      else (2 ^ 52 + fraction) * 2 ^ exponent / 2 ^ 1075
    if bits.toNat < 2 ^ 63 then magnitude else -magnitude

/-- What a status counts under the key, nothing if there is no number. -/
def numericAt (key : String) (status : Json) : ℚ :=
  match status.get key with
  | some (.number n) => numberValue n
  | _ => 0

/-- A number under the key is an unsigned 64-bit integer, or zero however it is written. -/
def CountsAt (key : String) (status : Json) : Prop :=
  ∀ n, status.get key = some (.number n) → numberValue n = 0 ∨ ∃ c : Nat, c < 2 ^ 64 ∧ n = .int c

section Sums

variable {key : String} {status : Json} {statuses : List Json}

lemma countAt_of_get {c : Nat} (hc : c < 2 ^ 64)
    (h : status.get key = some (.number (.int c))) : countAt key status = c := by
  have hi : 0 ≤ (c : Int) ∧ (c : Int) < 2 ^ 64 := by omega
  rw [countAt, h]
  exact if_pos hi

variable (key status) in
/-- Whatever is not an unsigned 64-bit integer counts as zero. -/
lemma countAt_cases : countAt key status = 0 ∨
    ∃ c : Nat, c < 2 ^ 64 ∧ status.get key = some (.number (.int c)) := by
  unfold countAt
  split
  · rename_i n hn
    split_ifs with h
    · exact .inr ⟨n.toNat, by omega, by rw [hn, Int.toNat_of_nonneg h.1]⟩
    · exact .inl rfl
  · exact .inl rfl

lemma countAt_lt : countAt key status < 2 ^ 64 := by
  rcases countAt_cases key status with h | ⟨c, hc, h⟩
  · omega
  · rwa [countAt_of_get hc h]

/-- A status is added as what it says just if it counts: its number is read, or read as zero. -/
lemma numericAt_eq_iff : numericAt key status = countAt key status ↔ CountsAt key status := by
  rcases countAt_cases key status with hz | ⟨c, hc, hg⟩
  · rw [hz, Nat.cast_zero, numericAt]
    refine ⟨fun h n hn => .inl (by rwa [hn] at h), fun h => ?_⟩
    split
    · rename_i n hn
      rcases h n hn with h0 | ⟨c, hc, rfl⟩
      · exact h0
      · rw [← countAt_of_get hc hn, hz]
        rfl
    · rfl
  · rw [countAt_of_get hc hg, numericAt, hg]
    refine iff_of_true (Int.cast_natCast c) fun n hn => .inr ⟨c, hc, ?_⟩
    cases hg.symm.trans hn
    rfl

lemma sum_numericAt (h : ∀ status ∈ statuses, CountsAt key status) :
    (statuses.map (numericAt key)).sum = ((statuses.map (countAt key)).sum : Nat) := by
  induction statuses with
  | nil => rfl
  | cons status rest ih =>
    rw [map_cons, map_cons, sum_cons, sum_cons, Nat.cast_add,
      numericAt_eq_iff.2 (h _ mem_cons_self), ih fun s hs => h s (mem_cons_of_mem _ hs)]

end Sums

/-- Whichever of the remote gateways answer, the merged counts are the sums of the numbers under
their keys, and neither they nor the shared names depend on the order, just if every such number is
an unsigned 64-bit integer or zero and no sum exceeds one. -/
theorem status_sums_iff (now : String) (object : Json.Fields) (remotes : List Json) :
    (∀ answered, answered <+ remotes →
      (∀ key ∈ countKeys, ∃ n : Nat, (n : ℚ) = ((.object object :: answered).map (numericAt key)).sum ∧
        (mergeNetworkStatusValues now (.object object) answered).get key = some (.ofNat n)) ∧
      ∀ answered', answered' ~ answered → ∀ key ∈ countKeys ++ sharedKeys,
        (mergeNetworkStatusValues now (.object object) answered').get key =
          (mergeNetworkStatusValues now (.object object) answered).get key) ↔
    ∀ key ∈ countKeys, (∀ status ∈ .object object :: remotes, CountsAt key status) ∧
      ((.object object :: remotes).map (numericAt key)).sum < 2 ^ 64 := by
  have he : ∀ key ∈ countKeys, ∀ answered n,
      (mergeNetworkStatusValues now (.object object) answered).get key = some (.ofNat n) ↔
        n = ((.object object :: answered).map (countAt key)).sum % 2 ^ 64 := by
    intro key hk answered n
    rw [get_mergeNetworkStatusValues (mem_append_left _ hk), if_pos hk]
    refine ⟨fun h => ?_, fun h => by rw [h]⟩
    have hi := Json.number.inj (Option.some.inj h)
    exact (Int.ofNat.inj (Number.int.inj hi)).symm
  constructor
  · intro h key hk
    have hs : ∀ answered, answered <+ remotes →
        ((.object object :: answered).map (numericAt key)).sum =
          (((.object object :: answered).map (countAt key)).sum % 2 ^ 64 : Nat) := by
      intro answered ha
      obtain ⟨n, hn, hg⟩ := (h answered ha).1 key hk
      rw [← hn, (he key hk answered n).1 hg]
    -- nobody else answers: the local count; one gateway answers: its count
    have hl : numericAt key (.object object) = countAt key (.object object) := by
      have h₀ := hs [] (nil_sublist _)
      simp only [map_cons, map_nil, sum_cons, sum_nil, add_zero] at h₀
      rwa [Nat.mod_eq_of_lt countAt_lt] at h₀
    have hc : ∀ status ∈ .object object :: remotes, CountsAt key status := by
      rintro status (_ | ⟨_, hr⟩)
      · exact numericAt_eq_iff.1 hl
      · rcases countAt_cases key status with hz | ⟨c, hc, hg⟩
        · have h₁ := hs [status] (singleton_sublist.2 hr)
          simp only [map_cons, map_nil, sum_cons, sum_nil, add_zero, hz] at h₁
          rw [Nat.mod_eq_of_lt countAt_lt, hl, add_eq_left] at h₁
          exact numericAt_eq_iff.1 (by rw [h₁, hz, Nat.cast_zero])
        · intro n hn
          cases hn.symm.trans hg
          exact .inr ⟨c, hc, rfl⟩
    refine ⟨hc, ?_⟩
    rw [hs remotes (Sublist.refl _)]
    exact_mod_cast Nat.mod_lt _ (by decide)
  · intro h answered ha
    refine ⟨fun key hk => ?_, fun _ hp _ hk => get_merge_perm hp hk⟩
    obtain ⟨hc, hlt⟩ := h key hk
    rw [sum_numericAt hc] at hlt
    have hle := ((ha.cons_cons (Json.object object)).map (countAt key)).sum_le_sum
      (fun _ _ => Nat.zero_le _)
    refine ⟨_, (sum_numericAt fun status hs => hc status ((ha.cons_cons _).subset hs)).symm, ?_⟩
    rw [he key hk, Nat.mod_eq_of_lt]
    exact hle.trans_lt (by exact_mod_cast hlt)

/-- A peer that reports the largest number makes the count of one node zero. -/
theorem status_sum_wraps : (mergeNetworkStatusValues "now" (.object [("nodes", .ofNat 1)])
      [.object [("nodes", .ofNat (2 ^ 64 - 1))]]).get "nodes" = some (.ofNat 0) :=
  rfl

/-! ## The URLs of a registry -/

def listPath : String := "/api/registry/gateways"

def registerPath : String := "/register"

/-- `str::trim_end_matches` for a text, which is removed at most so many times. -/
def trimEndMatches (suffix : List Char) : Nat → List Char → List Char
  | 0, s => s
  | n + 1, s =>
    if suffix <:+ s then trimEndMatches suffix n (s.take (s.length - suffix.length)) else s

def EndsWith (s suffix : String) : Prop := suffix.toList <:+ s.toList

instance (s suffix : String) : Decidable (EndsWith s suffix) :=
  inferInstanceAs (Decidable (_ <:+ _))

def normalizedRegistryListUrl (registryUrl : String) : String :=
  let trimmed := trimEndSlashes registryUrl
  if EndsWith trimmed (listPath ++ registerPath) then
    trimEndSlashes (.ofList (trimEndMatches registerPath.toList trimmed.toList.length trimmed.toList))
  else if EndsWith trimmed listPath then trimmed
  else trimmed ++ listPath

def normalizedRegistryRegisterUrl (registryUrl : String) : String :=
  let trimmed := trimEndSlashes registryUrl
  if EndsWith trimmed (listPath ++ registerPath) then trimmed
  else if EndsWith trimmed listPath then trimmed ++ registerPath
  else trimmed ++ (listPath ++ registerPath)

section Urls

variable {s w : String}

lemma trimEndSlashes_append {c : Char} {r : List Char} (hr : s.toList.reverse = c :: r)
    (hc : c ≠ '/') : trimEndSlashes (w ++ s) = w ++ s := by
  rw [trimEndSlashes, String.toList_append, reverse_append, hr, cons_append,
    dropWhile_cons_of_neg (by simpa using hc), ← cons_append, ← hr, ← reverse_append,
    reverse_reverse, ← String.toList_append, String.ofList_toList]

lemma trimEndSlashes_slashes (n : Nat) :
    trimEndSlashes (s ++ String.ofList (replicate n '/')) = trimEndSlashes s := by
  rw [trimEndSlashes, String.toList_append, String.toList_ofList, reverse_append,
    reverse_replicate, dropWhile_append_of_pos fun c hc => by simp [eq_of_mem_replicate hc]]
  rfl

lemma endsWith_append : EndsWith (w ++ s) s := by
  rw [EndsWith, String.toList_append]
  exact suffix_append _ _

lemma not_endsWith {c : Char} {r : List Char} (hr : s.toList.reverse = c :: r) (hc : c ≠ 's') :
    ¬ EndsWith (w ++ listPath) s := by
  rw [EndsWith, ← reverse_prefix, String.toList_append, reverse_append, hr]
  exact fun hp => hc (cons_prefix_cons.1 hp).1

lemma trimEndMatches_append {suffix l : List Char} (hl : ¬ suffix <:+ l) (n : Nat) :
    trimEndMatches suffix (n + 1) (l ++ suffix) = l := by
  rw [trimEndMatches, if_pos (suffix_append l suffix), length_append, Nat.add_sub_cancel, take_left]
  cases n with
  | zero => rfl
  | succ => rw [trimEndMatches, if_neg hl]

lemma urls_of_list : normalizedRegistryListUrl (w ++ listPath) = w ++ listPath ∧
    normalizedRegistryRegisterUrl (w ++ listPath) = w ++ (listPath ++ registerPath) := by
  have ht : trimEndSlashes (w ++ listPath) = w ++ listPath := trimEndSlashes_append rfl (by decide)
  have hno : ¬ EndsWith (w ++ listPath) (listPath ++ registerPath) := not_endsWith rfl (by decide)
  rw [normalizedRegistryListUrl, normalizedRegistryRegisterUrl, ht, if_neg hno, if_neg hno,
    if_pos endsWith_append, if_pos endsWith_append, String.append_assoc]
  exact ⟨rfl, rfl⟩

lemma urls_of_register :
    normalizedRegistryListUrl (w ++ (listPath ++ registerPath)) = w ++ listPath ∧
    normalizedRegistryRegisterUrl (w ++ (listPath ++ registerPath)) =
      w ++ (listPath ++ registerPath) := by
  have ht : trimEndSlashes (w ++ (listPath ++ registerPath)) = w ++ (listPath ++ registerPath) :=
    trimEndSlashes_append rfl (by decide)
  have ht' : trimEndSlashes (w ++ listPath) = w ++ listPath := trimEndSlashes_append rfl (by decide)
  rw [normalizedRegistryListUrl, normalizedRegistryRegisterUrl, ht, if_pos endsWith_append,
    if_pos endsWith_append, ← String.append_assoc, String.toList_append (s := w ++ listPath),
    length_append, show registerPath.toList.length = 8 + 1 from rfl, ← Nat.add_assoc,
    trimEndMatches_append (not_endsWith rfl (by decide)), String.ofList_toList, ht']
  exact ⟨rfl, rfl⟩

lemma urls_congr {u u' : String} (h : trimEndSlashes u = trimEndSlashes u') :
    normalizedRegistryListUrl u = normalizedRegistryListUrl u' ∧
      normalizedRegistryRegisterUrl u = normalizedRegistryRegisterUrl u' := by
  unfold normalizedRegistryListUrl normalizedRegistryRegisterUrl
  rw [h]
  exact ⟨rfl, rfl⟩

lemma urls_of_base (u : String) : ∃ w, normalizedRegistryListUrl u = w ++ listPath ∧
    normalizedRegistryRegisterUrl u = w ++ (listPath ++ registerPath) := by
  have hb : ∀ s, EndsWith (trimEndSlashes u) s → ∃ w, trimEndSlashes u = w ++ s :=
    fun s ⟨r, hr⟩ => ⟨.ofList r, String.toList_injective (by simp [hr])⟩
  by_cases hr : EndsWith (trimEndSlashes u) (listPath ++ registerPath)
  · obtain ⟨w, hw⟩ := hb _ hr
    obtain ⟨h, h'⟩ := urls_congr (hw.trans (trimEndSlashes_append rfl (by decide)).symm)
    exact ⟨w, h.trans urls_of_register.1, h'.trans urls_of_register.2⟩
  · by_cases hl : EndsWith (trimEndSlashes u) listPath
    · obtain ⟨w, hw⟩ := hb _ hl
      obtain ⟨h, h'⟩ := urls_congr (hw.trans (trimEndSlashes_append rfl (by decide)).symm)
      exact ⟨w, h.trans urls_of_list.1, h'.trans urls_of_list.2⟩
    · exact ⟨trimEndSlashes u, (if_neg hr).trans (if_neg hl), (if_neg hr).trans (if_neg hl)⟩

end Urls

/-- The two normalised URLs of a registry are a consistent pair. -/
theorem registry_urls_consistent (u : String) :
    let list := normalizedRegistryListUrl
    let register := normalizedRegistryRegisterUrl
    list (register u) = list u ∧ register (list u) = register u ∧ list (list u) = list u ∧
    register (register u) = register u ∧ register u = list u ++ "/register" ∧
    ∀ n, list (u ++ String.ofList (replicate n '/')) = list u ∧
      register (u ++ String.ofList (replicate n '/')) = register u := by
  intro list register
  obtain ⟨w, hl, hr⟩ : ∃ w, list u = w ++ listPath ∧ register u = w ++ (listPath ++ registerPath) :=
    urls_of_base u
  rw [hl, hr]
  exact ⟨urls_of_register.1, urls_of_list.2, urls_of_list.1, urls_of_register.2,
    (String.append_assoc ..).symm, fun n => hl ▸ hr ▸ urls_congr (trimEndSlashes_slashes n)⟩

end WattGateway.Gateway

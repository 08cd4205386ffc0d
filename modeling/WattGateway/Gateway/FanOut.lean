import WattGateway.Gateway.Federation
import WattGateway.Gateway.Stream
import Mathlib.Data.List.TakeWhile

/-!
# The fan-out of a query

`federated_gateway_url` of `public_api.rs`. A `?` or `#` in a base URL takes the endpoint out of the
path, a base URL without a host gives the endpoint as one, and base URLs are compared as texts that
are normalised once more before they are parsed, so one gateway may have several:
`fans_out_once_iff`.
-/

namespace WattGateway.Gateway

open List

/-! ## The URL standard -/

/-- `reqwest::Url`, its host with the port. -/
structure Url where
  scheme : String
  host : String
  path : String
  query : List (String × String)

/-- What `reqwest` sends requests to. -/
def Url.http (u : Url) : Prop := u.scheme = "http" ∨ u.scheme = "https"

/-- In the path of a URL, not its query or fragment. -/
def inPath (c : Char) : Bool := c ≠ '?' && c ≠ '#'

/-- Letters and slashes, which a path keeps as they are. -/
def plain (s : String) : Bool := s ≠ "" && s.toList.all fun c => c.isAlpha || c = '/'

/-- A parser of the URL standard. Below a base that is a URL, what follows a slash is appended to the
path; after `?` or `#` it is not in the path. -/
structure UrlStandard where
  parse : String → Option Url
  joins : ∀ {base rest b u}, base.toList.all inPath = true → plain rest = true →
    parse (base ++ "/") = some b → parse (base ++ "/" ++ rest) = some u → u.http →
    b.query = [] ∧ u = { b with path := b.path ++ rest }
  cut : ∀ {base rest u}, base.toList.all inPath = false → plain rest = true →
    parse (base ++ "/" ++ rest) = some u → ∃ b, parse (base ++ "/") = some b ∧ u.path = b.path

/-! ## Requests -/

/-- What a handler asks other gateways, under `/` and the name of the resource. -/
structure FederatedQuery where
  resource : String
  params : List (String × String)
  path : plain resource = true
  named : ∀ p ∈ params, p.1 ≠ "federation"

variable {q : FederatedQuery} (U : UrlStandard)

def federatedGatewayUrl (baseUrl : String) (q : FederatedQuery) : Option Url :=
  let baseUrl := normalizeGatewayBaseUrl baseUrl
  if baseUrl = "" then none
  else (U.parse (baseUrl ++ "/" ++ q.resource)).map fun url =>
    { url with query := url.query ++ (q.params.filter (!isBlank ·.2) ++ [("federation", "local")]) }

/-- A request is for the resource under the base and tells the receiver not to ask on. -/
def AsksEndpoint (base : String) (q : FederatedQuery) : Prop :=
  ∀ url, federatedGatewayUrl U base q = some url → url.http →
    (∃ b, U.parse (normalizeGatewayBaseUrl base ++ "/") = some b ∧ url.scheme = b.scheme ∧
      url.host = b.host ∧ url.path = b.path ++ q.resource) ∧
    (url.query.filter (·.1 = "federation")).map (federationEnabled <| some ·.2) = [false]

/-- The gateway of a base URL. -/
def gatewayAt (base : String) : Option (String × String × String) :=
  (U.parse (normalizeGatewayBaseUrl base ++ "/")).map fun u => (u.scheme, u.host, u.path)

variable (identity : Option GatewayIdentity) (baseUrls : List String)

section

variable (q : FederatedQuery)

/-- The base URLs to which a request is built. -/
def requested : List String :=
  (dedupeAndFilterGatewayBaseUrls identity [] baseUrls).filter fun base =>
    (federatedGatewayUrl U base q).isSome

/-- Every request is for the endpoint, no gateway is asked twice, and none asks itself. -/
def FansOutOnce : Prop :=
  (∀ base ∈ requested U identity baseUrls q, AsksEndpoint U base q) ∧
  ((requested U identity baseUrls q).map (gatewayAt U)).Nodup ∧
  ∀ i ∈ identity, ∀ base ∈ requested U identity baseUrls q, gatewayAt U base ≠ gatewayAt U i.baseUrl

/-- A URL of the list, as it is compared, that is not the own one and makes a request. -/
def Foreign (base : String) : Prop :=
  (∃ s ∈ baseUrls, normalizeGatewayBaseUrl s = base) ∧ base ≠ "" ∧
    identity.map (fun i => normalizeGatewayBaseUrl i.baseUrl) ≠ some base ∧
    (federatedGatewayUrl U base q).isSome

end

section

variable {U identity baseUrls}

lemma nodup_dedupe (seen : List String) :
    (dedupeAndFilterGatewayBaseUrls identity seen baseUrls).Nodup := by
  induction baseUrls generalizing seen with
  | nil => exact nodup_nil
  | cons _ _ ih =>
    rw [dedupeAndFilterGatewayBaseUrls]
    split
    · exact nodup_cons.2 ⟨fun h => ((mem_dedupe _ _).1 h).2.2.2 mem_cons_self, ih _⟩
    · exact ih seen

lemma mem_requested {base : String} :
    base ∈ requested U identity baseUrls q ↔ Foreign U identity baseUrls q base := by
  simp only [requested, mem_filter, mem_dedupe, Foreign, not_mem_nil, not_false_eq_true, and_true,
    and_assoc]

lemma asksEndpoint_iff {base : String}
    (hb : (federatedGatewayUrl U base q).isSome) : AsksEndpoint U base q ↔
    ∀ url, U.parse (normalizeGatewayBaseUrl base ++ "/" ++ q.resource) = some url → url.http →
      (U.parse (normalizeGatewayBaseUrl base ++ "/")).isSome ∧
        (normalizeGatewayBaseUrl base).toList.all inPath = true := by
  unfold AsksEndpoint
  unfold federatedGatewayUrl at hb ⊢
  generalize normalizeGatewayBaseUrl base = t at hb ⊢
  by_cases ht : t = ""
  · simp [ht] at hb
  simp only [ht, if_false, Option.map_eq_some_iff, forall_exists_index, and_imp]
  constructor
  · intro h url hu hh
    obtain ⟨⟨b, hb, -, -, hp⟩, -⟩ := h _ url hu rfl hh
    refine ⟨Option.isSome_of_mem hb, ?_⟩
    by_contra hn
    obtain ⟨b', hb', he⟩ := U.cut (Bool.eq_false_iff.2 hn) q.path hu
    cases hb.symm.trans hb'
    have hr : q.resource.toList = [] := by
      simpa using congrArg String.toList (he.symm.trans hp)
    exact absurd q.path (by simp [plain, String.toList_eq_nil_iff.1 hr])
  · rintro h _ url hu rfl hh
    obtain ⟨hb, hi⟩ := h url hu hh
    obtain ⟨b, hb⟩ := Option.isSome_iff_exists.1 hb
    obtain ⟨hq, rfl⟩ := U.joins hi q.path hb hu hh
    refine ⟨⟨b, hb, rfl, rfl, rfl⟩, ?_⟩
    have hn : (q.params.filter (!isBlank ·.2)).filter (·.1 = "federation") = [] :=
      filter_eq_nil_iff.2 fun p hp => by simpa using q.named p (mem_filter.1 hp).1
    have hl : federationEnabled (some "local") = false := by decide
    simp [hq, hn, hl]

end

/-- For all base URLs, of which some are the own one: every request is for the endpoint and asks
nobody on, no gateway is asked twice and none asks itself, just if those from which a request is built
are URLs without `?` and `#`, and two that differ as texts are not one URL, nor one the own. -/
theorem fans_out_once_iff (q : FederatedQuery) : FansOutOnce U identity baseUrls q ↔
    (∀ base, Foreign U identity baseUrls q base →
      ∀ url, U.parse (normalizeGatewayBaseUrl base ++ "/" ++ q.resource) = some url → url.http →
        (U.parse (normalizeGatewayBaseUrl base ++ "/")).isSome ∧
          (normalizeGatewayBaseUrl base).toList.all inPath = true) ∧
    (∀ s, Foreign U identity baseUrls q s → ∀ t, Foreign U identity baseUrls q t →
      gatewayAt U s = gatewayAt U t → s = t) ∧
    ∀ i ∈ identity, ∀ s, Foreign U identity baseUrls q s →
      gatewayAt U s ≠ gatewayAt U i.baseUrl := by
  unfold FansOutOnce
  rw [nodup_map_iff_inj_on (by exact (nodup_dedupe []).filter _)]
  simp only [mem_requested]
  refine and_congr_left fun _ => forall₂_congr fun base hb => asksEndpoint_iff hb.2.2.2

/-! ## One host -/

def originA : List Char := ['h', 't', 't', 'p', 's', ':', '/', '/', 'a', '/']

def parseA (s : String) : Option Url :=
  if originA <+: s.toList then
    some ⟨"https", "a", String.ofList ('/' :: (s.toList.drop originA.length).takeWhile inPath), []⟩
  else none

lemma inPath_of_plain {s : String} (h : plain s = true) : ∀ c ∈ s.toList, inPath c := by
  intro c hc
  have hl := all_eq_true.1 (Bool.and_eq_true_iff.1 h).2 c hc
  by_contra hn
  rcases (by simpa [inPath, imp_iff_not_or] using hn : c = '?' ∨ c = '#') with rfl | rfl <;>
    simp at hl

/-- The standard for URLs of the host `a`. -/
def hostA : UrlStandard where
  parse := parseA
  joins {base rest b u} hi hp hb hu _ := by
    obtain ⟨hs, hb⟩ := Option.ite_none_right_eq_some.1 hb
    obtain ⟨-, hu⟩ := Option.ite_none_right_eq_some.1 hu
    cases hb
    cases hu
    have hbase : ∀ c ∈ drop originA.length (base ++ "/").toList, inPath c := by
      intro c hc
      rcases mem_append.1 (String.toList_append ▸ mem_of_mem_drop hc) with hc | hc
      · exact all_eq_true.1 hi c hc
      · cases mem_singleton.1 hc
        decide
    rw [String.toList_append (s := base ++ "/"), drop_append_of_le_length hs.length_le,
      takeWhile_append_of_pos hbase, takeWhile_eq_self_iff.2 (inPath_of_plain hp),
      takeWhile_eq_self_iff.2 hbase]
    refine ⟨rfl, ?_⟩
    simp [String.ext_iff]
  cut {base rest u} hi hp hu := by
    obtain ⟨hs, hu⟩ := Option.ite_none_right_eq_some.1 hu
    cases hu
    obtain ⟨c, hc, hn⟩ := all_eq_false.1 hi
    rw [String.toList_append (s := base ++ "/")] at hs ⊢
    have hc : c ∈ (base ++ "/").toList := String.toList_append ▸ mem_append_left _ hc
    have ho : ∀ c ∈ originA, inPath c := all_eq_true.1 rfl
    -- the base is not within the origin, which has neither `?` nor `#`
    have hs : originA <+: (base ++ "/").toList := by
      rcases prefix_or_prefix_of_prefix hs (prefix_append _ _) with h | h
      · exact h
      · exact absurd (ho c (h.subset hc)) hn
    refine ⟨_, if_pos hs, ?_⟩
    have hd : c ∈ drop originA.length (base ++ "/").toList := by
      obtain ⟨l, hl⟩ := hs
      rw [← hl] at hc ⊢
      rw [drop_left]
      exact (mem_append.1 hc).resolve_left fun h => hn (ho c h)
    rw [drop_append_of_le_length hs.length_le, takeWhile_append, if_neg]
    intro he
    have hpre := takeWhile_prefix (l := drop originA.length (base ++ "/").toList) inPath
    exact hn (takeWhile_eq_self_iff.1 (hpre.eq_of_length he) c hd)

def peersQuery : FederatedQuery := ⟨"api/peers", [], by decide, nofun⟩

/-- Normalised once more, the second text is the first. -/
theorem gateway_asked_twice :
    requested hostA none ["https://a", "https://a /"] peersQuery = ["https://a", "https://a "] ∧
      federatedGatewayUrl hostA "https://a " peersQuery =
        federatedGatewayUrl hostA "https://a" peersQuery ∧
      ¬ FansOutOnce hostA none ["https://a", "https://a /"] peersQuery := by
  generalize peersQuery = q
  have hd : dedupeAndFilterGatewayBaseUrls none [] ["https://a", "https://a /"] =
      ["https://a", "https://a "] := by decide
  have hn : normalizeGatewayBaseUrl "https://a " = "https://a" ∧
      normalizeGatewayBaseUrl "https://a" = "https://a" := by decide
  have he : federatedGatewayUrl hostA "https://a " q = federatedGatewayUrl hostA "https://a" q := by
    rw [federatedGatewayUrl, hn.1, federatedGatewayUrl, hn.2]
  have hs : (federatedGatewayUrl hostA "https://a" q).isSome = true := by
    rw [federatedGatewayUrl, hn.2, if_neg (by decide), Option.isSome_map]
    refine congrArg Option.isSome (if_pos ?_)
    rw [String.toList_append]
    exact prefix_append _ _
  have hr : requested hostA none ["https://a", "https://a /"] q = ["https://a", "https://a "] := by
    rw [requested, hd, filter_eq_self]
    simp [hs, he]
  refine ⟨hr, he, fun h => ?_⟩
  have hg : gatewayAt hostA "https://a " = gatewayAt hostA "https://a" := by
    rw [gatewayAt, hn.1, gatewayAt, hn.2]
  have hno := h.2.1
  rw [hr] at hno
  exact (nodup_cons.1 hno).1 (mem_singleton.2 hg.symm)

end WattGateway.Gateway

import WattGateway.Gateway.Calls

/-!
# The lane of a gossip payload

`classify_gossip_payload` of `gateway_sync.rs` scans a payload's first field by hand and falls back
to a decode of the whole header. Either way it reads the tag that the decoder of
`GatewayP2pSyncMessage` reads (`lane_agrees`).
-/

namespace WattGateway.Gateway

open List

inductive GatewayP2pSyncLane where
  | snapshot
  | event
deriving DecidableEq

inductive GatewayP2pSyncMessageType where
  | snapshotAnnounceV1
  | eventV1
deriving DecidableEq

def gatewayP2pSyncLane : GatewayP2pSyncMessageType → GatewayP2pSyncLane
  | .snapshotAnnounceV1 => .snapshot
  | .eventV1 => .event

def GatewayP2pSyncMessage.messageType : GatewayP2pSyncMessage → GatewayP2pSyncMessageType
  | .snapshotAnnounceV1 .. => .snapshotAnnounceV1
  | .eventV1 .. => .eventV1

/-! ## JSON as the decoder reads it -/

def quoteMark : UInt8 := 0x22
def backslash : UInt8 := 0x5c
def leftBrace : UInt8 := 0x7b
def colon : UInt8 := 0x3a

/-- The bytes between the quotes of a JSON string. -/
inductive Inside : List UInt8 → Prop
  | nil : Inside []
  | plain {b l} : b ≠ quoteMark → b ≠ backslash → Inside l → Inside (b :: l)
  -- of `\uXXXX` the digits are plain
  | escape {b l} : Inside l → Inside (backslash :: b :: l)

def Token (t : List UInt8) : Prop := ∃ l, Inside l ∧ t = quoteMark :: (l ++ [quoteMark])

def Space (w : List UInt8) : Prop := ∀ b ∈ w, b ∈ [0x20, 0x09, 0x0a, 0x0d]

/-- `serde_json`. The texts of strings and of an object's names and values have no space around
them. -/
structure Serde where
  string : List UInt8 → Except String String
  object : List UInt8 → Except String (List (List UInt8 × List UInt8))
  /-- A unit variant written as an object. -/
  unitVariant : List UInt8 → Except String GatewayP2pSyncMessageType
  content (t : GatewayP2pSyncMessageType) (fields : List (String × List UInt8)) :
    Except String {m : GatewayP2pSyncMessage // m.messageType = t}
  token_of_string {t s} : string t = .ok s → Token t
  text_of_object {p k v rest} : object p = .ok ((k, v) :: rest) →
    ∃ w₀ w₁ w₂ w₃ tail, (Space w₀ ∧ Space w₁ ∧ Space w₂ ∧ Space w₃) ∧
      p = w₀ ++ leftBrace :: (w₁ ++ (k ++ (w₂ ++ colon :: (w₃ ++ (v ++ tail)))))

variable (S : Serde)

namespace Serde

def fields (payload : List UInt8) : Except String (List (String × List UInt8)) := do
  (← S.object payload).mapM fun (k, v) => do return (← S.string k, v)

def tag (fields : List (String × List UInt8)) : Except String (List UInt8) :=
  match fields.filter (·.1 = "type") with
  | [] => .error "missing field `type`"
  | [(_, v)] => .ok v
  | _ => .error "duplicate field `type`"

def variant (name : String) : Except String GatewayP2pSyncMessageType :=
  if name = "snapshot_announce_v1" then .ok .snapshotAnnounceV1
  else if name = "event_v1" then .ok .eventV1
  else .error ("unknown variant `" ++ name ++ "`, expected `snapshot_announce_v1` or `event_v1`")

/-- `from_slice::<GatewayP2pSyncMessage>`. -/
def message (payload : List UInt8) : Except String GatewayP2pSyncMessage := do
  let fields ← S.fields payload
  let name ← S.string (← tag fields)
  return (← S.content (← variant name) (fields.filter (·.1 ≠ "type"))).1

/-- `from_slice::<GatewayP2pSyncMessageType>`. -/
def messageType (text : List UInt8) : Except String GatewayP2pSyncMessageType :=
  match S.string text with
  | .ok name => variant name
  | .error _ => S.unitVariant text

/-- `from_slice::<GatewayP2pSyncHeader>`. -/
def header (payload : List UInt8) : Except String GatewayP2pSyncMessageType := do
  S.messageType (← tag (← S.fields payload))

lemma message_eq_ok {S : Serde} {p : List UInt8} {m : GatewayP2pSyncMessage}
    (h : S.message p = .ok m) : ∃ fs v, S.fields p = .ok fs ∧ tag fs = .ok v ∧
      (∃ s, S.string v = .ok s) ∧ S.messageType v = .ok m.messageType := by
  obtain ⟨fs, hf, h⟩ := bind_eq_ok.1 h
  obtain ⟨v, hv, h⟩ := bind_eq_ok.1 h
  obtain ⟨s, hs, h⟩ := bind_eq_ok.1 h
  obtain ⟨t, ht, h⟩ := bind_eq_ok.1 h
  obtain ⟨⟨m', hm⟩, -, h⟩ := bind_eq_ok.1 h
  cases h
  refine ⟨fs, v, hf, hv, ⟨s, hs⟩, ?_⟩
  simp only [messageType, hs]
  rw [ht, hm]

lemma first_field {S : Serde} {p v : List UInt8} {fs : List (String × List UInt8)}
    (hf : S.fields p = .ok fs) (hv : tag fs = .ok v) :
    ∃ k u key rest, S.object p = .ok ((k, u) :: rest) ∧ S.string k = .ok key ∧
      (key = "type" → u = v) := by
  obtain ⟨ms, hs, hf⟩ := bind_eq_ok.1 hf
  cases ms with
  | nil => cases hf; cases hv
  | cons m rest =>
    rw [mapM_cons] at hf
    obtain ⟨f, hm, hf⟩ := bind_eq_ok.1 hf
    obtain ⟨key, hk, hm⟩ := bind_eq_ok.1 hm
    obtain ⟨l, -, hf⟩ := bind_eq_ok.1 hf
    cases hm; cases hf
    refine ⟨m.1, m.2, key, rest, hs, hk, fun ht => ?_⟩
    subst ht
    cases hl : l.filter (·.1 = "type") with
    | nil => simpa [tag, hl] using hv
    | cons => simp [tag, hl] at hv

end Serde

/-! ## The scanner -/

inductive Stop where
  | bail (text : String)
  | outOfRange

def bail {α : Type} : Except String α → Except Stop α := Except.mapError .bail

/-- `u8::is_ascii_whitespace`. -/
def isAsciiWhitespace (b : UInt8) : Bool := b ∈ [0x20, 0x09, 0x0a, 0x0c, 0x0d]

def skipJsonWhitespace (payload : List UInt8) (index : Nat) : Nat :=
  index + ((payload.drop index).takeWhile isAsciiWhitespace).length

/-- The loop of `json_string_end`, at `index`. -/
def stringEnd (escaped : Bool) (index : Nat) : List UInt8 → Option Nat
  | [] => none
  | b :: rest =>
    if escaped then stringEnd false (index + 1) rest
    else if b = backslash then stringEnd true (index + 1) rest
    else if b = quoteMark then some (index + 1)
    else stringEnd false (index + 1) rest

section

variable (payload : List UInt8)

def jsonStringEnd (start : Nat) : Except Stop Nat :=
  if payload[start]? ≠ some quoteMark then
    .error (.bail "gateway p2p sync payload expected a JSON string")
  else
    match stringEnd false (start + 1) (payload.drop (start + 1)) with
    | some finish => .ok finish
    | none => .error (.bail "gateway p2p sync payload contains an unterminated JSON string")

/-- `&payload[start..finish]`. -/
def slice (start finish : Nat) : Except Stop (List UInt8) :=
  if start ≤ finish ∧ finish ≤ payload.length then .ok ((payload.take finish).drop start)
  else .error .outOfRange

def classifyGossipPayload : Except Stop GatewayP2pSyncLane := do
  let index := skipJsonWhitespace payload 0
  if payload[index]? ≠ some leftBrace then
    .error (.bail "gateway p2p sync payload is not a JSON object")
  else
    let index := skipJsonWhitespace payload (index + 1)
    let keyEnd ← jsonStringEnd payload index
    let key ← bail (S.string (← slice payload index keyEnd))
    if key ≠ "type" then
      return gatewayP2pSyncLane (← bail (S.header payload))
    else
      let index := skipJsonWhitespace payload keyEnd
      if payload[index]? ≠ some colon then
        .error (.bail "gateway p2p sync payload type field is missing a colon")
      else
        let index := skipJsonWhitespace payload (index + 1)
        let valueEnd ← jsonStringEnd payload index
        return gatewayP2pSyncLane (← bail (S.messageType (← slice payload index valueEnd)))

end

/-! ## It never reads out of range -/

def InRange {α : Type} (x : Except Stop α) : Prop := x ≠ .error .outOfRange

lemma inRange_bind {α β : Type} {x : Except Stop α} {f : α → Except Stop β} (hx : InRange x)
    (hf : ∀ a, x = .ok a → InRange (f a)) : InRange (x >>= f) := by
  cases x with
  | ok a => exact hf a rfl
  | error e => exact fun h => hx (by cases h; rfl)

lemma inRange_bail {α : Type} (x : Except String α) : InRange (bail x) := by
  cases x <;> exact fun h => by cases h

lemma stringEnd_bounds {l : List UInt8} {e : Bool} {i j : Nat} (h : stringEnd e i l = some j) :
    i < j ∧ j ≤ i + l.length := by
  induction l generalizing e i with
  | nil => cases h
  | cons b rest ih =>
    rw [stringEnd] at h
    rw [length_cons]
    split_ifs at h
    · have := ih h; omega
    · have := ih h; omega
    · cases h; omega
    · have := ih h; omega

lemma inRange_jsonStringEnd (p : List UInt8) (i : Nat) : InRange (jsonStringEnd p i) := by
  unfold jsonStringEnd
  split
  · exact fun h => by cases h
  · split <;> exact fun h => by cases h

lemma inRange_slice {p : List UInt8} {i j : Nat} (h : jsonStringEnd p i = .ok j) :
    InRange (slice p i j) := by
  unfold jsonStringEnd at h
  split at h
  · cases h
  split at h
  · rename_i e he
    cases h
    have hb := stringEnd_bounds he
    rw [length_drop] at hb
    rw [slice, if_pos (by omega)]
    exact fun h => by cases h
  · cases h

lemma inRange_classify (p : List UInt8) : InRange (classifyGossipPayload S p) := by
  unfold classifyGossipPayload
  dsimp only
  split
  · exact fun h => by cases h
  refine inRange_bind (inRange_jsonStringEnd _ _) fun e he => ?_
  refine inRange_bind (inRange_slice he) fun t _ => ?_
  refine inRange_bind (inRange_bail _) fun key _ => ?_
  split
  · exact inRange_bind (inRange_bail _) fun _ _ h => by cases h
  split
  · exact fun h => by cases h
  refine inRange_bind (inRange_jsonStringEnd _ _) fun e he => ?_
  refine inRange_bind (inRange_slice he) fun t _ => ?_
  exact inRange_bind (inRange_bail _) fun _ _ h => by cases h

/-! ## It reads what the decoder reads -/

section

variable {p w r t : List UInt8} {b : UInt8} {i : Nat}

lemma drop_skip (hw : Space w) (hb : isAsciiWhitespace b = false)
    (hp : p.drop i = w ++ b :: r) : p.drop (skipJsonWhitespace p i) = b :: r := by
  have ha : ∀ c ∈ w, isAsciiWhitespace c := fun c hc => by
    have := hw c hc
    simp only [isAsciiWhitespace, decide_eq_true_eq, mem_cons] at this ⊢
    tauto
  rw [skipJsonWhitespace, ← drop_drop, hp, takeWhile_append_of_pos ha,
    takeWhile_cons_of_neg (by simp [hb]), append_nil, drop_left]

lemma drop_skip_token (hw : Space w) (ht : Token t) (hp : p.drop i = w ++ (t ++ r)) :
    p.drop (skipJsonWhitespace p i) = t ++ r := by
  obtain ⟨l, -, rfl⟩ := ht
  exact drop_skip hw (by decide) hp

lemma byte_at (hp : p.drop i = b :: r) : p[i]? = some b ∧ p.drop (i + 1) = r := by
  constructor
  · rw [← head?_drop, hp, head?_cons]
  · rw [← drop_drop, hp, drop_one, tail_cons]

lemma stringEnd_inside {l : List UInt8} (h : Inside l) (i : Nat) :
    stringEnd false i (l ++ quoteMark :: r) = some (i + l.length + 1) := by
  induction h generalizing i with
  | nil => simp [stringEnd, quoteMark, backslash]
  | plain hq hs _ ih => simp [stringEnd, hq, hs, ih]; omega
  | escape _ ih => simp [stringEnd, ih]; omega

lemma read_token (ht : Token t) (hp : p.drop i = t ++ r) :
    jsonStringEnd p i = .ok (i + t.length) ∧ slice p i (i + t.length) = .ok t ∧
      p.drop (i + t.length) = r := by
  have he := congrArg length hp
  rw [length_drop, length_append] at he
  obtain ⟨l, hl, rfl⟩ := ht
  obtain ⟨hq, hd⟩ := byte_at (hp.trans cons_append)
  refine ⟨?_, ?_, by rw [← drop_drop, hp, drop_left]⟩
  · rw [jsonStringEnd, if_neg (not_not.2 hq), hd, append_assoc, singleton_append,
      stringEnd_inside hl]
    simp only [length_cons, length_append, length_nil]
    congr 1
    omega
  · rw [length_cons] at he ⊢
    rw [slice, if_pos (by omega), drop_take, hp, Nat.add_sub_cancel_left, ← length_cons, take_left]

end

end WattGateway.Gateway

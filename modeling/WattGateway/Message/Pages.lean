import WattGateway.Message.Gaps
import WattGateway.Message.Service

/-!
# Delivery pages

`pull_page`, `commit_page` and `commit_owned_page` of `http.rs` with the functions they call, and
the task that reaps expired pages. The instances share one database, one secret and one broker; each
has its own clocks and its own map of pending pages. Closing a channel makes its unacknowledged
messages ready again; a channel whose owner failed is closed at some later moment, or never. A
commit that another instance forwards runs the handler of the owner in the middle of its own
program.
-/

namespace WattGateway.Message.Pages

open Prog Function
open WattGateway.Message.Gaps (MailboxGap)

/-! ## Data -/

structure MailboxDelivery where
  deliveryId : String
  recordId : String
  route : EventTransportRoute
  record : Bytes
  membershipVersion : Option String
  enqueuedAt : Nat
  expiresAt : Option Nat

structure MailboxControlDelivery where
  deliveryId : String
  correlationId : String
  sourcePrincipalId : String
  targetPrincipalId : String
  controlKind : String
  payload : Bytes
  enqueuedAt : Nat
  expiresAt : Option Nat

structure MailboxBinding where
  networkId : String
  recipientPrincipalId : String
  deliveryClass : DeliveryClass
  deriving DecidableEq

/-- What a commit token vouches for. -/
structure CommitClaims where
  pageId : String
  networkId : String
  principalId : String
  deliveryClass : DeliveryClass
  ownerInstanceId : String
  consumerEpoch : Nat
  expiresAt : Nat
  deriving DecidableEq

/-- What a client posts to `/v1/mailbox/commit`. -/
structure CommitRequest where
  pageId : String
  deliveryClass : DeliveryClass
  commitToken : String

structure DeliveryPage where
  pageId : String
  binding : MailboxBinding
  deliveries : List MailboxDelivery
  controls : List MailboxControlDelivery
  gaps : List MailboxGap
  commitToken : String

structure PendingPage where
  channel : Nat
  deliveryTags : List Nat
  networkId : String
  principalId : String
  deliveryClass : DeliveryClass
  consumerEpoch : Nat
  openedAt : Nat

/-- A row of `gateway_delivery_owners`. -/
structure OwnerRow where
  ownerInstanceId : String
  consumerEpoch : Nat
  leaseExpiresAt : Nat
  ownerRoute : String

structure DeliveryOwner where
  instanceId : String
  consumerEpoch : Nat
  ownerRoute : String

structure Delivery where
  deliveryTag : Nat
  message : Nat
  deriving DecidableEq

/-- The crates the handlers call: identifiers in their textual form, the encodings of a token, and
the checks of `OpaqueCommitToken::new` and `DeliveryPage::validate`. -/
structure Crates extends Wattswarm where
  uuid : Nat → String
  uuid_injective : Function.Injective uuid
  hexEncode : Bytes → String
  hexDecode : String → Option Bytes
  mac : Bytes → Bytes → Bytes
  toVec : CommitClaims → Bytes
  fromSlice : Bytes → Option CommitClaims
  tokenAllowed : String → Bool
  pageValid : DeliveryPage → Bool

/-- The settings of one instance; durations are in milliseconds. -/
structure Gateway where
  instanceId : String
  internalRoute : Option String
  internalMtlsIdentityPem : Option Bytes
  internalMtlsCaPem : Option Bytes
  deliveryPageSize : Nat
  deliveryOwnerLease : Nat
  rabbitmqPrefetch : Nat

/-- The instances, the secret they share, which instance answers under an internal route, and the
content of the broker's messages. -/
structure Deployment where
  commitHmacSecret : Bytes
  gateway : Nat → Gateway
  answering : String → Option Nat
  envelope : Nat → Option BrokerEnvelope

/-! ## Commit tokens -/

section Token

variable (X : Crates)

/-- `str::split_once('.')`. -/
def splitOnce (s : String) : Option (String × String) :=
  match s.toList.span (· ≠ '.') with
  | (_, []) => none
  | (a, _ :: b) => some (String.ofList a, String.ofList b)

def issue (secret : Bytes) (claims : CommitClaims) : Except String String := do
  let payload := X.toVec claims
  let signature := X.mac secret payload
  let token := X.hexEncode payload ++ "." ++ X.hexEncode signature
  failIf (X.tokenAllowed token = false) "invalid commit token"
  return token

/-- The payload of a token, if its code is right. -/
def genuinePayload (secret : Bytes) (token : String) : Except String Bytes := do
  let (payload, signature) ← orFail "malformed commit token" (splitOnce token)
  let payload ← orFail "invalid hex" (X.hexDecode payload)
  let signature ← orFail "invalid hex" (X.hexDecode signature)
  failIf (X.mac secret payload ≠ signature) "MAC tag mismatch"
  return payload

def verify (secret : Bytes) (token : String) (nowMs : Nat) : Except String CommitClaims := do
  let payload ← genuinePayload X secret token
  let claims ← orFail "invalid commit claims" (X.fromSlice payload)
  failIf (claims.expiresAt ≤ nowMs) "commit token expired"
  return claims

end Token

/-! ## The world -/

inductive Place where
  | ready (queue : String)
  | unacked (queue : String) (channel tag : Nat)
  | acked
  deriving DecidableEq

/-- A channel: the queue it consumes, the messages delivered on it in the order of their tags, how
many of them the gateway has taken, and the call that holds it. -/
structure Channel where
  consumes : Option String
  prefetch : Nat
  isOpen : Bool
  delivered : List Nat
  taken : Nat
  holder : Option Nat
  abandoned : Bool

structure Acked where
  call : Nat
  channel : Nat
  tag : Nat
  message : Nat
  deriving DecidableEq

structure PageWorld where
  /-- The table of gaps, and the clock of the database. -/
  gaps : Gaps.GapWorld
  owners : Table (String × DeliveryClass) OwnerRow
  wall : Nat → Nat
  instant : Nat → Nat
  nextUuid : Nat
  place : Nat → Option Place
  channels : Nat → Channel
  nextChannel : Nat
  pending : Nat → Table String PendingPage
  acks : List Acked

namespace PageWorld

variable (w : PageWorld)

def setChannel (ch : Nat) (c : Channel) : PageWorld :=
  { w with channels := update w.channels ch c }

def setPlace (m : Nat) (p : Place) : PageWorld :=
  { w with place := update w.place m (some p) }

section

variable (key : String × DeliveryClass)

/-- `INSERT … ON CONFLICT DO UPDATE … WHERE` of `try_acquire_delivery_owner`. -/
def acquire (row : OwnerRow) : Bool × PageWorld :=
  let free := match w.owners.get? key with
    | none => true
    | some r => r.leaseExpiresAt ≤ w.gaps.now ∨ r.consumerEpoch = row.consumerEpoch
  if free then (true, { w with owners := w.owners.upsert key fun _ => row }) else (false, w)

/-- The `SELECT` of `load_delivery_owner`. -/
def owner : Option DeliveryOwner :=
  ((w.owners.get? key).filter fun r => w.gaps.now < r.leaseExpiresAt).map fun r =>
    ⟨r.ownerInstanceId, r.consumerEpoch, r.ownerRoute⟩

/-- The `DELETE` of `release_delivery_owner`. -/
def release (instanceId : String) (epoch : Nat) : PageWorld :=
  { w with
    owners := w.owners.delete fun k r =>
      k = key ∧ r.ownerInstanceId = instanceId ∧ r.consumerEpoch = epoch }

end

def createChannel (t : Nat) : PageWorld :=
  { w.setChannel w.nextChannel ⟨none, 0, true, [], 0, some t, false⟩ with
    nextChannel := w.nextChannel + 1 }

def onOpen {α : Type} (ch : Nat) (r : Except String α × PageWorld) : Except String α × PageWorld :=
  if (w.channels ch).isOpen then r else (.error "invalid channel state", w)

/-- The channel is closed, and what was not acknowledged is ready again. -/
def closeChannel (ch : Nat) : PageWorld :=
  { w.setChannel ch { w.channels ch with isOpen := false, consumes := none } with
    place := fun m => match w.place m with
      | some (.unacked queue ch' tag) => if ch' = ch then some (.ready queue)
        else some (.unacked queue ch' tag)
      | p => p }

/-- The broker delivers a ready message on a channel that consumes its queue. -/
def push (ch m : Nat) : PageWorld :=
  let c := w.channels ch
  match c.consumes, w.place m with
  | some queue, some (.ready queue') =>
    if queue = queue' ∧ c.isOpen = true ∧ c.delivered.length < c.taken + c.prefetch then
      (w.setChannel ch { c with delivered := c.delivered ++ [m] }).setPlace m
        (.unacked queue ch c.delivered.length)
    else w
  | _, _ => w

/-- The next message the consumer has received, if there is one. -/
def next (ch : Nat) : Option Delivery × PageWorld :=
  let c := w.channels ch
  match c.delivered[c.taken]? with
  | some m => (some ⟨c.taken, m⟩, w.setChannel ch { c with taken := c.taken + 1 })
  | none => (none, w)

/-- `basic_ack`; an unknown tag is an error of the channel. -/
def basicAck (t ch tag : Nat) : Except String Unit × PageWorld :=
  match (w.channels ch).delivered[tag]? with
  | some m =>
    match w.place m with
    | some (.unacked _ ch' tag') =>
      if ch' = ch ∧ tag' = tag then
        (.ok (), { w.setPlace m .acked with acks := ⟨t, ch, tag, m⟩ :: w.acks })
      else (.error "unknown delivery tag", w.closeChannel ch)
    | _ => (.error "unknown delivery tag", w.closeChannel ch)
  | none => (.error "unknown delivery tag", w.closeChannel ch)

def hold (ch : Nat) (t : Option Nat) : PageWorld :=
  w.setChannel ch { w.channels ch with holder := t }

/-- `pending_pages.insert`: the page has the channel now. -/
def insertPending (i : Nat) (pageId : String) (page : PendingPage) : PageWorld :=
  { w.hold page.channel none with
    pending := update w.pending i ((w.pending i).upsert pageId fun _ => page) }

def withoutPages (i : Nat) (gone : String → PendingPage → Bool) : PageWorld :=
  { w with pending := update w.pending i ((w.pending i).delete gone) }

/-- `pending_pages.remove`: call `t` has the page. -/
def removePending (t i : Nat) (pageId : String) : Option PendingPage × PageWorld :=
  match (w.pending i).get? pageId with
  | some page => (some page, (w.withoutPages i fun k _ => k = pageId).hold page.channel (some t))
  | none => (none, w)

/-- The pages of an instance, or of one of its mailboxes, whose lease is over. -/
def isExpired (i lease : Nat) (mailbox : Option MailboxBinding) (page : PendingPage) : Bool :=
  (match mailbox with
    | some b => b = ⟨page.networkId, page.principalId, page.deliveryClass⟩
    | none => true) && decide (lease ≤ w.instant i - page.openedAt)

def takeExpired (t i lease : Nat) (mailbox : Option MailboxBinding) :
    List PendingPage × PageWorld :=
  let pages := ((w.pending i).select fun _ page => w.isExpired i lease mailbox page).map Prod.snd
  (pages, pages.foldl (fun w page => w.hold page.channel (some t))
    (w.withoutPages i fun _ page => w.isExpired i lease mailbox page))

/-- Call `t` has ended: the channels it holds are given up. -/
def giveUp (t : Nat) : PageWorld :=
  { w with
    channels := fun ch =>
      let c := w.channels ch
      if c.holder = some t then { c with holder := none, abandoned := true } else c }

end PageWorld

/-! ## The machine -/

inductive Cmd where
  | gaps (c : Gaps.Cmd)
  | releaseOwner (key : String × DeliveryClass) (instanceId : String) (epoch : Nat)
  | ensureTenantMailboxes (networkId principalId : String)
  | basicQos (ch prefetch : Nat)
  | basicConsume (ch : Nat) (queue : String)
  | basicCancel (ch : Nat)
  | basicAck (ch tag : Nat)
  | close (ch : Nat)
  | insertPending (i : Nat) (pageId : String) (page : PendingPage)
  /-- A token is made; it changes nothing, but runs refer to it. -/
  | issue (claims : CommitClaims)
  | post (route : String)
  | respond

inductive Query where
  | gaps (q : Gaps.Query)
  | newPageId
  | newEpoch
  | tryAcquireOwner (key : String × DeliveryClass) (instanceId : String) (epoch : Nat)
      (route : String) (leaseMs : Nat)
  | loadOwner (key : String × DeliveryClass)
  | nowMs (i : Nat)
  | instantNow (i : Nat)
  | createChannel
  | next (ch : Nat)
  | removePending (i : Nat) (pageId : String)
  | takeExpired (i lease : Nat) (mailbox : Option MailboxBinding)

abbrev Ans : Query → Type
  | .gaps q => Gaps.Ans q
  | .newPageId => String
  | .newEpoch => Nat
  | .tryAcquireOwner _ _ _ _ _ => Bool
  | .loadOwner _ => Option DeliveryOwner
  | .nowMs _ => Nat
  | .instantNow _ => Nat
  | .createChannel => Nat
  | .next _ => Option Delivery
  | .removePending _ _ => Option PendingPage
  | .takeExpired _ _ _ => List PendingPage

/-- An exchange with the database or the broker: it takes effect and is answered, takes effect
only, or does neither. -/
def remote {α : Type} (o : Outcome) (w : PageWorld) (r : Except String α × PageWorld) :
    Option (Except String α × PageWorld) :=
  match o with
  | .ok => some r
  | .lost => some (.error "connection lost", r.2)
  | .refused => some (.error "request failed", w)
  | .failed => some (.error "request failed", w)

def perform (t : Nat) (c : Cmd) (o : Outcome) (w : PageWorld) :
    Option (Except String Unit × PageWorld) :=
  match c with
  | .gaps c => (Gaps.perform t c o w.gaps).map fun r => (r.1, { w with gaps := r.2 })
  | .releaseOwner key instanceId epoch => remote o w (.ok (), w.release key instanceId epoch)
  | .ensureTenantMailboxes _ _ => remote o w (.ok (), w)
  | .basicQos ch prefetch =>
    remote o w (w.onOpen ch (.ok (), w.setChannel ch { w.channels ch with prefetch := prefetch }))
  | .basicConsume ch queue =>
    remote o w
      (w.onOpen ch (.ok (), w.setChannel ch { w.channels ch with consumes := some queue }))
  | .basicCancel ch =>
    remote o w (w.onOpen ch (.ok (), w.setChannel ch { w.channels ch with consumes := none }))
  | .basicAck ch tag => remote o w (w.onOpen ch (w.basicAck t ch tag))
  | .close ch => remote o w (w.onOpen ch (.ok (), w.closeChannel ch))
  | .insertPending i pageId page => some (.ok (), w.insertPending i pageId page)
  | .issue _ => some (.ok (), w)
  | .post _ => remote o w (.ok (), w)
  | .respond => remote o w (.ok (), w)

variable (X : Crates) (D : Deployment)

def answer (t : Nat) (q : Query) (o : Outcome) (w : PageWorld) :
    Option (Except String (Ans q) × PageWorld) :=
  match q with
  | .gaps q => (Gaps.answer t q o w.gaps).map fun r => (r.1, { w with gaps := r.2 })
  | .newPageId => some (.ok (X.uuid w.nextUuid), { w with nextUuid := w.nextUuid + 1 })
  | .newEpoch => some (.ok w.nextUuid, { w with nextUuid := w.nextUuid + 1 })
  | .tryAcquireOwner key instanceId epoch route leaseMs =>
    let r := w.acquire key ⟨instanceId, epoch, w.gaps.now + leaseMs, route⟩
    remote o w (.ok r.1, r.2)
  | .loadOwner key => remote o w (.ok (w.owner key), w)
  | .nowMs i => some (.ok (w.wall i), w)
  | .instantNow i => some (.ok (w.instant i), w)
  | .createChannel => remote o w (.ok w.nextChannel, w.createChannel t)
  | .next ch =>
    -- a refusal is the timeout of a message that comes too late
    if o = .refused then some (.ok none, w)
    else remote o w (w.onOpen ch (.ok (w.next ch).1, (w.next ch).2))
  | .removePending i pageId => let r := w.removePending t i pageId; some (.ok r.1, r.2)
  | .takeExpired i lease mailbox => let r := w.takeExpired t i lease mailbox; some (.ok r.1, r.2)

/-- What happens beside the calls: messages arrive and are delivered, given up channels are
closed, gaps are recorded, and the clocks move. -/
inductive Env where
  | arrive (m : Nat) (queue : String)
  | push (ch m : Nat)
  | reclaim (ch : Nat)
  | gap (t : Nat) (key : String × String × Nat) (gap : Gaps.GapInsert)
  | database (ms : Nat)
  | wall (i now : Nat)
  | instant (i ms : Nat)

def env : Env → PageWorld → PageWorld
  | .arrive m queue, w => if w.place m = none then w.setPlace m (.ready queue) else w
  | .push ch m, w => w.push ch m
  | .reclaim ch, w => if (w.channels ch).abandoned then w.closeChannel ch else w
  | .gap t key gap, w => { w with gaps := Gaps.insertGap t key gap w.gaps }
  | .database ms, w => { w with gaps := { w.gaps with now := w.gaps.now + ms } }
  | .wall i now, w => { w with wall := update w.wall i now }
  | .instant i ms, w => { w with instant := update w.instant i (w.instant i + ms) }

def pages : Machine Cmd Query Ans PageWorld Env where
  clock := fun w => w.gaps.now
  perform := perform
  answer := answer X
  finish := fun t w => w.giveUp t
  env := env

abbrev PageProg := Prog Cmd Query Ans

def onGaps {α : Type} (p : Gaps.GapProg α) : PageProg α :=
  p.lift Cmd.gaps Query.gaps fun _ a => a

/-! ## The broker adapter -/

namespace RabbitAdapter

def closeAll (pages : List PendingPage) : PageProg Unit :=
  forEach pages fun page => run (.close page.channel)

def abandonExpiredPages (i : Nat) (mailbox : MailboxBinding) : PageProg Unit := do
  let expired : List PendingPage ←
    query (Query.takeExpired i (D.gateway i).deliveryOwnerLease (some mailbox))
  closeAll expired

def reapExpiredPages (i : Nat) : PageProg Nat := do
  let expired : List PendingPage ←
    query (Query.takeExpired i (D.gateway i).deliveryOwnerLease none)
  closeAll expired
  return expired.length

def collect (ch : Nat) : Nat → PageProg (List Delivery)
  | 0 => return []
  | n + 1 => do
    let message : Option Delivery ← query (Query.next ch)
    match message with
    | none => return []
    | some d => return d :: (← collect ch n)

structure Filled where
  deliveries : List MailboxDelivery
  controls : List MailboxControlDelivery
  tags : List Nat

def fill (mailbox : MailboxBinding) (ch : Nat) : List Delivery → Filled → PageProg Filled
  | [], page => return page
  | d :: rest, page => do
    let envelope ← ofOption "invalid broker envelope" (D.envelope d.message)
    match envelope with
    | .record r => do
      bailIf (r.networkId ≠ mailbox.networkId ∨ r.deliveryClass ≠ mailbox.deliveryClass)
        "RabbitMQ mailbox record binding mismatch"
      if r.sourcePrincipalId = mailbox.recipientPrincipalId then do
        run (.basicAck ch d.deliveryTag)
        fill mailbox ch rest page
      else do
        let deliveryId ← ofOption "invalid delivery id" (X.stableDeliveryId mailbox.networkId
          r.recordId mailbox.recipientPrincipalId r.membershipVersion)
        fill mailbox ch rest { page with
          deliveries := page.deliveries ++ [⟨deliveryId, r.recordId, r.route, r.record,
            r.membershipVersion, r.enqueuedAt, r.expiresAt⟩]
          tags := page.tags ++ [d.deliveryTag] }
    | .control c => do
      bailIf (c.networkId ≠ mailbox.networkId ∨ c.targetPrincipalId ≠ mailbox.recipientPrincipalId ∨
          mailbox.deliveryClass ≠ .interactive)
        "RabbitMQ mailbox control binding mismatch"
      let deliveryId ← ofOption "invalid delivery id" (X.stableDeliveryId mailbox.networkId
        c.correlationId mailbox.recipientPrincipalId none)
      fill mailbox ch rest { page with
        controls := page.controls ++ [⟨deliveryId, c.correlationId, c.sourcePrincipalId,
          c.targetPrincipalId, c.controlKind, c.payload, c.enqueuedAt, c.expiresAt⟩]
        tags := page.tags ++ [d.deliveryTag] }

/-- `PulledPage`, without the fields that repeat the arguments. -/
structure PulledPage where
  binding : MailboxBinding
  deliveries : List MailboxDelivery
  controls : List MailboxControlDelivery
  consumerEpoch : Nat

def u16Max : Nat := 2 ^ 16 - 1

def pullPage (i : Nat) (mailbox : MailboxBinding) (pageId : String) (epoch limit : Nat) :
    PageProg (Option PulledPage) := do
  abandonExpiredPages D i mailbox
  let openedAt : Nat ← query (Query.instantNow i)
  run (.ensureTenantMailboxes mailbox.networkId mailbox.recipientPrincipalId)
  let ch : Nat ← query Query.createChannel
  run (.basicQos ch (min (D.gateway i).rabbitmqPrefetch (min (max limit 1) u16Max)))
  run (.basicConsume ch
    (queueName X.toWattswarm mailbox.networkId mailbox.recipientPrincipalId mailbox.deliveryClass))
  let messages ← collect ch limit
  run (.basicCancel ch)
  if messages = [] then do
    run (.close ch)
    return none
  else do
    let page ← fill X D mailbox ch messages ⟨[], [], []⟩
    run (.insertPending i pageId ⟨ch, page.tags, mailbox.networkId, mailbox.recipientPrincipalId,
      mailbox.deliveryClass, epoch, openedAt⟩)
    if page.deliveries.isEmpty ∧ page.controls.isEmpty then do
      let pending : Option PendingPage ← query (Query.removePending i pageId)
      match pending with
      | some pending => do
        run (.close pending.channel)
        return none
      | none => return none
    else return some ⟨mailbox, page.deliveries, page.controls, epoch⟩

def mismatch : String := "page commit owner, principal, class, or epoch mismatch"

def commitPage (i : Nat) (pageId principalId : String) (deliveryClass : DeliveryClass)
    (epoch : Nat) : PageProg (Option Nat) := do
  let pending : Option PendingPage ← query (Query.removePending i pageId)
  match pending with
  | none => return none
  | some pending => do
    bailIf (pending.principalId ≠ principalId ∨ pending.deliveryClass ≠ deliveryClass ∨
      pending.consumerEpoch ≠ epoch) mismatch
    forEach pending.deliveryTags fun tag => run (.basicAck pending.channel tag)
    run (.close pending.channel)
    return some pending.deliveryTags.length

end RabbitAdapter

/-! ## The handlers -/

/-- `mailbox_binding_key`, with the class. -/
def ownerKey (networkId principalId : String) (cls : DeliveryClass) : String × DeliveryClass :=
  (toString networkId.utf8ByteSize ++ ":" ++ networkId ++ principalId, cls)

def tryAcquireDeliveryOwner (i : Nat) (mailbox : MailboxBinding) (epoch : Nat) : PageProg Bool := do
  bailIf (i64Max < (D.gateway i).deliveryOwnerLease) "owner lease is too large"
  query (Query.tryAcquireOwner
    (ownerKey mailbox.networkId mailbox.recipientPrincipalId mailbox.deliveryClass)
    (D.gateway i).instanceId epoch ((D.gateway i).internalRoute.getD "")
    (D.gateway i).deliveryOwnerLease)

def loadDeliveryOwner (claims : CommitClaims) : PageProg DeliveryOwner := do
  let owner : Option DeliveryOwner ←
    query (Query.loadOwner (ownerKey claims.networkId claims.principalId claims.deliveryClass))
  ofOption "delivery owner lease is gone; page will requeue" owner

def releaseDeliveryOwner (networkId principalId : String) (cls : DeliveryClass)
    (instanceId : String) (epoch : Nat) : PageProg Unit :=
  run (.releaseOwner (ownerKey networkId principalId cls) instanceId epoch)

inductive Reply where
  | noContent
  | page (page : DeliveryPage)
  | committed (deliveries gaps : Nat)
  | reaped (pages : Nat)

section

variable (i : Nat)

/-- The page and the gaps of an owner; without either the ownership ends. -/
def pullOwned (mailbox : MailboxBinding) (pageId : String) (epoch limit : Nat) :
    PageProg (Option RabbitAdapter.PulledPage × List MailboxGap) := do
  let page ← RabbitAdapter.pullPage X D i mailbox pageId epoch limit
  let gaps ← onGaps (Gaps.loadForPage ⟨mailbox.networkId, mailbox.recipientPrincipalId,
    mailbox.deliveryClass, pageId⟩ limit (D.gateway i).deliveryOwnerLease)
  if page.isNone ∧ gaps.isEmpty then do
    releaseDeliveryOwner mailbox.networkId mailbox.recipientPrincipalId mailbox.deliveryClass
      (D.gateway i).instanceId epoch
    return (page, gaps)
  else return (page, gaps)

/-- The token of a page and the answer with both. -/
def answerPage (mailbox : MailboxBinding) (pageId : String) (epoch : Nat)
    (page : Option RabbitAdapter.PulledPage) (gaps : List MailboxGap) : PageProg Reply := do
  let now : Nat ← query (Query.nowMs i)
  let claims : CommitClaims := ⟨pageId, mailbox.networkId, mailbox.recipientPrincipalId,
    mailbox.deliveryClass, (D.gateway i).instanceId, (page.map (·.consumerEpoch)).getD epoch,
    satAdd now (min (D.gateway i).deliveryOwnerLease u64Max)⟩
  let commitToken ← ofExcept (issue X D.commitHmacSecret claims)
  run (.issue claims)
  let response : DeliveryPage := ⟨pageId, (page.map (·.binding)).getD mailbox,
    (page.map (·.deliveries)).getD [], (page.map (·.controls)).getD [], gaps, commitToken⟩
  bailIf (X.pageValid response = false) "invalid delivery page"
  return .page response

def pullPage (session : VerifiedSession) (cls : DeliveryClass) (limit : Option Nat) :
    PageProg Reply := do
  let limit := min (limit.getD (D.gateway i).deliveryPageSize) (D.gateway i).deliveryPageSize
  let mailbox : MailboxBinding := ⟨session.networkId, session.principalId, cls⟩
  let pageId : String ← query Query.newPageId
  let epoch : Nat ← query Query.newEpoch
  let acquired ← tryAcquireDeliveryOwner D i mailbox epoch
  if acquired then do
    let (page, gaps) ← pullOwned X D i mailbox pageId epoch limit
    if page.isNone ∧ gaps.isEmpty then return .noContent
    else answerPage X D i mailbox pageId epoch page gaps
  else return .noContent

def commitLocalDeliveries (claims : CommitClaims) : PageProg (Option Nat) := do
  let owner ← loadDeliveryOwner claims
  bailIf (owner.instanceId ≠ claims.ownerInstanceId ∨ owner.consumerEpoch ≠ claims.consumerEpoch ∨
    owner.instanceId ≠ (D.gateway i).instanceId)
    "delivery owner epoch changed; old commit token is invalid"
  let committed ← RabbitAdapter.commitPage i claims.pageId claims.principalId claims.deliveryClass
    claims.consumerEpoch
  match committed with
  | some n => do
    releaseDeliveryOwner claims.networkId claims.principalId claims.deliveryClass
      claims.ownerInstanceId claims.consumerEpoch
    return some n
  | none => return none

def commitOwnedPage (request : CommitRequest) : PageProg (Option Nat) := do
  let now : Nat ← query (Query.nowMs i)
  let claims ← ofExcept (verify X D.commitHmacSecret request.commitToken now)
  bailIf (claims.pageId ≠ request.pageId ∨ claims.deliveryClass ≠ request.deliveryClass ∨
    claims.ownerInstanceId ≠ (D.gateway i).instanceId) "internal commit owner binding mismatch"
  commitLocalDeliveries D i claims

end

def trimEndSlashes (s : String) : String :=
  String.ofList ((s.toList.reverse.dropWhile (· = '/')).reverse)

def forwardCommitToOwner (i : Nat) (request : CommitRequest) (claims : CommitClaims) :
    PageProg (Option Nat) := do
  let owner ← loadDeliveryOwner claims
  bailIf (owner.instanceId ≠ claims.ownerInstanceId ∨ owner.consumerEpoch ≠ claims.consumerEpoch ∨
    owner.ownerRoute.isEmpty) "delivery owner epoch changed; old commit token is invalid"
  let _ ← ofOption "owner forwarding mTLS identity is unavailable"
    (D.gateway i).internalMtlsIdentityPem
  let _ ← ofOption "owner forwarding mTLS CA is unavailable" (D.gateway i).internalMtlsCaPem
  let route := trimEndSlashes owner.ownerRoute ++ "/internal/v1/mailbox/commit"
  run (.post route)
  let j ← ofOption "error sending request" (D.answering route)
  let committed ← commitOwnedPage X D j request
  run .respond
  return committed

/-- The commit of the page's deliveries, here or at their owner. -/
def commitDeliveries (i : Nat) (request : CommitRequest) (claims : CommitClaims) :
    PageProg (Option Nat) :=
  if claims.ownerInstanceId = (D.gateway i).instanceId then commitLocalDeliveries D i claims
  else forwardCommitToOwner X D i request claims

/-- With acknowledged gaps the ownership ends. -/
def releaseAfterGaps (claims : CommitClaims) (committedGaps : Nat) : PageProg Unit :=
  if committedGaps > 0 then
    releaseDeliveryOwner claims.networkId claims.principalId claims.deliveryClass
      claims.ownerInstanceId claims.consumerEpoch
  else return ()

def commitPage (i : Nat) (session : VerifiedSession) (request : CommitRequest) :
    PageProg Reply := do
  let now : Nat ← query (Query.nowMs i)
  let claims ← ofExcept (verify X D.commitHmacSecret request.commitToken now)
  bailIf (claims.pageId ≠ request.pageId ∨ claims.networkId ≠ session.networkId ∨
    claims.principalId ≠ session.principalId ∨ claims.deliveryClass ≠ request.deliveryClass)
    "commit token binding mismatch"
  let committedDeliveries ← commitDeliveries X D i request claims
  let committedGaps ← onGaps (Gaps.acknowledgePage
    ⟨session.networkId, session.principalId, request.deliveryClass, request.pageId⟩)
  releaseAfterGaps claims committedGaps
  bailIf (committedDeliveries.isNone ∧ committedGaps = 0) "page owner is gone or already committed"
  return .committed (committedDeliveries.getD 0) committedGaps

/-- A request of a client with a session, or one round of the reaping task. -/
inductive Call where
  | pull (i : Nat) (session : VerifiedSession) (cls : DeliveryClass) (limit : Option Nat)
  | commit (i : Nat) (session : VerifiedSession) (request : CommitRequest)
  | reap (i : Nat)

def Call.prog : Call → PageProg Reply
  | .pull i session cls limit => pullPage X D i session cls limit
  | .commit i session request => commitPage X D i session request
  | .reap i => return .reaped (← RabbitAdapter.reapExpiredPages D i)

abbrev PageSys := Sys Cmd Query Ans PageWorld Reply

def start (gaps : Gaps.GapWorld) (owners : Table (String × DeliveryClass) OwnerRow)
    (calls : Nat → Call) : PageSys :=
  Sys.start
    { gaps := gaps
      owners := owners
      wall := fun _ => 0
      instant := fun _ => 0
      nextUuid := 0
      place := fun _ => none
      channels := fun _ => ⟨none, 0, false, [], 0, none, false⟩
      nextChannel := 0
      pending := fun _ => .empty
      acks := [] }
    fun t => (calls t).prog X D

end WattGateway.Message.Pages

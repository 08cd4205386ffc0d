import WattGateway.Message.Gaps
import WattGateway.Message.Service

/-!
# Dead letters

The mailbox names of `rabbit.rs` and `drain_dead_letters`, on any instances, without its metrics.
The broker hands out the first message of the queue and keeps it aside until it is acknowledged;
when a call ends, a message that was not goes back into the queue, at a place that is left open
(`place`). The letter a call has in hand stands for the call in the ghost columns of `Gaps`.
-/

namespace WattGateway.Message.DeadLetters

open Prog List Sys

/-! ## Mailbox names -/

section Names

variable (X : Wattswarm)

def networkQueueComponent (networkId : String) : String := X.hex (.text networkId)

def principalFromQueueName (queue networkId : String) : Option String :=
  match (queue.toList.splitOn '.').map String.ofList with
  | [ws, cs, network, principal, _cls] =>
    if ws = "ws" ∧ cs = "cs" ∧ network = networkQueueComponent X networkId then some principal
    else none
  | _ => none

section

variable (hhex : ∀ d, '.' ∉ (X.hex d).toList) (n p : String) (c : DeliveryClass)
include hhex n p c

lemma split_queueName : (queueName X n p c).toList.splitOn '.' =
      ['w', 's'] :: ['c', 's'] :: (X.hex (.text n)).toList :: (p.toList.splitOn '.' ++
        [c.asStr.toList]) := by
  have hc : '.' ∉ c.asStr.toList := by cases c <;> decide
  have hn : (queueName X n p c).toList = ['w', 's'] ++ '.' :: (['c', 's'] ++ '.' ::
      ((X.hex (.text n)).toList ++ '.' :: (p.toList ++ '.' :: c.asStr.toList))) := by
    simp [queueName, String.toList_append]
  rw [hn, splitOn_append_cons_self_of_not_mem (by decide),
    splitOn_append_cons_self_of_not_mem (by decide),
    splitOn_append_cons_self_of_not_mem (hhex _), splitOn_append_cons_self, splitOn_eq_singleton hc]

/-- A name leads back to its principal if the principal's id has no dot, and nowhere else. -/
lemma principalFromQueueName_queueName :
    principalFromQueueName X (queueName X n p c) n = if '.' ∈ p.toList then none else some p := by
  unfold principalFromQueueName
  rw [split_queueName X hhex]
  split_ifs with hd
  · -- the parts of the id
    obtain ⟨_, b, hp, ha⟩ := eq_append_cons_of_mem hd
    rw [hp, splitOn_append_cons_self_of_not_mem ha]
    obtain ⟨_, xs, hb⟩ := exists_cons_of_ne_nil (splitOn_ne_nil '.' b)
    rw [hb]
    cases xs <;> rfl
  · rw [splitOn_eq_singleton hd]
    simp [networkQueueComponent]

end

end Names

/-! ## Letters -/

/-- A value of a message header; a long string with its text if it is UTF-8. -/
inductive AmqpValue where
  | longString (text : Option String)
  | shortString (text : String)
  | other
  deriving DecidableEq

def amqpString : AmqpValue → Option String
  | .longString text => text
  | .shortString text => some text
  | .other => none

/-- A message with the headers `x-first-death-reason` and `x-first-death-queue`. -/
structure DeadMessage where
  data : Bytes
  firstDeathReason : Option AmqpValue
  firstDeathQueue : Option AmqpValue
  deriving DecidableEq

/-- What a drain reads of an envelope. -/
structure Lost where
  networkId : String
  sourcePrincipalId : Option String
  route : EventTransportRoute
  deliveryClass : DeliveryClass
  deliveryPolicyVersion : Nat

def lostOf : BrokerEnvelope → Lost
  | .record r => ⟨r.networkId, some r.sourcePrincipalId, r.route, r.deliveryClass,
      r.deliveryPolicyVersion⟩
  | .control c => ⟨c.networkId, none, c.gapRoute, .interactive, c.deliveryPolicyVersion⟩

/-- Code outside the repository: the crates, and the decoding of an envelope. -/
structure Outside where
  wattswarm : Wattswarm
  gaps : Gaps.Outside
  fromSlice : Bytes → Option BrokerEnvelope

section Drain

variable (O : Outside)

/-- The envelope of a message and the principal of the mailbox it died in. -/
def mailbox (message : DeadMessage) : Except String (Lost × String) := do
  let envelope ← orFail "invalid envelope" (O.fromSlice message.data)
  let lost := lostOf envelope
  let queue ← orFail "dead letter is missing x-first-death-queue"
    (message.firstDeathQueue.bind amqpString)
  let principal ← orFail "dead letter queue does not identify a mailbox principal"
    (principalFromQueueName O.wattswarm queue lost.networkId)
  return (lost, principal)

def gapReason (message : DeadMessage) : Gaps.MailboxGapReason :=
  if (message.firstDeathReason.bind amqpString).getD "delivery_limit" = "expired" then .expired
  else .deliveryLimitExceeded

/-! ## Programs -/

inductive Cmd where
  | gap (c : Gaps.Cmd)
  /-- `basic_ack` of the message in hand. -/
  | ack

inductive Query where
  | createChannel
  | basicGet
  | gap (q : Gaps.Query)
  | clock

abbrev Ans : Query → Type
  | .createChannel => Unit
  | .basicGet => Option DeadMessage
  | .gap q => Gaps.Ans q
  | .clock => Nat

abbrev Drain := Prog Cmd Query Ans

def recordGap (message : DeadMessage) (lost : Lost) (principal : String) : Drain Nat := do
  let now ← query Query.clock
  (Gaps.recordGap O.gaps lost.networkId principal lost.deliveryClass lost.deliveryPolicyVersion
    lost.route (gapReason message) now).lift .gap .gap fun _ a => a

/-- The body of the loop: how many gaps the message adds. -/
def drainOne (message : DeadMessage) : Drain Nat := do
  let (lost, principal) ← ofExcept (mailbox O message)
  if lost.sourcePrincipalId = some principal then do
    run .ack
    return 0
  else do
    let _ ← recordGap O message lost principal
    run .ack
    return 1

/-- The loop, with the iterations left and the gaps recorded. -/
def drainLoop : Nat → Nat → Drain Nat
  | 0, recorded => return recorded
  | n + 1, recorded => do
    let message : Option DeadMessage ← query Query.basicGet
    match message with
    | none => return recorded
    | some message => do
      let k ← drainOne O message
      drainLoop n (satAdd recorded k)

def drainDeadLetters (limit : Nat) : Drain Nat := do
  let _ : Unit ← query Query.createChannel
  drainLoop O limit 0

end Drain

/-! ## The machine -/

/-- A message of the dead-letter queue with its number. -/
structure Letter where
  seq : Nat
  message : DeadMessage
  deriving DecidableEq

structure DlqWorld where
  /-- The queue, first message first. -/
  ready : List Letter
  /-- The letter each call has in hand. -/
  held : Table Nat Letter
  gaps : Gaps.GapWorld
  arrived : List Letter
  acked : List Letter

namespace DlqWorld

section

variable (w : DlqWorld)

def take (t : Nat) (l : Letter) (rest : List Letter) : DlqWorld :=
  { w with ready := rest, held := w.held.upsert t fun _ => l }

def drop (t : Nat) : DlqWorld :=
  { w with held := w.held.delete fun t' _ => t' = t }

def requeue (k : Nat) (l : Letter) : DlqWorld :=
  { w with ready := w.ready.take k ++ l :: w.ready.drop k }

/-- The number under which the call's gaps are counted. -/
def letterOf (t : Nat) : Nat := ((w.held.get? t).map Letter.seq).getD w.arrived.length

end

end DlqWorld

def perform (t : Nat) (c : Cmd) (o : Outcome) (w : DlqWorld) :
    Option (Except String Unit × DlqWorld) :=
  match c with
  | .gap c => (Gaps.perform (w.letterOf t) c o w.gaps).map fun x => (x.1, { w with gaps := x.2 })
  | .ack =>
    match w.held.get? t, o with
    | some l, .ok => some (.ok (), { w.drop t with acked := l :: w.acked })
    | some l, .lost => some (.error "broker error", { w.drop t with acked := l :: w.acked })
    | _, _ => some (.error "broker error", w)

def answer (t : Nat) (q : Query) (o : Outcome) (w : DlqWorld) :
    Option (Except String (Ans q) × DlqWorld) :=
  match q with
  | .createChannel =>
    match o with
    | .ok => some (.ok (), w)
    | _ => some (.error "broker error", w)
  | .basicGet =>
    match w.ready, o with
    | [], .ok => some (.ok none, w)
    | l :: rest, .ok => some (.ok (some l.message), w.take t l rest)
    | l :: rest, .lost => some (.error "broker error", w.take t l rest)
    | _, _ => some (.error "broker error", w)
  | .gap q => (Gaps.answer t q o w.gaps).map fun x => (x.1, { w with gaps := x.2 })
  | .clock => some (.ok w.gaps.now, w)

/-- The end of call `t` closes its channel. -/
def finish (place : DlqWorld → Letter → Nat) (t : Nat) (w : DlqWorld) : DlqWorld :=
  match w.held.get? t with
  | none => w
  | some l => (w.drop t).requeue (place w l) l

/-- Messages die, and time passes. -/
inductive Env where
  | arrive (message : DeadMessage)
  | tick (ms : Nat)

def Env.run : Env → DlqWorld → DlqWorld
  | .arrive message, w => { w with
      ready := w.ready ++ [⟨w.arrived.length, message⟩]
      arrived := w.arrived ++ [⟨w.arrived.length, message⟩] }
  | .tick ms, w => { w with gaps := { w.gaps with now := w.gaps.now + ms } }

def drains (place : DlqWorld → Letter → Nat) : Machine Cmd Query Ans DlqWorld Env where
  clock w := w.gaps.now
  perform := perform
  answer := answer
  finish := finish place
  env := Env.run

abbrev DrainState := Sys Cmd Query Ans DlqWorld Nat

def initial (O : Outside) (limits : Nat → Nat) (now : Nat) : DrainState :=
  start ⟨[], .empty, ⟨.empty, now, [], [], []⟩, [], []⟩ fun t => drainDeadLetters O (limits t)

abbrev Reachable (O : Outside) (place : DlqWorld → Letter → Nat) (limits : Nat → Nat) (now : Nat)
    (s : DrainState) : Prop :=
  Reaches (drains place) anyStep (initial O limits now) s

end WattGateway.Message.DeadLetters

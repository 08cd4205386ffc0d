import WattGateway.Lib.Progress
import WattGateway.Message.Auth
import WattGateway.Message.Publish

/-!
# The connection pool

The calls of one instance share a pool of 20 connections. A statement through the pool takes one for
itself; `begin_scope_fence` and `pool.begin()` take one that the transaction keeps until it ends. A
token bucket counts as one statement. The programs are those of `Publish` and `Auth` with their
connections written out (`Prog.onPool`); the machine blocks a call at a connection, a conflicting
fence, or a row that another session proof has locked.
-/

namespace WattGateway.Message

open Prog

/-! ## Programs on the pool -/

inductive PoolCmd where
  /-- Take a connection, to be kept by a transaction or for one statement. -/
  | acquire (tx : Bool)
  /-- The connection of a statement goes back. -/
  | release
  | gateway (c : Cmd)
  | auth (c : AuthCmd)

inductive PoolQuery where
  | gateway (q : Query)
  | auth (q : AuthQuery)

abbrev PoolAns : PoolQuery → Type
  | .gateway q => Ans q
  | .auth q => AuthAns q

abbrev Pooled := Prog PoolCmd PoolQuery PoolAns

abbrev PoolHist := Hist PoolCmd PoolQuery PoolAns

/-- The connection a command or query needs: none, one for itself, or one to keep. -/
inductive Use where
  | none
  | borrow
  | keep
  deriving DecidableEq

def Cmd.use : Cmd → Use
  | .begin _ _ _ => .keep
  | .exec _ => .borrow
  | _ => .none

def Query.use : Query → Use
  | .select _ => .borrow
  | .globalToken _ _ => .borrow
  | .nonGlobalTokens _ _ => .borrow
  | .txSelect _ => .none
  | .clock => .none

def AuthCmd.use : AuthCmd → Use
  | .begin => .keep
  | _ => .none

def AuthQuery.use : AuthQuery → Use
  | .principalIsAdmitted _ _ => .borrow
  | _ => .none

def useCmd {α : Type} (u : Use) (c : PoolCmd) (k : Pooled α) : Pooled α :=
  match u with
  | .none => .cmd c k
  | .borrow => .cmd (.acquire false) (.cmd c (.cmd .release k))
  | .keep => .cmd (.acquire true) (.cmd c k)

def useAsk {α : Type} (u : Use) (q : PoolQuery) (k : PoolAns q → Pooled α) : Pooled α :=
  match u with
  | .none => .ask q k
  | .borrow => .cmd (.acquire false) (.ask q fun a => .cmd .release (k a))
  | .keep => .cmd (.acquire true) (.ask q k)

def onPool {α : Type} : Gw α → Pooled α
  | .ret a => .ret a
  | .fail e => .fail e
  | .cmd c k => useCmd c.use (.gateway c) (onPool k)
  | .ask q k => useAsk q.use (.gateway q) fun a => onPool (k a)

def authOnPool {α : Type} : Auth α → Pooled α
  | .ret a => .ret a
  | .fail e => .fail e
  | .cmd c k => useCmd c.use (.auth c) (authOnPool k)
  | .ask q k => useAsk q.use (.auth q) fun a => authOnPool (k a)

/-! ## Calls -/

inductive PoolCall where
  | publish (session : VerifiedSession) (frame : PublishFrame)
  | proveSession (request : SessionProofRequest)

inductive PoolReply where
  | publish (r : PublishAcceptance)
  | proveSession (r : SessionResponse)

structure Instance where
  wattswarm : Wattswarm
  crates : AuthCrates
  config : Config
  sessionTtlMs : Nat

def PoolCall.prog (I : Instance) : PoolCall → Pooled PoolReply
  | publish session frame => do
    let r ← onPool (Message.publish I.wattswarm I.config session frame)
    return .publish r
  | proveSession request => do
    let r ← authOnPool (Message.proveSession I.wattswarm I.crates I.sessionTtlMs request)
    return .proveSession r

/-! ## The machine -/

/-- `max_connections` of `connect`. -/
def maxConnections : Nat := 20

structure PoolWorld where
  gateway : World
  auth : AuthState
  /-- The taken connections: the call, and whether a transaction keeps it. -/
  conns : List (Nat × Bool)

namespace PoolWorld

def endTx (w : PoolWorld) (t : Nat) : PoolWorld := { w with conns := w.conns.erase (t, true) }

def txConns (w : PoolWorld) : List (Nat × Bool) := w.conns.filter fun x => x.2

end PoolWorld

def poolPerform (t : Nat) (c : PoolCmd) (o : Outcome) (w : PoolWorld) :
    Option (Except String Unit × PoolWorld) :=
  match c with
  | .acquire tx =>
    if w.conns.length < maxConnections then some (.ok (), { w with conns := (t, tx) :: w.conns })
    else none
  | .release => some (.ok (), { w with conns := w.conns.erase (t, false) })
  | .gateway c =>
    match perform t c o w.gateway with
    | none => none
    | some (r, g) =>
      some (r, match c with
        | .commit => { w with gateway := g }.endTx t
        | _ => { w with gateway := g })
  | .auth c =>
    let (r, a) := authPerform t c o w.gateway.now w.auth
    some (r, match c with
      | .commit => { w with auth := a }.endTx t
      | _ => { w with auth := a })

def poolAnswer (t : Nat) (q : PoolQuery) (o : Outcome) (w : PoolWorld) :
    Option (Except String (PoolAns q) × PoolWorld) :=
  match q with
  | .gateway q => (answer t q o w.gateway).map fun x => (x.1, { w with gateway := x.2 })
  | .auth q => (authAnswer t q o w.gateway w.auth).map fun x => (x.1, { w with auth := x.2 })

/-- The end of a call closes its transaction and gives its connections back. -/
def poolFinish (t : Nat) (w : PoolWorld) : PoolWorld where
  gateway := w.gateway.dropTx t
  auth := w.auth.dropTx t
  conns := w.conns.filter fun x => x.1 ≠ t

def pool : Machine PoolCmd PoolQuery PoolAns PoolWorld Env where
  clock w := w.gateway.now
  perform := poolPerform
  answer := poolAnswer
  finish := poolFinish
  env e w := { w with gateway := e.run w.gateway }

abbrev PoolState := Sys PoolCmd PoolQuery PoolAns PoolWorld PoolReply

def poolInitial (I : Instance) (calls : Nat → PoolCall) (w : PoolWorld) : PoolState :=
  Sys.start w fun t => (calls t).prog I

/-- Every connection of the pool is held by a call that is waiting to take a further one. -/
def Starved (s : PoolState) : Prop :=
  s.world.conns.length = maxConnections ∧
    ∀ x ∈ s.world.conns, ∃ tx k, (s.threads x.1).prog = .cmd (.acquire tx) k

/-- A call begins a transaction only while one more connection than its own is left for
statements. -/
def Reserve (s : PoolState) : Action Env → Prop
  | .run t _ => ∀ k, (s.threads t).prog = .cmd (.acquire true) k →
      s.world.txConns.length + 1 < maxConnections
  | .env _ => True

end WattGateway.Message

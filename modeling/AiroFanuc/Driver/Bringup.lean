import AiroFanuc.Driver.StreamCore
import AiroFanuc.Driver.Supervisor
import AiroFanuc.Library.Procedure
import Mathlib.Data.Rat.Defs

/-! The bring-up ladder, one RMI exchange and one call on the core at a time. -/

namespace AiroFanuc.Driver

open RtCore Library

/-- The exceptions a step of the bring-up may raise. A `TimeoutError` is an `OSError`. -/
inductive Exc
  | rmiError (errorId : Option Int)
  | sessionDown
  | connection
  | preflight
  | osError
  | valueError
  | typeError
  | overflowError
  | attributeError
  | recursionError
  deriving DecidableEq

namespace Exc

/-- `RmiError`, `RmiSessionDown` and `OSError`. -/
def link : Exc → Bool
  | rmiError _ | sessionDown | osError => true
  | _ => false

/-- What `bringup` retries. -/
def retried : Exc → Bool
  | connection => true
  | e => e.link

/-- What `bringup` is written to raise. -/
def listed : Exc → Bool
  | preflight => true
  | e => e.retried

end Exc

/-- A JSON value under a key of a reply. A string stands with what `int()` and `float()` read
in it. -/
inductive Value
  | absent
  | null
  | bool (b : Bool)
  | int (n : Int)
  | float (q : Rat)
  | infinite
  | nan
  | text (content : String) (asInt : Option Int) (asFloat : Option Rat)
  | nested
  deriving DecidableEq

namespace Value

/-- `int(reply.get(key, default))`. -/
def toInt (default : Int) : Value → Except Exc Int
  | absent => .ok default
  | bool b => .ok b.toInt
  | int n => .ok n
  | float q => .ok (q.num.tdiv q.den)
  | text _ (some n) _ => .ok n
  | text _ none _ | nan => .error .valueError
  | infinite => .error .overflowError
  | null | nested => .error .typeError

/-- The least whole number that `float()` refuses. -/
def floatRange : Int := 2 ^ 1024 - 2 ^ 970

/-- `float(value) == 0.0`, of a value that is there. -/
def floatIsZero : Value → Except Exc Bool
  | bool b => .ok !b
  | int n => if |n| < floatRange then .ok (n = 0) else .error .overflowError
  | float q => .ok (q = 0)
  | text _ _ (some q) => .ok (q = 0)
  | infinite | nan => .ok false
  | text _ _ none => .error .valueError
  | absent | null | nested => .error .typeError

def isNone : Value → Bool
  | absent | null => true
  | _ => false

end Value

/-- The keys of a reply. -/
abbrev Reply := String → Value

/-- How an exchange ends on the wire. -/
inductive Link
  | replied
  | dead
  | malformed
  | notObject
  | tooDeep
  deriving DecidableEq

/-- What the controller and the core do next. -/
structure Answer where
  /-- The reader has dropped the socket. -/
  lost : Bool
  link : Link
  reply : Reply
  ok : Bool
  polls : Nat
  /-- What the core meets until then. -/
  meanwhile : List CoreEvent
  /-- What the core meets from one poll of a wait to the next. -/
  between : List (List CoreEvent)

inductive Program
  | launcher
  | streamMotn
  deriving DecidableEq

/-- The waits on the core: `wait_ready`, `_wait_mode(HOLD)`, `_wait` for motion possible, and
`_motion_possible_holds`. -/
inductive Wait
  | ready
  | hold
  | possible
  | settled
  deriving DecidableEq

/-- The calls a bring-up makes. -/
inductive Request
  | connect
  | command (name : String)
  | writeRegister
  | readRegister
  | disconnect
  | coreStart
  | coreStop
  | coreRecover
  | wait (wait : Wait)
  | checks
  deriving DecidableEq

structure BringupPolicy extends DriverPolicy where
  enableGripper : Bool
  preflightFull : Bool
  bringupSettles : Bool

structure World where
  sup : State
  core : StreamCore
  answers : Nat → Answer
  asked : Nat
  /-- The RMI socket is open. -/
  sock : Bool
  /-- `core.running`. -/
  running : Bool
  grprunForked : Bool
  attempt : Nat
  requests : List Request
  /-- The attempts that probed for the dispatcher, and whether the trigger register cleared. -/
  probes : List (Nat × Bool)
  /-- The attempts whose FRC_Call of the launcher was delivered. -/
  launches : List Nat
  /-- A field of a reply was refused with the socket open or the core running. -/
  slipped : Bool
  /-- The core has begun to stream, from the pose it measured, in this bring-up. -/
  began : Bool

abbrev Bringup := Procedure World Exc

/-- The core's thread runs between `start()` and `stop()`. -/
def World.pass (w : World) (events : List CoreEvent) : World :=
  if w.running then
    { w with
      core := w.core.run events
      began := w.began || !w.core.streamingReady && (w.core.run events).streamingReady }
  else w

def pass (events : List CoreEvent) : Bringup Unit := Procedure.modify fun w => w.pass events

def ask (request : Request) : Bringup Answer := do
  let a ← Procedure.read fun w => w.answers w.asked
  Procedure.modify fun w => { w with asked := w.asked + 1, requests := w.requests ++ [request] }
  pass a.meanwhile
  pure a

/-- A conversion of a reply's field that may raise. -/
def convert {α : Type} : Except Exc α → Bringup α
  | .ok a => pure a
  | .error e => do
    Procedure.modify fun w => { w with slipped := w.slipped || w.sock || w.running }
    Procedure.raise e

def setSock (sock : Bool) : Bringup Unit := Procedure.modify fun w => { w with sock := sock }

/-- The core's thread starts with no packet of its first window. -/
def startCore : Bringup Unit :=
  Procedure.modify fun w => { w with running := true, core := { w.core with rx := none } }

def stopCore : Bringup Unit := Procedure.modify fun w => { w with running := false }

def setState (policy : BringupPolicy) (state : LifecycleState) : Bringup Unit :=
  Procedure.modify fun w =>
    { w with sup := w.sup.setStateLocked policy.toDriverPolicy state .none false }

/-! ### The RMI client -/

/-- `ErrorID` is there and not zero. -/
def errorId (reply : Reply) : Bringup Int :=
  if (reply "ErrorID").isNone then pure 0 else convert ((reply "ErrorID").toInt 0)

/-- `_open_session_locked`. -/
def openSession : Bringup Unit := do
  let a ← ask .connect
  match a.link with
  | .dead => Procedure.raise .osError
  | .malformed => convert (.error .valueError)
  | .notObject => convert (.error .attributeError)
  | .tooDeep => convert (.error .recursionError)
  | .replied =>
    let eid ← errorId a.reply
    if eid ≠ 0 then Procedure.raise (.rmiError (some eid))
    else
      match a.reply "PortNumber" with
      | .int port =>
        if port ≤ 0 then Procedure.raise (.rmiError none)
        else if 65535 < port then convert (.error .overflowError)
        else if a.ok then setSock true
        else Procedure.raise .osError
      | .bool true => if a.ok then setSock true else Procedure.raise .osError
      | _ => Procedure.raise (.rmiError none)

/-- `RmiClient.start`. -/
def rmiStart : Bringup Unit :=
  openSession.catching fun e =>
    Procedure.raise (if e = .osError then .connection else e)

def ensureOpen : Bringup Unit := do
  let sock ← Procedure.read World.sock
  if sock then pure () else openSession

/-- `_send_and_wait_locked`. -/
def sendAndWait (raiseOnErrorId : Bool) (a : Answer) : Bringup Reply := do
  let sock ← Procedure.read World.sock
  if sock = false ∨ a.link ≠ .replied then Procedure.raise .osError
  else
    let eid ← errorId a.reply
    if eid ≠ 0 ∧ raiseOnErrorId then Procedure.raise (.rmiError (some eid)) else pure a.reply

def drop (a : Answer) : Bringup Unit := if a.lost then setSock false else pure ()

/-- An attempt of `_exchange_with_retry`. -/
def exchangeOnce (request : Request) : Bringup Reply := do
  let a ← ask request
  drop a
  ensureOpen
  sendAndWait true a

/-- The second attempt behind a transport error of the first, and its end. -/
def retrying {α : Type} (once : Bringup α) : Bringup α :=
  once.catching fun e =>
    if e = .osError then do
      setSock false
      once.catching fun e =>
        if e = .osError then do
          setSock false
          Procedure.raise .sessionDown
        else Procedure.raise e
    else Procedure.raise e

/-- `_exchange_with_retry`. -/
def exchange (request : Request) : Bringup Reply := retrying (exchangeOnce request)

structure ControllerStatus where
  tpMode : Int
  rmiMotionStatus : Int
  programStatus : Int
  numberUtool : Int
  nextSequenceId : Int
  numberUframe : Int
  overridePct : Int

def getStatus : Bringup ControllerStatus := do
  let reply ← exchange (.command "FRC_GetStatus")
  let tpMode ← convert ((reply "TPMode").toInt 0)
  let rmiMotionStatus ← convert ((reply "RMIMotionStatus").toInt 0)
  let programStatus ← convert ((reply "ProgramStatus").toInt 0)
  let numberUtool ← convert ((reply "NumberUTool").toInt 0)
  let nextSequenceId ← convert ((reply "NextSequenceID").toInt 1)
  let numberUframe ← convert ((reply "NumberUFrame").toInt 0)
  let overridePct ← convert ((reply "Override").toInt 0)
  pure ⟨tpMode, rmiMotionStatus, programStatus, numberUtool, nextSequenceId, numberUframe,
    overridePct⟩

def getExtendedStatus : Bringup Unit := do
  let reply ← exchange (.command "FRC_GetExtStatus")
  let _ ← convert ((reply "GenOverride").toInt 0)
  if (reply "SpeedClampLimit").isNone then pure ()
  else do
    let _ ← convert (reply "SpeedClampLimit").floatIsZero
    pure ()

/-- The alarm texts of an `FRC_ReadError` reply. -/
def errorMessages (reply : Reply) : List String :=
  ["ErrorData", "ErrorData2", "ErrorData3", "ErrorData4", "ErrorData5"].filterMap fun key =>
    match reply key with
    | .text content _ _ => if content = "" then none else some content
    | _ => none

def readError : Bringup (List String) := do
  let reply ← exchange (.command "FRC_ReadError")
  let _ ← convert ((reply "ErrorID").toInt 0)
  let _ ← convert ((reply "Count").toInt (errorMessages reply).length)
  pure (errorMessages reply)

def reset : Bringup Unit := do
  let _ ← exchange (.command "FRC_Reset")
  pure ()

/-- An attempt of `program_call`. -/
def callOnce (program : Program) : Bringup Unit := do
  let a ← ask (.command "FRC_Call")
  drop a
  ensureOpen
  if a.link = .replied then
    Procedure.modify fun w =>
      { w with
        launches := if program = .launcher then w.launches ++ [w.attempt] else w.launches }
  else Procedure.raise .osError

def programCall (program : Program) : Bringup Unit := retrying (callOnce program)

def readRegisterIsZero : Bringup Bool := do
  let reply ← exchange .readRegister
  if (reply "RegisterValue").isNone then Procedure.raise (.rmiError none)
  else convert (reply "RegisterValue").floatIsZero

def disconnect (a : Answer) : Bringup Unit := do
  let _ ← sendAndWait false a
  pure ()

/-- Whatever is raised in it is swallowed. -/
def silenced (x : Bringup Unit) : Bringup Unit := do
  let slipped ← Procedure.read World.slipped
  x.catching fun _ => pure ()
  Procedure.modify fun w => { w with slipped := slipped }

def disconnectOpen : Bringup Unit := do
  let a ← ask .disconnect
  silenced (disconnect a)

/-- `RmiClient.stop`. -/
def rmiStop : Bringup Unit := do
  let sock ← Procedure.read World.sock
  (if sock then disconnectOpen else pure ())
  setSock false

def prepOnce (a : Answer) : Bringup Unit := do
  let reply ← sendAndWait false a
  let _ ← errorId reply
  pure ()

/-- `_send_prep_command_locked`. -/
def sendPrep (name : String) : Bringup Unit := do
  let a ← ask (.command name)
  drop a
  (prepOnce a).catching fun e => if e = .osError then pure () else Procedure.raise e

/-- `FRC_Initialize` and the reseed behind it. -/
def initializeOnce : Bringup Unit := do
  let a ← ask (.command "FRC_Initialize")
  drop a
  let _ ← sendAndWait true a
  let b ← ask (.command "FRC_GetStatus")
  drop b
  let reply ← sendAndWait true b
  let _ ← convert ((reply "NextSequenceID").toInt 1)
  pure ()

/-- `RmiClient.initialize`. -/
def rmiInitialize : Bringup Unit := do
  ensureOpen
  sendPrep "FRC_GetStatus"
  sendPrep "FRC_Reset"
  sendPrep "FRC_GetStatus"
  initializeOnce.catching fun e =>
    match e with
    | .rmiError _ | .osError => do
      sendPrep "FRC_Abort"
      sendPrep "FRC_Reset"
      sendPrep "FRC_GetStatus"
      initializeOnce
    | _ => Procedure.raise e

/-! ### The supervisor -/

/-- A handler for `except (RmiError, RmiSessionDown, OSError)`. -/
def onLink {α : Type} (x : Bringup α) (handler : Bringup α) : Bringup α :=
  x.catching fun e => if e.link then handler else Procedure.raise e

/-- `_maybe_continue`, and the reseed of a relaunch: `except (RmiError, RmiSessionDown)`. -/
def bestEffort (x : Bringup Unit) : Bringup Unit :=
  x.catching fun e =>
    match e with
    | .rmiError _ | .sessionDown => pure ()
    | _ => Procedure.raise e

def maybeContinue : Bringup Unit :=
  bestEffort do
    let _ ← exchange (.command "FRC_Continue")
    pure ()

def reseed : Bringup Unit := do
  let _ ← getStatus
  pure ()

/-- An alarm that no amount of retrying will clear. -/
def hardBlocks (alarms : List String) : Bool :=
  alarms.any fun alarm =>
    (alarm.splitOn "SYST-348").length ≠ 1 || (alarm.splitOn "SYST-322").length ≠ 1

/-- `_run_full_checks`, and whether it finds a hard block. -/
def runFullChecks : Bringup Bool := do
  let a ← ask .checks
  if a.link = .malformed then convert (.error .valueError) else pure !a.ok

def fullChecks (policy : BringupPolicy) : Bringup Bool :=
  if policy.preflightFull then runFullChecks else pure false

def runPreflight (policy : BringupPolicy) : Bringup Unit := do
  onLink (do
    let _ ← getStatus
    getExtendedStatus) (Procedure.raise .preflight)
  let alarms ← onLink readError (pure [])
  let blocked ← fullChecks policy
  if hardBlocks alarms || blocked then Procedure.raise .preflight else pure ()

/-- The polls of `_gripdisp_alive`. -/
def pollTrigger : Nat → Bringup Bool
  | 0 => pure false
  | polls + 1 => do
    let clear ← onLink (do
      let zero ← readRegisterIsZero
      pure (some zero)) (pure none)
    match clear with
    | some true => pure true
    | some false => pollTrigger polls
    | none => pure false

/-- `_gripdisp_alive`. -/
def gripdispAlive : Bringup Bool := do
  let wrote ← onLink (do
    let _ ← exchange .writeRegister
    let _ ← exchange .writeRegister
    let _ ← exchange .writeRegister
    pure true) (pure false)
  if wrote then do
    let polls ← Procedure.read fun w => (w.answers w.asked).polls
    pollTrigger polls
  else pure false

/-- `_reconnect_rmi_tolerating_already_connected`, with the attempts behind this one. -/
def reconnectRmi : Nat → Bringup Unit
  | 0 => rmiStart
  | more + 1 =>
    rmiStart.catching fun e =>
      if e = .rmiError (some errAlreadyConnected) then reconnectRmi more else Procedure.raise e

/-- The fork of GRPRUN, once in a `bringup()`. -/
def forkGrprun : Bringup Unit := do
  let alive ← gripdispAlive
  Procedure.modify fun w => { w with probes := w.probes ++ [(w.attempt, alive)] }
  if alive then Procedure.modify fun w => { w with grprunForked := true }
  else do
    programCall .launcher
    Procedure.modify fun w => { w with grprunForked := true }
    reset
    rmiStop
    reconnectRmi (reconnectTries - 1)

def startDispatcher (policy : BringupPolicy) : Bringup Unit := do
  let forked ← Procedure.read World.grprunForked
  if policy.enableGripper && !forked then forkGrprun else pure ()

/-- `_rmi_relaunch_stream_motn`, with no poll for an abort. -/
def relaunchStreamMotn : Bringup Unit := do
  reset
  maybeContinue
  bestEffort reseed
  programCall .streamMotn

namespace Wait

/-- What a poll reads: the flag itself, or the snapshot published last. -/
def seen (core : StreamCore) : Wait → Bool
  | ready => core.streamingReady
  | hold => decide (core.shownMode = .hold)
  | possible | settled => core.shownPossible

/-- The poll at which the wait is over. -/
def sought : Wait → Bool
  | settled => false
  | _ => true

/-- `_wait` gives up on the stop event. -/
def stoppable : Wait → Bool
  | hold | possible => true
  | ready | settled => false

end Wait

/-- The polls of a wait, the last one at its deadline. -/
def polled (wait : Wait) : List (List CoreEvent) → Bringup Bool
  | [] => if wait = .settled then pure true else Procedure.read fun w => wait.seen w.core
  | events :: rest => do
    let seen ← Procedure.read fun w => wait.seen w.core
    if seen = wait.sought then pure wait.sought
    else do
      pass events
      polled wait rest

def await (wait : Wait) : Bringup Bool := do
  let a ← ask (.wait wait)
  let found ← polled wait a.between
  pure (found && (a.ok || !wait.stoppable))

/-- `core.recover()` leaves its request for the next window. -/
def coreRecover : Bringup Unit := do
  let _ ← ask .coreRecover
  Procedure.modify fun w => { w with core := { w.core with recoverReq := true } }

/-- The attempts of `_settle_stream_motn`. -/
def settleAttempts : Nat → Bringup Bool
  | 0 => await .settled
  | attempts + 1 => do
    let holds ← await .settled
    if holds then pure true
    else do
      relaunchStreamMotn
      let possible ← await .possible
      if possible then do
        coreRecover
        let _ ← await .hold
        settleAttempts attempts
      else settleAttempts attempts

def settleStreamMotn (policy : BringupPolicy) : Bringup Bool :=
  if policy.bringupSettles then settleAttempts 2 else pure true

def coreStart : Bringup Bool := do
  let a ← ask .coreStart
  let running ← Procedure.read World.running
  if running then pure true
  else if a.ok then do
    startCore
    pure true
  else pure false

/-- A check whose failure is a `FanucConnectionError`. -/
def require (ok : Bool) : Bringup Unit :=
  if ok then pure () else Procedure.raise .connection

/-- RMI_CONNECTING: the session, the preflight and the Init ladder. -/
def connectRmi (policy : BringupPolicy) : Bringup Unit := do
  rmiStart
  runPreflight policy
  rmiInitialize
  maybeContinue

/-- TP_LAUNCH: the dispatcher and STREAM_MOTN, with the reseed right before its call. -/
def launchTp (policy : BringupPolicy) : Bringup Unit := do
  reset
  startDispatcher policy
  reseed
  programCall .streamMotn

/-- SM_HANDSHAKE: the core starts, and streams once motion is possible. -/
def prerollSm : Bringup Unit := do
  let started ← coreStart
  require started
  let ready ← await .ready
  require ready

/-- The core holds, and motion stays possible. -/
def commandableSm (policy : BringupPolicy) : Bringup Unit := do
  let hold ← await .hold
  require hold
  let settled ← settleStreamMotn policy
  require settled

def handshakeSm (policy : BringupPolicy) : Bringup Unit := do
  prerollSm
  commandableSm policy

/-- `_bringup_once`. -/
def bringupOnce (policy : BringupPolicy) : Bringup Unit := do
  setState policy .rmiConnecting
  connectRmi policy
  setState policy .tpLaunch
  launchTp policy
  setState policy .smHandshake
  handshakeSm policy
  setState policy .streaming

def coreStop : Bringup Unit := do
  let _ ← ask .coreStop
  stopCore

/-- `_teardown_partial`. -/
def teardownPartial : Bringup Unit := do
  let running ← Procedure.read World.running
  (if running then coreStop else pure ())
  rmiStop

/-- `_triage`. -/
def triage : Bringup Unit :=
  onLink (do
    let _ ← getStatus
    let _ ← readError
    pure ()) (pure ())

def attempted (policy : BringupPolicy) : Bringup (Option Exc) := do
  bringupOnce policy
  pure none

/-- What `bringup` makes of an attempt's ending, with the attempts behind it. -/
def concluded (again : Bringup Unit) : Option Exc → Bringup Unit
  | none => pure ()
  | some e =>
    if e = .preflight then do
      teardownPartial
      Procedure.raise .preflight
    else if e.retried then do
      triage
      teardownPartial
      again
    else Procedure.raise e

/-- The attempts of `bringup`, from this one on. -/
def bringupAttempts (policy : BringupPolicy) : Nat → Bringup Unit
  | 0 => do
    setState policy .disconnected
    Procedure.raise .connection
  | more + 1 => do
    Procedure.modify fun w => { w with attempt := w.attempt + 1 }
    let raised ← (attempted policy).catching fun e => pure (some e)
    concluded (bringupAttempts policy more) raised

/-- The stop event is cleared, the fork is armed, and the records of a bring-up start over. -/
def World.anew (w : World) : World :=
  { w with
    sup := { w.sup with stopEvt := false }
    grprunForked := false
    attempt := 0
    requests := []
    probes := []
    launches := []
    slipped := false
    began := false }

/-- `bringup`. -/
def bringup (policy : BringupPolicy) : Bringup Unit := do
  Procedure.modify World.anew
  bringupAttempts policy policy.connectRetries

/-- A reply with no error in it, and what it gives for a register. -/
def goodReply (register : Int) : Reply := fun key =>
  if key = "PortNumber" then .int 16002
  else if key = "RegisterValue" then .int register
  else .absent

/-- The gates of a controller that takes commands. -/
def goodGates : Gates := { Gates.initial with motionPossible := true }

def healthy : Answer where
  lost := false
  link := .replied
  reply := goodReply 1
  ok := true
  polls := 2
  meanwhile := []
  between := [[.packet goodGates, .window none none]]

def CoreLimits.shipped : CoreLimits := ⟨63, 13, 63⟩

/-- A new driver before a controller that answers as given. -/
def World.first (limits : CoreLimits) (answers : Nat → Answer) : World where
  sup := .initial
  core := .new limits
  answers := answers
  asked := 0
  sock := false
  running := false
  grprunForked := false
  attempt := 0
  requests := []
  probes := []
  launches := []
  slipped := false
  began := false

/-- A new driver before a controller that is healthy but for these answers. -/
def World.fresh (faults : List (Nat × Answer)) : World :=
  .first .shipped fun n => (faults.lookup n).getD healthy

def BringupPolicy.shipped : BringupPolicy :=
  { DriverPolicy.shipped with
    enableGripper := true
    preflightFull := false
    bringupSettles := true }

end AiroFanuc.Driver

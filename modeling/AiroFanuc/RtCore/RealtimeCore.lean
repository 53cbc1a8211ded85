import AiroFanuc.RtCore.Run

/-! The RT loop around the tick core: caller threads, the mailbox and the RT thread take
their atomic steps in any order. The socket, the clock servo and the counters are left out;
a status packet arrives decoded, with the finite floats its ingest insists on. -/

namespace AiroFanuc.RtCore

open TickEngine Library

/-- Slots of the mailbox, the retire ring and the event ring: each ring keeps one free. -/
def kMailboxRoom : Nat := 15
def kRetireRoom : Nat := 63
def kPyEventRoom : Nat := 1023

def kVelTaps : Nat := 5
def kResolutions : Nat := 1024

structure RobotStatusView (R : Type) where
  sequenceNo : Nat
  status : UInt8
  robotStatus : UInt8
  contactStopStatus : UInt8
  timeStamp : Nat
  position : Fin 9 → R
  jointAngle : Fin 9 → R
  safetyScale : R
  forceX : R
  forceY : R
  forceZ : R
  momentX : R
  momentY : R
  momentZ : R
  fsType : Nat

structure StateSnapshot (R : Type) where
  qMeas : Vec6 R
  qdEst : Vec6 R
  qCmd : Vec6 R
  qdCmd : Vec6 R
  qddCmd : Vec6 R
  cart : Fin 9 → R
  rxSeq : Nat
  txSeq : Nat
  cmdTick : Nat
  ctrlTimeStampMs : Nat
  rxMonoNs : Int
  eStopped : Bool
  inError : Bool
  tpEnabled : Bool
  motionPossible : Bool
  motionInProgress : Bool
  contactStopStatus : UInt8
  safetyScale : R
  fx : R
  fy : R
  fz : R
  mx : R
  my : R
  mz : R
  fsType : Nat
  wrenchValid : Bool
  mode : Mode
  fault : FaultReason
  conditions : Conditions
  active : ActiveMotion
  epoch : Nat
  totalSlewClips : Nat
  rxFresh : Bool

/-- A command packet as sent: the sequence number, the last-command flag, degrees. -/
structure Datagram (R : Type) where
  txSeq : Nat
  isLast : Bool
  posDeg : Vec6 R

inductive ControlOp where
  | stop
  | hold
  | recover
  | kick
  | heartbeat
  deriving DecidableEq, Repr

/-- The order in which the RT loop exchanges the request flags. -/
def ControlOp.exchangeOrder : List ControlOp := [.stop, .hold, .recover, .kick, .heartbeat]

/-- Where a thread inside `submit_mu_` is in `enqueue_`. -/
inductive EnqueueStage where
  | locked
  | named
  | dated
  | stamped
  deriving DecidableEq, Repr

structure Submission (R : Type) where
  target : Target R
  stage : EnqueueStage

/-- Where the RT thread is; a value it carries is a local of `rt_main_`. -/
inductive RtPhase (R : Type) where
  | down
  | waiting
  | exchanging (rest : List ControlOp)
  | draining (last : Option (Target R))
  | drained (last : Option (Target R))
  | checked (last : Option (Target R)) (consumeSuperseded : Bool)
  | ticked (last : Option (Target R)) (cmd : Command R)
  | exited

/-- What a caller asks for through one of the `submit_*` calls. -/
inductive Request (R : Type) where
  | trajectory (timesNs : List Int) (q qd : List (Vec6 R)) (speedScale settleTolRad
      settleVelEpsRadS settleTimeoutS forceStopN deadmanS : R)
  | servo (q : Vec6 R) (durationS : R)
  | brake
  | hold

structure RealtimeCore (R : Type) where
  core : TickCore R
  running : Bool
  stopFlag : Bool
  clearing : Bool
  phase : RtPhase R
  rx : Option (RxSample R)
  velTaps : List (Int × Vec6 R)
  streamingReady : Bool
  requested : ControlOp → Bool
  stopGen : Nat
  openStops : List Nat
  mailbox : List (Target R)
  submission : Option (Submission R)
  nextMotionId : Nat
  publishedEpoch : Nat
  liveBuffers : List Owner
  nextSerial : Nat
  retireRing : List Owner
  activeTrajOwner : Option Owner
  txSeq : Nat
  sent : List (Datagram R)
  snap : StateSnapshot R
  resolutions : List (Nat × MotionStatus)
  pyEvents : List Event

inductive Label (R : Type) where
  | start
  | stop
  | exit
  | join
  | clear
  | packet (rxMono : Int) (view : RobotStatusView R)
  | timer
  | exchange
  | pop
  | check
  | tick
  | settle
  | submit (request : Request R) (addr : Nat)
  | enqueue
  | stopBump
  | stopStore (gen : Nat)
  | request (op : ControlOp)
  | reap
  | drainEvents (max : Nat)

variable {R : Type} [Field R] [LinearOrder R] [FloorRing R]

def Request.isTrajectory : Request R → Bool
  | .trajectory .. => true
  | _ => false

/-- The payload a submission fills in before `enqueue_` tags it. -/
def Request.target : Request R → Target R
  | .trajectory timesNs q qd speedScale settleTolRad settleVelEpsRadS settleTimeoutS forceStopN
      deadmanS =>
    { (Target.empty : Target R) with
      kind := .trajectory
      timesNs := some timesNs
      q := some q
      qd := some qd
      n := q.length
      speedScale := speedScale
      settleTolRad := settleTolRad
      settleVelEpsRadS := settleVelEpsRadS
      settleTimeoutS := settleTimeoutS
      forceStopN := forceStopN
      deadmanS := deadmanS }
  | .servo q durationS =>
    { (Target.empty : Target R) with kind := .servo, servoQ := q, servoDurationS := durationS }
  | .brake => { (Target.empty : Target R) with kind := .brake }
  | .hold => { (Target.empty : Target R) with kind := .hold }

def StateSnapshot.initial : StateSnapshot R where
  qMeas := 0
  qdEst := 0
  qCmd := 0
  qdCmd := 0
  qddCmd := 0
  cart := 0
  rxSeq := 0
  txSeq := 0
  cmdTick := 0
  ctrlTimeStampMs := 0
  rxMonoNs := 0
  eStopped := false
  inError := false
  tpEnabled := false
  motionPossible := false
  motionInProgress := false
  contactStopStatus := 0
  safetyScale := 0
  fx := 0
  fy := 0
  fz := 0
  mx := 0
  my := 0
  mz := 0
  fsType := 0
  wrenchValid := false
  mode := .streamDown
  fault := .none
  conditions := .none
  active := ⟨0, .pending⟩
  epoch := 0
  totalSlewClips := 0
  rxFresh := false

/-- The slope over the taps held, newest first; no slope from one tap or a stopped clock. -/
def slopeEstimate (taps : List (Int × Vec6 R)) : Vec6 R :=
  match taps.head?, taps.getLast? with
  | some newest, some oldest =>
    let dt : R := ((newest.1 - oldest.1 : Int) : R) / 10 ^ 9
    if taps.length < 2 ∨ dt ≤ 0 then 0 else fun j => (newest.2 j - oldest.2 j) / dt
  | _, _ => 0

/-- The measured joints of a packet in radians; its last three axes are not driven. -/
def RobotStatusView.qMeas (view : RobotStatusView R) : Vec6 R :=
  fun j => deg2rad (view.jointAngle (j.castLE (by decide)))

def RobotStatusView.gates (view : RobotStatusView R) (cfg : RtCoreConfig R) : Gates :=
  decodeGates view.status view.robotStatus view.contactStopStatus view.safetyScale
    cfg.safetyScaleMin

def RobotStatusView.sample (view : RobotStatusView R) (cfg : RtCoreConfig R) (rxMono : Int)
    (qdEst : Vec6 R) : RxSample R where
  qMeas := view.qMeas
  qdEst := qdEst
  gates := view.gates cfg
  safetyScale := view.safetyScale
  contactStopStatus := view.contactStopStatus
  fx := view.forceX
  fy := view.forceY
  fz := view.forceZ
  mx := view.momentX
  my := view.momentY
  mz := view.momentZ
  fsType := view.fsType
  wrenchValid := view.fsType = 1 || view.fsType = 2
  rxSeq := view.sequenceNo
  ctrlTimeStampMs := view.timeStamp
  cart := view.position
  rxMonoNs := rxMono

namespace RealtimeCore

def new (cfg : RtCoreConfig R) : RealtimeCore R where
  core := .new cfg
  running := false
  stopFlag := false
  clearing := false
  phase := .down
  rx := none
  velTaps := []
  streamingReady := false
  requested := fun _ => false
  stopGen := 0
  openStops := []
  mailbox := []
  submission := none
  nextMotionId := 1
  publishedEpoch := 0
  liveBuffers := []
  nextSerial := 0
  retireRing := []
  activeTrajOwner := none
  txSeq := 0
  sent := []
  snap := .initial
  resolutions := []
  pyEvents := []

/-! ### Caller threads -/

/-- The first live buffer at the address goes: an address is all a `get()` compares. -/
def freeAt (live : List Owner) (owner : Owner) : List Owner :=
  live.eraseP fun o => o.addr = owner.addr

/-- `reap_retired_locked_`: pops the retire ring empty. -/
def reapRetired (s : RealtimeCore R) : RealtimeCore R :=
  { s with liveBuffers := s.retireRing.foldl freeAt s.liveBuffers, retireRing := [] }

/-- The allocator may hand out any address that no live buffer occupies. -/
def allocBuffer (s : RealtimeCore R) (addr : Nat) : RealtimeCore R :=
  { s with
    liveBuffers := s.liveBuffers ++ [⟨addr, s.nextSerial⟩]
    nextSerial := s.nextSerial + 1 }

/-- A `submit_*` call up to its `enqueue_`, under the lock. -/
def beginSubmit (s : RealtimeCore R) (request : Request R) (addr : Nat) :
    Option (RealtimeCore R) :=
  if s.submission.isSome then none
  else
    let s := s.reapRetired
    if request.isTrajectory then
      if s.liveBuffers.any (fun o => o.addr = addr) then none
      else
        let owner : Owner := ⟨addr, s.nextSerial⟩
        let s := s.allocBuffer addr
        some { s with
          submission := some ⟨{ request.target with bufferOwner := some owner }, .locked⟩ }
    else some { s with submission := some ⟨request.target, .locked⟩ }

/-- A full mailbox drops the target and frees its buffer at once. -/
def pushMailbox (s : RealtimeCore R) (t : Target R) : RealtimeCore R :=
  if s.mailbox.length < kMailboxRoom then { s with mailbox := s.mailbox ++ [t] }
  else
    match t.bufferOwner with
    | some owner => { s with liveBuffers := freeAt s.liveBuffers owner }
    | none => s

/-- The next atomic step of the `enqueue_` in progress; the push ends the call. -/
def enqueue (s : RealtimeCore R) : Option (RealtimeCore R) :=
  match s.submission with
  | none => none
  | some ⟨t, .locked⟩ =>
    some { s with
      submission := some ⟨{ t with motionId := s.nextMotionId }, .named⟩
      nextMotionId := s.nextMotionId + 1 }
  | some ⟨t, .named⟩ =>
    some { s with submission := some ⟨{ t with epoch := s.publishedEpoch }, .dated⟩ }
  | some ⟨t, .dated⟩ =>
    some { s with submission := some ⟨{ t with stopGen := s.stopGen }, .stamped⟩ }
  | some ⟨t, .stamped⟩ => some { s.pushMailbox t with submission := none }

/-- `stop_j` bumps the generation first; its call is named by the value it wrote. -/
def stopBump (s : RealtimeCore R) : RealtimeCore R :=
  { s with stopGen := s.stopGen + 1, openStops := s.openStops ++ [s.stopGen + 1] }

def stopStore (s : RealtimeCore R) (gen : Nat) : Option (RealtimeCore R) :=
  if gen ∈ s.openStops then
    some { s with
      requested := Function.update s.requested .stop true
      openStops := s.openStops.erase gen }
  else none

/-! ### The RT thread -/

/-- A packet of the receive window: only the last one's sample is kept for the tick. The
first one under which motion is possible begins the streaming. -/
def ingestPacket (s : RealtimeCore R) (rxMono : Int) (view : RobotStatusView R) :
    RealtimeCore R :=
  let taps := ((rxMono, view.qMeas) :: s.velTaps).take kVelTaps
  let sample := view.sample s.core.cfg rxMono (slopeEstimate taps)
  let s := { s with velTaps := taps, rx := some sample }
  if s.streamingReady = false ∧ sample.gates.motionPossible = true then
    let core := s.core.beginStreaming view.qMeas
    { s with core := core, publishedEpoch := core.health.epoch, streamingReady := true }
  else s

def forward (core : TickCore R) : ControlOp → TickCore R
  | .stop => core.requestStop
  | .hold => core.requestHold
  | .recover => core.requestRecover
  | .kick => core.kick
  | .heartbeat => core.heartbeat

/-- One `exchange(false)` and the request it forwards. -/
def exchange (s : RealtimeCore R) (op : ControlOp) : RealtimeCore R :=
  if s.requested op then
    { s with requested := Function.update s.requested op false, core := forward s.core op }
  else s

def recordResolution (s : RealtimeCore R) (motionId : Nat) (status : MotionStatus) :
    RealtimeCore R :=
  { s with resolutions := ((motionId, status) :: s.resolutions).take kResolutions }

def pushPyEvent (s : RealtimeCore R) (e : Event) : RealtimeCore R :=
  if s.pyEvents.length < kPyEventRoom then { s with pyEvents := s.pyEvents ++ [e] } else s

def retire (s : RealtimeCore R) (owner : Owner) : RealtimeCore R :=
  if s.retireRing.length < kRetireRoom then { s with retireRing := s.retireRing ++ [owner] }
  else s

def retireOwner (s : RealtimeCore R) (owner : Option Owner) : RealtimeCore R :=
  match owner with
  | some owner => s.retire owner
  | none => s

/-- A popped target displaces the one popped before it, whose motion ends preempted. -/
def displace (s : RealtimeCore R) (last : Target R) : RealtimeCore R :=
  let s := if last.kind = .trajectory then s.retireOwner last.bufferOwner else s
  if last.motionId = 0 then s
  else
    (s.recordResolution last.motionId .preempted).pushPyEvent
      ⟨.motionPreempted, .none, last.motionId, s.core.health.epoch, 0⟩

def pop (s : RealtimeCore R) (last : Option (Target R)) : RealtimeCore R :=
  match s.mailbox with
  | [] => { s with phase := .drained last }
  | t :: rest =>
    let s := { s with mailbox := rest, phase := .draining (some t) }
    match last with
    | some displaced => s.displace displaced
    | none => s

def isSuperseded (s : RealtimeCore R) (last : Option (Target R)) : Bool :=
  last.any fun t => decide (t.stopGen ≠ s.stopGen)

def runTick (lib : External R) (s : RealtimeCore R) (last : Option (Target R))
    (consumeSuperseded : Bool) : RealtimeCore R :=
  let (cmd, core) := s.core.tick lib s.rx last consumeSuperseded
  { s with core := core, phase := .ticked last cmd }

/-- Which buffer the tick just run has made redundant. -/
def retireConsumed (s : RealtimeCore R) (last : Option (Target R)) : RealtimeCore R :=
  match last with
  | none => s
  | some t =>
    let accepted := s.core.lastConsume.accepted
    if t.kind = .trajectory then
      if accepted then
        { s.retireOwner s.activeTrajOwner with activeTrajOwner := t.bufferOwner }
      else s.retireOwner t.bufferOwner
    else if accepted = true ∧ s.activeTrajOwner ≠ none ∧
        (t.kind = .servo ∨ t.kind = .brake ∨ t.kind = .hold) then
      { s.retireOwner s.activeTrajOwner with activeTrajOwner := none }
    else s

def send (s : RealtimeCore R) (qRad : Vec6 R) (isLast : Bool) : RealtimeCore R :=
  { s with
    txSeq := s.txSeq + 1
    sent := s.sent ++ [⟨s.txSeq + 1, isLast, fun j => rad2deg (qRad j)⟩] }

/-- Without a fresh packet the measured half of the last snapshot is published again. -/
def publishSnapshot (s : RealtimeCore R) (cmd : Command R) : RealtimeCore R :=
  let measured : StateSnapshot R :=
    match s.rx with
    | some rx =>
      { s.snap with
        qMeas := rx.qMeas
        qdEst := rx.qdEst
        cart := rx.cart
        rxSeq := rx.rxSeq
        ctrlTimeStampMs := rx.ctrlTimeStampMs
        rxMonoNs := rx.rxMonoNs
        eStopped := rx.gates.eStopped
        inError := rx.gates.inError
        tpEnabled := rx.gates.tpEnabled
        motionPossible := rx.gates.motionPossible
        motionInProgress := rx.gates.motionInProgress
        contactStopStatus := rx.contactStopStatus
        safetyScale := rx.safetyScale
        fx := rx.fx
        fy := rx.fy
        fz := rx.fz
        mx := rx.mx
        my := rx.my
        mz := rx.mz
        fsType := rx.fsType
        wrenchValid := rx.wrenchValid }
    | none =>
      { s.snap with fx := 0, fy := 0, fz := 0, mx := 0, my := 0, mz := 0, fsType := 0,
                    wrenchValid := false }
  { s with
    snap :=
      { measured with
        qCmd := cmd.qRad
        qdCmd := s.core.anchor.qdCmd
        qddCmd := s.core.anchor.qddCmd
        cmdTick := s.core.tickNo
        txSeq := s.txSeq
        mode := s.core.health.mode
        fault := s.core.health.fault
        conditions := s.core.health.conditions
        active := s.core.active
        epoch := s.core.health.epoch
        totalSlewClips := s.core.slew.totalClips
        rxFresh := s.rx.isSome } }

def drainEvent (s : RealtimeCore R) (e : Event) : RealtimeCore R :=
  let s :=
    if isResolutionEvent e.type = true ∧ e.motionId ≠ 0 then
      s.recordResolution e.motionId (eventToStatus e.type)
    else s
  s.pushPyEvent e

def drainTickEvents (s : RealtimeCore R) : RealtimeCore R :=
  { s.core.events.foldl drainEvent s with core := { s.core with events := [] } }

/-- What follows the tick in its window: publish the epoch, retire, send, publish, drain. -/
def settle (s : RealtimeCore R) (last : Option (Target R)) (cmd : Command R) : RealtimeCore R :=
  let s := { s with publishedEpoch := s.core.health.epoch }
  let s := s.retireConsumed last
  let s := if cmd.tx then s.send cmd.qRad cmd.isLast else s
  let s := (s.publishSnapshot cmd).drainTickEvents
  { s with rx := none, phase := .waiting }

/-! ### Sessions -/

/-- `start()` resets the thread's own locals and the TX sequence, nothing else. -/
def start (s : RealtimeCore R) : Option (RealtimeCore R) :=
  if s.running = true ∨ s.clearing = true then none
  else some { s with running := true, stopFlag := false, phase := .waiting, rx := none, txSeq := 0 }

/-- The RT thread reads the flag at its loop head; a streaming one sends a last command. -/
def exit (s : RealtimeCore R) : RealtimeCore R :=
  let s := if s.streamingReady then s.send s.core.anchor.qCmd true else s
  { s with phase := .exited }

def join (s : RealtimeCore R) : RealtimeCore R :=
  { s.reapRetired with running := false, clearing := true, phase := .down }

def clear (s : RealtimeCore R) : RealtimeCore R :=
  { s with liveBuffers := [], clearing := false }

/-! ### The machine -/

def step (lib : External R) (s : RealtimeCore R) : Label R → Option (RealtimeCore R)
  | .start => s.start
  | .stop => if s.running then some { s with stopFlag := true } else none
  | .exit =>
    match s.phase with
    | .waiting => if s.stopFlag then some s.exit else none
    | _ => none
  | .join =>
    match s.phase with
    | .exited => if s.submission.isNone then some s.join else none
    | _ => none
  | .clear => if s.clearing = true ∧ s.submission.isNone then some s.clear else none
  | .packet rxMono view =>
    match s.phase with
    | .waiting => some (s.ingestPacket rxMono view)
    | _ => none
  | .timer =>
    match s.phase with
    | .waiting => some { s with phase := .exchanging ControlOp.exchangeOrder }
    | _ => none
  | .exchange =>
    match s.phase with
    | .exchanging (op :: rest) =>
      some { s.exchange op with phase := if rest = [] then .draining none else .exchanging rest }
    | _ => none
  | .pop =>
    match s.phase with
    | .draining last => some (s.pop last)
    | _ => none
  | .check =>
    match s.phase with
    | .drained last => some { s with phase := .checked last (s.isSuperseded last) }
    | _ => none
  | .tick =>
    match s.phase with
    | .checked last consumeSuperseded => some (s.runTick lib last consumeSuperseded)
    | _ => none
  | .settle =>
    match s.phase with
    | .ticked last cmd => some (s.settle last cmd)
    | _ => none
  | .submit request addr => s.beginSubmit request addr
  | .enqueue => s.enqueue
  | .stopBump => some s.stopBump
  | .stopStore gen => s.stopStore gen
  | .request op =>
    if op = .stop then none
    else some { s with requested := Function.update s.requested op true }
  | .reap => if s.submission.isNone then some s.reapRetired else none
  | .drainEvents max => some { s with pyEvents := s.pyEvents.drop max }

def machine (lib : External R) (cfg : RtCoreConfig R) : Machine (RealtimeCore R) (Label R) where
  start := .new cfg
  step := step lib

end RealtimeCore

/-! ### The bench's status packets and tick windows -/

section Bench

/-- A packet of an arm that stands at `q` degrees in every joint. -/
def benchView (status robotStatus : UInt8) (q : ℚ) : RobotStatusView ℚ where
  sequenceNo := 0
  status := status
  robotStatus := robotStatus
  contactStopStatus := 0
  timeStamp := 0
  position := 0
  jointAngle := fun _ => q
  safetyScale := 1
  forceX := 0
  forceY := 0
  forceZ := 0
  momentX := 0
  momentY := 0
  momentZ := 0
  fsType := 0

/-- Motion possible at zero, no kill gate up. -/
def benchClear : Label ℚ := .packet 0 (benchView 1 0 0)

/-- The same with the teach pendant enabled. -/
def benchPendant : Label ℚ := .packet 0 (benchView 1 2 0)

/-- The RT thread from its timer to the supersede check, over `targets` mailbox entries. -/
def benchUpToTick (targets : Nat) : List (Label ℚ) :=
  [.timer, .exchange, .exchange, .exchange, .exchange, .exchange] ++
    List.replicate (targets + 1) .pop ++ [.check]

def benchWindow (targets : Nat) : List (Label ℚ) := benchUpToTick targets ++ [.tick, .settle]

/-- A whole submission, from the lock to its release. -/
def benchSubmit (request : Request ℚ) (addr : Nat) : List (Label ℚ) :=
  [.submit request addr, .enqueue, .enqueue, .enqueue, .enqueue]

def benchServoRequest : Request ℚ := .servo 0 (8 / 1000)

/-- Two knots, 100 ms apart, that both stand at zero. -/
def benchPlan : Request ℚ := .trajectory [0, 100000000] [0, 0] [0, 0] 1 1 1 1 0 0

/-- One whole `stop()`. -/
def benchStop : List (Label ℚ) := [.stop, .exit, .join, .clear]

end Bench

end AiroFanuc.RtCore

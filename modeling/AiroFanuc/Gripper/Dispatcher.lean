import AiroFanuc.Gripper.Worker

/-! The registers, the dispatcher program that watches them, and the two parties of the driver
that write them: the worker and the liveliness probe of the bring-up. -/

namespace AiroFanuc.Gripper

open Library

/-- Who wrote what a register holds. It is not part of the register's content. -/
inductive Writer
  | nobody
  | command (number : Nat)
  | probe (number : Nat)
  deriving DecidableEq, Repr

structure Cell where
  value : Int
  writer : Writer
  deriving DecidableEq, Repr

/-- What the dispatcher acts on: the action and the modifier it read. -/
structure Act where
  action : Cell
  modifier : Cell
  deriving DecidableEq, Repr

/-- The dispatcher's loop. -/
inductive Dispatcher
  | idle
  | seen
  | verb (action : Cell)
  | acting (act : Act)
  | acted (act : Act)
  deriving DecidableEq, Repr

inductive Party
  | worker
  | probe
  deriving DecidableEq, Repr

def Party.other : Party → Party
  | worker => probe
  | probe => worker

/-- A command at one of its three register writes. -/
structure Write where
  action : Int
  modifier : Int
  writer : Writer
  register : Register
  deriving DecidableEq, Repr

namespace Write

variable (a : Write)

def act : Act := ⟨⟨a.action, a.writer⟩, ⟨a.modifier, a.writer⟩⟩

def cell : Cell :=
  match a.register with
  | .modifier => a.act.modifier
  | .action => a.act.action
  | .trigger => ⟨1, a.writer⟩

end Write

/-- `_gripdisp_alive`. -/
inductive Probe
  | idle
  | write (register : Register)
  | sleep
  | read
  deriving DecidableEq, Repr

def Probe.next : Probe → Outcome → Option Probe
  | write register, .passes =>
    match register.next with
    | some next => some (write next)
    | none => some sleep
  | write register, .repeats _ => some (write register)
  | write _, .fails _ _ => some idle
  | sleep, .passes => some read
  | sleep, .expires => some idle
  | read, .repeats _ => some read
  | read, .reads value => if value = 0 then some idle else some sleep
  | read, .fails _ _ => some idle
  | _, _ => none

/-- The register write that a task is at. -/
def Task.exchange : Task → Option Write
  | write c register => some ⟨c.action, c.modifier, .command c.number, register⟩
  | _ => none

/-- The register write that the `n`-th probe is at: an open at its default modifier. -/
def Probe.exchange (proto : RegisterGripperProtocol) (n : Nat) : Probe → Option Write
  | write register => some ⟨proto.openAction, proto.defaultOpenModifier, .probe n, register⟩
  | _ => none

/-- Whether the controller carries out the write that ends this way. -/
def Outcome.reached : Outcome → Bool
  | passes => true
  | repeats reached | fails _ reached => reached
  | reads _ | expires | stops => false

/-- A command of the worker as the dispatcher acts on it. -/
def Command.act (c : Command) : Act := ⟨⟨c.action, .command c.number⟩, ⟨c.modifier, .command c.number⟩⟩

/-- The worker, the probe and the dispatcher over the controller's registers. `begun` and `acts`
are what the dispatcher started and ended, `reported` the commands that the worker reported a
success for. -/
structure World (T : Type) where
  worker : State T
  probe : Probe
  probes : Nat
  registers : Nat → Cell
  dispatcher : Dispatcher
  begun : List Act
  acts : List Act
  reported : List Command

inductive WorldLabel (T : Type)
  | worker (label : Label T)
  | probes
  | probe (outcome : Outcome)
  | dispatcher
  deriving DecidableEq, Repr

namespace World

variable {T : Type}

def initial : World T where
  worker := .initial
  probe := .idle
  probes := 0
  registers _ := ⟨0, .nobody⟩
  dispatcher := .idle
  begun := []
  acts := []
  reported := []

variable (proto : RegisterGripperProtocol) (w : World T)

def cell (register : Register) : Cell := w.registers (proto.number register)

/-- The register write that a party is at. -/
def write : Party → Option Write
  | .worker => w.worker.task.exchange
  | .probe => w.probe.exchange proto w.probes

/-- What the registers hold after a party's exchange. -/
def exchange (p : Party) (outcome : Outcome) : Nat → Cell :=
  match w.write proto p with
  | some a =>
    if outcome.reached then Function.update w.registers (proto.number a.register) a.cell
    else w.registers
  | none => w.registers

/-- A read returns what the trigger register holds. -/
def Agrees : Outcome → Prop
  | .reads value => value = (w.cell proto .trigger).value
  | _ => True

instance (outcome : Outcome) : Decidable (w.Agrees proto outcome) := by
  unfold Agrees
  split <;> infer_instance

/-- The report that a `_finish` of the worker thread makes. -/
def reports (outcome : Outcome) : List Command :=
  match w.worker.task with
  | .finish c verdict =>
    if outcome = .passes ∧ verdict.success = true then c :: w.reported else w.reported
  | _ => w.reported

def dispatch : Option (World T) :=
  match w.dispatcher with
  | .idle =>
    if (w.cell proto .trigger).value = 1 then some { w with dispatcher := .seen } else none
  | .seen => some { w with dispatcher := .verb (w.cell proto .action) }
  | .verb action =>
    some { w with
      dispatcher := .acting ⟨action, w.cell proto .modifier⟩
      begun := ⟨action, w.cell proto .modifier⟩ :: w.begun }
  | .acting act => some { w with dispatcher := .acted act, acts := act :: w.acts }
  | .acted _ =>
    some { w with
      dispatcher := .idle
      registers := Function.update w.registers (proto.number .trigger) ⟨0, .nobody⟩ }

end World

section

variable {T : Type} [DecidableEq T] (proto : RegisterGripperProtocol)

def World.step (w : World T) : WorldLabel T → Option (World T)
  | .worker (.work outcome) =>
    if w.Agrees proto outcome then
      (w.worker.work proto outcome).map fun next =>
        { w with
          worker := next
          registers := w.exchange proto .worker outcome
          reported := w.reports outcome }
    else none
  | .worker label => (w.worker.step proto label).map fun next => { w with worker := next }
  | .probes =>
    if w.probe = .idle then some { w with probe := .write .modifier, probes := w.probes + 1 }
    else none
  | .probe outcome =>
    if w.Agrees proto outcome then
      (w.probe.next outcome).map fun next =>
        { w with probe := next, registers := w.exchange proto .probe outcome }
    else none
  | .dispatcher => w.dispatch proto

end

/-- The gripper path from the callers to the dispatcher. -/
def gripper (T : Type) [DecidableEq T] (proto : RegisterGripperProtocol) :
    Machine (World T) (WorldLabel T) where
  start := .initial
  step := World.step proto

end AiroFanuc.Gripper

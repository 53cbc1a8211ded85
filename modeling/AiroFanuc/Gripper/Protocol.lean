import Mathlib.Logic.Basic

/-! The register contract with the dispatcher TP program, and what a command asks of it. -/

namespace AiroFanuc.Gripper

/-- Which registers a dispatcher watches, and what may be written to them. -/
structure RegisterGripperProtocol where
  triggerReg : Nat
  actionReg : Nat
  modifierReg : Nat
  openAction : Int
  closeAction : Int
  openModifiers : List Int
  closeModifiers : List Int
  defaultOpenModifier : Int
  defaultCloseModifier : Int
  dispatcherProgram : String
  /-- `dispatch_timeout_s` with one decimal, as the timeout message shows it. -/
  dispatchTimeout : String
  name : String
  deriving DecidableEq, Repr

/-- What a caller passes for `open_state` or `close_force`. -/
inductive Selector
  | none
  | int (value : Int)
  | bool (value : Bool)
  | other
  deriving DecidableEq, Repr

inductive ValueError
  | notAnInt (field : String) (valid : List Int)
  | notListed (field : String) (valid : List Int) (protocol : String) (value : Int)
  deriving DecidableEq, Repr

inductive Verb
  | opening
  | closing
  deriving DecidableEq, Repr

def Verb.text : Verb → String
  | opening => "open"
  | closing => "close"

/-- One command on its way, numbered by its submission. -/
structure Command where
  number : Nat
  verb : Verb
  action : Int
  modifier : Int
  deriving DecidableEq, Repr

/-- The registers in the order a command writes them. -/
inductive Register
  | modifier
  | action
  | trigger
  deriving DecidableEq, Repr

def Register.next : Register → Option Register
  | modifier => some action
  | action => some trigger
  | trigger => none

namespace RegisterGripperProtocol

variable (proto : RegisterGripperProtocol)

def number : Register → Nat
  | .trigger => proto.triggerReg
  | .action => proto.actionReg
  | .modifier => proto.modifierReg

/-- `_validate_selector`. -/
def validateSelector (field : String) (valid : List Int) : Selector → Except ValueError Int
  | .int value =>
    if value ∈ valid then .ok value else .error (.notListed field valid proto.name value)
  | .none | .bool _ | .other => .error (.notAnInt field valid)

/-- The argument check of `open_gripper`. -/
def openModifier (openState : Selector) : Except ValueError Int :=
  proto.validateSelector "open_state" proto.openModifiers
    (if openState = .none then .int proto.defaultOpenModifier else openState)

/-- The argument check of `close_gripper`. -/
def closeModifier (closeForce : Selector) : Except ValueError Int :=
  proto.validateSelector "close_force" proto.closeModifiers
    (if closeForce = .none then .int proto.defaultCloseModifier else closeForce)

/-- The command that `open_gripper` or `close_gripper` submits. -/
def command (number : Nat) (verb : Verb) (selector : Selector) : Except ValueError Command :=
  match verb with
  | .opening => (proto.openModifier selector).map (⟨number, verb, proto.openAction, ·⟩)
  | .closing => (proto.closeModifier selector).map (⟨number, verb, proto.closeAction, ·⟩)

variable {proto}

theorem command_number {number : Nat} {verb : Verb} {selector : Selector} {c : Command}
    (accepted : proto.command number verb selector = .ok c) : c.number = number := by
  cases verb with
  | opening =>
    simp only [command, Except.map] at accepted
    split at accepted <;> cases accepted
    rfl
  | closing =>
    simp only [command, Except.map] at accepted
    split at accepted <;> cases accepted
    rfl

end RegisterGripperProtocol

/-- `ROBOTIQ_2F85`, the shipped preset. -/
def robotiq2F85 : RegisterGripperProtocol where
  triggerReg := 1
  actionReg := 2
  modifierReg := 3
  openAction := 1
  closeAction := 2
  openModifiers := [0, 1, 2]
  closeModifiers := [0, 1, 2]
  defaultOpenModifier := 0
  defaultCloseModifier := 1
  dispatcherProgram := "GRIPDISP"
  dispatchTimeout := "5.0"
  name := "Robotiq 2F-85 via GRIPDISP"

end AiroFanuc.Gripper

import AiroFanuc.Driver.Moves

/-! The gripper's fail-fast gate, which a rebuild and a recovery ladder both set and clear. -/

namespace AiroFanuc.Driver

open Library

/-- The ladder is at its `finally`. -/
def LadderStage.leaves : LadderStage → Bool
  | leaving _ => true
  | _ => false

namespace State

/-- No ladder comes to its `finally` while `reconnect()` holds the gate. -/
def Undisturbed (st : State) : Label → Prop
  | .ladder .go => st.rebuild.holds = true → ∀ l ∈ st.ladder, l.stage.leaves = false
  | _ => True

instance (st : State) (label : Label) : Decidable (st.Undisturbed label) := by
  unfold Undisturbed
  split <;> infer_instance

/-- Who holds the gate, and that no command passes it while `reconnect()` does. -/
structure Held (st : State) : Prop where
  held : st.rebuild.holds = true → st.gripperGate = true
  owned : st.gripperGate = true →
    st.rebuild.holds = true ∨ ∃ l ∈ st.ladder, l.stage.gated = true
  commands : true ∉ st.commands
  written : true ∉ st.written
  free : st.recovering = false → st.ladder = none

end State

section

variable {policy : DriverPolicy} {st st' : State} {label : Label}

namespace State.Held

theorem initial : Held State.initial where
  held holds := absurd holds Bool.false_ne_true
  owned gate := absurd gate Bool.false_ne_true
  commands := List.not_mem_nil
  written := List.not_mem_nil
  free _ := rfl

theorem held_step (sound : Held st) (legal : st.Undisturbed label)
    (moved : Moves policy st label st') (holds : st'.rebuild.holds = true) :
    st'.gripperGate = true := by
  cases moved with
  | published | booked | recorded | entered | excluded | read | reclassified | dropped | armed
    | stopped | returned | connected | retried | submitted | executed => exact sound.held holds
  | climbed input l running climbs =>
    cases climbs with
    | taken => rfl
    | entered | started | called | polled | reported | closed | released => exact sound.held holds
    | left ok stage =>
      have stays := legal holds l running
      rw [stage] at stays
      cases stays
  | shut idle rebuild open_ next => exact absurd (next.symm.trans holds) Bool.false_ne_true
  | began idle rebuild same => exact sound.held (same.symm.trans holds)
  | brought state caller rebuild brings after same => exact sound.held (same.symm.trans holds)
  | exhausted brings rebuild same => exact sound.held (same.symm.trans holds)
  | raised brings rebuild same => exact sound.held (same.symm.trans holds)
  | watched stopEvt watchers rebuild same => exact sound.held (same.symm.trans holds)
  | reconnected | released => cases holds
  | held => rfl

/-- A ladder on its way keeps the gate until its `finally`. -/
theorem owned_climbs {input : LadderInput} {l : Ladder} (sound : Held st)
    (running : st.ladder = some l) (climbs : Climbs policy st l input st')
    (gate : st'.gripperGate = true) :
    st'.rebuild.holds = true ∨ ∃ next ∈ st'.ladder, next.stage.gated = true := by
  have own (next : LadderStage) (gated : next.gated = true) :
      ∃ ladder ∈ some ({ l with stage := next } : Ladder), ladder.stage.gated = true :=
    ⟨_, rfl, gated⟩
  cases climbs with
  | taken | entered | started | reported | closed => exact .inr (own _ rfl)
  | called input call next calling gated => exact .inr (own next gated)
  | polled => exact sound.owned gate
  | left => cases gate
  | released ok stage =>
    rcases sound.owned gate with holds | ⟨other, held, gated⟩
    · exact .inl holds
    · cases running.symm.trans held
      rw [stage] at gated
      cases gated

theorem owned_step (sound : Held st) (moved : Moves policy st label st')
    (gate : st'.gripperGate = true) :
    st'.rebuild.holds = true ∨ ∃ l ∈ st'.ladder, l.stage.gated = true := by
  cases moved with
  | published | booked | recorded | excluded | read | reclassified | dropped | armed | stopped
    | returned | connected | retried | submitted | executed => exact sound.owned gate
  | climbed input l running climbs => exact sound.owned_climbs running climbs gate
  | entered explicit free =>
    rcases sound.owned gate with holds | ⟨l, running, -⟩
    · exact .inl holds
    · exact absurd ((sound.free free).symm.trans running) nofun
  | shut idle rebuild open_ =>
    rcases sound.owned gate with holds | owned
    · exact absurd (open_.symm.trans holds) Bool.false_ne_true
    · exact .inr owned
  | began idle rebuild same => exact (sound.owned gate).imp_left same.trans
  | brought state caller rebuild brings after same => exact (sound.owned gate).imp_left same.trans
  | exhausted brings rebuild same => exact (sound.owned gate).imp_left same.trans
  | raised brings rebuild same => exact (sound.owned gate).imp_left same.trans
  | watched stopEvt watchers rebuild same => exact (sound.owned gate).imp_left same.trans
  | reconnected free =>
    rcases sound.owned gate with holds | owned
    · rw [free] at holds
      cases holds
    · exact .inr owned
  | held => exact .inl rfl
  | released => cases gate

theorem commands_step (sound : Held st) (moved : Moves policy st label st') :
    true ∉ st'.commands := by
  cases moved with
  | published | booked | recorded | entered | excluded | read | reclassified | dropped | armed
    | shut | stopped | returned | began | connected | brought | retried | exhausted | raised
    | watched | reconnected | held | released => exact sound.commands
  | climbed input l running climbs =>
    obtain ⟨-, -, -, -, -, commands, -⟩ := climbs.frame
    rw [commands]
    exact sound.commands
  | submitted =>
    unfold State.gripperSubmit
    split
    case isTrue => exact sound.commands
    case isFalse open_ =>
      intro member
      rcases List.mem_append.mp member with old | new
      · exact sound.commands old
      · exact open_ (sound.held (List.mem_singleton.mp new).symm)
  | executed command rest queued =>
    intro member
    apply sound.commands
    rw [queued]
    exact List.mem_cons_of_mem _ member

theorem written_step (sound : Held st) (moved : Moves policy st label st') :
    true ∉ st'.written := by
  cases moved with
  | published | booked | recorded | entered | excluded | read | reclassified | dropped | armed
    | shut | stopped | returned | began | connected | brought | retried | exhausted | raised
    | watched | reconnected | held | released | submitted => exact sound.written
  | climbed input l running climbs =>
    obtain ⟨-, -, -, -, -, -, written⟩ := climbs.frame
    rw [written]
    exact sound.written
  | executed command rest queued =>
    intro member
    simp only at member
    split at member
    · exact sound.written member
    · rcases List.mem_append.mp member with old | new
      · exact sound.written old
      · apply sound.commands
        rw [queued, ← List.mem_singleton.mp new]
        exact List.mem_cons_self

theorem free_climbs {input : LadderInput} {l : Ladder} (sound : Held st)
    (running : st.ladder = some l) (climbs : Climbs policy st l input st')
    (free : st'.recovering = false) : st'.ladder = none := by
  have taken (before : st.recovering = false) : False := by
    have none := sound.free before
    rw [running] at none
    cases none
  cases climbs with
  | taken | entered | started | called | polled | reported | closed | left =>
    exact (taken free).elim
  | released => rfl

theorem free_step (sound : Held st) (moved : Moves policy st label st')
    (free : st'.recovering = false) : st'.ladder = none := by
  cases moved with
  | published | booked | recorded | read | reclassified | dropped | armed | shut | stopped
    | returned | began | connected | brought | retried | exhausted | raised | watched
    | reconnected | held | released | submitted | executed => exact sound.free free
  | climbed input l running climbs => exact sound.free_climbs running climbs free
  | entered | excluded => cases free

theorem step (sound : Held st) (legal : st.Undisturbed label)
    (moved : Moves policy st label st') : Held st' where
  held := sound.held_step legal moved
  owned := sound.owned_step moved
  commands := sound.commands_step moved
  written := sound.written_step moved
  free := sound.free_step moved

end State.Held

/-- `reconnect()` holds the gripper's gate over the whole rebuild, no command that was submitted
meanwhile writes a register, and no one is left holding the gate. -/
theorem rebuild_holds_gate (reached : (supervisor policy).Reachable State.Undisturbed st) :
    (st.rebuild.holds = true → st.gripperGate = true) ∧ true ∉ st.written ∧
    (st.rebuild.holds = false → st.ladder = none → st.gripperGate = false) := by
  have sound : st.Held := by
    apply reached.invariant State.Held.initial
    intro a b label sound legal moved
    exact sound.step legal (step_moves moved)
  refine ⟨sound.held, sound.written, ?_⟩
  intro open_ idle
  by_contra gate
  rw [Bool.not_eq_false] at gate
  rcases sound.owned gate with holds | ⟨l, running, -⟩
  · rw [open_] at holds
    cases holds
  · rw [idle] at running
    cases running

end

/-- The calls of `reconnect()` up to the gate. -/
def gateHeld (timedOut : Bool) : List Label :=
  [.reconnect, .shutdown, .setStop, .join, .shutdownReturns timedOut, .holdGate]

/-- A command is submitted behind the gate of a rebuild, and another one after it. -/
theorem rebuild_holds_gate_rebuilt : ∃ st : State,
    (supervisor .shipped).Reachable State.Undisturbed st ∧
    (st.rebuild = .none ∧ st.written = [false]) ∧
    (st.rebuild.holds = true → st.gripperGate = true) ∧ true ∉ st.written ∧
    (st.rebuild.holds = false → st.ladder = none → st.gripperGate = false) := by
  obtain ⟨st, reached, tested⟩ := Machine.reachable_of_test (supervisor .shipped)
    State.Undisturbed
    (broughtUp ++ gateHeld false ++ [.gripperSubmit, .bringup, .bring, .bring, .bring, .bring,
      .startWatch, .releaseGate, .gripperSubmit, .gripperExecute])
    (fun st : State => decide (st.rebuild = .none ∧ st.written = [false])) (by decide +kernel)
    (by decide +kernel)
  exact ⟨st, reached, of_decide_eq_true tested, rebuild_holds_gate reached⟩

/-- The wait of `shutdown()` runs out over a ladder, whose `finally` clears the gate of the
rebuild, and a command submitted then writes its registers. -/
theorem ladder_clears_rebuild_gate : ∃ st : State,
    (supervisor .shipped).Reachable (fun _ _ => True) st ∧
    st.rebuild.holds = true ∧ st.gripperGate = false ∧ true ∈ st.written := by
  obtain ⟨st, reached, tested⟩ := Machine.reachable_of_run (supervisor .shipped)
    (broughtUp ++ relaunched ++ gateHeld true ++ [.ladder (.waited false), .ladder .go,
      .gripperSubmit, .gripperExecute])
    (fun st : State => decide (st.rebuild.holds = true ∧ st.gripperGate = false ∧
      true ∈ st.written))
    (by decide +kernel)
  exact ⟨st, reached, of_decide_eq_true tested⟩

end AiroFanuc.Driver

import AiroFanuc.RtCore.Buffers
import AiroFanuc.RtCore.Resolution

/-! The tick core's run beneath the RT loop's: every step of the loop feeds its core at
most one input, so the core's journal carries over, and with it exactly-once resolution. -/

namespace AiroFanuc.RtCore

open TickEngine Library

variable {R : Type} [Field R] [LinearOrder R] [FloorRing R]

/-- The target the RT thread has popped and not yet given to a tick. -/
def RtPhase.pending : RtPhase R → Option (Target R)
  | .draining last | .drained last | .checked last _ => last
  | .down | .waiting | .exchanging _ | .ticked _ _ | .exited => none

def ControlOp.input : ControlOp → Input R
  | .stop => .requestStop
  | .hold => .requestHold
  | .recover => .requestRecover
  | .kick => .kick
  | .heartbeat => .heartbeat

namespace RealtimeCore

/-- Whether a packet is the one that begins the streaming. -/
def begins (s : RealtimeCore R) (view : RobotStatusView R) : Bool :=
  !s.streamingReady && (view.gates s.core.cfg).motionPossible

/-- What a step of the loop feeds its tick core. -/
def coreInput (s : RealtimeCore R) : Label R → Option (Input R)
  | .packet _ view => if s.begins view then some (.beginStreaming view.qMeas) else none
  | .exchange =>
    match s.phase with
    | .exchanging (op :: _) => if s.requested op then some op.input else none
    | _ => none
  | .tick =>
    match s.phase with
    | .checked last consumeSuperseded => some (.tick s.rx last consumeSuperseded)
    | _ => none
  | _ => none

theorem forward_apply (lib : External R) (core : TickCore R) (op : ControlOp) :
    forward core op = core.apply lib op.input := by
  cases op <;> rfl

omit [FloorRing R] in
theorem ingestPacket_begins {s : RealtimeCore R} {rxMono : Int} {view : RobotStatusView R}
    (begins : s.begins view = true) :
    (s.ingestPacket rxMono view).core = s.core.beginStreaming view.qMeas ∧
      (s.ingestPacket rxMono view).publishedEpoch = s.core.health.epoch ∧
      (s.ingestPacket rxMono view).streamingReady = true := by
  simp only [RealtimeCore.begins, Bool.and_eq_true, Bool.not_eq_true'] at begins
  simp only [ingestPacket]
  rw [if_pos (by exact begins)]
  exact ⟨rfl, rfl, rfl⟩

omit [FloorRing R] in
theorem ingestPacket_streams {s : RealtimeCore R} {rxMono : Int} {view : RobotStatusView R}
    (streams : s.begins view = false) :
    (s.ingestPacket rxMono view).core = s.core ∧
      (s.ingestPacket rxMono view).publishedEpoch = s.publishedEpoch ∧
      (s.ingestPacket rxMono view).streamingReady = s.streamingReady := by
  have idle : ¬ (s.streamingReady = false ∧ (view.gates s.core.cfg).motionPossible = true) := by
    simpa [RealtimeCore.begins] using streams
  simp only [ingestPacket]
  rw [if_neg (by exact idle)]
  exact ⟨rfl, rfl, rfl⟩

/-- A step changes the core by its input, and otherwise at most drains the event ring. -/
theorem Takes.core {lib : External R} {s t : RealtimeCore R} {l : Label R}
    (taken : Takes lib s l t) :
    match s.coreInput l with
    | some i => t.core = s.core.apply lib i
    | none => t.core = s.core ∨ t.core = { s.core with events := [] } := by
  cases taken with
  | packet rxMono view phase =>
    simp only [coreInput]
    cases begins : s.begins view with
    | true => exact (ingestPacket_begins begins).1
    | false => exact .inl (ingestPacket_streams begins).1
  | exchange op rest phase =>
    simp only [coreInput, phase]
    rcases exchange_shape s op with ⟨quiet, same⟩ | ⟨raised, forwarded⟩
    · rw [same, quiet]
      exact .inl rfl
    · rw [forwarded, raised]
      exact forward_apply lib s.core op
  | tick last consumeSuperseded phase =>
    simp only [coreInput, phase]
    rfl
  | settle last cmd phase =>
    obtain ⟨_, _, _, _, settled⟩ := settle_shape s last cmd
    rw [settled]
    exact .inr rfl
  | exit phase flagged =>
    simp only [coreInput, RealtimeCore.exit]
    split
    · exact .inl rfl
    · exact .inl rfl
  | pop last phase =>
    rcases pop_shape s last with ⟨-, same⟩ | ⟨_, _, _, _, -, popped⟩
    · rw [same]
      exact .inl rfl
    · rw [popped]
      exact .inl rfl
  | push t stage =>
    rcases pushMailbox_shape s t with ⟨-, pushed⟩ | ⟨-, dropped⟩
    · rw [pushed]
      exact .inl rfl
    · rw [dropped]
      exact .inl rfl
  | start | stop | join | clear | timer | check | submitTrajectory | submit | name | date | stamp
  | stopBump | stopStore | request | reap | drainEvents => exact .inl rfl

/-! ### The motion ids in flight -/

def submittedId (s : RealtimeCore R) : Option Nat :=
  match s.submission with
  | some ⟨t, .named⟩ | some ⟨t, .dated⟩ | some ⟨t, .stamped⟩ => some t.motionId
  | some ⟨_, .locked⟩ | none => none

/-- The ids named and not yet given to the tick core. -/
def flightIds (s : RealtimeCore R) : List Nat :=
  s.mailbox.map Target.motionId ++
    ((s.phase.pending.map Target.motionId).toList ++ s.submittedId.toList)

end RealtimeCore

/-- The loop, its core's journal, and the motions displaced in its mailbox. -/
structure LoopWatch (R : Type) where
  rt : RealtimeCore R
  journal : Journal R
  displaced : List Nat

namespace LoopWatch

/-- The motion that this step displaces in the mailbox. -/
def displaces (w : LoopWatch R) : Label R → List Nat
  | .pop =>
    match w.rt.phase, w.rt.mailbox with
    | .draining (some last), _ :: _ => [last.motionId]
    | _, _ => []
  | _ => []

def observe (lib : External R) (w : LoopWatch R) (l : Label R) (rt : RealtimeCore R) :
    LoopWatch R where
  rt := rt
  journal :=
    match w.rt.coreInput l with
    | some i => w.journal.step lib i
    | none => w.journal
  displaced := w.displaces l ++ w.displaced

def step (lib : External R) (w : LoopWatch R) (l : Label R) : Option (LoopWatch R) :=
  (w.rt.step lib l).map (w.observe lib l)

def machine (lib : External R) (cfg : RtCoreConfig R) : Machine (LoopWatch R) (Label R) where
  start := ⟨.new cfg, ⟨.new cfg, [], [], none⟩, []⟩
  step := step lib

/-- No running motion is written over from outside by what this step feeds the core. -/
def keepsSlot (lib : External R) (w : LoopWatch R) (l : Label R) : Prop :=
  ∀ i ∈ w.rt.coreInput l, w.journal.keepsSlot lib i

/-- Every id named so far: in flight, displaced, or taken by the core. -/
def ids (w : LoopWatch R) : List Nat := w.rt.flightIds ++ (w.displaced ++ w.journal.taken)

structure Sound (w : LoopWatch R) : Prop where
  tidy : w.rt.Tidy
  targets : w.rt.Targets
  mirrors : w.journal.core = { w.rt.core with events := [] }
  journal : w.journal.Sound
  nodup : w.ids.Nodup
  named : ∀ id ∈ w.ids, 0 < id ∧ id < w.rt.nextMotionId
  first : 0 < w.rt.nextMotionId

/-- A motion is over: not played, and its terminal status out. -/
def Over (w : LoopWatch R) (id : Nat) : Prop :=
  w.journal.played ≠ some id ∧ (terminals w.journal.log id = 1 ∨ id ∈ w.displaced)

omit [Field R] [LinearOrder R] [FloorRing R] in
theorem Sound.core {w : LoopWatch R} (sound : w.Sound)
    (quiet : ∀ last cmd, w.rt.phase ≠ .ticked last cmd) : w.journal.core = w.rt.core := by
  have drained := sound.tidy.drained quiet
  rw [sound.mirrors, ← drained]

omit [Field R] [LinearOrder R] [FloorRing R] in
theorem Sound.active {w : LoopWatch R} (sound : w.Sound) :
    w.journal.core.active = w.rt.core.active := by
  rw [sound.mirrors]

omit [Field R] [LinearOrder R] [FloorRing R] in
theorem Sound.played {w : LoopWatch R} (sound : w.Sound) :
    w.journal.played =
      if w.rt.core.active.status = .running then some w.rt.core.active.motionId else none := by
  rw [sound.journal.played, sound.active]

theorem observe_taken (lib : External R) (w : LoopWatch R) (l : Label R) (rt : RealtimeCore R) :
    (w.observe lib l rt).journal.taken =
      ((w.rt.coreInput l).map Input.takes).getD [] ++ w.journal.taken := by
  simp only [observe]
  cases w.rt.coreInput l <;> rfl

omit [Field R] [LinearOrder R] [FloorRing R] in
/-- Off the mailbox and the tick, a step feeds the core no motion and displaces none. -/
theorem takes_request (s : RealtimeCore R) (op : ControlOp) :
    ((if s.requested op then some op.input else none).map (Input.takes (R := R))).getD [] = [] := by
  cases s.requested op
  · rfl
  · cases op <;> rfl

omit [FloorRing R] in
theorem takes_packet (s : RealtimeCore R) (view : RobotStatusView R) :
    ((if s.begins view then some (Input.beginStreaming view.qMeas) else none).map
      Input.takes).getD [] = [] := by
  cases s.begins view <;> rfl

/-- The ids a step leaves are the ids before it, and the one it hands out. -/
theorem ids_step {lib : External R} {w : LoopWatch R} {l : Label R} {rt : RealtimeCore R}
    (tidy : w.rt.Tidy) (taken : RealtimeCore.Takes lib w.rt l rt) :
    (rt.nextMotionId = w.rt.nextMotionId ∧
      ∀ id, (w.observe lib l rt).ids.count id ≤ w.ids.count id) ∨
    (rt.nextMotionId = w.rt.nextMotionId + 1 ∧
      ∀ id, (w.observe lib l rt).ids.count id ≤ w.ids.count id + [w.rt.nextMotionId].count id) := by
  have counted (id : Nat) : (w.observe lib l rt).ids.count id = rt.flightIds.count id +
      ((w.displaces l).count id + w.displaced.count id +
        ((((w.rt.coreInput l).map Input.takes).getD []).count id + w.journal.taken.count id)) := by
    rw [ids, observe_taken]
    simp only [observe, List.count_append]
  have before (id : Nat) : w.ids.count id = w.rt.flightIds.count id +
      (w.displaced.count id + w.journal.taken.count id) := by
    simp only [ids, List.count_append]
  -- A step that hands nothing to the core and displaces nothing.
  have quiet (displaces : w.displaces l = [])
      (takes : ((w.rt.coreInput l).map Input.takes).getD [] = [])
      (flight : ∀ id, rt.flightIds.count id ≤ w.rt.flightIds.count id) (id : Nat) :
      (w.observe lib l rt).ids.count id ≤ w.ids.count id := by
    have kept := flight id
    rw [counted, before, displaces, takes, List.count_nil]
    omega
  cases taken with
  | start idle cleared =>
    refine .inl ⟨rfl, quiet rfl rfl fun id => ?_⟩
    simp only [RealtimeCore.flightIds, tidy.idle idle, RtPhase.pending]
    exact le_rfl
  | exit phase flagged =>
    refine .inl ⟨?_, quiet rfl rfl fun id => ?_⟩
    · simp only [RealtimeCore.exit]
      split <;> rfl
    · simp only [RealtimeCore.flightIds, phase, RtPhase.pending, RealtimeCore.exit]
      split <;> exact le_rfl
  | join phase unlocked =>
    refine .inl ⟨rfl, quiet rfl rfl fun id => ?_⟩
    simp only [RealtimeCore.flightIds, phase, RtPhase.pending]
    exact le_rfl
  | packet rxMono view phase =>
    refine .inl ⟨?_, quiet rfl (takes_packet w.rt view) fun id => ?_⟩
    · simp only [RealtimeCore.ingestPacket]
      split <;> rfl
    · simp only [RealtimeCore.ingestPacket]
      split <;> exact le_rfl
  | timer phase =>
    refine .inl ⟨rfl, quiet rfl rfl fun id => ?_⟩
    simp only [RealtimeCore.flightIds, phase, RtPhase.pending]
    exact le_rfl
  | exchange op rest phase =>
    have fed : ((w.rt.coreInput .exchange).map Input.takes).getD [] = [] := by
      simp only [RealtimeCore.coreInput, phase]
      exact takes_request w.rt op
    have idle : RtPhase.pending (if rest = [] then .draining none else .exchanging rest) =
        (none : Option (Target R)) := by
      split <;> rfl
    have none_pending : w.rt.phase.pending = none := by rw [phase]; rfl
    rcases RealtimeCore.exchange_shape w.rt op with ⟨-, same⟩ | ⟨-, forwarded⟩
    · rw [same]
      refine .inl ⟨rfl, fun id => ?_⟩
      rw [← same]
      refine quiet rfl fed (fun id => ?_) id
      simp only [same, RealtimeCore.flightIds, idle, none_pending]
      exact le_rfl
    · rw [forwarded]
      refine .inl ⟨rfl, fun id => ?_⟩
      rw [← forwarded]
      refine quiet rfl fed (fun id => ?_) id
      simp only [forwarded, RealtimeCore.flightIds, idle, none_pending]
      exact le_rfl
  | pop last phase =>
    rcases RealtimeCore.pop_shape w.rt last with ⟨waiting, same⟩ | ⟨t, rest, _, _, waiting, popped⟩
    · have displaces : w.displaces .pop = [] := by
        simp only [LoopWatch.displaces, waiting]
        split
        · rename_i next
          cases next
        · rfl
      refine .inl ⟨by rw [same], quiet displaces rfl fun id => ?_⟩
      rw [same]
      simp only [RealtimeCore.flightIds, phase, RtPhase.pending]
      exact le_rfl
    · have displaces : w.displaces .pop = (last.map Target.motionId).toList := by
        simp only [LoopWatch.displaces, waiting, phase]
        cases last <;> rfl
      refine .inl ⟨by rw [popped], fun id => ?_⟩
      rw [counted, before, displaces, popped]
      simp only [RealtimeCore.flightIds, RealtimeCore.submittedId, waiting, phase, RtPhase.pending,
        RealtimeCore.coreInput, List.map_cons, List.count_append, List.count_cons,
        Option.map_some, Option.toList_some, List.count_nil, Option.map_none, Option.getD_none]
      omega
  | check last phase =>
    refine .inl ⟨rfl, quiet rfl rfl fun id => ?_⟩
    simp only [RealtimeCore.flightIds, phase, RtPhase.pending]
    exact le_rfl
  | tick last consumeSuperseded phase =>
    refine .inl ⟨rfl, fun id => ?_⟩
    have fed : w.rt.coreInput .tick = some (.tick w.rt.rx last consumeSuperseded) := by
      simp only [RealtimeCore.coreInput, phase]
    have takes : (Input.tick w.rt.rx last consumeSuperseded).takes.count id ≤
        ((last.map Target.motionId).toList).count id := by
      cases last with
      | none => exact le_rfl
      | some t =>
        simp only [Input.takes, Input.target]
        split
        · simp
        · exact le_rfl
    rw [counted, before, fed]
    simp only [RealtimeCore.flightIds, RealtimeCore.runTick, RealtimeCore.submittedId, phase,
      RtPhase.pending, List.count_append, Option.map_some, Option.getD_some, Option.map_none,
      Option.toList_none, List.count_nil, displaces]
    omega
  | settle last cmd phase =>
    obtain ⟨_, _, _, _, settled⟩ := RealtimeCore.settle_shape w.rt last cmd
    refine .inl ⟨by rw [settled], quiet rfl rfl fun id => ?_⟩
    rw [settled]
    simp only [RealtimeCore.flightIds, phase, RtPhase.pending]
    exact le_rfl
  | submitTrajectory request addr unlocked planned free =>
    refine .inl ⟨rfl, quiet rfl rfl fun id => ?_⟩
    simp only [RealtimeCore.flightIds, RealtimeCore.submittedId, unlocked]
    exact le_rfl
  | submit request addr unlocked plain =>
    refine .inl ⟨rfl, quiet rfl rfl fun id => ?_⟩
    simp only [RealtimeCore.flightIds, RealtimeCore.submittedId, unlocked]
    exact le_rfl
  | name t stage =>
    refine .inr ⟨rfl, fun id => ?_⟩
    rw [counted, before]
    simp only [RealtimeCore.flightIds, RealtimeCore.submittedId, stage, displaces,
      RealtimeCore.coreInput, List.count_append, Option.toList_some, Option.toList_none,
      List.count_nil, Option.map_none, Option.getD_none]
    omega
  | date t stage =>
    refine .inl ⟨rfl, quiet rfl rfl fun id => ?_⟩
    simp only [RealtimeCore.flightIds, RealtimeCore.submittedId, stage]
    exact le_rfl
  | stamp t stage =>
    refine .inl ⟨rfl, quiet rfl rfl fun id => ?_⟩
    simp only [RealtimeCore.flightIds, RealtimeCore.submittedId, stage]
    exact le_rfl
  | push t stage =>
    rcases RealtimeCore.pushMailbox_shape w.rt t with ⟨-, pushed⟩ | ⟨-, dropped⟩
    · refine .inl ⟨by rw [pushed], quiet rfl rfl fun id => ?_⟩
      rw [pushed]
      simp only [RealtimeCore.flightIds, RealtimeCore.submittedId, stage, List.map_append,
        List.map_cons, List.map_nil, List.count_append, Option.toList_some, Option.toList_none,
        List.count_nil]
      omega
    · refine .inl ⟨by rw [dropped], quiet rfl rfl fun id => ?_⟩
      rw [dropped]
      simp only [RealtimeCore.flightIds, RealtimeCore.submittedId, stage, List.count_append,
        Option.toList_none, List.count_nil]
      omega
  | stop | clear | stopBump | stopStore | request | reap | drainEvents =>
    exact .inl ⟨rfl, quiet rfl rfl fun id => le_rfl⟩

omit [FloorRing R] in
/-- The ids a tick is about to hand over were named once and are not 0. -/
theorem Sound.distinct {w : LoopWatch R} (sound : w.Sound) {l : Label R} {i : Input R}
    (fed : w.rt.coreInput l = some i) : w.journal.distinct i := by
  intro id member
  have flying : id ∈ (w.rt.phase.pending.map Target.motionId).toList := by
    cases l with
    | tick =>
      simp only [RealtimeCore.coreInput] at fed
      split at fed
      · rename_i last consumeSuperseded phase
        cases fed
        rw [phase]
        cases last with
        | none => cases member
        | some t =>
          simp only [Input.takes, Input.target] at member
          split at member
          · cases member
          · exact member
      · cases fed
    | packet rxMono view =>
      simp only [RealtimeCore.coreInput] at fed
      split at fed
      · cases fed
        cases member
      · cases fed
    | exchange =>
      simp only [RealtimeCore.coreInput] at fed
      split at fed
      · rename_i op rest phase
        split at fed
        · cases fed
          cases op <;> cases member
        · cases fed
      · cases fed
    | start | stop | exit | join | clear | timer | pop | check | settle | submit | enqueue
    | stopBump | stopStore | request | reap | drainEvents => cases fed
  have counted := List.nodup_iff_count_le_one.mp sound.nodup id
  have inFlight : 0 < w.rt.flightIds.count id := by
    apply List.count_pos_iff.mpr
    simp only [RealtimeCore.flightIds, List.mem_append]
    exact .inr (.inl flying)
  simp only [ids, List.count_append] at counted
  constructor
  · have named := sound.named id (List.mem_append_left _ (List.count_pos_iff.mp inFlight))
    omega
  · exact List.count_eq_zero.mp (by omega)

theorem step_sound {lib : External R} {w v : LoopWatch R} {l : Label R} (sound : w.Sound)
    (legal : w.keepsSlot lib l) (moved : w.step lib l = some v) : v.Sound := by
  obtain ⟨rt, stepped, rfl⟩ := Option.map_eq_some_iff.mp moved
  have taken := RealtimeCore.step_takes stepped
  have journal : (w.observe lib l rt).journal.Sound := by
    simp only [observe]
    cases fed : w.rt.coreInput l with
    | none => exact sound.journal
    | some i => exact Journal.step_sound sound.journal (sound.distinct fed) (legal i fed)
  have mirrors : (w.observe lib l rt).journal.core = { rt.core with events := [] } := by
    have change := taken.core
    simp only [observe]
    cases fed : w.rt.coreInput l with
    | none =>
      rw [fed] at change
      rcases change with same | drained
      · rw [same]
        exact sound.mirrors
      · rw [drained]
        exact sound.mirrors
    | some i =>
      rw [fed] at change
      have between : ∀ last cmd, w.rt.phase ≠ .ticked last cmd := by
        intro last cmd phase
        cases taken <;> simp_all [RealtimeCore.coreInput]
      have same := sound.core between
      simp only [Journal.step]
      rw [same, change]
  have named : (w.observe lib l rt).ids.Nodup ∧
      (∀ id ∈ (w.observe lib l rt).ids, 0 < id ∧ id < rt.nextMotionId) ∧
      0 < rt.nextMotionId := by
    have single := List.nodup_iff_count_le_one.mp sound.nodup
    have first := sound.first
    rcases ids_step sound.tidy taken with ⟨next, fewer⟩ | ⟨next, fewer⟩
    · refine ⟨List.nodup_iff_count_le_one.mpr fun id => (fewer id).trans (single id), ?_, ?_⟩
      · intro id member
        have counted := List.count_pos_iff.mpr member
        have kept := fewer id
        rw [next]
        exact sound.named id (List.count_pos_iff.mp (by omega))
      · omega
    · have fresh : w.ids.count w.rt.nextMotionId = 0 := by
        apply List.count_eq_zero.mpr
        intro old
        exact Nat.lt_irrefl _ (sound.named _ old).2
      refine ⟨List.nodup_iff_count_le_one.mpr fun id => ?_, ?_, by omega⟩
      · have kept := fewer id
        have once := single id
        by_cases new : id = w.rt.nextMotionId
        · subst new
          rw [List.count_singleton_self] at kept
          omega
        · have other : [w.rt.nextMotionId].count id = 0 :=
            List.count_eq_zero.mpr (by simpa using new)
          omega
      · intro id member
        have counted := List.count_pos_iff.mpr member
        have kept := fewer id
        rw [next]
        by_cases new : id = w.rt.nextMotionId
        · omega
        · have other : [w.rt.nextMotionId].count id = 0 :=
            List.count_eq_zero.mpr (by simpa using new)
          have old := sound.named id (List.count_pos_iff.mp (by omega))
          omega
  exact ⟨taken.tidy sound.tidy, taken.targets sound.targets, mirrors, journal, named.1, named.2.1,
    named.2.2⟩

theorem start_sound (lib : External R) (cfg : RtCoreConfig R) : (machine lib cfg).start.Sound where
  tidy := RealtimeCore.new_tidy cfg
  targets := RealtimeCore.new_targets cfg
  mirrors := rfl
  journal := Journal.start_sound lib cfg
  nodup := List.nodup_nil
  named := nofun
  first := Nat.zero_lt_one

end LoopWatch

end AiroFanuc.RtCore

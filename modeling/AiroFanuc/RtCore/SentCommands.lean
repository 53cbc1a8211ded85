import AiroFanuc.RtCore.LoopSteps
import AiroFanuc.RtCore.SilencePark

/-! When the loop has a command to send, and how the sequence number goes on. -/

namespace AiroFanuc.RtCore

open TickEngine Library

variable {R : Type} [Field R] [LinearOrder R] [FloorRing R]

namespace RealtimeCore

/-- A command is sent only behind the begin of the streaming, and no tick's is the last. -/
structure Commands (s : RealtimeCore R) : Prop where
  ready : s.core.anchor.streaming = true → s.streamingReady = true
  ticked : ∀ last cmd, s.phase = .ticked last cmd →
    (cmd.tx = true → s.streamingReady = true) ∧ cmd.isLast = false

omit [LinearOrder R] [FloorRing R] in
theorem new_commands (cfg : RtCoreConfig R) : (new cfg).Commands where
  ready := by
    rintro ⟨⟩
  ticked last cmd phase := by cases phase

theorem tick_command (lib : External R) (s : TickCore R) (rx : Option (RxSample R))
    (pending : Option (Target R)) (consumeSuperseded : Bool) :
    ((s.tick lib rx pending consumeSuperseded).1.tx = true → s.anchor.streaming = true) ∧
      (s.tick lib rx pending consumeSuperseded).1.isLast = false := by
  constructor
  · intro sends
    rw [TickCore.tick_tx, Bool.and_eq_true] at sends
    exact (tick_streaming lib s rx pending consumeSuperseded).symm.trans sends.1
  · rfl

theorem Takes.commands {lib : External R} {s t : RealtimeCore R} {l : Label R}
    (taken : Takes lib s l t) (commands : s.Commands) : t.Commands := by
  cases taken with
  | packet rxMono view phase =>
    simp only [ingestPacket]
    split
    · exact ⟨fun _ => rfl, fun last cmd ticked => by cases phase.symm.trans ticked⟩
    · exact ⟨commands.ready, fun last cmd ticked => by cases phase.symm.trans ticked⟩
  | exchange op rest phase =>
    have quiet (last : Option (Target R)) (cmd : Command R) :
        (if rest = [] then RtPhase.draining none else .exchanging rest) ≠ .ticked last cmd := by
      split
      · rintro ⟨⟩
      · rintro ⟨⟩
    refine ⟨?_, fun last cmd ticked => absurd ticked (quiet last cmd)⟩
    rcases exchange_shape s op with ⟨-, same⟩ | ⟨-, forwarded⟩
    · rw [same]
      exact commands.ready
    · rw [forwarded]
      obtain ⟨-, -, frame⟩ := forward_kept s.core op
      intro streams
      exact commands.ready ((congrArg Frame.streaming frame).symm.trans streams)
  | pop last phase =>
    rcases pop_shape s last with ⟨-, same⟩ | ⟨_, _, _, _, -, popped⟩
    · rw [same]
      exact ⟨commands.ready, by rintro _ _ ⟨⟩⟩
    · rw [popped]
      exact ⟨commands.ready, by rintro _ _ ⟨⟩⟩
  | tick last consumeSuperseded phase =>
    have sends := tick_command lib s.core s.rx last consumeSuperseded
    refine ⟨?_, ?_⟩
    · intro streams
      exact commands.ready ((tick_streaming lib s.core s.rx last consumeSuperseded).symm.trans streams)
    · rintro _ _ ⟨⟩
      exact ⟨fun tx => commands.ready (sends.1 tx), sends.2⟩
  | settle last cmd phase =>
    obtain ⟨_, _, _, _, settled⟩ := settle_shape s last cmd
    rw [settled]
    exact ⟨commands.ready, by rintro _ _ ⟨⟩⟩
  | exit phase flagged =>
    simp only [RealtimeCore.exit]
    split
    · exact ⟨commands.ready, by rintro _ _ ⟨⟩⟩
    · exact ⟨commands.ready, by rintro _ _ ⟨⟩⟩
  | start | join | timer | check => exact ⟨commands.ready, by rintro _ _ ⟨⟩⟩
  | push t stage =>
    rcases pushMailbox_shape s t with ⟨-, pushed⟩ | ⟨-, dropped⟩
    · rw [pushed]
      exact ⟨commands.ready, commands.ticked⟩
    · rw [dropped]
      exact ⟨commands.ready, commands.ticked⟩
  | stop | clear | submitTrajectory | submit | name | date | stamp | stopBump | stopStore | request
  | reap | drainEvents => exact ⟨commands.ready, commands.ticked⟩

omit [LinearOrder R] [FloorRing R] in
theorem settle_txSeq (s : RealtimeCore R) (last : Option (Target R)) (cmd : Command R) :
    (s.settle last cmd).txSeq = if cmd.tx then s.txSeq + 1 else s.txSeq := by
  have drained (a : RealtimeCore R) : a.drainTickEvents.txSeq = a.txSeq := by
    obtain ⟨_, _, shape⟩ := drainTickEvents_shape a
    rw [shape]
  have consumed (a : RealtimeCore R) : (a.retireConsumed last).txSeq = a.txSeq := by
    rw [retireConsumed_shape]
  simp only [settle, drained]
  split
  · exact congrArg (· + 1) (consumed _)
  · exact consumed _

end RealtimeCore

end AiroFanuc.RtCore

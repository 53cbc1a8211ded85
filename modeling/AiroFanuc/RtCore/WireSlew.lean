import AiroFanuc.RtCore.LoopJournal
import AiroFanuc.RtCore.SentCommands
import AiroFanuc.RtCore.SlewSafety

/-! The poses on the wire over all the sessions of one loop: what a restart keeps, it commands
from. -/

namespace AiroFanuc.RtCore

open TickEngine Library

variable {R : Type} [Field R] [LinearOrder R] [FloorRing R]

omit [LinearOrder R] [FloorRing R] in
theorem rad2deg_sub (a b : R) : rad2deg a - rad2deg b = rad2deg (a - b) := by
  rw [rad2deg, rad2deg, rad2deg, sub_mul]

omit [FloorRing R] in
theorem rad2deg_factor [IsStrictOrderedRing R] : (0 : R) < 180 / kPi := by
  rw [kPi]
  positivity

omit [FloorRing R] in
theorem abs_rad2deg_le [IsStrictOrderedRing R] {a b bound : R} (near : |a - b| ≤ bound) :
    |rad2deg a - rad2deg b| ≤ rad2deg bound := by
  have factor : (0 : R) < 180 / kPi := rad2deg_factor
  rw [rad2deg_sub, rad2deg, rad2deg, abs_mul, abs_of_pos factor]
  exact mul_le_mul_of_nonneg_right near factor.le

/-- The limiter's reference and its settings, which no list of past commands is needed for. -/
def TickCore.Steadied (cfg : RtCoreConfig R) (s : TickCore R) : Prop :=
  (⟨s, [], []⟩ : SlewWatch R).Sound cfg

omit [FloorRing R] in
theorem SlewWatch.Sound.steadied {cfg : RtCoreConfig R} {w : SlewWatch R} (sound : w.Sound cfg) :
    w.core.Steadied cfg where
  slewed := ⟨.nil, .nil, sound.slewed.anchored⟩
  settings := sound.settings
  limiter := sound.limiter
  posed := by rintro _ ⟨⟩
  sent := by rintro _ ⟨⟩

theorem TickCore.Steadied.apply [IsStrictOrderedRing R] (lib : External R) {cfg : RtCoreConfig R}
    {s : TickCore R} {i : Input R} (steadied : s.Steadied cfg)
    (silent : ∀ q, i = .beginStreaming q → s.anchor.streaming = false)
    (nonneg : ∀ j, 0 ≤ SlewWatch.slewBound cfg.tick j)
    (ordered : ∀ j, ∀ l ∈ cfg.tick.limits.posLo j, ∀ h ∈ cfg.tick.limits.posHi j, l ≤ h) :
    (s.apply lib i).Steadied cfg := by
  have legal : (⟨s, [], []⟩ : SlewWatch R).oneStream i := by
    cases i with
    | beginStreaming q => exact silent q rfl
    | _ => trivial
  have sound := (SlewWatch.step_sound lib steadied legal nonneg ordered).steadied
  cases i <;> exact sound

/-- What a command that was sent leaves behind: the next one moves on from its pose. -/
structure TickCore.Aligned (s : TickCore R) : Prop where
  primed : s.slew.hasPrev = true
  awake : s.health.mode ≠ .rxSilent
  streams : s.anchor.streaming = true

omit [Field R] [LinearOrder R] [FloorRing R] in
theorem forward_aligned {s : TickCore R} (op : ControlOp) (aligned : s.Aligned) :
    (RealtimeCore.forward s op).Aligned ∧
      (RealtimeCore.forward s op).anchor.qCmd = s.anchor.qCmd := by
  obtain ⟨_, _, _, shape⟩ := RealtimeCore.forward_shape s op
  rw [shape]
  exact ⟨⟨aligned.primed, aligned.awake, aligned.streams⟩, rfl⟩

/-- Two datagrams with no park between them: one slew step, and none before a last one. -/
def Adjacent (cfg : TickEngineConfig R) (newer older : Option (Datagram R)) : Prop :=
  ∀ d ∈ newer, ∀ e ∈ older, (∀ j, |d.posDeg j - e.posDeg j| ≤ rad2deg (SlewWatch.slewBound cfg j)) ∧
    (d.isLast = true → d.posDeg = e.posDeg)

omit [FloorRing R] in
theorem adjacent_gap (cfg : TickEngineConfig R) (older : Option (Datagram R)) :
    Adjacent cfg none older := by
  rintro _ ⟨⟩

namespace RealtimeCore

/-- What a step adds to the wire, newest first. The window or the session that ends while silence
has the core parked leaves a gap. -/
def onWire (s : RealtimeCore R) (t : RealtimeCore R) (l : Label R) : List (Option (Datagram R)) :=
  let sent := ((t.sent.drop s.sent.length).map some).reverse
  match l with
  | .settle | .exit => if s.core.health.mode = .rxSilent then none :: sent else sent
  | _ => sent

/-- Whether a step begins the streaming. -/
def beginsStream (s : RealtimeCore R) : Label R → Bool
  | .packet _ view => s.begins view
  | _ => false

end RealtimeCore

/-- The wire, newest first, and how often the streaming has begun. -/
structure WireWatch (R : Type) where
  rt : RealtimeCore R
  wire : List (Option (Datagram R))
  begun : Nat

namespace WireWatch

def observe (w : WireWatch R) (l : Label R) (rt : RealtimeCore R) : WireWatch R where
  rt := rt
  wire := w.rt.onWire rt l ++ w.wire
  begun := if w.rt.beginsStream l then w.begun + 1 else w.begun

def step (lib : External R) (w : WireWatch R) (l : Label R) : Option (WireWatch R) :=
  (w.rt.step lib l).map (w.observe l)

def machine (lib : External R) (cfg : RtCoreConfig R) : Machine (WireWatch R) (Label R) where
  start := ⟨.new cfg, [], 0⟩
  step := step lib

/-- The newest datagram is the pose the core stands at. -/
def Stands (s : TickCore R) (wire : List (Option (Datagram R))) : Prop :=
  ∀ e, wire.head? = some (some e) → s.Aligned ∧ e.posDeg = fun j => rad2deg (s.anchor.qCmd j)

/-- A command that waits to be sent fits behind the newest datagram; one that sends nothing comes of
a parked core, or there is no datagram to fit behind. -/
structure Fits (cfg : RtCoreConfig R) (s : TickCore R) (cmd : Command R)
    (wire : List (Option (Datagram R))) : Prop where
  near : cmd.tx = true → s.Aligned ∧ cmd.qRad = s.anchor.qCmd ∧
    ∀ e, wire.head? = some (some e) → ∀ j, |rad2deg (cmd.qRad j) - e.posDeg j| ≤
      rad2deg (SlewWatch.slewBound cfg.tick j)
  silent : cmd.tx = false → s.health.mode ≠ .rxSilent → ∀ e, wire.head? ≠ some (some e)

structure Sound (cfg : RtCoreConfig R) (w : WireWatch R) : Prop where
  tidy : w.rt.Tidy
  commands : w.rt.Commands
  steadied : w.rt.core.Steadied cfg
  primed : w.rt.core.anchor.streaming = true → w.rt.core.slew.hasPrev = true
  chain : w.wire.IsChain (Adjacent cfg.tick)
  begun : w.begun = if w.rt.streamingReady then 1 else 0
  stands : (∀ last cmd, w.rt.phase ≠ .ticked last cmd) → Stands w.rt.core w.wire
  ticked : ∀ last cmd, w.rt.phase = .ticked last cmd → Fits cfg w.rt.core cmd w.wire

theorem start_sound (lib : External R) (cfg : RtCoreConfig R) :
    (machine lib cfg).start.Sound cfg where
  tidy := RealtimeCore.new_tidy cfg
  commands := RealtimeCore.new_commands cfg
  steadied := (SlewWatch.start_sound lib cfg).steadied
  primed := by
    rintro ⟨⟩
  chain := .nil
  begun := rfl
  stands := by rintro _ _ ⟨⟩
  ticked := by rintro _ _ ⟨⟩

variable [IsStrictOrderedRing R] {lib : External R} {cfg : RtCoreConfig R} {w v : WireWatch R}
  {l : Label R} {rt : RealtimeCore R}

theorem steadied_step (sound : w.Sound cfg) (taken : RealtimeCore.Takes lib w.rt l rt)
    (nonneg : ∀ j, 0 ≤ SlewWatch.slewBound cfg.tick j)
    (ordered : ∀ j, ∀ l ∈ cfg.tick.limits.posLo j, ∀ h ∈ cfg.tick.limits.posHi j, l ≤ h) :
    rt.core.Steadied cfg := by
  have core := taken.core
  cases input : w.rt.coreInput l with
  | none =>
      simp only [input] at core
      rcases core with same | drained
      · rw [same]
        exact sound.steadied
      · rw [drained]
        exact ⟨⟨.nil, .nil, sound.steadied.slewed.anchored⟩, sound.steadied.settings,
          sound.steadied.limiter, by rintro _ ⟨⟩, by rintro _ ⟨⟩⟩
  | some i =>
      simp only [input] at core
      rw [core]
      refine sound.steadied.apply lib ?_ nonneg ordered
      rintro q rfl
      cases streams : w.rt.core.anchor.streaming with
      | false => rfl
      | true =>
          have ready := sound.commands.ready streams
          cases taken with
          | packet rxMono view phase =>
              simp only [RealtimeCore.coreInput, RealtimeCore.begins, ready] at input
              cases input
          | exchange op rest phase =>
              simp only [RealtimeCore.coreInput, phase] at input
              split at input
              · cases op <;> cases input
              · cases input
          | tick last consumeSuperseded phase =>
              simp only [RealtimeCore.coreInput, phase] at input
              cases input
          | _ => cases input

theorem primed_step (sound : w.Sound cfg) (taken : RealtimeCore.Takes lib w.rt l rt)
    (nonneg : ∀ j, 0 ≤ SlewWatch.slewBound cfg.tick j) :
    rt.core.anchor.streaming = true → rt.core.slew.hasPrev = true := by
  have core := taken.core
  cases input : w.rt.coreInput l with
  | none =>
      simp only [input] at core
      rcases core with same | drained
      · rw [same]
        exact sound.primed
      · rw [drained]
        exact sound.primed
  | some i =>
      simp only [input] at core
      rw [core]
      cases i with
      | tick rx pending consumeSuperseded =>
          intro _
          exact
            (SlewWatch.tick_limited lib sound.steadied nonneg rx pending consumeSuperseded).2.2.1
      | beginStreaming q => exact fun _ => rfl
      | requestRecover =>
          simp only [TickCore.apply, TickCore.requestRecover]
          split
          · exact sound.primed
          · exact sound.primed
      | requestStop | requestHold | kick | heartbeat => exact sound.primed

/-- The tick's command moves on from the pose that was sent last, where one was. -/
theorem tick_fits (sound : w.Sound cfg) (nonneg : ∀ j, 0 ≤ SlewWatch.slewBound cfg.tick j)
    (stands : Stands w.rt.core w.wire) (rx : Option (RxSample R)) (pending : Option (Target R))
    (consumeSuperseded : Bool) :
    Fits cfg (w.rt.core.tick lib rx pending consumeSuperseded).2
      (w.rt.core.tick lib rx pending consumeSuperseded).1 w.wire := by
  constructor
  · intro sends
    obtain ⟨anchor, -, primed, limited⟩ := SlewWatch.tick_limited lib sound.steadied nonneg rx
      pending consumeSuperseded
    rw [TickCore.tick_tx, Bool.and_eq_true, decide_eq_true_eq] at sends
    refine ⟨⟨primed, sends.2, sends.1⟩, anchor.symm, ?_⟩
    intro e head j
    obtain ⟨aligned, pose⟩ := stands e head
    have kept : ¬ w.rt.core.reanchors lib rx = true := fun again =>
      aligned.awake (TickCore.reanchors_parked again)
    have step := (limited (.inr aligned.primed) j).1
    rw [SlewWatch.origin, if_neg kept] at step
    rw [pose]
    exact abs_rad2deg_le step
  · intro unsent awake e head
    -- A core that streams and is not parked sends.
    have streams := (RealtimeCore.tick_streaming lib w.rt.core rx pending consumeSuperseded).trans
      (stands e head).1.streams
    have sends : (w.rt.core.tick lib rx pending consumeSuperseded).1.tx = true := by
      rw [TickCore.tick_tx, Bool.and_eq_true, decide_eq_true_eq]
      exact ⟨streams, awake⟩
    rw [sends] at unsent
    cases unsent

/-- What a step keeps, whatever it puts on the wire. -/
structure Orderly (cfg : RtCoreConfig R) (rt : RealtimeCore R) : Prop where
  tidy : rt.Tidy
  commands : rt.Commands
  steadied : rt.core.Steadied cfg
  primed : rt.core.anchor.streaming = true → rt.core.slew.hasPrev = true

omit [FloorRing R] [IsStrictOrderedRing R] in
theorem Orderly.sound (orderly : Orderly cfg v.rt) (chain : v.wire.IsChain (Adjacent cfg.tick))
    (begun : v.begun = if v.rt.streamingReady then 1 else 0)
    (stands : (∀ last cmd, v.rt.phase ≠ .ticked last cmd) → Stands v.rt.core v.wire)
    (ticked : ∀ last cmd, v.rt.phase = .ticked last cmd → Fits cfg v.rt.core cmd v.wire) :
    v.Sound cfg :=
  ⟨orderly.tidy, orderly.commands, orderly.steadied, orderly.primed, chain, begun, stands, ticked⟩

theorem step_orderly (sound : w.Sound cfg) (taken : RealtimeCore.Takes lib w.rt l rt)
    (nonneg : ∀ j, 0 ≤ SlewWatch.slewBound cfg.tick j)
    (ordered : ∀ j, ∀ l ∈ cfg.tick.limits.posLo j, ∀ h ∈ cfg.tick.limits.posHi j, l ≤ h) :
    Orderly cfg rt where
  tidy := taken.tidy sound.tidy
  commands := taken.commands sound.commands
  steadied := steadied_step sound taken nonneg ordered
  primed := primed_step sound taken nonneg

omit [Field R] [LinearOrder R] [FloorRing R] [IsStrictOrderedRing R] in
theorem unsent (a : RealtimeCore R) :
    ((a.sent.drop a.sent.length).map some).reverse = ([] : List (Option (Datagram R))) := by
  rw [List.drop_length]
  rfl

omit [FloorRing R] [IsStrictOrderedRing R] in
/-- Most steps put nothing on the wire. -/
theorem quiet_sound (sound : w.Sound cfg) (orderly : Orderly cfg rt)
    (wire : w.rt.onWire rt l = []) (begins : w.rt.beginsStream l = false)
    (ready : rt.streamingReady = w.rt.streamingReady)
    (stands : (∀ last cmd, rt.phase ≠ .ticked last cmd) → Stands rt.core w.wire)
    (ticked : ∀ last cmd, rt.phase = .ticked last cmd → Fits cfg rt.core cmd w.wire) :
    (w.observe l rt).Sound cfg := by
  have log : (w.observe l rt).wire = w.wire := by
    rw [observe, wire, List.nil_append]
  have count : (w.observe l rt).begun = w.begun := by
    rw [observe, begins]
    rfl
  apply orderly.sound
  · rw [log]
    exact sound.chain
  · rw [count, sound.begun]
    exact congrArg (fun b : Bool => if b then 1 else 0) ready.symm
  · rw [log]
    exact stands
  · rw [log]
    exact ticked

omit [FloorRing R] [IsStrictOrderedRing R] in
/-- A caller leaves the core and its thread alone. -/
theorem untouched_sound (sound : w.Sound cfg) (orderly : Orderly cfg rt)
    (wire : w.rt.onWire rt l = []) (begins : w.rt.beginsStream l = false)
    (ready : rt.streamingReady = w.rt.streamingReady) (core : rt.core = w.rt.core)
    (phase : rt.phase = w.rt.phase) : (w.observe l rt).Sound cfg := by
  refine quiet_sound sound orderly wire begins ready ?_ ?_
  · rw [core, phase]
    exact sound.stands
  · rw [core, phase]
    exact sound.ticked

omit [FloorRing R] [IsStrictOrderedRing R] in
/-- The thread leaves the core alone where no command waits, before or after. -/
theorem working_sound (sound : w.Sound cfg) (orderly : Orderly cfg rt)
    (wire : w.rt.onWire rt l = []) (begins : w.rt.beginsStream l = false)
    (ready : rt.streamingReady = w.rt.streamingReady) (core : rt.core = w.rt.core)
    (before : ∀ last cmd, w.rt.phase ≠ .ticked last cmd)
    (after : ∀ last cmd, rt.phase ≠ .ticked last cmd) : (w.observe l rt).Sound cfg := by
  refine quiet_sound sound orderly wire begins ready (fun _ => ?_) fun last cmd phase =>
    absurd phase (after last cmd)
  rw [core]
  exact sound.stands before

omit [FloorRing R] [IsStrictOrderedRing R] in
theorem packet_sound (sound : w.Sound cfg) {rxMono : Int} {view : RobotStatusView R}
    (orderly : Orderly cfg (w.rt.ingestPacket rxMono view)) (phase : w.rt.phase = .waiting) :
    (w.observe (.packet rxMono view) (w.rt.ingestPacket rxMono view)).Sound cfg := by
  have before : ∀ last cmd, w.rt.phase ≠ .ticked last cmd := by simp [phase]
  have kept : (w.rt.ingestPacket rxMono view).sent = w.rt.sent ∧
      (w.rt.ingestPacket rxMono view).phase = w.rt.phase := by
    simp only [RealtimeCore.ingestPacket]
    split
    · exact ⟨rfl, rfl⟩
    · exact ⟨rfl, rfl⟩
  have wire : w.rt.onWire (w.rt.ingestPacket rxMono view) (.packet rxMono view) = [] := by
    show (((w.rt.ingestPacket rxMono view).sent.drop w.rt.sent.length).map some).reverse = []
    rw [kept.1]
    exact unsent w.rt
  cases begins : w.rt.begins view with
  | false =>
      obtain ⟨core, -, ready⟩ : (w.rt.ingestPacket rxMono view).core = w.rt.core ∧
          (w.rt.ingestPacket rxMono view).publishedEpoch = w.rt.publishedEpoch ∧
          (w.rt.ingestPacket rxMono view).streamingReady = w.rt.streamingReady :=
        RealtimeCore.ingestPacket_streams begins
      exact working_sound sound orderly wire begins ready core before (by rw [kept.2]; exact before)
  | true =>
      obtain ⟨core, -, ready⟩ :
          (w.rt.ingestPacket rxMono view).core = w.rt.core.beginStreaming view.qMeas ∧
          (w.rt.ingestPacket rxMono view).publishedEpoch = w.rt.core.health.epoch ∧
          (w.rt.ingestPacket rxMono view).streamingReady = true :=
        RealtimeCore.ingestPacket_begins begins
      have first : w.rt.streamingReady = false := by
        simp only [RealtimeCore.begins, Bool.and_eq_true, Bool.not_eq_true'] at begins
        exact begins.1
      have bare : w.rt.core.anchor.streaming ≠ true := fun streams => by
        rw [sound.commands.ready streams] at first
        cases first
      have log : (w.observe (.packet rxMono view) (w.rt.ingestPacket rxMono view)).wire =
          w.wire := by
        rw [observe, wire, List.nil_append]
      apply orderly.sound
      · rw [log]
        exact sound.chain
      · show (if w.rt.begins view then w.begun + 1 else w.begun) = _
        rw [begins, sound.begun, first]
        exact (congrArg (fun b : Bool => if b then 1 else 0) ready).symm
      · intro _ e head
        rw [log] at head
        exact absurd (sound.stands before e head).1.streams bare
      · intro last cmd ticked
        exact absurd (kept.2.symm.trans ticked) (before last cmd)

omit [FloorRing R] [IsStrictOrderedRing R] in
theorem exchange_sound (sound : w.Sound cfg) {op : ControlOp} {rest : List ControlOp}
    (orderly : Orderly cfg { w.rt.exchange op with
      phase := if rest = [] then .draining none else .exchanging rest })
    (phase : w.rt.phase = .exchanging (op :: rest)) :
    (w.observe .exchange { w.rt.exchange op with
      phase := if rest = [] then .draining none else .exchanging rest }).Sound cfg := by
  have before : ∀ last cmd, w.rt.phase ≠ .ticked last cmd := by simp [phase]
  have after (last : Option (Target R)) (cmd : Command R) :
      (if rest = [] then RtPhase.draining none else .exchanging rest) ≠ .ticked last cmd := by
    split
    · rintro ⟨⟩
    · rintro ⟨⟩
  rcases RealtimeCore.exchange_shape w.rt op with ⟨-, same⟩ | ⟨-, forwarded⟩
  · rw [same] at orderly ⊢
    exact working_sound sound orderly (unsent w.rt) rfl rfl rfl before after
  · rw [forwarded] at orderly ⊢
    refine quiet_sound sound orderly (unsent w.rt) rfl rfl (fun _ e head => ?_)
      fun last cmd ticked => absurd ticked (after last cmd)
    obtain ⟨aligned, pose⟩ := sound.stands before e head
    obtain ⟨still, anchor⟩ := forward_aligned op aligned
    exact ⟨still, pose.trans (by rw [anchor])⟩

omit [FloorRing R] [IsStrictOrderedRing R] in
/-- A window ends with its command on the wire, or with none. -/
theorem settle_sound (sound : w.Sound cfg) {last : Option (Target R)} {cmd : Command R}
    (orderly : Orderly cfg (w.rt.settle last cmd)) (phase : w.rt.phase = .ticked last cmd) :
    (w.observe .settle (w.rt.settle last cmd)).Sound cfg := by
  have sent : (w.rt.settle last cmd).sent = w.rt.sentAfter cmd := by
    obtain ⟨_, _, _, _, settled⟩ := RealtimeCore.settle_shape w.rt last cmd
    rw [settled]
  have core : (w.rt.settle last cmd).core = { w.rt.core with events := [] } ∧
      (w.rt.settle last cmd).phase = .waiting ∧
      (w.rt.settle last cmd).streamingReady = w.rt.streamingReady := by
    obtain ⟨_, _, _, _, settled⟩ := RealtimeCore.settle_shape w.rt last cmd
    rw [settled]
    exact ⟨rfl, rfl, rfl⟩
  have count : (w.observe .settle (w.rt.settle last cmd)).begun =
      if (w.rt.settle last cmd).streamingReady then 1 else 0 := by
    rw [core.2.2]
    exact sound.begun
  have idle (last' : Option (Target R)) (cmd' : Command R) :
      (w.rt.settle last cmd).phase ≠ .ticked last' cmd' := by
    rw [core.2.1]
    rintro ⟨⟩
  have fits := sound.ticked last cmd phase
  cases sends : cmd.tx with
  | false =>
      have log : (w.observe .settle (w.rt.settle last cmd)).wire =
          if w.rt.core.health.mode = .rxSilent then none :: w.wire else w.wire := by
        simp only [observe, RealtimeCore.onWire, sent, RealtimeCore.sentAfter, sends,
          Bool.false_eq_true, if_false, unsent]
        split <;> rfl
      refine orderly.sound ?_ count ?_ fun last' cmd' ticked => absurd ticked (idle last' cmd')
      · rw [log]
        split
        · exact List.isChain_cons.mpr ⟨fun older _ => adjacent_gap _ older, sound.chain⟩
        · exact sound.chain
      · rw [log]
        intro _ e head
        split at head
        · cases head
        · rename_i awake
          exact absurd head (fits.silent sends awake e)
  | true =>
      obtain ⟨aligned, pose, near⟩ := fits.near sends
      have nominal := (sound.commands.ticked last cmd phase).2
      have log : (w.observe .settle (w.rt.settle last cmd)).wire =
          some ⟨w.rt.txSeq + 1, cmd.isLast, fun j => rad2deg (cmd.qRad j)⟩ :: w.wire := by
        simp only [observe, RealtimeCore.onWire, sent, RealtimeCore.sentAfter, sends, if_true,
          List.drop_left, if_neg aligned.awake]
        rfl
      refine orderly.sound ?_ count ?_ fun last' cmd' ticked => absurd ticked (idle last' cmd')
      · rw [log]
        refine List.isChain_cons.mpr ⟨?_, sound.chain⟩
        rintro older head _ ⟨⟩ e ⟨⟩
        refine ⟨near e head, fun terminal => ?_⟩
        rw [nominal] at terminal
        cases terminal
      · rw [log]
        show _ → Stands (w.rt.settle last cmd).core _
        rw [core.1]
        rintro _ e ⟨⟩
        exact ⟨⟨aligned.primed, aligned.awake, aligned.streams⟩, by rw [pose]⟩

omit [FloorRing R] in
/-- A session that streams ends with a last command, where the core stands. -/
theorem exit_sound (sound : w.Sound cfg) (orderly : Orderly cfg w.rt.exit)
    (nonneg : ∀ j, 0 ≤ SlewWatch.slewBound cfg.tick j) (phase : w.rt.phase = .waiting) :
    (w.observe .exit w.rt.exit).Sound cfg := by
  have before : ∀ last cmd, w.rt.phase ≠ .ticked last cmd := by simp [phase]
  have stood := sound.stands before
  have kept : w.rt.exit.core = w.rt.core ∧ w.rt.exit.phase = .exited ∧
      w.rt.exit.streamingReady = w.rt.streamingReady := by
    rw [RealtimeCore.exit]
    split
    · exact ⟨rfl, rfl, rfl⟩
    · exact ⟨rfl, rfl, rfl⟩
  have count : (w.observe .exit w.rt.exit).begun =
      if w.rt.exit.streamingReady then 1 else 0 := by
    rw [kept.2.2]
    exact sound.begun
  have idle (last : Option (Target R)) (cmd : Command R) :
      w.rt.exit.phase ≠ .ticked last cmd := by
    rw [kept.2.1]
    rintro ⟨⟩
  let terminal : Datagram R :=
    ⟨w.rt.txSeq + 1, true, fun j => rad2deg (w.rt.core.anchor.qCmd j)⟩
  -- The last command repeats the pose before it.
  have repeats : (some terminal :: w.wire).IsChain (Adjacent cfg.tick) := by
    refine List.isChain_cons.mpr ⟨?_, sound.chain⟩
    rintro older head _ ⟨⟩ e ⟨⟩
    have pose := (stood e head).2
    refine ⟨fun j => ?_, fun _ => pose.symm⟩
    rw [pose, sub_self, abs_zero, rad2deg]
    exact mul_nonneg (nonneg j) rad2deg_factor.le
  have log : (w.observe .exit w.rt.exit).wire =
      (if w.rt.core.health.mode = .rxSilent then [none] else []) ++
        ((if w.rt.streamingReady then [some terminal] else []) ++ w.wire) := by
    rw [← List.append_assoc]
    refine congrArg (· ++ w.wire) ?_
    simp only [RealtimeCore.onWire, RealtimeCore.exit]
    cases w.rt.streamingReady with
    | false =>
        simp only [Bool.false_eq_true, if_false, unsent, List.append_nil]
    | true =>
        simp only [if_true, RealtimeCore.send, List.drop_left]
        split <;> rfl
  refine orderly.sound ?_ count ?_ fun last cmd ticked => absurd ticked (idle last cmd)
  · rw [log]
    have chain : ((if w.rt.streamingReady then [some terminal] else []) ++ w.wire).IsChain
        (Adjacent cfg.tick) := by
      split
      · exact repeats
      · exact sound.chain
    split
    · exact List.isChain_cons.mpr ⟨fun older _ => adjacent_gap _ older, chain⟩
    · exact chain
  · rw [log]
    show _ → Stands w.rt.exit.core _
    rw [kept.1]
    intro _ e head
    split at head
    · cases head
    · rename_i awake
      split at head
      · rename_i ready
        cases head
        have streams := sound.tidy.streams ready
        exact ⟨⟨sound.primed streams, awake, streams⟩, rfl⟩
      · exact stood e head

theorem step_sound (sound : w.Sound cfg) (moved : w.step lib l = some v)
    (nonneg : ∀ j, 0 ≤ SlewWatch.slewBound cfg.tick j)
    (ordered : ∀ j, ∀ l ∈ cfg.tick.limits.posLo j, ∀ h ∈ cfg.tick.limits.posHi j, l ≤ h) :
    v.Sound cfg := by
  obtain ⟨rt, stepped, rfl⟩ := Option.map_eq_some_iff.mp moved
  have taken := RealtimeCore.step_takes stepped
  have orderly := step_orderly sound taken nonneg ordered
  cases taken with
  | packet rxMono view phase => exact packet_sound sound orderly phase
  | exchange op rest phase => exact exchange_sound sound orderly phase
  | pop last phase =>
      have before : ∀ last cmd, w.rt.phase ≠ .ticked last cmd := by simp [phase]
      rcases RealtimeCore.pop_shape w.rt last with ⟨-, same⟩ | ⟨_, _, _, _, -, popped⟩
      · rw [same] at orderly ⊢
        exact working_sound sound orderly (unsent w.rt) rfl rfl rfl before (by rintro _ _ ⟨⟩)
      · rw [popped] at orderly ⊢
        exact working_sound sound orderly (unsent w.rt) rfl rfl rfl before (by rintro _ _ ⟨⟩)
  | tick last consumeSuperseded phase =>
      have before : ∀ last cmd, w.rt.phase ≠ .ticked last cmd := by simp [phase]
      refine quiet_sound sound orderly (unsent w.rt) rfl rfl
        (fun after => absurd rfl (after last _)) ?_
      rintro _ _ ⟨⟩
      exact tick_fits sound nonneg (sound.stands before) w.rt.rx last consumeSuperseded
  | settle last cmd phase => exact settle_sound sound orderly phase
  | exit phase flagged => exact exit_sound sound orderly nonneg phase
  | start idle cleared =>
      exact working_sound sound orderly (unsent w.rt) rfl rfl rfl
        (by simp [sound.tidy.idle idle]) (by rintro _ _ ⟨⟩)
  | join phase unlocked =>
      exact working_sound sound orderly (unsent w.rt) rfl rfl rfl (by simp [phase])
        (by rintro _ _ ⟨⟩)
  | timer phase =>
      exact working_sound sound orderly (unsent w.rt) rfl rfl rfl (by simp [phase])
        (by rintro _ _ ⟨⟩)
  | check last phase =>
      exact working_sound sound orderly (unsent w.rt) rfl rfl rfl (by simp [phase])
        (by rintro _ _ ⟨⟩)
  | push t stage =>
      rcases RealtimeCore.pushMailbox_shape w.rt t with ⟨-, pushed⟩ | ⟨-, dropped⟩
      · rw [pushed] at orderly ⊢
        exact untouched_sound sound orderly (unsent w.rt) rfl rfl rfl rfl
      · rw [dropped] at orderly ⊢
        exact untouched_sound sound orderly (unsent w.rt) rfl rfl rfl rfl
  | stop | clear | submitTrajectory | submit | name | date | stamp | stopBump | stopStore | request
  | reap | drainEvents => exact untouched_sound sound orderly (unsent w.rt) rfl rfl rfl rfl

/-- Over all the sessions of a loop, whoever calls and whatever is measured: two commands in a row
are one slew step apart, those of two sessions like those of one, unless silence had the core parked
at the end of a window or of a session between them; the last command of a session repeats the pose
before it. The streaming begins once, so no later session starts out from where the arm is found. -/
theorem wire_stays_slewed (lib : External R) (cfg : RtCoreConfig R)
    (nonneg : ∀ j, 0 ≤ SlewWatch.slewBound cfg.tick j)
    (ordered : ∀ j, ∀ l ∈ cfg.tick.limits.posLo j, ∀ h ∈ cfg.tick.limits.posHi j, l ≤ h)
    (w : WireWatch R) (reached : (machine lib cfg).Reachable (fun _ _ => True) w) :
    w.wire.IsChain (Adjacent cfg.tick) ∧ w.begun ≤ 1 := by
  have sound : w.Sound cfg :=
    reached.invariant (start_sound lib cfg) fun _ _ _ kept _ moved =>
      step_sound kept moved nonneg ordered
  refine ⟨sound.chain, ?_⟩
  rw [sound.begun]
  split
  · exact Nat.le_refl 1
  · exact Nat.zero_le 1

/-- A servo goal one radian away and two windows of it, then a stop, a new session and one window in
which nothing was measured. -/
def benchTwoSessions : List (Label ℚ) :=
  [.start, benchClear] ++ benchSubmit (.servo (fun _ => 1) (8 / 1000)) 0 ++ benchWindow 1 ++
    benchWindow 0 ++ benchStop ++ [.start] ++ benchWindow 0

theorem wire_stays_slewed_restart : ∃ w : WireWatch ℚ,
    (w.rt.sent.map (fun d => (d.txSeq, d.isLast)) =
        [(1, false), (2, false), (3, true), (1, false)] ∧
      w.begun = 1) ∧
      w.wire.IsChain (Adjacent SlewWatch.stopsConfig.tick) ∧ w.begun ≤ 1 := by
  have bound : ∀ j, 0 ≤ SlewWatch.slewBound SlewWatch.stopsConfig.tick j := by decide +kernel
  have stops (j : Fin kNumJoints) : ∀ l ∈ SlewWatch.stopsConfig.tick.limits.posLo j,
      ∀ h ∈ SlewWatch.stopsConfig.tick.limits.posHi j, l ≤ h := by
    rintro l ⟨⟩ h ⟨⟩
    decide +kernel
  obtain ⟨w, reached, tested⟩ := Machine.reachable_of_run
    (machine benchExternal SlewWatch.stopsConfig) benchTwoSessions
    (fun w => decide (w.rt.sent.map (fun d => (d.txSeq, d.isLast)) =
      [(1, false), (2, false), (3, true), (1, false)] ∧ w.begun = 1)) (by decide +kernel)
  exact ⟨w, of_decide_eq_true tested, wire_stays_slewed benchExternal SlewWatch.stopsConfig bound
    stops w reached⟩

end WireWatch

end AiroFanuc.RtCore

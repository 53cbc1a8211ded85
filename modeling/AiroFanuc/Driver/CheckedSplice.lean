import AiroFanuc.RtCore.EpochSafety
import AiroFanuc.RtCore.Publication
import AiroFanuc.RtCore.SplicePlay

/-! The capture gate of `move_trajectory` against the core that plays the splice: the gate judges the
path from the pose it read, and the core the one from the pose it stands at when it takes the
target. -/

namespace AiroFanuc.Driver

open AiroFanuc.TickEngine AiroFanuc.RtCore AiroFanuc.Library

variable {R : Type} [Field R] [LinearOrder R] [FloorRing R]

/-! ### The gate -/

/-- The start is off the commanded pose, or the splice fails the caller's check. -/
inductive CaptureError where
  | rejectedStartMismatch
  | collision
  deriving DecidableEq

/-- `policy.capture_check`, of the splice's positions and velocities. -/
abbrev CaptureCheck (R : Type) := List (Vec6 R) → List (Vec6 R) → Bool

/-- `_capture_gate`: the early return and the passed check both let the call go on. -/
def captureGate (lib : External R) (rtCfg : RtCoreConfig R) (captureCheck : Option (CaptureCheck R))
    (snap : StateSnapshot R) (q0 qd0 : Vec6 R) (asynchronous : Bool) : Except CaptureError Unit :=
  let path := generateCapturePath lib snap.qCmd snap.qdCmd q0 qd0 rtCfg.tick
  if captureWouldReject lib snap.qCmd snap.qdCmd q0 qd0 rtCfg.tick then
    if asynchronous then .ok () else .error .rejectedStartMismatch
  else
    match captureCheck with
    | none => .ok ()
    | some check =>
      if check (path.knots.map HermiteSample.q) (path.knots.map HermiteSample.qd) then .ok ()
      else .error .collision

/-- The arguments of `move_trajectory` once `_validate_trajectory` has accepted them. -/
structure MoveTrajectory (R : Type) where
  timesNs : List Int
  q : List (Vec6 R)
  qd : List (Vec6 R)
  tolDeg : R
  velEpsDegS : R
  timeoutS : R
  deadmanS : Option R
  forceStopN : Option R
  asynchronous : Bool
  knots : 2 ≤ q.length
  paired : qd.length = q.length

namespace MoveTrajectory

def q0 (m : MoveTrajectory R) : Vec6 R := m.q.get ⟨0, by have := m.knots; omega⟩
def qd0 (m : MoveTrajectory R) : Vec6 R := m.qd.get ⟨0, by have := m.knots; have := m.paired; omega⟩

/-- The call of `submit_trajectory`. -/
def request (m : MoveTrajectory R) : RtCore.Request R :=
  .trajectory m.timesNs m.q m.qd 1 (deg2rad m.tolDeg) (deg2rad m.velEpsDegS) m.timeoutS
    (m.forceStopN.getD 0) (m.deadmanS.getD 0)

omit [LinearOrder R] [FloorRing R] in
theorem request_start (m : MoveTrajectory R) :
    m.request.target.q0 = m.q0 ∧ m.request.target.qd0 = m.qd0 := by
  have first {v : List (Vec6 R)} (inside : 0 < v.length) : v.getD 0 0 = v.get ⟨0, inside⟩ := by
    cases v with
    | nil => cases inside
    | cons a rest => rfl
  exact ⟨first _, first _⟩

end MoveTrajectory

/-- A call behind its gate: the pose the gate read, and how often the arm had been disturbed when
that pose was published. -/
structure GatedCall (R : Type) where
  move : MoveTrajectory R
  qCmd : Vec6 R
  qdCmd : Vec6 R
  since : Nat

/-- The trajectory accepted last: whose call it was, the pose it was spliced to, the disturbances
up to then, and what its splice has handed on. -/
structure PlayedSplice (R : Type) where
  call : Option (GatedCall R)
  q0 : Vec6 R
  qd0 : Vec6 R
  qCmd : Vec6 R
  qdCmd : Vec6 R
  since : Nat
  played : List (Vec6 R × Vec6 R)

namespace GatedCall

/-- The path the gate has judged. -/
def path (lib : External R) (cfg : RtCoreConfig R) (c : GatedCall R) : CapturePath R :=
  generateCapturePath lib c.qCmd c.qdCmd c.move.q0 c.move.qd0 cfg.tick

/-- The gate did not refuse the start, and the hook, where there is one, accepted the path. -/
def Passed (lib : External R) (cfg : RtCoreConfig R) (hook : Option (CaptureCheck R))
    (c : GatedCall R) : Prop :=
  captureWouldReject lib c.qCmd c.qdCmd c.move.q0 c.move.qd0 cfg.tick = false ∧
    ∀ check ∈ hook, check ((c.path lib cfg).knots.map HermiteSample.q)
      ((c.path lib cfg).knots.map HermiteSample.qd) = true

/-- What the gate lets through unjudged: an asynchronous call that it refuses. -/
def Unjudged (lib : External R) (cfg : RtCoreConfig R) (c : GatedCall R) : Prop :=
  c.move.asynchronous = true ∧
    captureWouldReject lib c.qCmd c.qdCmd c.move.q0 c.move.qd0 cfg.tick = true

end GatedCall

namespace PlayedSplice

def path (lib : External R) (cfg : RtCoreConfig R) (p : PlayedSplice R) : CapturePath R :=
  generateCapturePath lib p.qCmd p.qdCmd p.q0 p.qd0 cfg.tick

/-- The first knot is the pose itself; the others are to be handed on. -/
def knots (lib : External R) (cfg : RtCoreConfig R) (p : PlayedSplice R) : List (Vec6 R × Vec6 R) :=
  ((p.path lib cfg).knots.map TickCore.knot).tail

end PlayedSplice

theorem captureGate_ok {lib : External R} {cfg : RtCoreConfig R} {hook : Option (CaptureCheck R)}
    {snap : StateSnapshot R} {m : MoveTrajectory R} {since : Nat}
    (passed : captureGate lib cfg hook snap m.q0 m.qd0 m.asynchronous = .ok ()) :
    (⟨m, snap.qCmd, snap.qdCmd, since⟩ : GatedCall R).Passed lib cfg hook ∨
      (⟨m, snap.qCmd, snap.qdCmd, since⟩ : GatedCall R).Unjudged lib cfg := by
  unfold captureGate at passed
  split at passed
  · rename_i refused
    split at passed
    · rename_i asynchronous
      exact .inr ⟨asynchronous, refused⟩
    · cases passed
  · rename_i fits
    refine .inl ⟨Bool.eq_false_of_not_eq_true fits, ?_⟩
    rintro check present
    cases present
    simp only at passed
    split at passed
    · assumption
    · cases passed

/-! ### The loop and its callers -/

structure SpliceWatch (R : Type) where
  watch : EpochWatch R
  calls : List (GatedCall R)
  submitting : Option (GatedCall R)
  named : Nat → Option (GatedCall R)
  disturbed : Nat
  shown : Nat
  playing : Option (PlayedSplice R)

inductive SpliceLabel (R : Type) where
  | loop (l : RtCore.Label R)
  | gate (move : MoveTrajectory R)
  | submit (k : Nat) (addr : Nat)

/-- A tick that does not find the arm standing, and the streaming's begin. -/
def disturbs (lib : External R) (s : RealtimeCore R) : RtCore.Label R → Bool
  | .tick =>
    match s.phase with
    | .checked last consumeSuperseded => !s.core.stands lib s.rx last consumeSuperseded
    | _ => false
  | .packet _ view => s.begins view
  | _ => false

namespace SpliceWatch

abbrev rt (w : SpliceWatch R) : RealtimeCore R := w.watch.rt

/-- Whether the mailbox's target starts a splice in the coming tick. -/
def starts (lib : External R) (s : RealtimeCore R) (t : Target R) (consumeSuperseded : Bool) : Bool :=
  decide (t.kind = .trajectory) &&
    ((s.core.beforeConsume lib s.rx).consume lib t consumeSuperseded).1.accepted

/-- What is being played when a tick has looked at its mailbox. -/
def begun (lib : External R) (w : SpliceWatch R) (last : Option (Target R))
    (consumeSuperseded : Bool) : Option (PlayedSplice R) :=
  match last with
  | none => w.playing
  | some t =>
    if starts lib w.rt t consumeSuperseded then
      let anchor := (w.rt.core.beforeConsume lib w.rt.rx).anchor
      some ⟨w.named t.motionId, t.q0, t.qd0, anchor.qCmd, anchor.qdCmd, w.disturbed, []⟩
    else w.playing

def handed (lib : External R) (w : SpliceWatch R) (last : Option (Target R))
    (consumeSuperseded : Bool) : Option (PlayedSplice R) :=
  (w.begun lib last consumeSuperseded).map fun p => { p with
    played := p.played ++
      ((w.rt.core.dispatched lib w.rt.rx last consumeSuperseded).handsOn lib).toList }

/-- The id a submission is given in this step. -/
def naming (s : RealtimeCore R) : RtCore.Label R → Option Nat
  | .enqueue =>
    match s.submission with
    | some ⟨_, .locked⟩ => some s.nextMotionId
    | _ => none
  | _ => none

def observe (lib : External R) (w : SpliceWatch R) (l : RtCore.Label R) (watch : EpochWatch R) :
    SpliceWatch R where
  watch := watch
  calls := w.calls
  submitting :=
    match l with
    | .submit _ _ => none
    | _ => w.submitting
  named :=
    match naming w.rt l with
    | some id => Function.update w.named id w.submitting
    | none => w.named
  disturbed := if disturbs lib w.rt l then w.disturbed + 1 else w.disturbed
  shown :=
    match l with
    | .settle => w.disturbed
    | _ => w.shown
  playing :=
    match w.rt.phase, l with
    | .checked last consumeSuperseded, .tick => w.handed lib last consumeSuperseded
    | _, _ => w.playing

def step (lib : External R) (cfg : RtCoreConfig R) (hook : Option (CaptureCheck R))
    (w : SpliceWatch R) : SpliceLabel R → Option (SpliceWatch R)
  | .loop l => (w.watch.step lib l).map (w.observe lib l)
  | .gate move =>
    match captureGate lib cfg hook w.rt.snap move.q0 move.qd0 move.asynchronous with
    | .ok () => some { w with calls := w.calls ++ [⟨move, w.rt.snap.qCmd, w.rt.snap.qdCmd, w.shown⟩] }
    | .error _ => none
  | .submit k addr =>
    match w.calls[k]? with
    | none => none
    | some call =>
      (w.watch.step lib (.submit call.move.request addr)).map fun watch =>
        { w.observe lib (.submit call.move.request addr) watch with
          calls := w.calls.eraseIdx k, submitting := some call }

def machine (lib : External R) (cfg : RtCoreConfig R) (hook : Option (CaptureCheck R)) :
    Machine (SpliceWatch R) (SpliceLabel R) where
  start := ⟨(EpochWatch.machine lib cfg).start, [], none, fun _ => none, 0, 0, none⟩
  step := step lib cfg hook

end SpliceWatch

/-! ### What is played of a splice -/

theorem prefix_extend {α : Type} {xs ys : List α} {y : α} (start : xs <+: ys)
    (next : ys[xs.length]? = some y) : xs ++ [y] <+: ys := by
  obtain ⟨rest, rfl⟩ := start
  rw [List.getElem?_append_right (le_refl _), Nat.sub_self] at next
  cases rest with
  | nil => cases next
  | cons z rest =>
      cases next
      exact ⟨rest, by rw [List.append_assoc, List.singleton_append]⟩

/-- The splice that runs is the one of the trajectory accepted last, up to its knot; the playback
behind it has been handed all of it. -/
structure Follows (lib : External R) (cfg : RtCoreConfig R) (s : TickCore R)
    (playing : Option (PlayedSplice R)) : Prop where
  played : ∀ p ∈ playing, p.played <+: p.knots lib cfg
  splicing : s.health.mode = .capture → ∃ p ∈ playing,
    s.splice.capture = p.path lib cfg ∧ s.splice.captureIdx = p.played.length + 1
  through : s.health.mode = .trajectory → ∃ p ∈ playing, p.played = p.knots lib cfg

namespace Follows

variable {lib : External R} {cfg : RtCoreConfig R} {s t : TickCore R} {w : SpliceWatch R}
  {playing : Option (PlayedSplice R)} {last : Option (Target R)} {consumeSuperseded : Bool}

/-- A motion that still rolls rolls on from where it was. -/
theorem keeps (follows : Follows lib cfg s playing) (keeps : s.reel.Keeps t.reel) :
    Follows lib cfg t playing := by
  constructor
  · exact follows.played
  · intro mode
    have same := keeps (.inl mode)
    have before : s.health.mode = .capture := (congrArg Reel.mode same).symm.trans mode
    obtain ⟨p, member, capture, index⟩ := follows.splicing before
    exact ⟨p, member, (congrArg Reel.capture same).trans capture,
      (congrArg Reel.captureIdx same).trans index⟩
  · intro mode
    have same := keeps (.inr mode)
    exact follows.through ((congrArg Reel.mode same).symm.trans mode)

/-- The dispatch hands on the knot that is next, and the playback takes over behind the last. -/
theorem handed {c : TickCore R} (follows : Follows lib cfg c playing)
    (reel : t.reel = (c.dispatchMode lib).2.reel) :
    Follows lib cfg t
      (playing.map fun p => { p with played := p.played ++ (c.handsOn lib).toList }) := by
  have mode : t.health.mode = (c.dispatchMode lib).2.health.mode := congrArg Reel.mode reel
  constructor
  · intro p member
    obtain ⟨p, before, rfl⟩ := Option.map_eq_some_iff.mp member
    cases hands : c.handsOn lib with
    | none =>
        rw [Option.toList_none, List.append_nil]
        exact follows.played p before
    | some k =>
        rw [TickCore.handsOn_knot] at hands
        split at hands
        · rename_i spliced
          obtain ⟨p', same, capture, index⟩ := follows.splicing spliced
          cases before.symm.trans same
          refine prefix_extend (follows.played p before) ?_
          rw [capture, index] at hands
          rw [PlayedSplice.knots, List.getElem?_tail, List.getElem?_map]
          exact hands
        · cases hands
  · intro goes
    rw [mode] at goes
    obtain ⟨spliced, hands, capture, index⟩ := TickCore.dispatchMode_splicing goes
    obtain ⟨p, before, path, next⟩ := follows.splicing spliced
    refine ⟨_, Option.map_eq_some_iff.mpr ⟨p, before, rfl⟩, ?_, ?_⟩
    · exact (congrArg Reel.capture reel).trans (capture.trans path)
    · obtain ⟨k, handed⟩ := Option.isSome_iff_exists.mp hands
      have advanced : t.splice.captureIdx = c.splice.captureIdx + 1 :=
        (congrArg Reel.captureIdx reel).trans index
      rw [advanced, next, handed]
      simp only [Option.toList_some, List.length_append, List.length_singleton]
  · intro goes
    rw [mode] at goes
    obtain ⟨hands, rolling | ⟨spliced, through⟩⟩ := TickCore.dispatchMode_playing goes
    · obtain ⟨p, before, whole⟩ := follows.through rolling
      refine ⟨_, Option.map_eq_some_iff.mpr ⟨p, before, rfl⟩, ?_⟩
      rw [hands, Option.toList_none, List.append_nil]
      exact whole
    · obtain ⟨p, before, path, next⟩ := follows.splicing spliced
      refine ⟨_, Option.map_eq_some_iff.mpr ⟨p, before, rfl⟩, ?_⟩
      rw [hands, Option.toList_none, List.append_nil]
      apply (follows.played p before).eq_of_length_le
      rw [path, CapturePath.count] at through
      rw [PlayedSplice.knots, List.length_tail, List.length_map]
      omega

/-- Up to the dispatch a tick begins a splice, or leaves what rolls alone. -/
theorem dispatched (follows : Follows lib cfg w.rt.core w.playing)
    (settings : w.rt.core.cfg = cfg) :
    Follows lib cfg (w.rt.core.dispatched lib w.rt.rx last consumeSuperseded)
      (w.begun lib last consumeSuperseded) := by
  have before := follows.keeps (TickCore.beforeConsume_keeps lib w.rt.core w.rt.rx)
  cases last with
  | none => exact before.keeps fun _ => rfl
  | some t =>
      simp only [SpliceWatch.begun]
      cases starting : SpliceWatch.starts lib w.rt t consumeSuperseded with
      | true =>
          simp only [SpliceWatch.starts, Bool.and_eq_true, decide_eq_true_eq] at starting
          obtain ⟨kind, accepted⟩ := starting
          have reel : (w.rt.core.dispatched lib w.rt.rx (some t) consumeSuperseded).reel =
              (w.rt.core.beforeConsume lib w.rt.rx).splicedReel lib t :=
            (TickCore.consume_spliced kind accepted).1
          have tuned := (TickCore.beforeConsume_cfg lib w.rt.core w.rt.rx).trans settings
          constructor
          · rintro p ⟨⟩
            exact List.nil_prefix
          · intro _
            refine ⟨_, rfl, ?_, congrArg Reel.captureIdx reel⟩
            refine (congrArg Reel.capture reel).trans ?_
            rw [PlayedSplice.path, ← tuned]
            rfl
          · intro mode
            have spliced := congrArg Reel.mode reel
            rw [TickCore.splicedReel] at spliced
            exact Mode.noConfusion (spliced.symm.trans mode)
      | false =>
          refine before.keeps ?_
          have unstarted : t.kind = .trajectory →
              ((w.rt.core.beforeConsume lib w.rt.rx).consume lib t consumeSuperseded).1.accepted =
                false := fun kind => by simpa [SpliceWatch.starts, kind] using starting
          exact TickCore.consume_keeps unstarted

end Follows

/-! ### What was read of the pose -/

/-- A pose read behind so many disturbances is the one still commanded, if no more have come. -/
structure Seen (s : TickCore R) (disturbed since : Nat) (qCmd qdCmd : Vec6 R) : Prop where
  past : since ≤ disturbed
  still : since = disturbed → qCmd = s.anchor.qCmd ∧ qdCmd = s.anchor.qdCmd

/-- A step ticks the core, begins the streaming, or at most leaves a request there. -/
theorem takes_core {lib : External R} {s t : RealtimeCore R} {l : RtCore.Label R}
    (taken : RealtimeCore.Takes lib s l t) :
    (∃ last consumeSuperseded, l = .tick ∧ s.phase = .checked last consumeSuperseded ∧
        t = s.runTick lib last consumeSuperseded) ∨
      (∃ rxMono view, l = .packet rxMono view ∧ s.begins view = true ∧
        t.core = s.core.beginStreaming view.qMeas) ∨
      l ≠ .tick ∧ (t.core = s.core ∨ t.core = { s.core with events := [] } ∨
        ∃ liveness recovery ops,
          t.core = { s.core with liveness := liveness, recovery := recovery, ops := ops }) := by
  cases taken with
  | tick last consumeSuperseded phase => exact .inl ⟨last, consumeSuperseded, rfl, phase, rfl⟩
  | packet rxMono view phase =>
      cases begins : s.begins view with
      | true =>
          exact .inr (.inl ⟨rxMono, view, rfl, begins, (RealtimeCore.ingestPacket_begins begins).1⟩)
      | false =>
          exact .inr (.inr ⟨by rintro ⟨⟩, .inl (RealtimeCore.ingestPacket_streams begins).1⟩)
  | exchange op rest phase =>
      refine .inr (.inr ⟨by rintro ⟨⟩, ?_⟩)
      rcases RealtimeCore.exchange_shape s op with ⟨-, same⟩ | ⟨-, forwarded⟩
      · rw [same]
        exact .inl rfl
      · rw [forwarded]
        exact .inr (.inr (RealtimeCore.forward_shape s.core op))
  | settle last cmd phase =>
      obtain ⟨_, _, _, _, settled⟩ := RealtimeCore.settle_shape s last cmd
      rw [settled]
      exact .inr (.inr ⟨by rintro ⟨⟩, .inr (.inl rfl)⟩)
  | exit phase flagged =>
      refine .inr (.inr ⟨by rintro ⟨⟩, .inl ?_⟩)
      rw [RealtimeCore.exit]
      split <;> rfl
  | pop last phase =>
      refine .inr (.inr ⟨by rintro ⟨⟩, .inl ?_⟩)
      rcases RealtimeCore.pop_shape s last with ⟨-, same⟩ | ⟨_, _, _, _, -, popped⟩
      · rw [same]
      · rw [popped]
  | push u stage =>
      refine .inr (.inr ⟨by rintro ⟨⟩, .inl ?_⟩)
      rcases RealtimeCore.pushMailbox_shape s u with ⟨-, pushed⟩ | ⟨-, dropped⟩
      · rw [pushed]
      · rw [dropped]
  | start | stop | join | clear | timer | check | submitTrajectory | submit | name | date | stamp
  | stopBump | stopStore | request | reap | drainEvents =>
      exact .inr (.inr ⟨by rintro ⟨⟩, .inl rfl⟩)

/-- A step that disturbs nothing leaves the commanded pose where it is. -/
theorem takes_anchor [IsStrictOrderedRing R] {lib : External R} {cfg : RtCoreConfig R}
    {s t : RealtimeCore R} {l : RtCore.Label R} (taken : RealtimeCore.Takes lib s l t)
    (poised : s.core.Poised cfg) (nonneg : ∀ j, 0 ≤ SlewWatch.slewBound cfg.tick j)
    (quiet : disturbs lib s l = false) :
    t.core.anchor.qCmd = s.core.anchor.qCmd ∧ t.core.anchor.qdCmd = s.core.anchor.qdCmd := by
  rcases takes_core taken with ⟨last, consumeSuperseded, rfl, phase, rfl⟩ |
    ⟨rxMono, view, rfl, begins, -⟩ | ⟨-, same | same | ⟨_, _, _, same⟩⟩
  · simp only [disturbs, phase, Bool.not_eq_false'] at quiet
    exact TickCore.tick_stands poised nonneg quiet
  · exact absurd (begins.symm.trans quiet) (by decide)
  · rw [same]
    exact ⟨rfl, rfl⟩
  · rw [same]
    exact ⟨rfl, rfl⟩
  · rw [same]
    exact ⟨rfl, rfl⟩

/-- No step but a tick starts or moves a motion. -/
theorem takes_keeps {lib : External R} {s t : RealtimeCore R} {l : RtCore.Label R}
    (taken : RealtimeCore.Takes lib s l t) (other : l ≠ .tick) :
    s.core.reel.Keeps t.core.reel := by
  rcases takes_core taken with ⟨_, _, tick, -⟩ | ⟨_, _, -, -, same⟩ |
    ⟨-, same | same | ⟨_, _, _, same⟩⟩
  · exact absurd tick other
  · rw [same]
    exact Reel.Keeps.ended ⟨by rintro ⟨⟩, by rintro ⟨⟩⟩
  · rw [same]
    exact .refl _
  · rw [same]
    exact .refl _
  · rw [same]
    exact .refl _

theorem Seen.step [IsStrictOrderedRing R] {lib : External R} {cfg : RtCoreConfig R}
    {s t : RealtimeCore R} {l : RtCore.Label R} {disturbed since : Nat} {qCmd qdCmd : Vec6 R}
    (seen : Seen s.core disturbed since qCmd qdCmd) (taken : RealtimeCore.Takes lib s l t)
    (poised : s.core.Poised cfg) (nonneg : ∀ j, 0 ≤ SlewWatch.slewBound cfg.tick j) :
    Seen t.core (if disturbs lib s l then disturbed + 1 else disturbed) since qCmd qdCmd := by
  have past := seen.past
  cases quiet : disturbs lib s l with
  | true => exact ⟨by simp only [if_true]; omega, fun same => by simp only [if_true] at same; omega⟩
  | false =>
      obtain ⟨qCmd, qdCmd⟩ := takes_anchor taken poised nonneg quiet
      refine ⟨past, fun same => ?_⟩
      rw [qCmd, qdCmd]
      exact seen.still same

/-- The loop's core keeps to what every run of it keeps. -/
theorem takes_poised {lib : External R} {cfg : RtCoreConfig R} {s t : RealtimeCore R}
    {l : RtCore.Label R} [IsStrictOrderedRing R] (taken : RealtimeCore.Takes lib s l t)
    (poised : s.core.Poised cfg) : t.core.Poised cfg := by
  have core := taken.core
  cases input : s.coreInput l with
  | none =>
      simp only [input] at core
      rcases core with same | drained
      · rw [same]
        exact poised
      · rw [drained]
        exact ⟨poised.settings, poised.limiter, poised.anchored, poised.primed⟩
  | some i =>
      simp only [input] at core
      rw [core]
      exact poised.apply i

/-! ### The targets on their way -/

/-- A target that has its id and waits for the core. -/
def Carries (s : RealtimeCore R) (u : Target R) : Prop :=
  u ∈ s.waiting ∨ ∃ stage, s.submission = some ⟨u, stage⟩ ∧ stage ≠ .locked

omit [Field R] [LinearOrder R] [FloorRing R] in
theorem carries_id {w : EpochWatch R} (sound : w.Sound) {u : Target R} (carries : Carries w.rt u) :
    u.motionId < w.rt.nextMotionId := by
  rcases carries with waits | ⟨stage, submission, named⟩
  · exact sound.waiting u waits
  · refine (sound.submitted u.motionId ?_).1
    rw [RealtimeCore.submittedId, submission]
    cases stage with
    | locked => exact absurd rfl named
    | named | dated | stamped => rfl

omit [Field R] [LinearOrder R] [FloorRing R] in
theorem naming_next {s : RealtimeCore R} {l : RtCore.Label R} {id : Nat}
    (names : SpliceWatch.naming s l = some id) : id = s.nextMotionId := by
  unfold SpliceWatch.naming at names
  split at names
  · split at names
    · cases names
      rfl
    · cases names
  · cases names

omit [Field R] [LinearOrder R] [FloorRing R] in
theorem stamped_carries {s : RealtimeCore R} {u : Target R} (stamp : s.stamped = some u) :
    Carries s u := by
  simp only [RealtimeCore.stamped] at stamp
  split at stamp
  · rename_i submission
    cases stamp
    exact .inr ⟨.stamped, submission, by decide⟩
  · cases stamp
  · cases stamp
  · cases stamp
  · cases stamp

/-- A step leaves the submission alone, begins one, moves it on with its first knot, or ends it. -/
theorem takes_submission {lib : External R} {s t : RealtimeCore R} {l : RtCore.Label R}
    (taken : RealtimeCore.Takes lib s l t) :
    (t.submission = s.submission ∧ ∀ request addr, l ≠ .submit request addr) ∨
      (∃ request addr u, l = .submit request addr ∧ t.submission = some ⟨u, .locked⟩ ∧
        u.q0 = request.target.q0 ∧ u.qd0 = request.target.qd0) ∨
      (∃ v u stage next, s.submission = some ⟨v, stage⟩ ∧ t.submission = some ⟨u, next⟩ ∧
        next ≠ .locked ∧ u.q0 = v.q0 ∧ u.qd0 = v.qd0 ∧
        (stage = .locked ∧ SpliceWatch.naming s l = some u.motionId ∨
          stage ≠ .locked ∧ u.motionId = v.motionId)) ∨
      t.submission = none := by
  cases taken with
  | submitTrajectory request addr unlocked planned free | submit request addr unlocked plain =>
      exact .inr (.inl ⟨request, addr, _, rfl, rfl, rfl, rfl⟩)
  | name v before =>
      exact .inr (.inr (.inl ⟨v, _, _, _, before, rfl, by decide, rfl, rfl,
        .inl ⟨rfl, by simp only [SpliceWatch.naming, before]⟩⟩))
  | date v before | stamp v before =>
      exact .inr (.inr (.inl ⟨v, _, _, _, before, rfl, by decide, rfl, rfl, .inr ⟨by decide, rfl⟩⟩))
  | push v before => exact .inr (.inr (.inr rfl))
  | exit phase flagged =>
      refine .inl ⟨?_, by rintro _ _ ⟨⟩⟩
      rw [RealtimeCore.exit]
      split <;> rfl
  | packet rxMono view phase =>
      refine .inl ⟨?_, by rintro _ _ ⟨⟩⟩
      simp only [RealtimeCore.ingestPacket]
      split <;> rfl
  | exchange op rest phase =>
      refine .inl ⟨?_, by rintro _ _ ⟨⟩⟩
      rcases RealtimeCore.exchange_shape s op with ⟨-, same⟩ | ⟨-, forwarded⟩
      · rw [same]
      · rw [forwarded]
  | pop last phase =>
      refine .inl ⟨?_, by rintro _ _ ⟨⟩⟩
      rcases RealtimeCore.pop_shape s last with ⟨-, same⟩ | ⟨_, _, _, _, -, popped⟩
      · rw [same]
      · rw [popped]
  | settle last cmd phase =>
      refine .inl ⟨?_, by rintro _ _ ⟨⟩⟩
      obtain ⟨_, _, _, _, settled⟩ := RealtimeCore.settle_shape s last cmd
      rw [settled]
  | start | stop | join | clear | timer | check | tick | stopBump | stopStore | request | reap
  | drainEvents => exact .inl ⟨rfl, by rintro _ _ ⟨⟩⟩

/-- A target keeps its id and its first knot on its way, or has just been given the id. -/
theorem carries_step {lib : External R} {s t : RealtimeCore R} {l : RtCore.Label R}
    (taken : RealtimeCore.Takes lib s l t) (tidy : s.Tidy) {u : Target R} (carries : Carries t u) :
    (∃ v, Carries s v ∧ v.motionId = u.motionId ∧ v.q0 = u.q0 ∧ v.qd0 = u.qd0) ∨
      SpliceWatch.naming s l = some u.motionId ∧
        ∃ v, s.submission = some ⟨v, .locked⟩ ∧ v.q0 = u.q0 ∧ v.qd0 = u.qd0 := by
  rcases carries with waits | ⟨stage, submission, named⟩
  · left
    rcases taken.waiting tidy waits with old | ⟨-, stamp, -⟩
    · exact ⟨u, .inl old, rfl, rfl, rfl⟩
    · exact ⟨u, stamped_carries stamp, rfl, rfl, rfl⟩
  · rcases takes_submission taken with ⟨same, -⟩ | ⟨_, _, v, -, begun, -⟩ |
      ⟨v, u', before, next, was, moved, -, q0, qd0, stages⟩ | ended
    · exact .inl ⟨u, .inr ⟨stage, same.symm.trans submission, named⟩, rfl, rfl, rfl⟩
    · cases begun.symm.trans submission
      exact absurd rfl named
    · cases moved.symm.trans submission
      rcases stages with ⟨rfl, names⟩ | ⟨later, id⟩
      · exact .inr ⟨names, v, was, q0.symm, qd0.symm⟩
      · exact .inl ⟨v, .inr ⟨before, was, later⟩, id.symm, q0.symm, qd0.symm⟩
    · cases ended.symm.trans submission

/-- A target that has not been given its id is just behind its call. -/
theorem locked_step {lib : External R} {s t : RealtimeCore R} {l : RtCore.Label R}
    (taken : RealtimeCore.Takes lib s l t) {u : Target R}
    (locked : t.submission = some ⟨u, .locked⟩) :
    (s.submission = some ⟨u, .locked⟩ ∧ ∀ request addr, l ≠ .submit request addr) ∨
      ∃ request addr, l = .submit request addr ∧ u.q0 = request.target.q0 ∧
        u.qd0 = request.target.qd0 := by
  rcases takes_submission taken with ⟨same, other⟩ | ⟨request, addr, v, label, begun, q0, qd0⟩ |
    ⟨v, u', before, next, was, moved, named, -⟩ | ended
  · exact .inl ⟨same.symm.trans locked, other⟩
  · cases begun.symm.trans locked
    exact .inr ⟨request, addr, label, q0, qd0⟩
  · cases moved.symm.trans locked
    exact absurd rfl named
  · cases ended.symm.trans locked

/-! ### An accepted target -/

theorem recoveryDwell_epoch {s : TickCore R} (completes : s.dwellCompletes = true) :
    s.recoveryDwell.health.epoch = s.health.epoch + 1 := by
  simp only [TickCore.dwellCompletes, Bool.and_eq_true, decide_eq_true_eq] at completes
  simp only [TickCore.recoveryDwell, completes.1.1, completes.1.2, completes.2, if_true,
    TickCore.completeRecovery]
  split <;> rfl

/-- The tick that accepts a target ends no recovery, so what it splices to is the pose that was
commanded. -/
theorem accepted_anchor {lib : External R} {w : EpochWatch R} (sound : w.Sound) {t : Target R}
    {consumeSuperseded : Bool} (phase : w.rt.phase = .checked (some t) consumeSuperseded)
    (accepted : ((w.rt.core.beforeConsume lib w.rt.rx).consume lib t consumeSuperseded).1.accepted =
      true) :
    (w.rt.core.beforeConsume lib w.rt.rx).anchor = w.rt.core.anchor := by
  have waits : (w.rt.core.beforeDwell lib w.rt.rx).dwellCompletes = false := by
    by_contra completes
    have bumped := recoveryDwell_epoch (Bool.eq_true_of_not_eq_false completes)
    have later := (TickCore.beforeDwell_handover lib w.rt.core w.rt.rx).epoch
    have current : t.epoch = (w.rt.core.beforeDwell lib w.rt.rx).recoveryDwell.health.epoch :=
      TickCore.accepted_epoch accepted
    have waiting : t ∈ w.rt.waiting := by simp [RealtimeCore.waiting, phase, RtPhase.pending]
    have dated := (sound.dates t (.inl waiting)).epoch
    have counted := sound.epoch
    have taken : entryCount (w.log.take (w.read t.motionId)) ≤ entryCount w.log :=
      (List.take_sublist _ _).countP_le
    omega
  exact ((TickCore.beforeDwell_handover lib w.rt.core w.rt.rx).trans
    (TickCore.recoveryDwell_handover waits)).anchor

/-! ### The watch's invariant -/

/-- What the gate knew of what is played. -/
structure Checks (lib : External R) (cfg : RtCoreConfig R) (hook : Option (CaptureCheck R))
    (c : GatedCall R) (p : PlayedSplice R) : Prop where
  start : p.q0 = c.move.q0 ∧ p.qd0 = c.move.qd0
  judged : c.Passed lib cfg hook ∨ c.Unjudged lib cfg
  still : c.since = p.since → c.qCmd = p.qCmd ∧ c.qdCmd = p.qdCmd

/-- The core took the trajectory. -/
def PlayedSplice.Admitted (lib : External R) (cfg : RtCoreConfig R) (p : PlayedSplice R) : Prop :=
  captureWouldReject lib p.qCmd p.qdCmd p.q0 p.qd0 cfg.tick = false ∧ (p.path lib cfg).ok = true

namespace SpliceWatch

def Holds (w : SpliceWatch R) (c : GatedCall R) : Prop :=
  c ∈ w.calls ∨ c ∈ w.submitting ∨ ∃ id, c ∈ w.named id

structure Sound (lib : External R) (cfg : RtCoreConfig R) (hook : Option (CaptureCheck R))
    (w : SpliceWatch R) : Prop where
  watch : w.watch.Sound
  poised : w.rt.core.Poised cfg
  follows : Follows lib cfg w.rt.core w.playing
  ticked : ∀ last cmd, w.rt.phase = .ticked last cmd → cmd.qRad = w.rt.core.anchor.qCmd
  shown : Seen w.rt.core w.disturbed w.shown w.rt.snap.qCmd w.rt.snap.qdCmd
  judged : ∀ c, w.Holds c → c.Passed lib cfg hook ∨ c.Unjudged lib cfg
  seen : ∀ c, w.Holds c → Seen w.rt.core w.disturbed c.since c.qCmd c.qdCmd
  locked : ∀ u, w.rt.submission = some ⟨u, .locked⟩ → ∀ c ∈ w.submitting,
    u.q0 = c.move.q0 ∧ u.qd0 = c.move.qd0
  carried : ∀ u, Carries w.rt u → ∀ c ∈ w.named u.motionId,
    u.q0 = c.move.q0 ∧ u.qd0 = c.move.qd0
  played : ∀ p ∈ w.playing, p.Admitted lib cfg ∧ ∀ c ∈ p.call, Checks lib cfg hook c p

theorem start_sound (lib : External R) (cfg : RtCoreConfig R) (hook : Option (CaptureCheck R)) :
    (machine lib cfg hook).start.Sound lib cfg hook where
  watch := EpochWatch.start_sound lib cfg
  poised := ⟨rfl, rfl, rfl, by rintro ⟨⟩⟩
  follows := ⟨by rintro _ ⟨⟩, by rintro ⟨⟩, by rintro ⟨⟩⟩
  ticked := by rintro _ _ ⟨⟩
  shown := ⟨le_refl _, fun _ => ⟨rfl, rfl⟩⟩
  judged := by
    rintro c (member | ⟨⟨⟩⟩ | ⟨_, ⟨⟩⟩)
    cases member
  seen := by
    rintro c (member | ⟨⟨⟩⟩ | ⟨_, ⟨⟩⟩)
    cases member
  locked := by rintro _ ⟨⟩
  carried := by rintro _ _ _ ⟨⟩
  played := by rintro _ ⟨⟩

variable {lib : External R} {cfg : RtCoreConfig R} {hook : Option (CaptureCheck R)}
  {w v : SpliceWatch R} {l : RtCore.Label R} {rt : RealtimeCore R}

/-- The loop's part of a step. -/
abbrev observed (lib : External R) (w : SpliceWatch R) (l : RtCore.Label R) (rt : RealtimeCore R) :
    SpliceWatch R := w.observe lib l (w.watch.observe l rt)

theorem observed_playing (other : l ≠ .tick) : (w.observed lib l rt).playing = w.playing := by
  simp only [observed, observe]
  split
  · exact absurd rfl other
  · rfl

theorem observed_ticked {last : Option (Target R)} {consumeSuperseded : Bool}
    (phase : w.rt.phase = .checked last consumeSuperseded) :
    (w.observed lib .tick rt).playing = w.handed lib last consumeSuperseded := by
  simp only [observed, observe, phase]

theorem observed_holds {c : GatedCall R} (holds : (w.observed lib l rt).Holds c) : w.Holds c := by
  rcases holds with call | submitting | ⟨id, named⟩
  · exact .inl call
  · simp only [observed, observe] at submitting
    split at submitting
    · cases submitting
    · exact .inr (.inl submitting)
  · cases names : naming w.rt l with
    | none =>
        simp only [observed, observe, names] at named
        exact .inr (.inr ⟨id, named⟩)
    | some fresh =>
        simp only [observed, observe, names] at named
        by_cases same : id = fresh
        · rw [same, Function.update_self] at named
          exact .inr (.inl named)
        · rw [Function.update_of_ne same] at named
          exact .inr (.inr ⟨id, named⟩)

theorem follows_step (sound : w.Sound lib cfg hook) (taken : RealtimeCore.Takes lib w.rt l rt) :
    Follows lib cfg rt.core (w.observed lib l rt).playing := by
  by_cases ticks : l = .tick
  · subst ticks
    cases taken with
    | tick last consumeSuperseded phase =>
        rw [observed_ticked phase]
        exact (sound.follows.dispatched sound.poised.settings).handed
          (TickCore.tick_reel lib w.rt.core w.rt.rx last consumeSuperseded)
  · rw [observed_playing ticks]
    exact sound.follows.keeps (takes_keeps taken ticks)

/-- Whatever the gate knew of a call stays so for what the core begins to play of it. -/
theorem begun_played (sound : w.Sound lib cfg hook) {last : Option (Target R)}
    {consumeSuperseded : Bool} (phase : w.rt.phase = .checked last consumeSuperseded) :
    ∀ p ∈ w.begun lib last consumeSuperseded,
      p.Admitted lib cfg ∧ ∀ c ∈ p.call, Checks lib cfg hook c p := by
  intro p member
  cases last with
  | none => exact sound.played p member
  | some t =>
      simp only [begun] at member
      split at member
      · rename_i starting
        cases member
        simp only [starts, Bool.and_eq_true, decide_eq_true_eq] at starting
        obtain ⟨kind, accepted⟩ := starting
        obtain ⟨-, fits, ok⟩ := TickCore.consume_spliced kind accepted
        have anchor : (w.rt.core.beforeConsume lib w.rt.rx).anchor = w.rt.core.anchor :=
          accepted_anchor sound.watch phase accepted
        have tuned := (TickCore.beforeConsume_cfg lib w.rt.core w.rt.rx).trans sound.poised.settings
        rw [tuned] at fits ok
        refine ⟨⟨fits, ok⟩, fun c named => ?_⟩
        have holds : w.Holds c := .inr (.inr ⟨_, named⟩)
        have waits : t ∈ w.rt.waiting := by simp [RealtimeCore.waiting, phase, RtPhase.pending]
        refine ⟨sound.carried t (.inl waits) c named, sound.judged c holds, fun same => ?_⟩
        rw [anchor]
        exact (sound.seen c holds).still same
      · exact sound.played p member

theorem played_step (sound : w.Sound lib cfg hook) (taken : RealtimeCore.Takes lib w.rt l rt) :
    ∀ p ∈ (w.observed lib l rt).playing,
      p.Admitted lib cfg ∧ ∀ c ∈ p.call, Checks lib cfg hook c p := by
  by_cases ticks : l = .tick
  · subst ticks
    cases taken with
    | tick last consumeSuperseded phase =>
        rw [observed_ticked phase]
        intro p member
        obtain ⟨p, begun, rfl⟩ := Option.map_eq_some_iff.mp member
        obtain ⟨admitted, checks⟩ := begun_played sound phase p begun
        refine ⟨admitted, fun c call => ?_⟩
        obtain ⟨start, judged, still⟩ := checks c call
        exact ⟨start, judged, still⟩
  · rw [observed_playing ticks]
    exact sound.played

theorem locked_kept (sound : w.Sound lib cfg hook) (taken : RealtimeCore.Takes lib w.rt l rt)
    {u : Target R} (locked : rt.submission = some ⟨u, .locked⟩) :
    ∀ c ∈ (w.observed lib l rt).submitting, u.q0 = c.move.q0 ∧ u.qd0 = c.move.qd0 := by
  intro c member
  rcases locked_step taken locked with ⟨before, other⟩ | ⟨request, addr, rfl, -⟩
  · simp only [observed, observe] at member
    exact sound.locked u before c member
  · cases member

/-- The calls keep to their targets: an id is given once, to the target whose call waits for it. -/
theorem carried_step (sound : w.Sound lib cfg hook) (taken : RealtimeCore.Takes lib w.rt l rt)
    {u : Target R} (carries : Carries rt u) :
    ∀ c ∈ (w.observed lib l rt).named u.motionId, u.q0 = c.move.q0 ∧ u.qd0 = c.move.qd0 := by
  intro c member
  rcases carries_step taken sound.watch.tidy carries with
    ⟨v, before, id, q0, qd0⟩ | ⟨names, v, before, q0, qd0⟩
  · rw [← q0, ← qd0]
    have known : c ∈ w.named v.motionId := by
      cases names : naming w.rt l with
      | none =>
          simp only [observed, observe, names] at member
          rw [id]
          exact member
      | some fresh =>
          simp only [observed, observe, names] at member
          have earlier : u.motionId ≠ fresh := by
            have below : v.motionId < w.rt.nextMotionId := carries_id sound.watch before
            have next := naming_next names
            omega
          rw [Function.update_of_ne earlier] at member
          rw [id]
          exact member
    exact sound.carried v before c known
  · rw [← q0, ← qd0]
    simp only [observed, observe, names, Function.update_self] at member
    exact sound.locked v before c member

theorem snap_step (taken : RealtimeCore.Takes lib w.rt l rt) (tidy : w.rt.Tidy) (other : l ≠ .settle) :
    rt.snap = w.rt.snap := by
  by_cases ticks : l = .tick
  · subst ticks
    cases taken with
    | tick last consumeSuperseded phase => rfl
  · by_cases packet : ∃ rxMono view, l = .packet rxMono view
    · obtain ⟨rxMono, view, rfl⟩ := packet
      cases taken with
      | packet rxMono view phase =>
          rw [RealtimeCore.ingestPacket]
          split <;> rfl
    · refine (Gallery.takes_still tidy taken ⟨ticks, other, fun rxMono view same => ?_⟩).snap
      exact packet ⟨rxMono, view, same⟩

omit [LinearOrder R] [FloorRing R] in
/-- What is published is the pose that was sent, with the velocity behind it. -/
theorem settle_pose (s : RealtimeCore R) (last : Option (Target R)) (cmd : Command R) :
    (s.settle last cmd).snap.qCmd = cmd.qRad ∧
      (s.settle last cmd).snap.qdCmd = s.core.anchor.qdCmd := by
  obtain ⟨u, snap, -, core, -⟩ := Gallery.settle_snap s last cmd
  rw [snap, ← core]
  exact ⟨rfl, rfl⟩

section Step

variable [IsStrictOrderedRing R]

theorem shown_step (sound : w.Sound lib cfg hook) (taken : RealtimeCore.Takes lib w.rt l rt)
    (nonneg : ∀ j, 0 ≤ SlewWatch.slewBound cfg.tick j) :
    Seen rt.core (w.observed lib l rt).disturbed (w.observed lib l rt).shown rt.snap.qCmd
      rt.snap.qdCmd := by
  by_cases settles : l = .settle
  · subst settles
    cases taken with
    | settle last cmd phase =>
        obtain ⟨qCmd, qdCmd⟩ := settle_pose w.rt last cmd
        have core : (w.rt.settle last cmd).core = { w.rt.core with events := [] } := by
          obtain ⟨_, _, _, _, settled⟩ := RealtimeCore.settle_shape w.rt last cmd
          rw [settled]
        refine ⟨le_refl _, fun _ => ?_⟩
        rw [qCmd, qdCmd, core]
        exact ⟨sound.ticked last cmd phase, rfl⟩
  · have before := sound.shown.step taken sound.poised nonneg
    have same : (w.observed lib l rt).shown = w.shown := by
      simp only [observed, observe]
    rw [snap_step taken sound.watch.tidy settles, same]
    exact before

omit [IsStrictOrderedRing R] in
/-- The command of a tick is the pose the core moved on to, until the window's end. -/
theorem ticked_step (sound : w.Sound lib cfg hook) (taken : RealtimeCore.Takes lib w.rt l rt)
    (last : Option (Target R)) (cmd : Command R) (phase : rt.phase = .ticked last cmd) :
    cmd.qRad = rt.core.anchor.qCmd := by
  have kept (same : rt.phase = w.rt.phase) (core : rt.core.anchor = w.rt.core.anchor) :
      cmd.qRad = rt.core.anchor.qCmd := by
    rw [core]
    exact sound.ticked last cmd (same.symm.trans phase)
  cases taken with
  | tick last consumeSuperseded checked =>
      obtain ⟨q, pose, sent⟩ :=
        TickCore.tick_pose lib w.rt.core w.rt.rx last consumeSuperseded
      cases phase
      exact sent.trans (congrArg Pose.qCmd pose).symm
  | exit waiting flagged =>
      simp only [RealtimeCore.exit] at phase
      cases phase
  | packet rxMono view waiting =>
      have same : (w.rt.ingestPacket rxMono view).phase = w.rt.phase := by
        rw [RealtimeCore.ingestPacket]
        split <;> rfl
      rw [same, waiting] at phase
      cases phase
  | exchange op rest exchanging =>
      have phase : (if rest = [] then RtPhase.draining none else .exchanging rest) =
          .ticked last cmd := phase
      split at phase
      · cases phase
      · cases phase
  | pop last' draining =>
      rcases RealtimeCore.pop_shape w.rt last' with ⟨-, same⟩ | ⟨_, _, _, _, -, popped⟩
      · rw [same] at phase
        cases phase
      · rw [popped] at phase
        cases phase
  | settle last' cmd' ticked =>
      obtain ⟨_, _, _, _, settled⟩ := RealtimeCore.settle_shape w.rt last' cmd'
      rw [settled] at phase
      cases phase
  | push u stage =>
      rcases RealtimeCore.pushMailbox_shape w.rt u with ⟨-, pushed⟩ | ⟨-, dropped⟩
      · rw [pushed] at phase kept ⊢
        exact kept rfl rfl
      · rw [dropped] at phase kept ⊢
        exact kept rfl rfl
  | start | join | timer | check => cases phase
  | stop | clear | submitTrajectory | submit | name | date | stamp | stopBump | stopStore | request
  | reap | drainEvents => exact kept rfl rfl

/-- A step of the loop, whoever makes it. -/
theorem observed_sound (sound : w.Sound lib cfg hook) (taken : RealtimeCore.Takes lib w.rt l rt)
    (watch : (w.watch.observe l rt).Sound) (nonneg : ∀ j, 0 ≤ SlewWatch.slewBound cfg.tick j) :
    (w.observed lib l rt).Sound lib cfg hook where
  watch := watch
  poised := takes_poised taken sound.poised
  follows := follows_step sound taken
  ticked := ticked_step sound taken
  shown := shown_step sound taken nonneg
  judged := fun c holds => sound.judged c (observed_holds holds)
  seen := fun c holds => (sound.seen c (observed_holds holds)).step taken sound.poised nonneg
  locked := fun _ locked => locked_kept sound taken locked
  carried := fun _ carries => carried_step sound taken carries
  played := played_step sound taken

theorem step_sound (sound : w.Sound lib cfg hook) {a : SpliceLabel R}
    (moved : w.step lib cfg hook a = some v)
    (nonneg : ∀ j, 0 ≤ SlewWatch.slewBound cfg.tick j) : v.Sound lib cfg hook := by
  cases a with
  | loop l =>
      obtain ⟨watch, stepped, rfl⟩ := Option.map_eq_some_iff.mp moved
      have kept := EpochWatch.step_sound sound.watch stepped
      obtain ⟨rt, taken, rfl⟩ := Option.map_eq_some_iff.mp stepped
      exact observed_sound sound (RealtimeCore.step_takes taken) kept nonneg
  | gate move =>
      simp only [step] at moved
      split at moved
      · rename_i passed
        cases moved
        have joins {c : GatedCall R} (holds : Holds { w with
            calls := w.calls ++ [⟨move, w.rt.snap.qCmd, w.rt.snap.qdCmd, w.shown⟩] } c) :
            w.Holds c ∨ c = ⟨move, w.rt.snap.qCmd, w.rt.snap.qdCmd, w.shown⟩ := by
          rcases holds with call | other
          · rcases List.mem_append.mp call with before | new
            · exact .inl (.inl before)
            · exact .inr (List.mem_singleton.mp new)
          · exact .inl (.inr other)
        refine ⟨sound.watch, sound.poised, sound.follows, sound.ticked, sound.shown, ?_, ?_,
          sound.locked, sound.carried, sound.played⟩
        · intro c holds
          rcases joins holds with before | rfl
          · exact sound.judged c before
          · exact captureGate_ok passed
        · intro c holds
          rcases joins holds with before | rfl
          · exact sound.seen c before
          · exact sound.shown
      · cases moved
  | submit k addr =>
      simp only [step] at moved
      split at moved
      · cases moved
      · rename_i call found
        obtain ⟨watch, stepped, rfl⟩ := Option.map_eq_some_iff.mp moved
        have kept := EpochWatch.step_sound sound.watch stepped
        obtain ⟨rt, taken, rfl⟩ := Option.map_eq_some_iff.mp stepped
        have taken := RealtimeCore.step_takes taken
        have base := observed_sound sound taken kept nonneg
        have present : call ∈ w.calls := List.mem_of_getElem? found
        have joins {c : GatedCall R}
            (holds : Holds { w.observed lib (.submit call.move.request addr) rt with
              calls := w.calls.eraseIdx k, submitting := some call } c) : w.Holds c := by
          rcases holds with other | ⟨⟨⟩⟩ | named
          · exact .inl (List.mem_of_mem_eraseIdx other)
          · exact .inl present
          · obtain ⟨id, named⟩ := named
            have before : (w.observed lib (.submit call.move.request addr) rt).Holds c :=
              .inr (.inr ⟨id, named⟩)
            exact observed_holds before
        refine ⟨base.watch, base.poised, base.follows, base.ticked, base.shown,
          fun c holds => sound.judged c (joins holds), ?_, ?_, base.carried, base.played⟩
        · intro c holds
          exact (sound.seen c (joins holds)).step taken sound.poised nonneg
        · rintro u locked c ⟨⟩
          rcases locked_step taken locked with ⟨-, other⟩ | ⟨request, addr', same, q0, qd0⟩
          · exact absurd rfl (other _ _)
          · cases same
            obtain ⟨position, velocity⟩ := call.move.request_start
            exact ⟨q0.trans position, qd0.trans velocity⟩

/-- The path that is checked is the path that is executed. What the core plays in front of a
trajectory is knot for knot the path from the pose it stood at; a synchronous call only gets there
when its hook accepted a path; and where no tick since the snapshot its gate read found the arm
anywhere but standing, that path is the one the hook accepted, asynchronous calls included. -/
theorem checked_splice_is_played (lib : External R) (cfg : RtCoreConfig R)
    (hook : Option (CaptureCheck R)) (nonneg : ∀ j, 0 ≤ SlewWatch.slewBound cfg.tick j)
    (w : SpliceWatch R) (reached : (machine lib cfg hook).Reachable (fun _ _ => True) w) :
    (w.rt.core.health.mode = .capture ∨ w.rt.core.health.mode = .trajectory → w.playing.isSome) ∧
    ∀ p ∈ w.playing,
      p.Admitted lib cfg ∧ p.played <+: p.knots lib cfg ∧
      (w.rt.core.health.mode = .capture → w.rt.core.splice.capture = p.path lib cfg) ∧
      (w.rt.core.health.mode = .trajectory → p.played = p.knots lib cfg) ∧
      ∀ c ∈ p.call, (c.move.asynchronous = false → c.Passed lib cfg hook) ∧
        (c.since = p.since → c.path lib cfg = p.path lib cfg ∧ c.Passed lib cfg hook) := by
  have sound : w.Sound lib cfg hook :=
    reached.invariant (start_sound lib cfg hook) fun _ _ _ kept _ moved =>
      step_sound kept moved nonneg
  refine ⟨?_, fun p playing => ?_⟩
  · rintro (splicing | through)
    · obtain ⟨p, playing, -⟩ := sound.follows.splicing splicing
      exact Option.isSome_of_mem playing
    · obtain ⟨p, playing, -⟩ := sound.follows.through through
      exact Option.isSome_of_mem playing
  obtain ⟨admitted, checks⟩ := sound.played p playing
  refine ⟨admitted, sound.follows.played p playing, fun mode => ?_, fun mode => ?_, ?_⟩
  · obtain ⟨p', same, path, -⟩ := sound.follows.splicing mode
    cases playing.symm.trans same
    exact path
  · obtain ⟨p', same, whole⟩ := sound.follows.through mode
    cases playing.symm.trans same
    exact whole
  · intro c call
    obtain ⟨⟨q0, qd0⟩, judged, still⟩ := checks c call
    refine ⟨fun synchronous => ?_, fun same => ?_⟩
    · rcases judged with passed | ⟨asynchronous, -⟩
      · exact passed
      · rw [synchronous] at asynchronous
        cases asynchronous
    · obtain ⟨qCmd, qdCmd⟩ := still same
      refine ⟨by rw [GatedCall.path, PlayedSplice.path, qCmd, qdCmd, q0, qd0], ?_⟩
      rcases judged with passed | ⟨-, refused⟩
      · exact passed
      · have fits := admitted.1
        rw [q0, qd0, ← qCmd, ← qdCmd, refused] at fits
        cases fits

end Step

/-- A tenth of a radian around zero is free. -/
def benchHook : CaptureCheck ℚ := fun q _ => q.all fun v => decide (∀ j, |v j| ≤ 1 / 10)

/-- Standing at `start` for a hundred milliseconds. -/
def benchMove (start : ℚ) (asynchronous : Bool) : MoveTrajectory ℚ where
  timesNs := [0, 100000000]
  q := [fun _ => start, fun _ => start]
  qd := [0, 0]
  tolDeg := 1
  velEpsDegS := 1
  timeoutS := 1
  deadmanS := none
  forceStopN := none
  asynchronous := asynchronous
  knots := by simp
  paired := rfl

def benchLoop (labels : List (RtCore.Label ℚ)) : List (SpliceLabel ℚ) := labels.map .loop

/-- A window between the gate and the submission, the splice and its playback. -/
def benchStandingCall : List (SpliceLabel ℚ) :=
  benchLoop ([.start, benchClear] ++ benchWindow 0) ++ [.gate (benchMove (1 / 20) true)] ++
    benchLoop (benchWindow 0) ++ [.submit 0 0] ++
    benchLoop ([.enqueue, .enqueue, .enqueue, .enqueue] ++ benchWindow 1 ++ benchWindow 0)

theorem checked_splice_is_played_standing : ∃ w : SpliceWatch ℚ,
    (w.rt.core.health.mode = .trajectory ∧
      ∃ p ∈ w.playing, p.played.length = 1 ∧ ∃ c ∈ p.call, c.since = p.since) ∧
    (w.rt.core.health.mode = .capture ∨ w.rt.core.health.mode = .trajectory → w.playing.isSome) ∧
    ∀ p ∈ w.playing,
      p.Admitted benchExternal defaultRtCoreConfig ∧
      p.played <+: p.knots benchExternal defaultRtCoreConfig ∧
      (w.rt.core.health.mode = .capture →
        w.rt.core.splice.capture = p.path benchExternal defaultRtCoreConfig) ∧
      (w.rt.core.health.mode = .trajectory →
        p.played = p.knots benchExternal defaultRtCoreConfig) ∧
      ∀ c ∈ p.call,
        (c.move.asynchronous = false → c.Passed benchExternal defaultRtCoreConfig (some benchHook)) ∧
        (c.since = p.since →
          c.path benchExternal defaultRtCoreConfig = p.path benchExternal defaultRtCoreConfig ∧
          c.Passed benchExternal defaultRtCoreConfig (some benchHook)) := by
  obtain ⟨w, reached, tested⟩ := Machine.reachable_of_run
    (machine benchExternal defaultRtCoreConfig (some benchHook)) benchStandingCall
    (fun w : SpliceWatch ℚ => decide (w.rt.core.health.mode = .trajectory) &&
      w.playing.any fun p : PlayedSplice ℚ => decide (p.played.length = 1) &&
        p.call.any fun c : GatedCall ℚ => decide (c.since = p.since))
    (by decide +kernel)
  simp only [Bool.and_eq_true, decide_eq_true_eq, Option.any_eq_true] at tested
  exact ⟨w, tested, checked_splice_is_played benchExternal defaultRtCoreConfig (some benchHook)
    (by decide +kernel) w reached⟩

/-- The call is refused at its gate and let go on, a servo goal brings the arm up to its start, and
then it is submitted. -/
def benchUnjudgedCall : List (SpliceLabel ℚ) :=
  benchLoop ([.start, benchClear] ++ benchWindow 0) ++ [.gate (benchMove (1 / 10) true)] ++
    benchLoop (benchSubmit (.servo (fun _ => 1 / 20) (8 / 1000)) 0 ++ benchWindow 1 ++
      benchWindow 0 ++ benchWindow 0) ++ [.submit 0 0] ++
    benchLoop ([.enqueue, .enqueue, .enqueue, .enqueue] ++ benchWindow 1)

/-- Of an asynchronous call a splice can be played that no hook was ever asked about. -/
theorem unjudged_call_is_played : ∃ w : SpliceWatch ℚ,
    (machine benchExternal defaultRtCoreConfig (some fun _ _ => false)).Reachable
      (fun _ _ => True) w ∧ ∃ p ∈ w.playing, p.played.length = 1 := by
  obtain ⟨w, reached, tested⟩ := Machine.reachable_of_run
    (machine benchExternal defaultRtCoreConfig (some fun _ _ => false)) benchUnjudgedCall
    (fun w : SpliceWatch ℚ => w.playing.any fun p : PlayedSplice ℚ => decide (p.played.length = 1))
    (by decide +kernel)
  simp only [Option.any_eq_true, decide_eq_true_eq] at tested
  exact ⟨w, reached, tested⟩

end SpliceWatch

end AiroFanuc.Driver

import AiroFanuc.RtCore.LoopSteps
import AiroFanuc.RtCore.Run
import AiroFanuc.Library.Pool

/-! Who owns a trajectory buffer: between its submission and its release it is referenced
from exactly one place, and the list of live buffers holds exactly the referenced ones. -/

namespace AiroFanuc.RtCore

open TickEngine Library

variable {R : Type} [Field R] [LinearOrder R] [FloorRing R]

/-- A submitted target is a real one, and carries a buffer exactly if it is a trajectory. -/
structure Target.OwnsKnots (t : Target R) : Prop where
  owner : t.bufferOwner.isSome ↔ t.kind = .trajectory
  real : t.kind ≠ .none

/-- The target in the RT thread's hands. -/
def RtPhase.last : RtPhase R → Option (Target R)
  | .draining last | .drained last | .checked last _ | .ticked last _ => last
  | .down | .waiting | .exchanging _ | .exited => none

/-- Playing a submitted trajectory, or the splice in front of it. -/
abbrev Mode.planned (m : Mode) : Prop := m = .capture ∨ m = .trajectory

namespace Control

variable {c d : Control}

theorem Move.planned (move : Move c d) (plays : d.mode.planned) : c.mode.planned := by
  cases move with
  | play mode => exact .inl mode
  | fault | park | brake | finish | rest =>
    simp [Mode.planned, faulted, parked, braking, rested] at plays
  | halt mode => simp [Mode.planned, halted, mode] at plays

/-- No stage of a tick enters playback; only the mailbox does. -/
theorem Moves.planned (moved : Moves c d) (plays : d.mode.planned) : c.mode.planned := by
  induction moved with
  | refl => exact plays
  | tail _ last ih => exact ih (last.planned plays)

theorem accept_planned {kind : TargetKind} {motionId : Nat} {guard : Bool}
    (real : kind ≠ .none) (plays : (c.accept kind motionId guard).mode.planned) :
    kind = .trajectory := by
  cases kind with
  | none => exact absurd rfl real
  | trajectory => rfl
  | servo | brake => simp [Control.accept, Mode.planned] at plays
  | hold =>
    simp only [Control.accept] at plays
    split at plays
    · simp [braking, Mode.planned] at plays
    · rename_i still
      exact absurd (plays.imp_right .inl) still

end Control

namespace TickCore

/-- A core that plays a trajectory after a tick has just accepted it, or played the same
one before and accepted nothing. -/
theorem tick_playback {lib : External R} {s : TickCore R} {rx : Option (RxSample R)}
    {pending : Option (Target R)} {consumeSuperseded : Bool} (real : ∀ t ∈ pending, t.kind ≠ .none)
    (plays : (s.tick lib rx pending consumeSuperseded).2.health.mode.planned) :
    ((s.tick lib rx pending consumeSuperseded).2.lastConsume.accepted = true ∧
      ∃ t ∈ pending, t.kind = .trajectory ∧
        (s.tick lib rx pending consumeSuperseded).2.splice.capturedTarget = t) ∨
    ((s.tick lib rx pending consumeSuperseded).2.lastConsume.accepted = false ∧
      s.health.mode.planned ∧
      (s.tick lib rx pending consumeSuperseded).2.splice.capturedTarget =
        s.splice.capturedTarget) := by
  generalize hafter : (s.tick lib rx pending consumeSuperseded).2 = after
  rw [hafter] at plays
  have frame := tick_frame lib s rx pending consumeSuperseded
  have kept : (s.ingestRx rx).frame.captured = s.splice.capturedTarget := by
    rw [ingestRx_frame]
    cases rx <;> rfl
  rw [hafter] at frame
  have verdict : after.lastConsume = _ := congrArg Frame.lastConsume frame
  have captured : after.splice.capturedTarget = _ := congrArg Frame.captured frame
  have moves := tick_moves lib s rx pending consumeSuperseded
  rw [hafter] at moves
  have consumed := moves.planned plays
  have earlier (still : (s.beforeConsume lib rx).control.mode.planned) : s.health.mode.planned := by
    rw [beforeConsume_control] at still
    split at still
    · simp [Control.recovered, Control.rested, Mode.planned] at still
    · exact (beforeDwell_moves lib s rx).planned still
  rw [consumePending_control] at consumed
  cases pending with
  | none => exact .inr ⟨by rw [verdict]; rfl, earlier consumed, captured.trans kept⟩
  | some t =>
    simp only at verdict captured consumed
    rw [kept] at captured
    have moving := real t rfl
    have accepted := consume_accepted lib (s.beforeConsume lib rx) t consumeSuperseded
    rw [consume_control, if_neg moving] at consumed
    by_cases refusing : (s.beforeConsume lib rx).refuses lib t consumeSuperseded = true
    · rw [if_pos refusing] at consumed
      have refused :
          ((s.beforeConsume lib rx).consume lib t consumeSuperseded).1.accepted = false := by
        simp [accepted, refusing]
      refine .inr ⟨by rw [verdict, refused], earlier consumed, ?_⟩
      rw [captured, refused]
      rfl
    · rw [if_neg refusing] at consumed
      have planned := Control.accept_planned moving consumed
      have taken : ((s.beforeConsume lib rx).consume lib t consumeSuperseded).1.accepted = true := by
        simp [accepted, refusing, moving]
      refine .inl ⟨by rw [verdict, taken], t, rfl, planned, ?_⟩
      rw [captured, taken, capturedAfter, if_pos ⟨rfl, planned⟩]

end TickCore

namespace RealtimeCore

/-! ### The targets in flight -/

structure Targets (s : RealtimeCore R) : Prop where
  mail : ∀ t ∈ s.mailbox, t.OwnsKnots
  last : ∀ t ∈ s.phase.last, t.OwnsKnots
  submitted : ∀ sub ∈ s.submission, sub.target.OwnsKnots
  room : s.mailbox.length ≤ kMailboxRoom

omit [LinearOrder R] [FloorRing R] in
theorem request_ownsKnots (request : Request R) (plain : request.isTrajectory = false) :
    request.target.OwnsKnots := by
  cases request with
  | trajectory => cases plain
  | servo | brake | hold =>
    exact ⟨by simp [Request.target, Target.empty], by simp [Request.target, Target.empty]⟩

omit [LinearOrder R] [FloorRing R] in
theorem request_owned (request : Request R) (planned : request.isTrajectory = true)
    (owner : Owner) : ({ request.target with bufferOwner := some owner } : Target R).OwnsKnots := by
  cases request with
  | trajectory =>
    exact ⟨by simp [Request.target, Target.empty], by simp [Request.target, Target.empty]⟩
  | servo | brake | hold => cases planned

theorem Takes.targets {lib : External R} {s t : RealtimeCore R} {l : Label R}
    (taken : Takes lib s l t) (targets : s.Targets) : t.Targets := by
  have none_last : ∀ t ∈ (none : Option (Target R)), t.OwnsKnots := by simp
  cases taken with
  | start | join | timer => exact ⟨targets.mail, none_last, targets.submitted, targets.room⟩
  | stop | clear | stopBump | stopStore | request | reap | drainEvents =>
    exact ⟨targets.mail, targets.last, targets.submitted, targets.room⟩
  | exit phase flagged =>
    simp only [RealtimeCore.exit]
    split
    · exact ⟨targets.mail, none_last, targets.submitted, targets.room⟩
    · exact ⟨targets.mail, none_last, targets.submitted, targets.room⟩
  | packet rxMono view phase =>
    simp only [ingestPacket]
    split
    · exact ⟨targets.mail, targets.last, targets.submitted, targets.room⟩
    · exact ⟨targets.mail, targets.last, targets.submitted, targets.room⟩
  | exchange op rest phase =>
    have held : ∀ t ∈ RtPhase.last (if rest = [] then .draining none else .exchanging rest),
        (t : Target R).OwnsKnots := by
      split
      · exact none_last
      · exact none_last
    rcases exchange_shape s op with ⟨-, same⟩ | ⟨-, forwarded⟩
    · rw [same]
      exact ⟨targets.mail, held, targets.submitted, targets.room⟩
    · rw [forwarded]
      exact ⟨targets.mail, held, targets.submitted, targets.room⟩
  | pop last phase =>
    have owned := targets.last
    rw [phase] at owned
    rcases pop_shape s last with ⟨-, same⟩ | ⟨t, rest, _, _, waiting, popped⟩
    · rw [same]
      exact ⟨targets.mail, owned, targets.submitted, targets.room⟩
    · have mail := targets.mail
      have room := targets.room
      rw [waiting] at mail room
      rw [popped]
      refine ⟨fun u member => mail u (List.mem_cons_of_mem _ member), ?_, targets.submitted, ?_⟩
      · intro u held
        cases held
        exact mail t List.mem_cons_self
      · simp only [List.length_cons] at room
        exact Nat.le_of_succ_le room
  | check last phase | tick last consumeSuperseded phase =>
    have owned := targets.last
    rw [phase] at owned
    exact ⟨targets.mail, owned, targets.submitted, targets.room⟩
  | settle last cmd phase =>
    obtain ⟨_, _, _, _, settled⟩ := settle_shape s last cmd
    rw [settled]
    exact ⟨targets.mail, none_last, targets.submitted, targets.room⟩
  | submitTrajectory request addr unlocked planned free =>
    refine ⟨targets.mail, targets.last, fun sub held => ?_, targets.room⟩
    cases held
    exact request_owned request planned _
  | submit request addr unlocked plain =>
    refine ⟨targets.mail, targets.last, fun sub held => ?_, targets.room⟩
    cases held
    exact request_ownsKnots request plain
  | name t stage | date t stage | stamp t stage =>
    have owned := targets.submitted _ stage
    refine ⟨targets.mail, targets.last, fun sub held => ?_, targets.room⟩
    cases held
    exact ⟨owned.owner, owned.real⟩
  | push t stage =>
    have owned := targets.submitted _ stage
    rcases pushMailbox_shape s t with ⟨room, pushed⟩ | ⟨full, dropped⟩
    · rw [pushed]
      refine ⟨fun u member => ?_, targets.last, (by simp), ?_⟩
      · rcases List.mem_append.mp member with earlier | new
        · exact targets.mail u earlier
        · rw [List.mem_singleton.mp new]
          exact owned
      · simp only [List.length_append, List.length_singleton]
        exact room
    · rw [dropped]
      exact ⟨targets.mail, targets.last, (by simp), targets.room⟩

omit [LinearOrder R] [FloorRing R] in
theorem new_targets (cfg : RtCoreConfig R) : (new cfg).Targets :=
  ⟨nofun, nofun, nofun, Nat.zero_le _⟩

/-! ### The references -/

def submittedOwner (s : RealtimeCore R) : Option Owner :=
  s.submission.bind fun sub => sub.target.bufferOwner

/-- Every place a buffer can be referenced from: the mailbox, the RT thread's own target,
its owner pointer, the retire ring, the submission in progress. -/
def refs (s : RealtimeCore R) : List Owner :=
  s.mailbox.filterMap Target.bufferOwner ++ ((s.phase.last.bind Target.bufferOwner).toList ++
    (s.activeTrajOwner.toList ++ (s.retireRing ++ s.submittedOwner.toList)))

/-- Buffers of a full mailbox, the RT thread's two, and the one being submitted. -/
def kLiveBound : Nat := 18

structure Owned (s : RealtimeCore R) : Prop where
  held : s.liveBuffers.Perm s.refs
  distinct : (s.liveBuffers.map Owner.addr).Nodup
  serials : ∀ o ∈ s.liveBuffers, o.serial < s.nextSerial
  bounded : s.liveBuffers.length ≤ kLiveBound
  cleared : s.clearing = true → s.phase = .down ∧ s.retireRing = []

omit [Field R] [LinearOrder R] [FloorRing R] in
theorem Owned.count {s : RealtimeCore R} (owned : s.Owned) (o : Owner) :
    s.liveBuffers.count o = (s.mailbox.filterMap Target.bufferOwner).count o +
      (s.phase.last.bind Target.bufferOwner).toList.count o + s.activeTrajOwner.toList.count o +
      s.retireRing.count o + s.submittedOwner.toList.count o := by
  rw [List.perm_iff_count.mp owned.held o, refs]
  simp only [List.count_append]
  omega

omit [Field R] [LinearOrder R] [FloorRing R] in
theorem held_of_count {s : RealtimeCore R}
    (count : ∀ o, s.liveBuffers.count o = (s.mailbox.filterMap Target.bufferOwner).count o +
      (s.phase.last.bind Target.bufferOwner).toList.count o + s.activeTrajOwner.toList.count o +
      s.retireRing.count o + s.submittedOwner.toList.count o) :
    s.liveBuffers.Perm s.refs := by
  apply List.perm_iff_count.mpr
  intro o
  rw [count o, refs]
  simp only [List.count_append]
  omega

omit [Field R] [LinearOrder R] [FloorRing R] in
/-- A push to the retire ring never finds it full. -/
theorem Owned.ring_room {s : RealtimeCore R} (owned : s.Owned) :
    s.retireRing.length < kRetireRoom := by
  have size := owned.held.length_eq
  have bound := owned.bounded
  simp only [refs, List.length_append] at size
  simp only [kLiveBound] at bound
  simp only [kRetireRoom]
  omega

omit [Field R] [LinearOrder R] [FloorRing R] in
theorem Owned.pushed {s : RealtimeCore R} (owned : s.Owned) (owner : Option Owner) :
    pushRetired s.retireRing owner = s.retireRing ++ owner.toList := by
  cases owner with
  | none => exact (List.append_nil _).symm
  | some owner => exact if_pos owned.ring_room

omit [Field R] [LinearOrder R] [FloorRing R] in
theorem Owned.live_nodup {s : RealtimeCore R} (owned : s.Owned) : s.liveBuffers.Nodup :=
  List.Nodup.of_map _ owned.distinct

omit [Field R] [LinearOrder R] [FloorRing R] in
/-- Popping the ring empty frees what is in it and nothing else. -/
theorem Owned.reap_count {s : RealtimeCore R} (owned : s.Owned) (o : Owner) :
    s.reapRetired.liveBuffers.count o + s.retireRing.count o = s.liveBuffers.count o := by
  refine Pool.releaseAll_count owned.distinct (fun b => ?_) o
  have count := owned.count b
  omega

omit [Field R] [LinearOrder R] [FloorRing R] in
theorem reapRetired_sublist (s : RealtimeCore R) :
    s.reapRetired.liveBuffers.Sublist s.liveBuffers :=
  Pool.releaseAll_sublist s.retireRing s.liveBuffers

omit [Field R] [LinearOrder R] [FloorRing R] in
theorem Owned.reap {s : RealtimeCore R} (owned : s.Owned) : s.reapRetired.Owned := by
  have sub := reapRetired_sublist s
  refine ⟨held_of_count fun o => ?_, Pool.distinct_sublist sub owned.distinct, ?_, ?_, ?_⟩
  · have count := owned.count o
    have reaped := owned.reap_count o
    simp only [reapRetired, submittedOwner, List.count_nil] at count reaped ⊢
    omega
  · intro o member
    exact owned.serials o (sub.subset member)
  · exact sub.length_le.trans owned.bounded
  · intro clearing
    exact ⟨(owned.cleared clearing).1, rfl⟩

omit [Field R] [LinearOrder R] [FloorRing R] in
/-- The redundant buffer of a consumed target, and the owner pointer it leaves. -/
theorem consumedOwners_count (accepted : Bool) (active : Option Owner) {last : Option (Target R)}
    (owned : ∀ t ∈ last, t.OwnsKnots) (o : Owner) :
    (consumedOwners accepted active last).1.toList.count o +
        (consumedOwners accepted active last).2.toList.count o =
      active.toList.count o + (last.bind Target.bufferOwner).toList.count o := by
  cases last with
  | none => simp [consumedOwners]
  | some t =>
    simp only [consumedOwners, Option.bind_some]
    by_cases planned : t.kind = .trajectory
    · rw [if_pos planned]
      split
      · rfl
      · exact Nat.add_comm _ _
    · have bare : t.bufferOwner = none := by
        by_contra some
        exact planned ((owned t rfl).owner.mp (Option.isSome_iff_ne_none.mpr some))
      rw [if_neg planned, bare]
      split
      · rfl
      · exact Nat.add_comm _ _

omit [Field R] [LinearOrder R] [FloorRing R] in
theorem displacedOwner_eq {t : Target R} (owned : t.OwnsKnots) :
    displacedOwner t = t.bufferOwner := by
  unfold displacedOwner
  split
  · rfl
  · rename_i planned
    by_contra some
    exact planned (owned.owner.mp (Option.isSome_iff_ne_none.mpr fun none => some none.symm))

omit [Field R] [LinearOrder R] [FloorRing R] in
/-- A step that leaves the buffers and every reference alone. -/
theorem Owned.same {s t : RealtimeCore R} (owned : s.Owned) (live : t.liveBuffers = s.liveBuffers)
    (refs : t.refs = s.refs) (serial : t.nextSerial = s.nextSerial)
    (cleared : t.clearing = true → t.phase = .down ∧ t.retireRing = []) : t.Owned := by
  refine ⟨?_, ?_, ?_, ?_, cleared⟩
  · rw [live, refs]
    exact owned.held
  · rw [live]
    exact owned.distinct
  · rw [live, serial]
    exact owned.serials
  · rw [live]
    exact owned.bounded

/-- A stop clears a list that holds no buffer any more: no trajectory waits in the
mailbox, and the RT thread owns none. -/
def nothingToClear (s : RealtimeCore R) : Label R → Prop
  | .clear => s.mailbox.filterMap Target.bufferOwner = [] ∧ s.activeTrajOwner = none
  | _ => True

theorem Takes.owned {lib : External R} {s t : RealtimeCore R} {l : Label R}
    (taken : Takes lib s l t) (tidy : s.Tidy) (targets : s.Targets) (legal : s.nothingToClear l)
    (owned : s.Owned) : t.Owned := by
  -- A step of the RT thread finds no clearing in progress.
  have working (up : s.phase ≠ .down) : s.clearing ≠ true :=
    fun clearing => up (owned.cleared clearing).1
  cases taken with
  | start idle cleared =>
    refine owned.same rfl ?_ rfl fun clearing => ?_
    · simp only [refs, tidy.idle idle, RtPhase.last]
      rfl
    · simp [cleared] at clearing
  | stop | stopBump | stopStore | request | drainEvents => exact owned.same rfl rfl rfl owned.cleared
  | exit phase flagged =>
    have up := working (by simp [phase])
    simp only [RealtimeCore.exit]
    split
    · refine owned.same rfl ?_ rfl fun clearing => absurd clearing up
      simp only [refs, send, phase, RtPhase.last]
      rfl
    · refine owned.same rfl ?_ rfl fun clearing => absurd clearing up
      simp only [refs, phase, RtPhase.last]
      rfl
  | join phase unlocked =>
    have reaped := owned.reap
    refine reaped.same rfl ?_ rfl fun _ => ⟨rfl, rfl⟩
    simp only [refs, reapRetired, phase, RtPhase.last]
    rfl
  | clear clearing unlocked =>
    obtain ⟨mail, active⟩ := legal
    obtain ⟨down, ring⟩ := owned.cleared clearing
    have empty : s.refs = [] := by
      simp [refs, mail, active, ring, down, RtPhase.last, submittedOwner, unlocked]
    refine ⟨?_, List.nodup_nil, (by rintro _ ⟨⟩), Nat.zero_le _, (by rintro ⟨⟩)⟩
    have same : s.clear.refs = s.refs := rfl
    rw [same, empty]
    exact List.Perm.refl []
  | packet rxMono view phase =>
    simp only [ingestPacket]
    split
    · exact owned.same rfl rfl rfl owned.cleared
    · exact owned.same rfl rfl rfl owned.cleared
  | timer phase =>
    refine owned.same rfl ?_ rfl fun clearing => absurd clearing (working (by simp [phase]))
    simp only [refs, phase, RtPhase.last]
    rfl
  | exchange op rest phase =>
    have up := working (by simp [phase])
    have held : RtPhase.last (if rest = [] then .draining none else .exchanging rest) =
        (none : Option (Target R)) := by
      split <;> rfl
    have none_last : s.phase.last = none := by rw [phase]; rfl
    rcases exchange_shape s op with ⟨-, same⟩ | ⟨-, forwarded⟩
    · rw [same]
      refine owned.same rfl ?_ rfl fun clearing => absurd clearing up
      simp only [refs, none_last, held]
      rfl
    · rw [forwarded]
      refine owned.same rfl ?_ rfl fun clearing => absurd clearing up
      simp only [refs, none_last, held]
      rfl
  | pop last phase =>
    have up := working (by simp [phase])
    rcases pop_shape s last with ⟨-, same⟩ | ⟨t, rest, _, _, waiting, popped⟩
    · rw [same]
      refine owned.same rfl ?_ rfl fun clearing => absurd clearing up
      simp only [refs, phase, RtPhase.last]
      rfl
    · have given : last.bind displacedOwner = last.bind Target.bufferOwner := by
        cases last with
        | none => rfl
        | some t =>
          have knots := targets.last t (by rw [phase]; rfl)
          exact displacedOwner_eq knots
      rw [popped]
      refine ⟨held_of_count fun o => ?_, owned.distinct, owned.serials, owned.bounded,
        fun clearing => absurd clearing up⟩
      have count := owned.count o
      simp only [waiting, phase, RtPhase.last] at count
      have head : ((t :: rest).filterMap Target.bufferOwner).count o =
          t.bufferOwner.toList.count o + (rest.filterMap Target.bufferOwner).count o := by
        cases carried : t.bufferOwner with
        | none => simp [carried]
        | some owner =>
          simp only [List.filterMap_cons, carried, Option.toList_some, List.count_cons,
            List.count_nil]
          omega
      simp only [RtPhase.last, Option.bind_some, owned.pushed, given, List.count_append,
        submittedOwner] at count ⊢
      omega
  | check last phase | tick last consumeSuperseded phase =>
    refine owned.same rfl ?_ rfl fun clearing => absurd clearing (working (by simp [phase]))
    simp only [refs, runTick, phase, RtPhase.last]
    rfl
  | settle last cmd phase =>
    obtain ⟨_, _, _, _, settled⟩ := settle_shape s last cmd
    have knots := targets.last
    rw [phase] at knots
    rw [settled]
    refine ⟨held_of_count fun o => ?_, owned.distinct, owned.serials, owned.bounded,
      fun clearing => absurd clearing (working (by simp [phase]))⟩
    have count := owned.count o
    have traded :=
      consumedOwners_count s.core.lastConsume.accepted s.activeTrajOwner knots o
    simp only [phase, RtPhase.last] at count
    simp only [RtPhase.last, Option.bind_none, Option.toList_none, List.count_nil, owned.pushed,
      List.count_append, submittedOwner] at count traded ⊢
    omega
  | submitTrajectory request addr unlocked planned free =>
    have reaped := owned.reap
    have fresh : s.submittedOwner = none := by simp [submittedOwner, unlocked]
    refine ⟨held_of_count fun o => ?_, ?_, ?_, ?_, reaped.cleared⟩
    · have count := reaped.count o
      have bare : s.reapRetired.submittedOwner = none := fresh
      rw [bare] at count
      simp only [allocBuffer, reapRetired, submittedOwner, List.count_append, Option.bind_some,
        Option.toList_some, Option.toList_none, List.count_nil] at count ⊢
      omega
    · simp only [allocBuffer, List.map_append, List.map_cons, List.map_nil]
      refine List.nodup_append'.mpr ⟨reaped.distinct, List.nodup_singleton _, ?_⟩
      intro key member new
      obtain ⟨o, live, rfl⟩ := List.mem_map.mp member
      exact free o live (List.mem_singleton.mp new)
    · intro o member
      simp only [allocBuffer] at member ⊢
      rcases List.mem_append.mp member with live | new
      · exact Nat.lt_succ_of_lt (reaped.serials o live)
      · rw [List.mem_singleton.mp new]
        exact Nat.lt_succ_self _
    · have size := reaped.held.length_eq
      have bare : s.reapRetired.submittedOwner = none := fresh
      have mail := (List.length_filterMap_le Target.bufferOwner s.mailbox).trans targets.room
      have two : (s.phase.last.bind Target.bufferOwner).toList.length ≤ 1 := Option.length_toList_le
      have one : s.activeTrajOwner.toList.length ≤ 1 := Option.length_toList_le
      simp only [refs, bare, List.length_append, Option.toList_none, List.length_nil] at size
      simp only [reapRetired, List.length_nil, kMailboxRoom] at size mail
      simp only [allocBuffer, reapRetired, List.length_append, List.length_singleton, kLiveBound]
      omega
  | submit request addr unlocked plain =>
    have reaped := owned.reap
    have bare : request.target.bufferOwner = none := by
      cases request with
      | trajectory => cases plain
      | servo | brake | hold => rfl
    refine reaped.same rfl ?_ rfl reaped.cleared
    simp only [refs, submittedOwner, reapRetired, unlocked, Option.bind_some, bare, Option.bind_none]
  | name t stage | date t stage | stamp t stage =>
    refine owned.same rfl ?_ rfl owned.cleared
    simp only [refs, submittedOwner, stage]
    rfl
  | push t stage =>
    have handed : s.submittedOwner = t.bufferOwner := by simp [submittedOwner, stage]
    rcases pushMailbox_shape s t with ⟨-, pushed⟩ | ⟨-, dropped⟩
    · rw [pushed]
      refine ⟨held_of_count fun o => ?_, owned.distinct, owned.serials, owned.bounded, owned.cleared⟩
      have count := owned.count o
      have carried : ([t].filterMap Target.bufferOwner).count o = t.bufferOwner.toList.count o := by
        cases owner : t.bufferOwner with
        | none => simp [owner]
        | some _ => simp [owner]
      rw [handed] at count
      simp only [List.filterMap_append, List.count_append, carried, submittedOwner,
        Option.bind_none, Option.toList_none, List.count_nil] at count ⊢
      omega
    · rw [dropped]
      have sub : (t.bufferOwner.toList.foldl freeAt s.liveBuffers).Sublist s.liveBuffers :=
        Pool.releaseAll_sublist _ _
      have live (b : Owner) : t.bufferOwner.toList.count b ≤ s.liveBuffers.count b := by
        have count := owned.count b
        rw [handed] at count
        omega
      refine ⟨held_of_count fun o => ?_, Pool.distinct_sublist sub owned.distinct,
        fun o member => owned.serials o (sub.subset member), sub.length_le.trans owned.bounded,
        owned.cleared⟩
      have count := owned.count o
      have gone : (t.bufferOwner.toList.foldl freeAt s.liveBuffers).count o +
          t.bufferOwner.toList.count o = s.liveBuffers.count o :=
        Pool.releaseAll_count owned.distinct live o
      rw [handed] at count
      simp only [submittedOwner, Option.bind_none, Option.toList_none, List.count_nil] at count ⊢
      omega
  | reap unlocked => exact owned.reap

/-! ### The buffer the tick core plays -/

/-- The owner pointer as this window's retiring will leave it. -/
def owningPointer (s : RealtimeCore R) : Option Owner :=
  match s.phase with
  | .ticked last _ => (consumedOwners s.core.lastConsume.accepted s.activeTrajOwner last).2
  | _ => s.activeTrajOwner

/-- A core in playback plays out of the buffer the RT thread owns. -/
def Plays (s : RealtimeCore R) : Prop :=
  s.core.health.mode.planned →
    s.core.splice.capturedTarget.bufferOwner.isSome = true ∧
    s.owningPointer = s.core.splice.capturedTarget.bufferOwner

omit [Field R] [LinearOrder R] [FloorRing R] in
theorem owningPointer_idle {s : RealtimeCore R} (quiet : ∀ last cmd, s.phase ≠ .ticked last cmd) :
    s.owningPointer = s.activeTrajOwner := by
  unfold owningPointer
  split
  · rename_i last cmd phase
    exact absurd phase (quiet last cmd)
  · rfl

omit [Field R] [LinearOrder R] [FloorRing R] in
/-- A step outside a tick that keeps the mode, the captured target and the owner. -/
theorem Plays.same {s t : RealtimeCore R} (plays : s.Plays)
    (quiet : ∀ last cmd, s.phase ≠ .ticked last cmd) (after : ∀ last cmd, t.phase ≠ .ticked last cmd)
    (mode : t.core.health.mode = s.core.health.mode)
    (captured : t.core.splice.capturedTarget = s.core.splice.capturedTarget)
    (active : t.activeTrajOwner = s.activeTrajOwner) : t.Plays := by
  intro planned
  rw [mode] at planned
  obtain ⟨some, owns⟩ := plays planned
  rw [owningPointer_idle quiet] at owns
  rw [owningPointer_idle after, captured, active]
  exact ⟨some, owns⟩

theorem runTick_plays {lib : External R} {s : RealtimeCore R} {last : Option (Target R)}
    {consumeSuperseded : Bool} (targets : s.Targets)
    (phase : s.phase = .checked last consumeSuperseded) (plays : s.Plays) :
    (s.runTick lib last consumeSuperseded).Plays := by
  intro planned
  have knots : ∀ t ∈ last, t.OwnsKnots := by
    have held := targets.last
    rw [phase] at held
    exact held
  have owns : s.owningPointer = s.activeTrajOwner := owningPointer_idle (by simp [phase])
  rcases TickCore.tick_playback (fun t held => (knots t held).real) planned with
    ⟨accepted, t, held, trajectory, captured⟩ | ⟨refused, before, captured⟩
  · cases held
    simp only [runTick, owningPointer, accepted, captured, consumedOwners, trajectory, if_true,
      and_true]
    exact (knots t rfl).owner.mpr trajectory
  · obtain ⟨some, own⟩ := plays before
    rw [owns] at own
    simp only [runTick, owningPointer, refused, captured, some, true_and]
    cases last with
    | none => exact own
    | some t =>
      simp only [consumedOwners, Bool.false_eq_true, if_false, false_and]
      split <;> exact own

theorem Takes.plays {lib : External R} {s t : RealtimeCore R} {l : Label R}
    (taken : Takes lib s l t) (tidy : s.Tidy) (targets : s.Targets) (plays : s.Plays) :
    t.Plays := by
  cases taken with
  | start idle cleared =>
    have down := tidy.idle idle
    exact plays.same (by simp [down]) (by simp) rfl rfl rfl
  | exit phase flagged =>
    simp only [RealtimeCore.exit]
    split
    · exact plays.same (by simp [phase]) (by simp) rfl rfl rfl
    · exact plays.same (by simp [phase]) (by simp) rfl rfl rfl
  | join phase unlocked =>
    have after : ∀ last cmd, s.join.phase ≠ .ticked last cmd := by simp [RealtimeCore.join]
    exact plays.same (by simp [phase]) after rfl rfl rfl
  | packet rxMono view phase =>
    simp only [ingestPacket]
    split
    · intro planned
      simp [TickCore.beginStreaming, Mode.planned] at planned
    · exact plays.same (by simp [phase]) (by simp [phase]) rfl rfl rfl
  | timer phase => exact plays.same (by simp [phase]) (by simp) rfl rfl rfl
  | exchange op rest phase =>
    have after : ∀ last cmd,
        (if rest = [] then .draining none else .exchanging rest : RtPhase R) ≠ .ticked last cmd := by
      intro last cmd
      split
      · simp
      · simp
    rcases exchange_shape s op with ⟨-, same⟩ | ⟨-, forwarded⟩
    · rw [same]
      exact plays.same (by simp [phase]) after rfl rfl rfl
    · obtain ⟨_, _, _, shape⟩ := forward_shape s.core op
      rw [forwarded, shape]
      exact plays.same (by simp [phase]) after rfl rfl rfl
  | pop last phase =>
    rcases pop_shape s last with ⟨-, same⟩ | ⟨_, _, _, _, -, popped⟩
    · rw [same]
      exact plays.same (by simp [phase]) (by simp) rfl rfl rfl
    · rw [popped]
      exact plays.same (by simp [phase]) (by simp) rfl rfl rfl
  | check last phase => exact plays.same (by simp [phase]) (by simp) rfl rfl rfl
  | tick last consumeSuperseded phase => exact runTick_plays targets phase plays
  | settle last cmd phase =>
    obtain ⟨_, _, _, _, settled⟩ := settle_shape s last cmd
    rw [settled]
    intro planned
    obtain ⟨some, owns⟩ := plays planned
    simp only [owningPointer, phase] at owns
    exact ⟨some, owns⟩
  | push t stage =>
    rcases pushMailbox_shape s t with ⟨-, pushed⟩ | ⟨-, dropped⟩
    · rw [pushed]
      exact plays
    · rw [dropped]
      exact plays
  | stop | clear | submitTrajectory | submit | name | date | stamp | stopBump | stopStore
  | request | reap | drainEvents => exact plays

/-! ### What a step does to the pool and to the ring -/

omit [Field R] [LinearOrder R] [FloorRing R] in
/-- A buffer outside the ring is not in it: nothing is referenced from two places. -/
theorem Owned.once {s : RealtimeCore R} (owned : s.Owned) {o : Owner}
    (referenced : 0 < s.activeTrajOwner.toList.count o +
      (s.phase.last.bind Target.bufferOwner).toList.count o) :
    o ∈ s.liveBuffers ∧ o ∉ s.retireRing := by
  have count := owned.count o
  have live : o ∈ s.liveBuffers := List.count_pos_iff.mp (by omega)
  have single := List.count_eq_one_of_mem owned.live_nodup live
  exact ⟨live, List.count_eq_zero.mp (by omega)⟩

omit [Field R] [LinearOrder R] [FloorRing R] in
theorem Owned.reaped {s : RealtimeCore R} (owned : s.Owned) {o : Owner}
    (member : o ∈ s.retireRing) : o ∉ s.reapRetired.liveBuffers := by
  have freed := owned.reap_count o
  have single := List.nodup_iff_count_le_one.mp owned.live_nodup o
  have queued : 0 < s.retireRing.count o := List.count_pos_iff.mpr member
  exact List.count_eq_zero.mp (by omega)

/-- Only a submission brings a buffer in, and under a serial number of its own. -/
theorem Takes.arrives {lib : External R} {s t : RealtimeCore R} {l : Label R}
    (taken : Takes lib s l t) : s.nextSerial ≤ t.nextSerial ∧
      ∀ o ∈ t.liveBuffers, o ∈ s.liveBuffers ∨ o.serial = s.nextSerial := by
  have reaped : ∀ o ∈ s.reapRetired.liveBuffers, o ∈ s.liveBuffers :=
    fun o member => (reapRetired_sublist s).subset member
  cases taken with
  | submitTrajectory request addr unlocked planned free =>
    refine ⟨Nat.le_succ _, fun o member => ?_⟩
    rcases List.mem_append.mp member with kept | new
    · exact .inl (reaped o kept)
    · rw [List.mem_singleton.mp new]
      exact .inr rfl
  | join | submit | reap => exact ⟨le_rfl, fun o member => .inl (reaped o member)⟩
  | clear => exact ⟨le_rfl, nofun⟩
  | exit phase flagged =>
    simp only [RealtimeCore.exit]
    split
    · exact ⟨le_rfl, fun o member => .inl member⟩
    · exact ⟨le_rfl, fun o member => .inl member⟩
  | packet rxMono view phase =>
    simp only [ingestPacket]
    split
    · exact ⟨le_rfl, fun o member => .inl member⟩
    · exact ⟨le_rfl, fun o member => .inl member⟩
  | exchange op rest phase =>
    rcases exchange_shape s op with ⟨-, same⟩ | ⟨-, forwarded⟩
    · rw [same]
      exact ⟨le_rfl, fun o member => .inl member⟩
    · rw [forwarded]
      exact ⟨le_rfl, fun o member => .inl member⟩
  | pop last phase =>
    rcases pop_shape s last with ⟨-, same⟩ | ⟨_, _, _, _, -, popped⟩
    · rw [same]
      exact ⟨le_rfl, fun o member => .inl member⟩
    · rw [popped]
      exact ⟨le_rfl, fun o member => .inl member⟩
  | settle last cmd phase =>
    obtain ⟨_, _, _, _, settled⟩ := settle_shape s last cmd
    rw [settled]
    exact ⟨le_rfl, fun o member => .inl member⟩
  | push t stage =>
    rcases pushMailbox_shape s t with ⟨-, pushed⟩ | ⟨-, dropped⟩
    · rw [pushed]
      exact ⟨le_rfl, fun o member => .inl member⟩
    · rw [dropped]
      exact ⟨le_rfl, fun o member => .inl ((Pool.releaseAll_sublist _ _).subset member)⟩
  | start | stop | timer | check | tick | name | date | stamp | stopBump | stopStore | request
  | drainEvents => exact ⟨le_rfl, fun o member => .inl member⟩

/-- The retire ring is left alone, popped empty with its buffers freed, or given a live
buffer that was not in it. -/
inductive RingStep (s t : RealtimeCore R) : Prop
  | same (ring : t.retireRing = s.retireRing)
  | emptied (ring : t.retireRing = []) (freed : ∀ o ∈ s.retireRing, o ∉ t.liveBuffers)
  | retired (o : Owner) (ring : t.retireRing = s.retireRing ++ [o]) (live : o ∈ s.liveBuffers)
      (new : o ∉ s.retireRing)

omit [Field R] [LinearOrder R] [FloorRing R] in
theorem Owned.ringStep {s t : RealtimeCore R} (owned : s.Owned) (owner : Option Owner)
    (ring : t.retireRing = pushRetired s.retireRing owner)
    (referenced : ∀ o ∈ owner, 0 < s.activeTrajOwner.toList.count o +
      (s.phase.last.bind Target.bufferOwner).toList.count o) : RingStep s t := by
  rw [owned.pushed] at ring
  cases owner with
  | none => exact .same (by simpa using ring)
  | some o =>
    obtain ⟨live, new⟩ := owned.once (referenced o rfl)
    exact .retired o ring live new

theorem Takes.ring {lib : External R} {s t : RealtimeCore R} {l : Label R}
    (taken : Takes lib s l t) (targets : s.Targets) (owned : s.Owned) : RingStep s t := by
  cases taken with
  | submitTrajectory request addr unlocked planned free =>
    refine .emptied rfl fun o queued member => ?_
    rcases List.mem_append.mp member with kept | new
    · exact owned.reaped queued kept
    · have known : o.serial < s.nextSerial := by
        apply owned.serials
        apply List.count_pos_iff.mp
        have count := owned.count o
        have waiting : 0 < s.retireRing.count o := List.count_pos_iff.mpr queued
        omega
      rw [List.mem_singleton.mp new] at known
      exact absurd known (Nat.lt_irrefl _)
  | join | submit | reap => exact .emptied rfl fun o queued => owned.reaped queued
  | exit phase flagged =>
    simp only [RealtimeCore.exit]
    split
    · exact .same rfl
    · exact .same rfl
  | packet rxMono view phase =>
    simp only [ingestPacket]
    split
    · exact .same rfl
    · exact .same rfl
  | exchange op rest phase =>
    rcases exchange_shape s op with ⟨-, same⟩ | ⟨-, forwarded⟩
    · rw [same]
      exact .same rfl
    · rw [forwarded]
      exact .same rfl
  | pop last phase =>
    rcases pop_shape s last with ⟨-, same⟩ | ⟨_, _, _, _, -, popped⟩
    · rw [same]
      exact .same rfl
    · rw [popped]
      refine owned.ringStep (last.bind displacedOwner) rfl fun o displaced => ?_
      obtain ⟨t, held, owner⟩ := Option.mem_bind_iff.mp displaced
      cases held
      have knots := targets.last t (by rw [phase]; rfl)
      rw [displacedOwner_eq knots] at owner
      rw [phase]
      simp [RtPhase.last, Option.mem_def.mp owner]
  | settle last cmd phase =>
    obtain ⟨_, _, _, _, settled⟩ := settle_shape s last cmd
    have knots : ∀ t ∈ last, t.OwnsKnots := by
      have held := targets.last
      rw [phase] at held
      exact held
    rw [settled]
    refine owned.ringStep _ rfl fun o retired => ?_
    have traded :=
      consumedOwners_count s.core.lastConsume.accepted s.activeTrajOwner knots o
    rw [Option.mem_def.mp retired] at traded
    rw [phase]
    simp only [Option.toList_some, List.count_singleton_self] at traded
    simp only [RtPhase.last]
    omega
  | push t stage =>
    rcases pushMailbox_shape s t with ⟨-, pushed⟩ | ⟨-, dropped⟩
    · rw [pushed]
      exact .same rfl
    · rw [dropped]
      exact .same rfl
  | start | stop | clear | timer | check | tick | name | date | stamp | stopBump | stopStore
  | request | drainEvents => exact .same rfl

/-- The buffer the tick core is playing out of. -/
def playbackOwner (s : RealtimeCore R) : Option Owner :=
  if s.core.health.mode.planned then s.core.splice.capturedTarget.bufferOwner else none

/-- Where a freed buffer would be a dangling pointer. -/
def references (s : RealtimeCore R) : List Owner :=
  s.mailbox.filterMap Target.bufferOwner ++
    (s.playbackOwner.toList ++ s.activeTrajOwner.toList)

omit [Field R] [LinearOrder R] [FloorRing R] in
theorem Owned.referenced {s : RealtimeCore R} (owned : s.Owned) (targets : s.Targets)
    (plays : s.Plays) {o : Owner} (member : o ∈ s.references) : o ∈ s.liveBuffers := by
  apply List.count_pos_iff.mp
  have count := owned.count o
  simp only [references, List.mem_append] at member
  rcases member with mail | playing | active
  · have waiting := List.count_pos_iff.mpr mail
    omega
  · simp only [playbackOwner] at playing
    split at playing
    · rename_i planned
      obtain ⟨-, owns⟩ := plays planned
      rw [← owns] at playing
      have counted : 0 < s.owningPointer.toList.count o := List.count_pos_iff.mpr playing
      by_cases ticked : ∃ last cmd, s.phase = .ticked last cmd
      · obtain ⟨last, cmd, phase⟩ := ticked
        have knots : ∀ t ∈ last, t.OwnsKnots := by
          have held := targets.last
          rw [phase] at held
          exact held
        have traded :=
          consumedOwners_count s.core.lastConsume.accepted s.activeTrajOwner knots o
        simp only [owningPointer, phase] at counted
        simp only [phase, RtPhase.last] at count
        omega
      · rw [owningPointer_idle (fun last cmd phase => ticked ⟨last, cmd, phase⟩)] at counted
        omega
    · cases playing
  · have owns := List.count_pos_iff.mpr active
    omega

end RealtimeCore

/-! ### Runs, with an observer of the pool -/

/-- The observer lists every buffer that came into the pool, every one that left it, and
every one that was pushed to the retire ring. -/
structure BufferWatch (R : Type) where
  rt : RealtimeCore R
  allocated : List Owner
  freed : List Owner
  retired : List Owner

namespace BufferWatch

def observe (w : BufferWatch R) (rt : RealtimeCore R) : BufferWatch R where
  rt := rt
  allocated := w.allocated ++ Pool.arrivals w.rt.liveBuffers rt.liveBuffers
  freed := w.freed ++ Pool.departures w.rt.liveBuffers rt.liveBuffers
  retired := w.retired ++ rt.retireRing.drop w.rt.retireRing.length

def step (lib : External R) (w : BufferWatch R) (l : Label R) : Option (BufferWatch R) :=
  (w.rt.step lib l).map w.observe

def machine (lib : External R) (cfg : RtCoreConfig R) : Machine (BufferWatch R) (Label R) where
  start := ⟨.new cfg, [], [], []⟩
  step := step lib

def nothingToClear (w : BufferWatch R) (l : Label R) : Prop := w.rt.nothingToClear l

/-- Nothing dangles, nothing is retired or freed twice, and nothing piles up. -/
structure Accounted (w : BufferWatch R) : Prop where
  referenced : ∀ o ∈ w.rt.references, o ∈ w.rt.liveBuffers
  playing : w.rt.core.health.mode.planned → w.rt.playbackOwner.isSome
  retiredOnce : w.retired.Nodup
  freedOnce : ∀ o ∈ w.allocated, w.freed.count o = if o ∈ w.rt.liveBuffers then 0 else 1
  ringRoom : w.rt.retireRing.length < kRetireRoom
  bounded : w.rt.liveBuffers.length ≤ RealtimeCore.kLiveBound

structure Sound (w : BufferWatch R) : Prop where
  tidy : w.rt.Tidy
  targets : w.rt.Targets
  owned : w.rt.Owned
  plays : w.rt.Plays
  balance : ∀ o, w.allocated.count o = w.rt.liveBuffers.count o + w.freed.count o
  serials : ∀ o ∈ w.allocated, o.serial < w.rt.nextSerial
  nodup : w.allocated.Nodup
  retiredNodup : w.retired.Nodup
  retired : ∀ o ∈ w.retired, o ∈ w.allocated ∧ (o ∈ w.rt.retireRing ∨ o ∉ w.rt.liveBuffers)

omit [Field R] [LinearOrder R] [FloorRing R] in
theorem Sound.live_allocated {w : BufferWatch R} (sound : w.Sound) {o : Owner}
    (live : o ∈ w.rt.liveBuffers) : o ∈ w.allocated := by
  have balance := sound.balance o
  have held : 0 < w.rt.liveBuffers.count o := List.count_pos_iff.mpr live
  exact List.count_pos_iff.mp (by omega)

omit [Field R] [LinearOrder R] [FloorRing R] in
theorem Sound.accounted {w : BufferWatch R} (sound : w.Sound) : w.Accounted where
  referenced := fun _ member => sound.owned.referenced sound.targets sound.plays member
  playing := by
    intro planned
    rw [RealtimeCore.playbackOwner, if_pos planned]
    exact (sound.plays planned).1
  retiredOnce := sound.retiredNodup
  freedOnce := by
    intro o member
    have balance := sound.balance o
    rw [List.count_eq_one_of_mem sound.nodup member] at balance
    split
    · rename_i live
      rw [List.count_eq_one_of_mem sound.owned.live_nodup live] at balance
      omega
    · rename_i gone
      rw [List.count_eq_zero.mpr gone] at balance
      omega
  ringRoom := sound.owned.ring_room
  bounded := sound.owned.bounded

theorem step_sound {lib : External R} {w v : BufferWatch R} {l : Label R} (sound : w.Sound)
    (legal : w.nothingToClear l) (moved : w.step lib l = some v) : v.Sound := by
  obtain ⟨rt, stepped, rfl⟩ := Option.map_eq_some_iff.mp moved
  have taken := RealtimeCore.step_takes stepped
  have owned := taken.owned sound.tidy sound.targets legal sound.owned
  obtain ⟨serial, arrives⟩ := taken.arrives
  -- A retired buffer that was freed does not come back.
  have gone {o : Owner} (known : o ∈ w.allocated) (freed : o ∉ w.rt.liveBuffers) :
      o ∉ rt.liveBuffers := by
    intro live
    rcases arrives o live with before | new
    · exact freed before
    · exact absurd (sound.serials o known) (by omega)
  have arrived {o : Owner} (new : o ∈ Pool.arrivals w.rt.liveBuffers rt.liveBuffers) :
      o ∈ rt.liveBuffers ∧ o ∉ w.rt.liveBuffers := by
    simpa [Pool.arrivals] using new
  refine ⟨taken.tidy sound.tidy, taken.targets sound.targets, owned,
    taken.plays sound.tidy sound.targets sound.plays,
    Pool.observed_balance sound.owned.live_nodup owned.live_nodup sound.balance, ?_, ?_, ?_, ?_⟩
  · intro o member
    rcases List.mem_append.mp member with known | new
    · exact (sound.serials o known).trans_le serial
    · exact owned.serials o (arrived new).1
  · refine List.nodup_append'.mpr ⟨sound.nodup, owned.live_nodup.filter _, fun o known new => ?_⟩
    exact gone known (arrived new).2 (arrived new).1
  · cases taken.ring sound.targets sound.owned with
    | same ring =>
      simp only [observe, ring, List.drop_length, List.append_nil]
      exact sound.retiredNodup
    | emptied ring freed =>
      simp only [observe, ring, List.drop_nil, List.append_nil]
      exact sound.retiredNodup
    | retired o ring live new =>
      simp only [observe, ring, List.drop_left]
      refine List.nodup_append'.mpr ⟨sound.retiredNodup, List.nodup_singleton o, fun b was is => ?_⟩
      rw [List.mem_singleton.mp is] at was
      rcases (sound.retired o was).2 with queued | freed
      · exact new queued
      · exact freed live
  · intro o member
    have before (was : o ∈ w.retired) : o ∈ (w.observe rt).allocated ∧
        (o ∈ w.rt.retireRing ∨ o ∉ rt.liveBuffers) := by
      obtain ⟨known, state⟩ := sound.retired o was
      exact ⟨List.mem_append_left _ known, state.imp_right (gone known)⟩
    cases taken.ring sound.targets sound.owned with
    | same ring =>
      simp only [observe, ring, List.drop_length, List.append_nil] at member ⊢
      exact before member
    | emptied ring freed =>
      simp only [observe, ring, List.drop_nil, List.append_nil] at member ⊢
      obtain ⟨known, state⟩ := before member
      refine ⟨known, .inr ?_⟩
      rcases state with queued | out
      · exact freed o queued
      · exact out
    | retired p ring live new =>
      simp only [observe, ring, List.drop_left, List.mem_append] at member ⊢
      rcases member with was | now
      · obtain ⟨known, state⟩ := before was
        exact ⟨List.mem_append.mp known, state.imp_left .inl⟩
      · rw [List.mem_singleton.mp now]
        exact ⟨.inl (sound.live_allocated live), .inl (.inr (List.mem_singleton_self p))⟩

theorem start_sound (lib : External R) (cfg : RtCoreConfig R) : (machine lib cfg).start.Sound where
  tidy := RealtimeCore.new_tidy cfg
  targets := RealtimeCore.new_targets cfg
  owned := ⟨List.Perm.refl [], List.nodup_nil, nofun, Nat.zero_le _, nofun⟩
  plays := by
    intro planned
    simp [machine, RealtimeCore.new, TickCore.new, Mode.planned] at planned
  balance := fun _ => rfl
  serials := nofun
  nodup := List.nodup_nil
  retiredNodup := List.nodup_nil
  retired := nofun

/-- In every run whose stops find nothing to clear, no referenced buffer is freed, every
buffer is freed once, and neither the ring nor the list of live buffers grows without end. -/
theorem buffers_are_accounted (lib : External R) (cfg : RtCoreConfig R) (w : BufferWatch R)
    (reached : (machine lib cfg).Reachable nothingToClear w) : w.Accounted := by
  have sound : w.Sound := by
    refine Machine.Reaches.invariant reached (start_sound lib cfg) ?_
    intro a b l sound legal moved
    exact step_sound sound legal moved
  exact sound.accounted

instance (w : BufferWatch R) (l : Label R) : Decidable (w.nothingToClear l) :=
  match l with
  | .clear => inferInstanceAs (Decidable
      (w.rt.mailbox.filterMap Target.bufferOwner = [] ∧ w.rt.activeTrajOwner = none))
  | .start | .stop | .exit | .join | .packet _ _ | .timer | .exchange | .pop | .check | .tick
  | .settle | .submit _ _ | .enqueue | .stopBump | .stopStore _ | .request _ | .reap
  | .drainEvents _ => inferInstanceAs (Decidable True)

/-- A servo target preempts a trajectory, whose buffer is retired, reaped and cleared away. -/
theorem buffers_are_accounted_preempted :
    ∃ w : BufferWatch ℚ, w.allocated = [⟨0, 0⟩] ∧ w.retired = [⟨0, 0⟩] ∧ w.freed = [⟨0, 0⟩] ∧
      w.Accounted := by
  obtain ⟨w, reached, ended⟩ := Machine.reachable_of_test
    (machine benchExternal defaultRtCoreConfig) nothingToClear
    ([.start, benchClear] ++ benchWindow 0 ++ benchSubmit benchPlan 0 ++ [benchClear] ++
      benchWindow 1 ++ benchSubmit benchServoRequest 0 ++ [benchClear] ++ benchWindow 1 ++ benchStop)
    (fun w => decide (w.allocated = [⟨0, 0⟩] ∧ w.retired = [⟨0, 0⟩] ∧ w.freed = [⟨0, 0⟩]))
    (by decide +kernel) (by decide +kernel)
  obtain ⟨allocated, retired, freed⟩ := of_decide_eq_true ended
  exact ⟨w, allocated, retired, freed,
    buffers_are_accounted benchExternal defaultRtCoreConfig w reached⟩

/-- Whatever the run, the buffers are accounted for. -/
def AccountsForBuffers (lib : External R) (cfg : RtCoreConfig R) : Prop :=
  ∀ w, (machine lib cfg).Reachable (fun _ _ => True) w → w.Accounted

/-- A trajectory waits in the mailbox through a stop and a start: the core splices into a
buffer that the stop has freed. -/
theorem stop_frees_waiting_trajectory :
    ¬ AccountsForBuffers benchExternal defaultRtCoreConfig := by
  intro accounts
  obtain ⟨w, reached, dangling⟩ := Machine.reachable_of_run (machine benchExternal defaultRtCoreConfig)
    ([.start, benchClear] ++ benchWindow 0 ++ benchSubmit benchPlan 0 ++ benchStop ++
      [.start, benchClear] ++ benchWindow 1)
    (fun w => decide (w.rt.playbackOwner = some ⟨0, 0⟩ ∧ w.rt.liveBuffers = []))
    (by decide +kernel)
  obtain ⟨playing, empty⟩ := of_decide_eq_true dangling
  have live := (accounts w reached).referenced ⟨0, 0⟩ (by
    simp [RealtimeCore.references, playing])
  rw [empty] at live
  cases live

end BufferWatch

end AiroFanuc.RtCore

import AiroFanuc.Library.Conversation
import AiroFanuc.RtCore.SentCommands
import AiroFanuc.Testing.StreamMotionServer

/-! The RT loop and the strict emulator at the two ends of one link, byte by byte: a link that keeps
the order of the datagrams and may lose those that only ask or only move the arm. -/

namespace AiroFanuc.RtCore

open TickEngine Library Codec Testing

/-- What the loop puts on the wire. -/
inductive Message where
  | stop (version : Word 4)
  | getCapability (version : Word 4)
  | start (version : Word 4)
  | command (seq : Word 4) (isLast : Bool) (pos : Fin 9 → Word 8)

/-- The host and the vendored headers the loop is built with; `double` gives the bits of a number. -/
structure Wiring (R : Type) where
  types : Native.HandshakeTypes
  sm : Native.StreamMotion
  host : ByteOrder
  double : R → Word 8
  smVersion : Word 4

structure Wiring.Documented {R : Type} (wire : Wiring R) : Prop where
  types : wire.types.Documented
  sm : wire.sm.Documented
  finite (x : R) : isFinite (wire.double x).toNat = true

structure Link (R : Type) where
  rt : RealtimeCore R
  flight : List (List UInt8)
  server : FakeStreamMotionServer
  failed : Bool

/-- `heard` is what the socket receives while a handshake waits for its answer. -/
inductive LinkLabel (R : Type) where
  | loop (l : Label R) (heard : List (List UInt8))
  | deliver
  | lose
  | window

variable {R : Type} [Field R] [LinearOrder R] [FloorRing R]

def Label.starts : Label R → Bool
  | .start => true
  | _ => false

namespace Wiring

variable (wire : Wiring R)

def bytes : Message → List UInt8
  | .stop version => Native.stopPacket wire.types version
  | .getCapability version => Native.getCapabilityRequest wire.types version
  | .start version => Native.startPacket wire.types version
  | .command seq isLast pos => Native.encodeCommandPacket wire.sm wire.host seq isLast 1 pos

/-- The three axes the arm lacks are sent as zeros. -/
def command (d : Datagram R) : Message :=
  .command (BitVec.ofNat 32 d.txSeq) d.isLast fun i =>
    if driven : i < 6 then wire.double (d.posDeg ⟨i, driven⟩) else 0

/-- `send_handshake_`, the window's command, and the way out of `rt_main_`. -/
def messages (s : RealtimeCore R) (heard : List (List UInt8)) (t : RealtimeCore R) :
    Label R → List Message
  | .start =>
    [.stop wire.smVersion, .getCapability wire.smVersion,
      .start (Native.negotiate wire.types wire.smVersion heard).1]
  | .exit => (t.sent.drop s.sent.length).map wire.command ++ [.stop wire.smVersion]
  | _ => (t.sent.drop s.sent.length).map wire.command

end Wiring

namespace Link

variable (lib : External R) (wire : Wiring R) (cfg : FakeCRXConfig)

def hear (w : Link R) (datagram : List UInt8) (rest : List (List UInt8)) : Link R :=
  match w.server.receive cfg datagram with
  | .ok server => { w with flight := rest, server := server }
  | .error _ => { w with flight := rest, failed := true }

def step (w : Link R) : LinkLabel R → Option (Link R)
  | .loop l heard => (w.rt.step lib l).map fun rt =>
    { w with
      rt := rt
      flight := w.flight ++ (wire.messages w.rt heard rt l).map wire.bytes }
  | .deliver =>
    match w.flight with
    | [] => none
    | datagram :: rest => some (w.hear cfg datagram rest)
  | .lose =>
    match w.flight with
    | [] => none
    | _ :: rest => some { w with flight := rest }
  | .window => some { w with server := w.server.endWindow }

def machine (rtCfg : RtCoreConfig R) (state : ControllerState) : Machine (Link R) (LinkLabel R) where
  start := ⟨.new rtCfg, [], .new cfg state, false⟩
  step := step lib wire cfg

/-- Only the emulator answers, and where it does not in time the configured version is its own. -/
def Answered (heard : List (List UInt8)) : Prop :=
  (∀ datagram ∈ heard, (Native.readCapability wire.types datagram).isSome →
    (FakeStreamMotionServer.capabilityReply cfg).toOption = some datagram) ∧
  (heard.findSome? (Native.readCapability wire.types) = none →
    wire.smVersion.toNat = cfg.availableVersion)

/-- A capability request, or a command that is not the last. -/
def Nominal (datagram : List UInt8) : Prop :=
  field datagram 0 4 = 7 ∨ field datagram 0 4 = 201 ∧ field datagram 12 1 = 0

/-- The sequence number has not run through its 32 bits, and the link loses nothing but nominal
datagrams. -/
def allowed (w : Link R) : LinkLabel R → Prop
  | .loop l heard =>
    (l.starts = true → Answered wire cfg heard) ∧ (l.starts = false → w.rt.txSeq + 1 < 2 ^ 32)
  | .lose => ∀ datagram ∈ w.flight.head?, Nominal datagram
  | _ => True

end Link

/-! ### The rules -/

/-- What the rules ask about: a stream that is on, a stop that would be unclean, and the sequence
number the next command has to exceed. -/
structure Standing where
  streaming : Bool
  unfinished : Bool
  prev : Nat

instance : Preorder Standing where
  le v w := v.streaming = w.streaming ∧ (v.unfinished = true → w.unfinished = true) ∧ v.prev ≤ w.prev
  le_refl v := ⟨rfl, id, Nat.le_refl _⟩
  le_trans _ _ _ first second :=
    ⟨first.1.trans second.1, second.2.1 ∘ first.2.1, Nat.le_trans first.2.2 second.2.2⟩

def strict (available : Nat) : Listener Standing Message where
  after v
    | .stop _ => { v with streaming := false }
    | .getCapability _ => v
    | .start _ => ⟨true, false, 0⟩
    | .command seq isLast _ => ⟨v.streaming, !isLast, seq.toNat⟩
  Allows v
    | .stop _ => ¬ (v.streaming = true ∧ v.unfinished = true)
    | .getCapability _ => True
    | .start version => version.toNat = available
    | .command seq _ pos => v.prev < seq.toNat ∧ ∀ i, isFinite (pos i).toNat = true

theorem strict_easing (available : Nat) : (strict available).Easing where
  allows {v w m} below allows := by
    cases m with
    | stop version =>
      rintro ⟨streams, unfinished⟩
      exact allows ⟨below.1 ▸ streams, below.2.1 unfinished⟩
    | getCapability version => trivial
    | start version => exact allows
    | command seq isLast pos => exact ⟨Nat.lt_of_le_of_lt below.2.2 allows.1, allows.2⟩
  after {v w} m below := by
    cases m with
    | stop version => exact ⟨rfl, below.2⟩
    | getCapability version => exact below
    | start version => exact le_refl _
    | command seq isLast pos => exact ⟨below.1, id, Nat.le_refl _⟩

theorem strict_dispensable (available : Nat) {m : Message}
    (nominal : (∃ version, m = .getCapability version) ∨ ∃ seq pos, m = .command seq false pos) :
    (strict available).Dispensable m := by
  intro v allows
  rcases nominal with ⟨version, rfl⟩ | ⟨seq, pos, rfl⟩
  · exact le_refl v
  · exact ⟨rfl, fun _ => rfl, Nat.le_of_lt allows.1⟩

/-! ### The emulator under the rules -/

namespace Emulator

open FakeStreamMotionServer

def standing (s : FakeStreamMotionServer) : Standing :=
  ⟨s.streaming, decide (0 < s.commandsSeen) && !s.lastCmdIsLast, s.rxSeqPrev.getD 0⟩

/-- The controller goes by its own version, has raised no alarm since `state`, and has only ever
objected to the version that the commands pin. -/
structure Unstained (cfg : FakeCRXConfig) (state : ControllerState) (s : FakeStreamMotionServer) :
    Prop where
  version : s.negotiatedVersion = cfg.availableVersion
  violations : ∀ text ∈ s.violations,
    cfg.availableVersion ≠ 3 ∧ text = commandVersionText 3 cfg.availableVersion
  state : s.state = { state with streamStarted := s.state.streamStarted }

variable {wire : Wiring R} {cfg : FakeCRXConfig} {state : ControllerState}
  {s : FakeStreamMotionServer}

theorem record_false (s : FakeStreamMotionServer) (text : String) : s.record false text = s := rfl

@[simp] theorem record_rxSeqPrev (s : FakeStreamMotionServer) (bad : Bool) (text : String) :
    (s.record bad text).rxSeqPrev = s.rxSeqPrev := by
  cases bad <;> rfl

/-- All that the checks of a proper command can add is the complaint about its version. -/
theorem check_command {version seq : Nat} {pos io : List Nat} (finite : pos.all isFinite = true)
    (quiet : (io.any fun b => decide (b ≠ 0)) = false) (later : s.rxSeqPrev.getD 0 < seq) :
    s.check version seq 1 0xFFFF pos io =
      s.record (decide (version ≠ s.negotiatedVersion))
        (commandVersionText version s.negotiatedVersion) := by
  have style : decide (((0xFFFF : Nat) : Int) ≠ Wire.commandDataStyle) = false := by decide
  have control : decide (1 ≠ 1) = false := rfl
  rw [check, style, record_false, control, record_false, quiet, record_false, finite, Bool.not_true,
    record_false]
  simp only [record_rxSeqPrev]
  cases before : s.rxSeqPrev with
  | none => rfl
  | some prev =>
      rw [before, Option.getD_some] at later
      simp only
      rw [decide_eq_false (by omega : ¬ seq ≤ prev), record_false]

/-- The command that follows in the sequence, with finite joint angles, is taken as it is. -/
theorem takeCommand_proper (cfg : FakeCRXConfig) {seq : Word 4} (isLast : Bool)
    {pos : Fin 9 → Word 8}
    (later : s.rxSeqPrev.getD 0 < seq.toNat) (finite : ∀ i, isFinite (pos i).toNat = true) :
    ∃ violations, s.takeCommand cfg (commandValues seq isLast true pos) =
        { s with
          cmdsThisWindow := s.cmdsThisWindow + 1
          commandsSeen := s.commandsSeen + 1
          lastCmdIsLast := isLast
          rxSeqPrev := some seq.toNat
          pendingCmd := some (List.ofFn fun i => (pos i).toNat)
          violations := violations } ∧
      ∀ text ∈ violations, text ∈ s.violations ∨
        3 ≠ s.negotiatedVersion ∧ text = commandVersionText 3 s.negotiatedVersion := by
  have joints : ((commandValues seq isLast true pos).drop 6).take Wire.maxAxes =
      List.ofFn fun i => (pos i).toNat := by
    rw [commandValues, List.append_assoc, List.drop_left' (by rfl),
      List.take_left' (by rw [List.length_ofFn]; rfl)]
  have io : (commandValues seq isLast true pos).drop (6 + Wire.maxAxes) = List.replicate 256 0 := by
    rw [commandValues, List.drop_left']
    rw [List.length_append, List.length_ofFn]
    rfl
  have scalars : (commandValues seq isLast true pos).getD 1 0 = 3 ∧
      (commandValues seq isLast true pos).getD 2 0 = seq.toNat ∧
      (commandValues seq isLast true pos).getD 4 0 = 1 ∧
      (commandValues seq isLast true pos).getD 5 0 = 0xFFFF := ⟨rfl, rfl, rfl, rfl⟩
  have last : decide ((commandValues seq isLast true pos).getD 3 0 ≠ 0) = isLast := by
    cases isLast <;> rfl
  have allFinite : (List.ofFn fun i => (pos i).toNat).all isFinite = true := by
    rw [List.all_eq_true]
    intro v member
    obtain ⟨i, rfl⟩ := List.mem_ofFn.mp member
    exact finite i
  have quiet : ((List.replicate 256 0).any fun b => decide (b ≠ 0)) = false := by decide +kernel
  let counted : FakeStreamMotionServer := { s with
    cmdsThisWindow := s.cmdsThisWindow + 1
    commandsSeen := s.commandsSeen + 1
    lastCmdIsLast := isLast }
  have checked : counted.check 3 seq.toNat 1 0xFFFF (List.ofFn fun i => (pos i).toNat)
      (List.replicate 256 0) = counted.record (decide (3 ≠ s.negotiatedVersion))
        (commandVersionText 3 s.negotiatedVersion) := check_command allFinite quiet later
  simp only [takeCommand, joints, io, last, scalars]
  cases cfg.strict with
  | false => exact ⟨s.violations, rfl, fun text member => .inl member⟩
  | true =>
      rw [if_pos rfl, checked]
      by_cases pinned : (3 : Nat) = s.negotiatedVersion
      · rw [decide_eq_false (not_not.mpr pinned)]
        exact ⟨s.violations, rfl, fun text member => .inl member⟩
      · rw [decide_eq_true pinned]
        refine ⟨s.violations ++ [commandVersionText 3 s.negotiatedVersion], rfl, ?_⟩
        intro text member
        rcases List.mem_append.mp member with earlier | new
        · exact .inl earlier
        · exact .inr ⟨pinned, List.mem_singleton.mp new⟩

omit [Field R] [LinearOrder R] [FloorRing R] in
/-- A message the rules allow is taken without an error and without a new kind of complaint. -/
theorem receive_message {m : Message} (documented : wire.Documented) {reply : List UInt8}
    (answers : capabilityReply cfg = .ok reply) (unstained : Unstained cfg state s)
    (allows : (strict cfg.availableVersion).Allows (standing s) m) :
    ∃ t, s.receive cfg (wire.bytes m) = .ok t ∧ Unstained cfg state t ∧
      standing t = (strict cfg.availableVersion).after (standing s) m := by
  cases m with
  | stop version =>
      refine ⟨_, s.receive_stop cfg documented.types version, ?_⟩
      have clean : (cfg.strict && s.streaming && decide (0 < s.commandsSeen) && !s.lastCmdIsLast) =
          false := by
        rw [Bool.and_assoc, Bool.and_assoc, Bool.and_eq_false_iff, Bool.and_eq_false_iff]
        simp only [strict, standing, not_and, Bool.not_eq_true] at allows
        cases streams : s.streaming with
        | false => exact .inr (.inl rfl)
        | true => exact .inr (.inr (allows streams))
      rw [onStop, clean, record_false]
      exact ⟨⟨unstained.version, unstained.violations, congrArg
        (fun st : ControllerState => { st with streamStarted := false }) unstained.state⟩, rfl⟩
  | getCapability version =>
      exact ⟨s, s.receive_getCapability cfg documented.types version answers, unstained, rfl⟩
  | start version =>
      refine ⟨_, s.receive_start cfg documented.types version, ?_⟩
      have same : version.toNat = cfg.availableVersion := allows
      have clean : (cfg.strict && decide (version.toNat ≠ cfg.availableVersion)) = false := by
        rw [decide_eq_false (not_not.mpr same), Bool.and_false]
      rw [restart, clean, record_false]
      exact ⟨⟨same, unstained.violations, congrArg
        (fun st : ControllerState => { st with streamStarted := true }) unstained.state⟩, rfl⟩
  | command seq isLast pos =>
      obtain ⟨violations, taken, kept⟩ := takeCommand_proper cfg isLast allows.1 allows.2
      have encoded : wire.bytes (.command seq isLast pos) =
          pack Wire.fmtCommand (commandValues seq isLast true pos) :=
        native_encodeCommandPacket wire.host documented.sm seq isLast true pos
      refine ⟨_, (by rw [encoded, s.receive_command cfg seq isLast true pos]), ?_⟩
      rw [taken]
      refine ⟨⟨unstained.version, ?_, unstained.state⟩, ?_⟩
      · intro text member
        rcases kept text member with earlier | ⟨pinned, new⟩
        · exact unstained.violations text earlier
        · rw [unstained.version] at pinned new
          exact ⟨pinned.symm, new⟩
      · simp only [standing, strict, Option.getD_some]
        rw [decide_eq_true (Nat.succ_pos _), Bool.true_and]

end Emulator

/-! ### The loop under the rules -/

omit [Field R] [LinearOrder R] [FloorRing R] in
theorem negotiates {wire : Wiring R} {cfg : FakeCRXConfig} {reply : List UInt8}
    {heard : List (List UInt8)} (documented : wire.Documented)
    (answers : FakeStreamMotionServer.capabilityReply cfg = .ok reply)
    (available : cfg.availableVersion ≠ 0) (answered : Link.Answered wire cfg heard) :
    (Native.negotiate wire.types wire.smVersion heard).1.toNat = cfg.availableVersion := by
  rw [Native.negotiate]
  cases first : heard.findSome? (Native.readCapability wire.types) with
  | none => exact answered.2 first
  | some answer =>
      obtain ⟨avail, srate⟩ := answer
      obtain ⟨datagram, member, read⟩ := List.exists_of_findSome?_eq_some first
      have own : reply = datagram := by
        have only := answered.1 datagram member (by rw [read]; rfl)
        rw [answers] at only
        exact Option.some.inj only
      obtain ⟨r, decoded, -, version, -⟩ := (readCapability_iff documented.types).mp read
      obtain ⟨r', meant, -, own_version, -⟩ := decode_encoded answers
      rw [own] at meant
      have same : r' = r := Option.some.inj (Except.ok.inj (meant.symm.trans decoded))
      have adopted : avail.toNat = cfg.availableVersion := by
        rw [← version, ← same]
        exact_mod_cast own_version
      have nonzero : avail ≠ 0 := by
        rintro rfl
        exact available adopted.symm
      simp only [if_pos nonzero]
      exact adopted

/-- A session is up from its handshake to the thread's way out. -/
def RtPhase.up : RtPhase R → Bool
  | .down | .exited => false
  | _ => true

namespace RealtimeCore

/-- What the loop may assume of the far end once all it has sent is there. -/
def standing (s : RealtimeCore R) : Standing := ⟨s.phase.up, s.streamingReady, s.txSeq⟩

/-- The messages of a step are allowed where all before them have arrived, and leave the far end
where the loop takes it to be. -/
theorem Takes.messages {lib : External R} {wire : Wiring R} {cfg : FakeCRXConfig}
    {reply : List UInt8} {heard : List (List UInt8)} {s t : RealtimeCore R} {l : Label R}
    (taken : Takes lib s l t) (tidy : s.Tidy) (commands : s.Commands)
    (documented : wire.Documented)
    (answers : FakeStreamMotionServer.capabilityReply cfg = .ok reply)
    (available : cfg.availableVersion ≠ 0)
    (handshake : l.starts = true → Link.Answered wire cfg heard)
    (small : l.starts = false → s.txSeq + 1 < 2 ^ 32) :
    (strict cfg.availableVersion).Accepts s.standing (wire.messages s heard t l) ∧
      (strict cfg.availableVersion).hears s.standing (wire.messages s heard t l) ≤ t.standing := by
  have finite (d : Datagram R) (i : Fin 9) :
      isFinite (if driven : i < 6 then wire.double (d.posDeg ⟨i, driven⟩) else 0).toNat = true := by
    split
    · exact documented.finite _
    · decide
  have next (fits : s.txSeq + 1 < 2 ^ 32) :
      (BitVec.ofNat 32 (s.txSeq + 1)).toNat = s.txSeq + 1 := by
    rw [BitVec.toNat_ofNat, Nat.mod_eq_of_lt fits]
  -- Most steps send nothing and leave what the bound is made of alone.
  have quiet (sent : t.sent = s.sent) (below : s.standing ≤ t.standing) :
      (strict cfg.availableVersion).Accepts s.standing
          ((t.sent.drop s.sent.length).map wire.command) ∧
        (strict cfg.availableVersion).hears s.standing
          ((t.sent.drop s.sent.length).map wire.command) ≤ t.standing := by
    rw [sent, List.drop_length]
    exact ⟨trivial, below⟩
  have same (sent : t.sent = s.sent) (up : t.phase.up = s.phase.up)
      (ready : t.streamingReady = s.streamingReady) (seq : t.txSeq = s.txSeq) :=
    quiet sent (by rw [standing, standing, up, ready, seq])
  -- The one command of a step, numbered behind the last.
  have one (qRad : Vec6 R) (isLast : Bool) (fits : s.txSeq + 1 < 2 ^ 32) (v : Standing)
      (before : v.prev = s.txSeq) :
      (strict cfg.availableVersion).Accepts v
          [wire.command ⟨s.txSeq + 1, isLast, fun j => rad2deg (qRad j)⟩] ∧
        (strict cfg.availableVersion).hears v
          [wire.command ⟨s.txSeq + 1, isLast, fun j => rad2deg (qRad j)⟩] =
        ⟨v.streaming, !isLast, s.txSeq + 1⟩ := by
    refine ⟨⟨⟨?_, finite _⟩, trivial⟩, ?_⟩
    · rw [next fits, before]
      exact Nat.lt_succ_self _
    · show (⟨v.streaming, !isLast, (BitVec.ofNat 32 (s.txSeq + 1)).toNat⟩ : Standing) = _
      rw [next fits]
  cases taken with
  | start idle cleared =>
    have down : s.phase.up = false := congrArg RtPhase.up (tidy.idle idle)
    have version := negotiates documented answers available (handshake rfl)
    refine ⟨⟨?_, trivial, version, trivial⟩, rfl, ?_, Nat.le_refl _⟩
    · rintro ⟨streams, -⟩
      exact absurd (down.symm.trans streams) (by decide)
    · rintro ⟨⟩
  | exit phase flagged =>
    have fits := small rfl
    have up : s.phase.up = true := congrArg RtPhase.up phase
    simp only [Wiring.messages, RealtimeCore.exit]
    cases ready : s.streamingReady with
    | true =>
        simp only [if_true, send, List.drop_left, List.map_cons, List.map_nil]
        have sent := one s.core.anchor.qCmd true fits s.standing rfl
        rw [Listener.accepts_append, Listener.hears_append, sent.2]
        refine ⟨⟨sent.1, ?_, trivial⟩, rfl, ?_, Nat.le_refl _⟩
        · rintro ⟨-, ⟨⟩⟩
        · rintro ⟨⟩
    | false =>
        simp only [Bool.false_eq_true, if_false, List.drop_length, List.map_nil, List.nil_append]
        refine ⟨⟨?_, trivial⟩, rfl, id, Nat.le_refl _⟩
        rintro ⟨-, unfinished⟩
        exact absurd (ready.symm.trans unfinished) (by decide)
  | packet rxMono view phase =>
    have kept : (s.ingestPacket rxMono view).sent = s.sent ∧
        (s.ingestPacket rxMono view).phase = s.phase ∧
        (s.ingestPacket rxMono view).txSeq = s.txSeq ∧
        (s.streamingReady = true → (s.ingestPacket rxMono view).streamingReady = true) := by
      simp only [ingestPacket]
      split
      · exact ⟨rfl, rfl, rfl, fun _ => rfl⟩
      · exact ⟨rfl, rfl, rfl, id⟩
    refine quiet kept.1 ⟨?_, kept.2.2.2, Nat.le_of_eq kept.2.2.1.symm⟩
    exact (congrArg RtPhase.up kept.2.1).symm
  | timer phase => exact same rfl (congrArg RtPhase.up phase).symm rfl rfl
  | exchange op rest phase =>
    have stays : (if rest = [] then RtPhase.draining none else .exchanging rest : RtPhase R).up =
        s.phase.up := by
      rw [phase]
      split <;> rfl
    rcases exchange_shape s op with ⟨-, kept⟩ | ⟨-, forwarded⟩
    · exact same (by rw [kept]) stays (by rw [kept]) (by rw [kept])
    · exact same (by rw [forwarded]) stays (by rw [forwarded]) (by rw [forwarded])
  | pop last phase =>
    have up : s.phase.up = true := congrArg RtPhase.up phase
    rcases pop_shape s last with ⟨-, kept⟩ | ⟨_, _, _, _, -, popped⟩
    · rw [kept] at quiet same ⊢
      exact same rfl up.symm rfl rfl
    · rw [popped] at quiet same ⊢
      exact same rfl up.symm rfl rfl
  | check last phase => exact same rfl (congrArg RtPhase.up phase).symm rfl rfl
  | tick last consumeSuperseded phase => exact same rfl (congrArg RtPhase.up phase).symm rfl rfl
  | settle last cmd phase =>
    have fits := small rfl
    have up : s.phase.up = true := congrArg RtPhase.up phase
    obtain ⟨ready, nominal⟩ := commands.ticked last cmd phase
    have seq := settle_txSeq s last cmd
    obtain ⟨_, _, _, _, settled⟩ := settle_shape s last cmd
    have sent : (s.settle last cmd).sent = s.sentAfter cmd := by rw [settled]
    have live : (s.settle last cmd).phase.up = s.phase.up := by
      rw [settled, up]
      rfl
    have kept : (s.settle last cmd).streamingReady = s.streamingReady := by rw [settled]
    cases sends : cmd.tx with
    | false =>
        rw [sends] at seq
        exact same (by rw [sent, sentAfter, sends]; rfl) live kept seq
    | true =>
        rw [sends, if_pos rfl] at seq
        have command := one cmd.qRad cmd.isLast fits s.standing rfl
        simp only [Wiring.messages, sent, sentAfter, sends, if_true, List.drop_left, List.map_cons,
          List.map_nil]
        refine ⟨command.1, ?_⟩
        rw [command.2]
        exact ⟨live.symm, fun _ => kept.trans (ready sends), Nat.le_of_eq seq.symm⟩
  | join phase unlocked => exact same rfl (congrArg RtPhase.up phase).symm rfl rfl
  | push t stage =>
    rcases pushMailbox_shape s t with ⟨-, pushed⟩ | ⟨-, dropped⟩
    · rw [pushed] at quiet same ⊢
      exact same rfl rfl rfl rfl
    · rw [dropped] at quiet same ⊢
      exact same rfl rfl rfl rfl
  | stop | clear | submitTrajectory | submit | name | date | stamp | stopBump | stopStore | request
  | reap | drainEvents => exact same rfl rfl rfl rfl

end RealtimeCore

/-! ### The link -/

namespace Link

open Emulator

variable {lib : External R} {wire : Wiring R} {cfg : FakeCRXConfig} {state : ControllerState}
  {reply : List UInt8} {w v : Link R}

/-- What is in flight is what the loop sent; the far end will not object to any of it. -/
structure Sound (wire : Wiring R) (cfg : FakeCRXConfig) (state : ControllerState) (w : Link R) :
    Prop where
  tidy : w.rt.Tidy
  commands : w.rt.Commands
  unstained : Unstained cfg state w.server
  running : w.failed = false
  abreast : ∃ messages, w.flight = messages.map wire.bytes ∧
    (strict cfg.availableVersion).Abreast (standing w.server) messages w.rt.standing

theorem start_sound (lib : External R) (wire : Wiring R) (cfg : FakeCRXConfig)
    (rtCfg : RtCoreConfig R) (state : ControllerState) :
    (machine lib wire cfg rtCfg state).start.Sound wire cfg state where
  tidy := RealtimeCore.new_tidy rtCfg
  commands := RealtimeCore.new_commands rtCfg
  unstained :=
    { version := rfl
      violations := by rintro _ ⟨⟩
      state := rfl }
  running := rfl
  abreast := ⟨[], rfl, trivial, le_refl _⟩

omit [Field R] [LinearOrder R] [FloorRing R] in
/-- The start and the stop, and the last command, are not among the nominal datagrams. -/
theorem nominal_dispensable {m : Message} (documented : wire.Documented)
    (nominal : Nominal (wire.bytes m)) : (strict cfg.availableVersion).Dispensable m := by
  apply strict_dispensable
  cases m with
  | stop version =>
      have type : field (wire.bytes (.stop version)) 0 4 = 2 := by
        rw [Wiring.bytes, Native.stopPacket, documented.types.stop, beStoreU32_eq]
        exact FakeStreamMotionServer.leading_word (by decide) _
      rw [Nominal, type] at nominal
      omega
  | getCapability version => exact .inl ⟨version, rfl⟩
  | start version =>
      have type : field (wire.bytes (.start version)) 0 4 = 200 := by
        rw [Wiring.bytes, Native.startPacket, documented.types.start, beStoreU32_eq]
        exact FakeStreamMotionServer.leading_word (by decide) _
      rw [Nominal, type] at nominal
      omega
  | command seq isLast pos =>
      have encoded : wire.bytes (.command seq isLast pos) =
          pack Wire.fmtCommand (commandValues seq isLast true pos) :=
        native_encodeCommandPacket wire.host documented.sm seq isLast true pos
      have fields := FakeStreamMotionServer.unpack_packed
        (FakeStreamMotionServer.commandValues_fit seq isLast true pos)
      have size : Wire.fmtCommand.length = 271 := by decide +kernel
      have at_field (k : Nat) (inside : k < 271) :
          (commandValues seq isLast true pos).getD k 0 =
            field (pack Wire.fmtCommand (commandValues seq isLast true pos))
              (Wire.fmtCommand.take k).sum (Wire.fmtCommand.getD k 0) := by
        rw [← Wire.unpack_field k (by rw [size]; exact inside) rfl rfl, fields]
      have type : field (wire.bytes (.command seq isLast pos)) 0 4 = 201 := by
        rw [encoded]
        exact (at_field 0 (by decide)).symm
      have last : field (wire.bytes (.command seq isLast pos)) 12 1 = isLast.toNat := by
        rw [encoded]
        exact (at_field 3 (by decide)).symm
      rw [Nominal, type, last] at nominal
      cases isLast with
      | false => exact .inr ⟨seq, pos, rfl⟩
      | true =>
          have one : true.toNat = 1 := rfl
          omega

theorem step_sound {l : LinkLabel R} (documented : wire.Documented)
    (answers : FakeStreamMotionServer.capabilityReply cfg = .ok reply)
    (available : cfg.availableVersion ≠ 0) (sound : w.Sound wire cfg state)
    (legal : allowed wire cfg w l) (moved : w.step lib wire cfg l = some v) :
    v.Sound wire cfg state := by
  obtain ⟨messages, flight, abreast⟩ := sound.abreast
  have easing := strict_easing cfg.availableVersion
  cases l with
  | loop l heard =>
      obtain ⟨rt, stepped, rfl⟩ := Option.map_eq_some_iff.mp moved
      have taken := RealtimeCore.step_takes stepped
      have said := taken.messages sound.tidy sound.commands documented answers available legal.1
        legal.2
      have sent := (abreast.send easing said.1).mono said.2
      exact ⟨taken.tidy sound.tidy, taken.commands sound.commands, sound.unstained, sound.running,
        _, by rw [flight, List.map_append], sent⟩
  | deliver =>
      cases messages with
      | nil =>
          simp only [step, flight, List.map_nil] at moved
          cases moved
      | cons m rest =>
          obtain ⟨allows, onward⟩ := abreast.deliver
          obtain ⟨t, received, unstained, stands⟩ :=
            receive_message documented answers sound.unstained allows
          simp only [step, flight, List.map_cons, hear, received] at moved
          cases moved
          rw [← stands] at onward
          exact ⟨sound.tidy, sound.commands, unstained, sound.running, rest, rfl, onward⟩
  | lose =>
      cases messages with
      | nil =>
          simp only [step, flight, List.map_nil] at moved
          cases moved
      | cons m rest =>
          have nominal : Nominal (wire.bytes m) := by
            apply legal
            rw [flight]
            rfl
          simp only [step, flight, List.map_cons] at moved
          cases moved
          exact ⟨sound.tidy, sound.commands, sound.unstained, sound.running, rest, rfl,
            abreast.lose easing (nominal_dispensable documented nominal)⟩
  | window =>
      cases moved
      exact ⟨sound.tidy, sound.commands, ⟨sound.unstained.version, sound.unstained.violations,
        sound.unstained.state⟩, sound.running, messages, flight, abreast⟩

instance (wire : Wiring R) (cfg : FakeCRXConfig) (heard : List (List UInt8)) :
    Decidable (Answered wire cfg heard) := inferInstanceAs (Decidable (_ ∧ _))

instance (datagram : List UInt8) : Decidable (Nominal datagram) :=
  inferInstanceAs (Decidable (_ ∨ _))

instance (wire : Wiring R) (cfg : FakeCRXConfig) (w : Link R) (l : LinkLabel R) :
    Decidable (allowed wire cfg w l) :=
  match l with
  | .loop _ _ => inferInstanceAs (Decidable (_ ∧ _))
  | .lose => inferInstanceAs (Decidable (∀ datagram ∈ w.flight.head?, Nominal datagram))
  | .deliver | .window => .isTrue trivial

/-- A little-endian host; the bench's arm stands at zero, whose bits are all zero. -/
def benchWiring : Wiring ℚ := ⟨.described, .described, .little, fun _ => 0, 3⟩

def benchEmulator : FakeCRXConfig := ⟨true, 3, 8⟩

def benchController : ControllerState := ⟨false, false, 0, none, []⟩

/-- A handshake the emulator answers, three windows of which the second's command is lost, and a
clean way out. -/
def benchConversation : List (LinkLabel ℚ) :=
  [.loop .start ((FakeStreamMotionServer.capabilityReply benchEmulator).toOption.toList), .deliver,
    .lose, .deliver, .loop benchClear []] ++
  (benchWindow 0).map (.loop · []) ++ [.deliver, .window] ++
  (benchWindow 0).map (.loop · []) ++ [.lose, .window] ++
  (benchWindow 0).map (.loop · []) ++ [.deliver, .window] ++
  [.loop .stop [], .loop .exit [], .deliver, .deliver]

end Link

end AiroFanuc.RtCore

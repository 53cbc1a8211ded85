import AiroFanuc.Rmi.Reseed
import Mathlib.Tactic.Ring

/-! Every call carries the id the controller expects, as long as no id goes astray and no
reseed writes a value that a call has overtaken. -/

namespace AiroFanuc.Rmi

open Library

/-- The ids of the calls on their way go up by one from the controller's counter. -/
def Consecutive (next : Int) : List Request → Prop
  | [] => True
  | r :: rest => r.sequenceId = some next ∧ Consecutive (next + 1) rest

theorem Consecutive.append {next : Int} {calls : List Request} {r : Request}
    (consecutive : Consecutive next calls) (id_ : r.sequenceId = some (next + calls.length)) :
    Consecutive next (calls ++ [r]) := by
  induction calls generalizing next with
  | nil =>
    refine ⟨?_, trivial⟩
    rw [id_]
    simp
  | cons first rest ih =>
    refine ⟨consecutive.1, ih consecutive.2 ?_⟩
    rw [id_, List.length_cons]
    congr 1
    push_cast
    ring

namespace State

variable (st : State)

/-- Whether an id is taken for a call that is not sent yet. -/
def calling : Bool :=
  match st.holder with
  | some ⟨_, .calling _⟩ => true
  | _ => false

/-- What keeps the counters together. An id is taken only with none astray since the last
reseed; an id is taken, and a status asked for, with no call on its way over another socket; the
handshake finds a positive `NextSequenceID`; a public reseed writes before another call is
sent. -/
def Undisturbed : Label → Prop
  | .register =>
    match st.holder, st.sock with
    | some ⟨op, .ready⟩, some s =>
      if op.command = none then
        st.journal.initialized = true → st.journal.astray = false ∧ st.Elsewhere s
      else op.reseeds = true → st.Elsewhere s
    | _, _ => True
  | .conclude =>
    match st.holder with
    | some ⟨.reseed _, .concluded (.reply p)⟩ => 1 ≤ p.nextSequenceId.getD 1
    | _ => True
  | .writeStatus k =>
    match st.statuses[k]? with
    | some status => status.sent = st.journal.sent ∧ st.calling = false
    | none => True
  | _ => True

instance (i : Label) : Decidable (st.Undisturbed i) := by
  unfold Undisturbed
  cases i with
  | register =>
    suffices decided : ∀ (holder : Option Holder) (sock : Option Nat), Decidable
        (match holder, sock with
        | some ⟨op, .ready⟩, some s =>
          if op.command = none then
            st.journal.initialized = true → st.journal.astray = false ∧ st.Elsewhere s
          else op.reseeds = true → st.Elsewhere s
        | _, _ => True) from decided st.holder st.sock
    intro holder sock
    split
    · infer_instance
    · infer_instance
  | conclude =>
    rcases st.holder with _ | ⟨op, stage⟩
    · infer_instance
    · cases stage with
      | concluded outcome => cases op <;> cases outcome <;> infer_instance
      | _ => cases op <;> infer_instance
  | writeStatus k =>
    dsimp only
    cases st.statuses[k]? <;> infer_instance
  | _ => infer_instance

theorem calling_of_stage {st : State} {op : Op} {stage : Stage}
    (held : st.holder = some ⟨op, stage⟩) (other : ∀ x, stage ≠ .calling x) :
    st.calling = false := by
  unfold calling
  rw [held]
  cases stage with
  | calling x => exact absurd rfl (other x)
  | ensuring | opening | ready | sending | waiting | took | abandoning | concluded | closing => rfl

theorem calling_of_unheld {st : State} (unheld : Unheld st.holder) : st.calling = false := by
  cases held : st.holder with
  | none =>
    unfold calling
    rw [held]
  | some h =>
    apply calling_of_stage held
    intro x calls
    have rest := unheld h held
    rw [calls] at rest
    exact rest

end State

/-- The counters agree, with the calls on their way all on socket `c`. -/
structure InStep (st : State) (c : Nat) : Prop where
  elsewhere : ∀ r, r ≠ c → st.callsDue r = []
  consecutive : Consecutive st.nextSequenceId (st.callsDue c)
  counter : st.journal.astray = false →
    st.instructionSeqId =
      st.nextSequenceId + (st.callsDue c).length + (if st.calling then 1 else 0)
  calling : ∀ op x, st.holder = some ⟨op, .calling x⟩ → x.socket = c ∧
    ((st.conns c).closed = false →
      x.request.sequenceId = some (st.nextSequenceId + (st.callsDue c).length))

namespace InStep

variable {st t : State} {i : Label} {c : Nat}

/-- A step that leaves the counters and the queues as they are. -/
theorem same (inv : InStep st c) (due : ∀ s, t.callsDue s = st.callsDue s)
    (next : t.nextSequenceId = st.nextSequenceId)
    (seqId : t.instructionSeqId = st.instructionSeqId)
    (astray : t.journal.astray = st.journal.astray)
    (calling : t.calling = st.calling)
    (holds : ∀ op x, t.holder = some ⟨op, .calling x⟩ →
      st.holder = some ⟨op, .calling x⟩ ∧
        ((t.conns c).closed = false → (st.conns c).closed = false)) : InStep t c where
  elsewhere r other := by
    rw [due]
    exact inv.elsewhere r other
  consecutive := by
    rw [next, due]
    exact inv.consecutive
  counter := by
    rw [astray, seqId, next, due, calling]
    exact inv.counter
  calling op x held := by
    obtain ⟨before, closed⟩ := holds op x held
    obtain ⟨here, carried⟩ := inv.calling op x before
    refine ⟨here, fun alive => ?_⟩
    rw [next, due]
    exact carried (closed alive)

/-- So does a step of the holder while no call is being sent. -/
theorem onward (inv : InStep st c) (before : st.calling = false) (after : t.calling = false)
    (due : ∀ s, t.callsDue s = st.callsDue s)
    (next : t.nextSequenceId = st.nextSequenceId)
    (seqId : t.instructionSeqId = st.instructionSeqId)
    (astray : t.journal.astray = st.journal.astray) : InStep t c := by
  refine inv.same due next seqId astray (after.trans before.symm) ?_
  intro op x held
  unfold State.calling at after
  rw [held] at after
  cases after

/-- With no call on its way, the counters agree when they are equal. -/
theorem of_quiet (quiet : st.Quiet) (seqId : st.instructionSeqId = st.nextSequenceId)
    (silent : st.calling = false) (c : Nat) : InStep st c where
  elsewhere r _ := quiet r
  consecutive := by
    rw [quiet c]
    trivial
  counter _ := by
    rw [quiet c, seqId, silent]
    simp
  calling op x held := by
    unfold State.calling at silent
    rw [held] at silent
    cases silent

/-- The id is taken: the next call is to carry what the controller expects behind those on
their way. -/
theorem numbered (inv : InStep st c) {attempt : Attempt} {s : Nat}
    (held : st.holder = some ⟨.call attempt, .ready⟩)
    (elsewhere : ∀ r, r ≠ s → st.callsDue r = []) (kept : st.journal.astray = false) :
    InStep
      { st with
        instructionSeqId := st.instructionSeqId + 1
        serials := st.serials + 1
        holder := some ⟨.call attempt,
          .calling ⟨callRequest st.serials st.instructionSeqId, s⟩⟩ } s := by
  -- all calls on their way are on `s` and on `c`
  have merged : st.callsDue s = st.callsDue c := by
    by_cases here : s = c
    · rw [here]
    · rw [inv.elsewhere s here, elsewhere c (Ne.symm here)]
  have counter := inv.counter kept
  rw [State.calling_of_stage held nofun, ← merged] at counter
  simp only [Bool.false_eq_true, if_false, add_zero] at counter
  refine ⟨elsewhere, ?_, ?_, ?_⟩
  · show Consecutive st.nextSequenceId (st.callsDue s)
    rw [merged]
    exact inv.consecutive
  · intro _
    show st.instructionSeqId + 1 = st.nextSequenceId + (st.callsDue s).length + 1
    rw [counter]
  · intro op x holds
    cases holds
    refine ⟨rfl, fun _ => ?_⟩
    show some st.instructionSeqId = some (st.nextSequenceId + (st.callsDue s).length)
    rw [counter]

/-- The call is sent behind those on their way. -/
theorem called (inv : InStep st c) (formed : Formed st) {op : Op} {x : Exchange}
    (held : st.holder = some ⟨op, .calling x⟩) (alive : (st.conns x.socket).closed = false) :
    InStep
      { st.transmit x with
        holder := none
        journal := { st.journal with sent := st.journal.sent + 1 } } c := by
  obtain ⟨rfl, carried⟩ := inv.calling op x held
  obtain ⟨m, k, form⟩ := formed.calling op x held
  have call : x.request.isCall = true := by
    rw [form]
    rfl
  have here : (st.transmit x).callsDue x.socket = st.callsDue x.socket ++ [x.request] := by
    unfold State.callsDue State.transmit
    rw [State.setConn_self, List.filter_append, List.filter_cons, if_pos call, List.filter_nil]
  have there : ∀ r, r ≠ x.socket → (st.transmit x).callsDue r = st.callsDue r := by
    intro r other
    unfold State.callsDue State.transmit
    rw [st.setConn_of_ne other]
  refine ⟨?_, ?_, ?_, nofun⟩
  · intro r other
    exact (there r other).trans (inv.elsewhere r other)
  · show Consecutive st.nextSequenceId ((st.transmit x).callsDue x.socket)
    rw [here]
    exact inv.consecutive.append (carried alive)
  · intro kept
    have counter := inv.counter kept
    have busy : st.calling = true := by
      unfold State.calling
      rw [held]
    rw [busy] at counter
    show st.instructionSeqId =
      st.nextSequenceId + ((st.transmit x).callsDue x.socket).length + 0
    rw [here, counter, List.length_append, List.length_singleton]
    push_cast
    simp only [if_true]
    ring

/-- The controller takes up the oldest call on its way, which carries what it expects. -/
theorem answered (inv : InStep st c) {s : Nat} (errorId : Option Int) {r : Request}
    {rest : List Request} (due : (st.conns s).due = r :: rest) :
    (r.isCall = true → r.sequenceId = some st.nextSequenceId) ∧
    InStep
      { (st.setConn s { st.conns s with
          due := rest
          wire := (st.conns s).wire ++ [st.answerTo s r errorId] }).countCall r with
        emitted := st.emitted + 1 } c := by
  have left : ∀ q, State.callsDue
      { (st.setConn s { st.conns s with
          due := rest
          wire := (st.conns s).wire ++ [st.answerTo s r errorId] }).countCall r with
        emitted := st.emitted + 1 } q =
      if q = s then rest.filter Request.isCall else st.callsDue q := by
    intro q
    show ((st.setConn s _).conns q).due.filter Request.isCall = _
    by_cases here : q = s
    · subst here
      rw [State.setConn_self, if_pos rfl]
    · rw [st.setConn_of_ne here, if_neg here]
      rfl
  have closed : ∀ q, ((st.setConn s { st.conns s with
          due := rest
          wire := (st.conns s).wire ++ [st.answerTo s r errorId] }).conns q).closed =
      (st.conns q).closed := by
    intro q
    by_cases here : q = s
    · subst here
      rw [State.setConn_self]
    · rw [st.setConn_of_ne here]
  cases call : r.isCall with
  | false =>
    refine ⟨nofun, inv.same ?_ ?_ rfl rfl rfl ?_⟩
    · intro q
      rw [left q]
      by_cases here : q = s
      · subst here
        rw [if_pos rfl, State.callsDue, due, List.filter_cons, call]
        rfl
      · rw [if_neg here]
    · show (if r.isCall && _ then _ else _) = _
      rw [call]
      rfl
    · intro op x held
      refine ⟨held, fun alive => ?_⟩
      rw [← closed c]
      exact alive
  | true =>
    have first : st.callsDue s = r :: rest.filter Request.isCall := by
      rw [State.callsDue, due, List.filter_cons, if_pos call]
    have here : s = c := by
      by_contra other
      rw [inv.elsewhere s other] at first
      cases first
    subst here
    have order := inv.consecutive
    rw [first] at order
    have next : State.nextSequenceId
        { (st.setConn s { st.conns s with
            due := rest
            wire := (st.conns s).wire ++ [st.answerTo s r errorId] }).countCall r with
          emitted := st.emitted + 1 } = st.nextSequenceId + 1 := by
      show (if r.isCall && r.sequenceId == some st.nextSequenceId then st.nextSequenceId + 1
        else st.nextSequenceId) = _
      rw [call, order.1]
      simp
    refine ⟨fun _ => order.1, ?_, ?_, ?_, ?_⟩
    · intro q other
      rw [left q, if_neg other]
      exact inv.elsewhere q other
    · rw [next, left s, if_pos rfl]
      exact order.2
    · intro kept
      have counter := inv.counter kept
      rw [first, List.length_cons] at counter
      rw [next, left s, if_pos rfl]
      show st.instructionSeqId = _ + _ + (if st.calling then 1 else 0)
      rw [counter]
      push_cast
      ring
    · intro op x held
      obtain ⟨at_, carried⟩ := inv.calling op x held
      refine ⟨at_, fun alive => ?_⟩
      have old := carried (by rw [← closed s]; exact alive)
      rw [next, left s, if_pos rfl, old, first, List.length_cons]
      congr 1
      push_cast
      ring

/-- What is lost with a closed socket leaves the counters agreed, or an id astray. -/
theorem lost (inv : InStep st c) {s : Nat} (dead : (st.conns s).closed = true) :
    InStep
      { st.setConn s ⟨[], [], true⟩ with
        journal := { st.journal with
          astray := st.journal.astray || (st.conns s).due.any Request.isCall } } c := by
  have left : ∀ q, (st.setConn s ⟨[], [], true⟩).callsDue q =
      if q = s then [] else st.callsDue q := by
    intro q
    unfold State.callsDue
    by_cases here : q = s
    · subst here
      rw [State.setConn_self, if_pos rfl]
      rfl
    · rw [st.setConn_of_ne here, if_neg here]
  by_cases here : s = c
  · subst here
    refine ⟨?_, ?_, ?_, ?_⟩
    · intro q other
      show (st.setConn s ⟨[], [], true⟩).callsDue q = []
      rw [left q, if_neg other]
      exact inv.elsewhere q other
    · show Consecutive st.nextSequenceId ((st.setConn s ⟨[], [], true⟩).callsDue s)
      rw [left s, if_pos rfl]
      trivial
    · intro kept
      obtain ⟨was, none⟩ := Bool.or_eq_false_iff.mp kept
      have counter := inv.counter was
      have empty : st.callsDue s = [] := by
        apply List.filter_eq_nil_iff.mpr
        intro r member call
        exact absurd (List.any_eq_true.mpr ⟨r, member, call⟩) (by rw [none]; exact nofun)
      show st.instructionSeqId = st.nextSequenceId +
        ((st.setConn s ⟨[], [], true⟩).callsDue s).length + (if st.calling then 1 else 0)
      rw [left s, if_pos rfl, counter, empty]
    · intro op x held
      obtain ⟨at_, -⟩ := inv.calling op x held
      refine ⟨at_, fun alive => ?_⟩
      have shut : ((st.setConn s ⟨[], [], true⟩).conns s).closed = true := by
        rw [State.setConn_self]
      exact absurd (shut.symm.trans alive) nofun
  · have silent : (st.conns s).due.any Request.isCall = false := by
      have none := inv.elsewhere s here
      rw [Bool.eq_false_iff]
      intro any
      obtain ⟨r, member, call⟩ := List.any_eq_true.mp any
      have kept : r ∈ st.callsDue s := List.mem_filter.mpr ⟨member, call⟩
      rw [none] at kept
      cases kept
    refine inv.same ?_ rfl rfl ?_ rfl ?_
    · intro q
      show (st.setConn s ⟨[], [], true⟩).callsDue q = st.callsDue q
      rw [left q]
      by_cases at_ : q = s
      · rw [if_pos at_, at_, inv.elsewhere s here]
      · rw [if_neg at_]
    · show (st.journal.astray || _) = _
      rw [silent, Bool.or_false]
    · intro op x held
      refine ⟨held, fun alive => ?_⟩
      have other : ((st.setConn s ⟨[], [], true⟩).conns c).closed = (st.conns c).closed := by
        rw [st.setConn_of_ne (Ne.symm here)]
      rw [← other]
      exact alive

end InStep

/-- A status that a public reseed holds is current until the next call is sent. -/
structure Fresh (st : State) : Prop where
  sent : ∀ s ∈ st.statuses, s.sent ≤ st.journal.sent
  current : ∀ s ∈ st.statuses, s.sent = st.journal.sent →
    s.nextSequenceId = st.nextSequenceId ∧ st.Quiet

/-- The reply a reseed has in its hands is current. -/
def Informed (st : State) : Prop :=
  ∀ op p, op.reseeds = true → st.holder = some ⟨op, .concluded (.reply p)⟩ → st.Current p

/-- Every waiter of a reseed. -/
def Reseeds (st : State) : Prop :=
  ∀ op stage x, op.reseeds = true → st.Waits op stage x → Reseeding st stage x

/-- What the controller has taken up since the first `initialize()`. -/
structure Counted (st : State) : Prop where
  carried : ∀ c ∈ st.journal.calls, c.1 = c.2
  below : ∀ c ∈ st.journal.calls, c.1 < st.nextSequenceId
  rising : (st.journal.calls.map Prod.fst).Pairwise (· < ·)

section Step

variable {st t : State} {i : Label}

theorem informed_step (informed : Informed st) (reseeds : Reseeds st) (numbered : Numbered st)
    (moved : Moves st i t) : Informed t := by
  intro op p reseeding held
  have still : st.holder = some ⟨op, .concluded (.reply p)⟩ → t.Current p := by
    intro before
    have same := sent_moves (State.not_calling before (by exact fun _ => nofun)) moved
    exact (informed op p reseeding before).moves numbered same moved
  cases moved with
  | proceeds _ _ _ unheld => exact absurd (unheld _ held) id
  | closed op' holds => exact absurd (op'.retried_unheld _ held) id
  | cleared op' x delivery holds =>
    cases delivery with
    | error s => cases held
    | reply q =>
      have eq : op' = op ∧ State.outcome op' (.reply q) = .reply p := by
        constructor
        · exact congrArg Holder.op (Option.some.inj held)
        · exact Stage.concluded.inj (congrArg Holder.stage (Option.some.inj held))
      obtain ⟨rfl, returned⟩ := eq
      have same : q = p := by
        have ended : (if q.refused && op'.raisesOnErrorId then Outcome.rmiError else .reply q) =
          .reply p := returned
        split at ended
        · cases ended
        · exact Outcome.reply.inj ended
      subst same
      have res := reseeds op' _ x reseeding ⟨holds, rfl⟩
      have current := res.took q x rfl
      have waits : st.Waits op' (.took x (.reply q)) x := ⟨holds, rfl⟩
      exact current.moves numbered (sent_moves (not_calling_of_waits waits)
        (.cleared op' x (.reply q) holds)) (.cleared op' x (.reply q) holds)
  | opened op' holds | registered op' command s holds | numbered attempt s holds
  | sent op' x holds | unsent op' x holds | uncalled op' x holds | took op' x delivery holds
  | expired op' x holds | abandoned op' x holds | called op' x holds | read attempt q holds
  | reseeded pass q holds => cases held
  | wrote | polled | looked | received | parsed | idled | faulted | matched | orphaned | stashed
  | delivered | dropped | notified | answered | pushed | lost => exact still held

theorem fresh_step (fresh : Fresh st) (informed : Informed st) (numbered : Numbered st)
    (moved : Moves st i t) : Fresh t := by
  have onward : t.journal.sent = st.journal.sent → (∀ s ∈ t.statuses, s ∈ st.statuses) →
      Fresh t := by
    intro same fewer
    constructor
    · intro s member
      rw [same]
      exact fresh.sent s (fewer s member)
    · intro s member now
      rw [same] at now
      obtain ⟨value, quiet⟩ := fresh.current s (fewer s member) now
      exact ⟨value.trans (quiet.next_moves moved).symm, quiet.moves numbered same moved⟩
  cases moved with
  | called op x held =>
    constructor
    · intro s member
      exact Nat.le_succ_of_le (fresh.sent s member)
    · intro s member now
      have before := fresh.sent s member
      have now : s.sent = st.journal.sent + 1 := now
      omega
  | read attempt p held =>
    have current := informed (.exchange .reseed attempt) p rfl held
    constructor
    · intro s member
      rcases List.mem_append.mp member with old | new
      · exact fresh.sent s old
      · rw [List.mem_singleton] at new
        subst new
        exact Nat.le_refl _
    · intro s member now
      rcases List.mem_append.mp member with old | new
      · exact fresh.current s old now
      · rw [List.mem_singleton] at new
        subst new
        refine ⟨?_, current.2⟩
        show p.nextSequenceId.getD 1 = st.nextSequenceId
        rw [current.1]
        rfl
  | wrote k status found => exact onward rfl fun s member => List.mem_of_mem_eraseIdx member
  | proceeds | opened | registered | numbered | sent | unsent | uncalled | took | expired | cleared
  | abandoned | reseeded | closed | polled | looked | received | parsed | idled | faulted
  | matched | orphaned | stashed | delivered | dropped | notified | answered | pushed | lost =>
    exact onward rfl fun s member => member

theorem reseeds_step (reseeds : Reseeds st) (attended : Attended Op.reseeds st)
    (opened : Opened st) (formed : Formed st) (numbered : Numbered st)
    (orderly : st.Orderly Op.reseeds i) (undisturbed : st.Undisturbed i) (moved : Moves st i t) :
    Reseeds t := by
  intro op stage x reseeding waits
  rcases waits_before moved waits with
    ⟨before, waited, -⟩ | ⟨command, s, rfl, held, commanded, connected, rfl, rfl, rfl⟩
  · obtain ⟨command, commanded, form, -⟩ := numbered.request op before x waited
    have status : x.identifier = some "FRC_GetStatus" := by
      rw [Op.reseeds_command reseeding] at commanded
      cases commanded
      unfold Exchange.identifier
      rw [form]
      rfl
    exact (reseeds op before x reseeding waited).step (attended op before x reseeding waited)
      formed numbered waited status moved waits
  · have settled : st.Settled command s := by
      simp only [State.Orderly, held, connected, commanded] at orderly
      exact orderly reseeding
    have elsewhere : st.Elsewhere s := by
      simp only [State.Undisturbed, held, connected, commanded] at undisturbed
      exact undisturbed reseeding
    exact Reseeding.registered numbered settled fun r other => opened.elsewhere elsewhere other

/-- A step that takes up no call. -/
theorem Counted.same (counted : Counted st) (calls : t.journal.calls = st.journal.calls)
    (next : st.nextSequenceId ≤ t.nextSequenceId) : Counted t where
  carried := by
    rw [calls]
    exact counted.carried
  below := by
    rw [calls]
    intro c member
    exact lt_of_lt_of_le (counted.below c member) next
  rising := by
    rw [calls]
    exact counted.rising

/-- The call taken up carries the controller's counter, which goes up behind it. -/
theorem Counted.takes (counted : Counted st)
    (calls : t.journal.calls =
      st.journal.calls ++ [(st.nextSequenceId, st.nextSequenceId)])
    (next : t.nextSequenceId = st.nextSequenceId + 1) : Counted t where
  carried := by
    intro c member
    rw [calls, List.mem_append, List.mem_singleton] at member
    rcases member with old | rfl
    · exact counted.carried c old
    · rfl
  below := by
    intro c member
    rw [calls, List.mem_append, List.mem_singleton] at member
    rw [next]
    rcases member with old | rfl
    · exact lt_trans (counted.below c old) (Int.lt_succ _)
    · exact Int.lt_succ _
  rising := by
    rw [calls, List.map_append, List.pairwise_append]
    refine ⟨counted.rising, List.pairwise_singleton _ _, ?_⟩
    intro a member b single
    obtain ⟨c, old, rfl⟩ := List.mem_map.mp member
    cases List.mem_singleton.mp single
    exact counted.below c old

theorem counted_step (counted : Counted st)
    (inStep : st.journal.initialized = true → ∃ c, InStep st c) (moved : Moves st i t) :
    Counted t := by
  cases moved with
  | answered s errorId r rest due =>
    by_cases counts : r.isCall = true ∧ st.journal.initialized = true
    · obtain ⟨c, inv⟩ := inStep counts.2
      have carries := (inv.answered errorId due).1 counts.1
      refine counted.takes ?_ ?_
      · show (if r.isCall && st.journal.initialized then
          st.journal.calls ++ [(r.sequenceId.getD 0, st.nextSequenceId)] else _) = _
        rw [counts.1, counts.2, carries]
        rfl
      · show (if r.isCall && r.sequenceId == some st.nextSequenceId then st.nextSequenceId + 1
          else st.nextSequenceId) = _
        rw [counts.1, carries]
        simp
    · refine counted.same ?_ ?_
      · show (if r.isCall && st.journal.initialized then _ else _) = _
        rw [if_neg (by simpa using counts)]
        rfl
      · show st.nextSequenceId ≤ (if r.isCall && r.sequenceId == some st.nextSequenceId then
          st.nextSequenceId + 1 else st.nextSequenceId)
        split
        · exact Int.le_add_one (le_refl _)
        · exact le_refl _
  | proceeds | opened | registered | numbered | sent | unsent | called | uncalled | took | expired
  | cleared | abandoned | read | reseeded | closed | wrote | polled | looked | received | parsed
  | idled | faulted | matched | orphaned | stashed | delivered | dropped | notified | pushed
  | lost => exact counted.same rfl (le_refl st.nextSequenceId)

theorem inStep_step (inStep : st.journal.initialized = true → ∃ c, InStep st c)
    (informed : Informed st) (fresh : Fresh st) (opened : Opened st) (formed : Formed st)
    (numbered : Numbered st) (undisturbed : st.Undisturbed i) (moved : Moves st i t)
    (initialized : t.journal.initialized = true) : ∃ c, InStep t c := by
  have away : ∀ {holder : Option Holder}, Unheld holder → ∀ op x,
      holder ≠ some ⟨op, .calling x⟩ := by
    intro holder unheld op x held
    exact unheld _ held
  cases moved with
  | reseeded pass p held =>
    obtain ⟨value, quiet⟩ := informed (.reseed pass) p rfl held
    have positive : 1 ≤ p.nextSequenceId.getD 1 := by
      simp only [State.Undisturbed, held] at undisturbed
      exact undisturbed
    refine ⟨0, InStep.of_quiet ?_ ?_ rfl 0⟩
    · exact quiet
    show (if p.nextSequenceId.getD 1 < 1 then 1 else p.nextSequenceId.getD 1) = st.nextSequenceId
    rw [if_neg (by omega), value]
    rfl
  | wrote k status found =>
    have now : status.sent = st.journal.sent ∧ st.calling = false := by
      simp only [State.Undisturbed, found] at undisturbed
      exact undisturbed
    obtain ⟨value, quiet⟩ := fresh.current status (List.mem_of_getElem? found) now.1
    refine ⟨0, InStep.of_quiet ?_ ?_ ?_ 0⟩
    · exact quiet
    · exact value
    · exact now.2
  | numbered attempt s held connected =>
    obtain ⟨c, inv⟩ := inStep initialized
    have kept : st.journal.astray = false ∧ st.Elsewhere s := by
      simp only [State.Undisturbed, held, connected] at undisturbed
      exact undisturbed initialized
    exact ⟨s, inv.numbered held
      (fun r other => opened.elsewhere kept.2 other) kept.1⟩
  | called op x held alive =>
    obtain ⟨c, inv⟩ := inStep initialized
    exact ⟨c, inv.called formed held alive⟩
  | answered s errorId r rest due =>
    obtain ⟨c, inv⟩ := inStep initialized
    exact ⟨c, (inv.answered errorId due).2⟩
  | lost s dead =>
    obtain ⟨c, inv⟩ := inStep initialized
    exact ⟨c, inv.lost dead⟩
  | proceeds _ holder released unheld =>
    obtain ⟨c, inv⟩ := inStep initialized
    have before : st.calling = false := by
      cases held : st.holder with
      | none =>
        unfold State.calling
        rw [held]
      | some h => exact State.calling_of_stage held (released h held).2
    exact ⟨c, inv.onward before (State.calling_of_unheld unheld) (fun _ => rfl) rfl rfl rfl⟩
  | opened op held =>
    obtain ⟨c, inv⟩ := inStep initialized
    refine ⟨c, inv.onward (State.calling_of_stage held nofun) (State.calling_of_stage rfl nofun)
      ?_ rfl rfl rfl⟩
    intro s
    show ((st.setConn st.sockets ⟨[], [], false⟩).conns s).due.filter Request.isCall =
      (st.conns s).due.filter Request.isCall
    by_cases here : s = st.sockets
    · rw [here, State.setConn_self, opened.unopened _ (Nat.le_refl _)]
    · rw [st.setConn_of_ne here]
  | sent op x held =>
    obtain ⟨c, inv⟩ := inStep initialized
    obtain ⟨command, -, form, -⟩ := numbered.request op _ x ⟨held, rfl⟩
    have plain : x.request.isCall = false := by
      rw [form]
      rfl
    refine ⟨c, inv.onward (State.calling_of_stage held nofun) (State.calling_of_stage rfl nofun)
      ?_ rfl rfl rfl⟩
    intro s
    show ((st.transmit x).conns s).due.filter Request.isCall =
      (st.conns s).due.filter Request.isCall
    unfold State.transmit
    by_cases here : s = x.socket
    · rw [here, State.setConn_self, List.filter_append, List.filter_cons, plain]
      simp
    · rw [st.setConn_of_ne here]
  | registered op command s held | unsent op x held | expired op x held | took op x delivery held
  | cleared op x delivery held | abandoned op x held =>
    obtain ⟨c, inv⟩ := inStep initialized
    exact ⟨c, inv.onward (State.calling_of_stage held nofun) (State.calling_of_stage rfl nofun)
      (fun _ => rfl) rfl rfl rfl⟩
  | read attempt p held =>
    obtain ⟨c, inv⟩ := inStep initialized
    exact ⟨c, inv.onward (State.calling_of_stage held nofun) rfl (fun _ => rfl) rfl rfl rfl⟩
  | uncalled op x held =>
    obtain ⟨c, inv⟩ := inStep initialized
    refine ⟨c, inv.elsewhere, inv.consecutive, nofun, ?_⟩
    intro op' y holds
    cases holds
  | closed op held =>
    obtain ⟨c, inv⟩ := inStep initialized
    refine ⟨c, inv.onward (State.calling_of_stage held nofun)
      (State.calling_of_unheld op.retried_unheld) ?_ rfl rfl rfl⟩
    intro s
    show (st.closedConns s).due.filter Request.isCall = _
    rw [st.closedConns_due]
    rfl
  | dropped failing =>
    obtain ⟨c, inv⟩ := inStep initialized
    refine ⟨c, inv.same ?_ rfl rfl rfl rfl fun op x held => ⟨held, fun alive => ?_⟩⟩
    · intro s
      show ((if st.sock = st.curSock then st.closedConns else st.conns) s).due.filter _ = _
      split
      · rw [st.closedConns_due]
        rfl
      · rfl
    · have shut : ((if st.sock = st.curSock then st.closedConns else st.conns) c).closed = false :=
        alive
      split at shut
      · exact st.closedConns_alive shut
      · exact shut
  | received n s =>
    obtain ⟨c, inv⟩ := inStep initialized
    refine ⟨c, inv.same ?_ rfl rfl rfl rfl fun op x held => ⟨held, fun alive => ?_⟩⟩
    · intro r
      exact congrArg (List.filter Request.isCall) (st.setConn_due s (by rfl) r)
    · exact (st.setConn_closed s (by rfl) c).symm.trans alive
  | pushed s packet =>
    obtain ⟨c, inv⟩ := inStep initialized
    refine ⟨c, inv.same ?_ rfl rfl rfl rfl fun op x held => ⟨held, fun alive => ?_⟩⟩
    · intro r
      exact congrArg (List.filter Request.isCall) (st.setConn_due s (by rfl) r)
    · exact (st.setConn_closed s (by rfl) c).symm.trans alive
  | polled | looked | parsed | idled | faulted | matched | orphaned | stashed | delivered
  | notified =>
    obtain ⟨c, inv⟩ := inStep initialized
    exact ⟨c, inv.same (fun _ => rfl) rfl rfl rfl rfl fun op x held => ⟨held, id⟩⟩

end Step

/-- What keeps the client in step with the controller: reseeds ask on settled sockets, and
nothing disturbs the counters. -/
def State.Steady (st : State) (i : Label) : Prop :=
  st.Orderly Op.reseeds i ∧ st.Undisturbed i

instance (st : State) (i : Label) : Decidable (st.Steady i) :=
  inferInstanceAs (Decidable (_ ∧ _))

/-- All that holds in every state of a steady run. -/
structure Locked (st : State) : Prop where
  owned : Owned st
  numbered : Numbered st
  attended : Attended Op.reseeds st
  opened : Opened st
  formed : Formed st
  reseeds : Reseeds st
  informed : Informed st
  fresh : Fresh st
  inStep : st.journal.initialized = true → ∃ c, InStep st c
  counted : Counted st

theorem locked_initial (next : Int) : Locked (State.initial next) where
  owned := .of_empty rfl
  numbered := .initial next
  attended _ _ _ _ waits := absurd waits (State.not_waits_of_unheld unheld_none)
  opened := .initial next
  formed := .initial next
  reseeds _ _ _ _ waits := absurd waits (State.not_waits_of_unheld unheld_none)
  informed _ _ _ held := absurd (show (none : Option Holder) = some _ from held) nofun
  fresh := ⟨fun _ member => absurd member List.not_mem_nil,
    fun _ member => absurd member List.not_mem_nil⟩
  inStep initialized := absurd (show false = true from initialized) nofun
  counted := ⟨fun _ member => absurd member List.not_mem_nil,
    fun _ member => absurd member List.not_mem_nil, List.Pairwise.nil⟩

theorem locked_step {st t : State} {i : Label} (inv : Locked st) (legal : st.Steady i)
    (moved : st.step i = some t) : Locked t := by
  have move := State.step_moves moved
  exact {
    owned := owned_step inv.owned move
    numbered := inv.numbered.step inv.owned move
    attended := attended_step inv.numbered inv.owned inv.attended legal.1 move
    opened := inv.opened.step move
    formed := inv.formed.step inv.numbered move
    reseeds := reseeds_step inv.reseeds inv.attended inv.opened inv.formed inv.numbered legal.1
      legal.2 move
    informed := informed_step inv.informed inv.reseeds inv.numbered move
    fresh := fresh_step inv.fresh inv.informed inv.numbered move
    inStep := inStep_step inv.inStep inv.informed inv.fresh inv.opened inv.formed inv.numbered
      legal.2 move
    counted := counted_step inv.counted inv.inStep move }

/-- In every steady run each call the controller has taken up since the first `initialize()`
carried its `NextSequenceID`, and the ids went up: none was dropped and none was used twice. -/
theorem calls_carry_next {next : Int} {st : State}
    (reached : (rmi next).Reachable State.Steady st) :
    (∀ c ∈ st.journal.calls, c.1 = c.2) ∧
      (st.journal.calls.map Prod.fst).Pairwise (· < ·) := by
  have inv : Locked st := reached.invariant (locked_initial next)
    fun _ _ _ inv legal moved => locked_step inv legal moved
  exact ⟨inv.counted.carried, inv.counted.rising⟩

/-- A request on the open session is answered and its waiter goes on. -/
def exchanged : List Label :=
  [.register, .sendall true, .answer 0 none, .look, .receive 1, .parse, .dispatch, .deliver, .take,
    .clear, .conclude]

/-- The session opens, and `initialize()` runs its first pass to the end. -/
def initialized : List Label :=
  [.acquire .init, .ensureOpen, .openSession .opened] ++ exchanged ++ exchanged ++ exchanged ++
    exchanged ++ exchanged

/-- `program_call` over the open session, and the controller takes it up. -/
def programCall : List Label :=
  [.acquire .call, .ensureOpen, .register, .sendall true, .answer 0 none]

theorem calls_carry_next_twice : ∃ st : State, (rmi 5).Reachable State.Steady st ∧
    st.journal.calls.length = 2 ∧ ∀ c ∈ st.journal.calls, c.1 = c.2 := by
  obtain ⟨st, reached, tested⟩ := Machine.reachable_of_test (rmi 5) State.Steady
    (initialized ++ programCall ++ programCall)
    (fun st : State => decide (st.journal.calls.length = 2)) (by decide +kernel)
    (by decide +kernel)
  exact ⟨st, reached, of_decide_eq_true tested, (calls_carry_next reached).1⟩

/-- The first `sendall` of a `program_call` raises. The retry sends the next id, and the
controller drops the call. -/
theorem retried_call_is_dropped : ∃ st : State, (rmi 5).Reachable (fun _ _ => True) st ∧
    ∃ c ∈ st.journal.calls, c.1 ≠ c.2 := by
  obtain ⟨st, reached, tested⟩ := Machine.reachable_of_run (rmi 5)
    (initialized ++ [.acquire .call, .ensureOpen, .register, .sendall false, .close, .ensureOpen,
      .openSession .opened, .register, .sendall true, .answer 1 none])
    (fun st : State => decide (∃ c ∈ st.journal.calls, c.1 ≠ c.2))
    (by decide +kernel)
  exact ⟨st, reached, of_decide_eq_true tested⟩

end AiroFanuc.Rmi

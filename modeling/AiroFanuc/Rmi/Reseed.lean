import AiroFanuc.Rmi.Correlation

/-! What a `NextSequenceID` that was read for a reseed is worth: it is what the controller
expects, with no call on its way. -/

namespace AiroFanuc.Rmi

open Library

def Op.reseeds : Op → Bool
  | exchange .reseed _ => true
  | reseed _ => true
  | _ => false

theorem Op.reseeds_command {op : Op} (reseeds : op.reseeds = true) :
    op.command = some "FRC_GetStatus" := by
  cases op with
  | exchange purpose attempt =>
    cases purpose with
    | plain command => cases reseeds
    | reseed => rfl
  | reseed pass => rfl
  | call | prep | init => cases reseeds

/-- The exchange a holder has a socket for. -/
def Stage.exchange : Stage → Option Exchange
  | .sending x | .waiting x | .took x _ | .abandoning x | .calling x => some x
  | _ => none

theorem Stage.Idle.exchange {stage : Stage} (idle : stage.Idle) : stage.exchange = none := by
  cases stage <;> first | rfl | cases idle

namespace State

variable (st : State)

/-- The calls the controller has yet to take up on a socket. -/
def callsDue (s : Nat) : List Request := (st.conns s).due.filter Request.isCall

/-- No call is on its way but on this socket. -/
def Elsewhere (s : Nat) : Prop := ∀ r, r < st.sockets → r ≠ s → st.callsDue r = []

instance (s : Nat) : Decidable (st.Elsewhere s) :=
  inferInstanceAs (Decidable (∀ r, r < st.sockets → _))

/-- No call is on its way. -/
def Quiet : Prop := ∀ s, st.callsDue s = []

/-- What a status read now would say, and go on saying. -/
def Current (p : Packet) : Prop := p.nextSequenceId = some st.nextSequenceId ∧ st.Quiet

end State

/-- Sockets are numbered as they are opened, and only opened ones carry requests. -/
structure Opened (st : State) : Prop where
  sock : ∀ s, st.sock = some s → s < st.sockets
  exchange : ∀ op stage x, st.holder = some ⟨op, stage⟩ → stage.exchange = some x →
    x.socket < st.sockets
  unopened : ∀ s, st.sockets ≤ s → (st.conns s).due = []

/-- Requests have one of the two forms the client sends. -/
structure Formed (st : State) : Prop where
  due : ∀ s, ∀ r ∈ (st.conns s).due,
    (∃ m command, r = commandRequest m command) ∨ ∃ m k, r = callRequest m k
  calling : ∀ op x, st.holder = some ⟨op, .calling x⟩ → ∃ m k, x.request = callRequest m k

/-- Of the client's requests, those whose answer passes for a status are status requests. -/
theorem status_of_passes {r : Request}
    (formed : (∃ m command, r = commandRequest m command) ∨ ∃ m k, r = callRequest m k)
    (passes : r.passesFor (some "FRC_GetStatus") = true) :
    r.command = some "FRC_GetStatus" ∧ r.isCall = false := by
  rcases formed with ⟨m, command, rfl⟩ | ⟨m, k, rfl⟩
  · have echoed := (Bool.and_eq_true_iff.mp passes).2
    have same : command = "FRC_GetStatus" := by
      simpa [Packet.matchesRequest, Request.echo, commandRequest] using echoed
    subst same
    exact ⟨rfl, rfl⟩
  · simp [Request.passesFor, Packet.passesFor, Packet.matchesRequest, Request.echo,
      callRequest] at passes

/-- A socket's queue gets shorter, or the request being sent joins its end. -/
theorem due_moves {st t : State} {i : Label} (moved : Moves st i t) (s : Nat) :
    (t.conns s).due.Sublist (st.conns s).due ∨
      ∃ op stage x, st.holder = some ⟨op, stage⟩ ∧ (stage = .sending x ∨ stage = .calling x) ∧
        s = x.socket ∧ (t.conns s).due = (st.conns s).due ++ [x.request] ∧
        (stage = .calling x → t.journal.sent = st.journal.sent + 1) := by
  have set : ∀ (r : Nat) (c : Conn), c.due.Sublist (st.conns r).due →
      ((st.setConn r c).conns s).due.Sublist (st.conns s).due := by
    intro r c fewer
    by_cases here : s = r
    · subst here
      rw [State.setConn_self]
      exact fewer
    · rw [st.setConn_of_ne here]
  have sends : ∀ x : Exchange, ((st.transmit x).conns s).due.Sublist (st.conns s).due ∨
      (s = x.socket ∧ ((st.transmit x).conns s).due = (st.conns s).due ++ [x.request]) := by
    intro x
    unfold State.transmit
    by_cases here : s = x.socket
    · subst here
      rw [State.setConn_self]
      exact .inr ⟨rfl, rfl⟩
    · rw [st.setConn_of_ne here]
      exact .inl (List.Sublist.refl _)
  have closing : ∀ conns : Nat → Conn, conns = st.closedConns ∨ conns = st.conns →
      (conns s).due.Sublist (st.conns s).due := by
    intro conns either
    rcases either with rfl | rfl
    · rw [st.closedConns_due]
    · exact List.Sublist.refl _
  cases moved with
  | opened op held => exact .inl (set _ _ (List.nil_sublist _))
  | sent op x held =>
    exact (sends x).imp_right fun ⟨here, added⟩ => ⟨op, _, x, held, .inl rfl, here, added, nofun⟩
  | called op x held =>
    exact (sends x).imp_right fun ⟨here, added⟩ =>
      ⟨op, _, x, held, .inr rfl, here, added, fun _ => rfl⟩
  | closed op held => exact .inl (closing _ (.inl rfl))
  | received n r => exact .inl (set r _ (List.Sublist.refl _))
  | dropped failing =>
    refine .inl (closing _ ?_)
    split
    · exact .inl rfl
    · exact .inr rfl
  | answered r errorId q rest due =>
    refine .inl (set r _ ?_)
    rw [due]
    exact List.sublist_cons_self q rest
  | pushed r => exact .inl (set r _ (List.Sublist.refl _))
  | lost r => exact .inl (set r _ (List.nil_sublist _))
  | proceeds | registered | numbered | unsent | uncalled | took | expired | cleared | abandoned
  | read | reseeded | wrote | polled | looked | parsed | idled | faulted | matched | orphaned
  | stashed | delivered | notified => exact .inl (List.Sublist.refl _)

/-- Only a holder that calls sends a call. -/
theorem sent_moves {st t : State} {i : Label} (away : ∀ op x, st.holder ≠ some ⟨op, .calling x⟩)
    (moved : Moves st i t) : t.journal.sent = st.journal.sent := by
  cases moved with
  | called op x held => exact absurd held (away op x)
  | proceeds | opened | registered | numbered | sent | unsent | uncalled | took | expired | cleared
  | abandoned | read | reseeded | closed | wrote | polled | looked | received | parsed | idled
  | faulted | matched | orphaned | stashed | delivered | dropped | notified | answered | pushed
  | lost => rfl

/-- Only a call that is sent adds to the calls on their way. -/
theorem callsDue_moves {st t : State} {i : Label} (numbered : Numbered st)
    (same : t.journal.sent = st.journal.sent) (moved : Moves st i t) (s : Nat) :
    (t.callsDue s).Sublist (st.callsDue s) := by
  rcases due_moves moved s with fewer | ⟨op, stage, x, held, sends, -, added, counted⟩
  · exact fewer.filter _
  · rcases sends with rfl | rfl
    · obtain ⟨command, -, form, -⟩ := numbered.request op _ x ⟨held, rfl⟩
      have plain : x.request.isCall = false := by
        rw [form]
        rfl
      unfold State.callsDue
      rw [added, List.filter_append, List.filter_cons, plain]
      simp only [Bool.false_eq_true, if_false, List.filter_nil, List.append_nil]
      exact List.Sublist.refl _
    · have more := counted rfl
      omega

namespace State

theorem Quiet.moves {st t : State} {i : Label} (quiet : st.Quiet) (numbered : Numbered st)
    (same : t.journal.sent = st.journal.sent) (moved : Moves st i t) : t.Quiet := by
  intro s
  have fewer := callsDue_moves numbered same moved s
  rw [quiet s] at fewer
  exact List.sublist_nil.mp fewer

theorem not_calling {st : State} {op : Op} {stage : Stage} (held : st.holder = some ⟨op, stage⟩)
    (other : ∀ x, stage ≠ .calling x) (op' : Op) (x : Exchange) :
    st.holder ≠ some ⟨op', .calling x⟩ := by
  intro holds
  rw [held] at holds
  cases holds
  exact other x rfl

theorem Quiet.head {st : State} {s : Nat} {r : Request} {rest : List Request}
    (quiet : st.Quiet) (due : (st.conns s).due = r :: rest) : r.isCall = false := by
  have none := quiet s
  unfold callsDue at none
  rw [due] at none
  cases call : r.isCall with
  | false => rfl
  | true => simp [call] at none

/-- With no call on its way the controller's counter stands still. -/
theorem Quiet.next_moves {st t : State} {i : Label} (quiet : st.Quiet) (moved : Moves st i t) :
    t.nextSequenceId = st.nextSequenceId := by
  cases moved with
  | answered s errorId r rest due =>
    have plain := quiet.head due
    show (if r.isCall && _ then _ else _) = _
    rw [plain]
    rfl
  | proceeds | opened | registered | numbered | sent | unsent | called | uncalled | took | expired
  | cleared | abandoned | read | reseeded | closed | wrote | polled | looked | received | parsed
  | idled | faulted | matched | orphaned | stashed | delivered | dropped | notified | pushed
  | lost => rfl

theorem Current.moves {st t : State} {i : Label} {p : Packet} (current : st.Current p)
    (numbered : Numbered st) (same : t.journal.sent = st.journal.sent) (moved : Moves st i t) :
    t.Current p := by
  refine ⟨?_, current.2.moves numbered same moved⟩
  rw [current.2.next_moves moved]
  exact current.1

end State

namespace Opened

variable {st t : State} {i : Label}

theorem initial (next : Int) : Opened (State.initial next) where
  sock _ open_ := absurd (show (none : Option Nat) = some _ from open_) nofun
  exchange _ _ _ held := absurd (show (none : Option Holder) = some _ from held) nofun
  unopened _ _ := rfl

theorem sockets_mono (moved : Moves st i t) : st.sockets ≤ t.sockets := by
  cases moved with
  | opened => exact Nat.le_succ _
  | proceeds | registered | numbered | sent | unsent | called | uncalled | took | expired
  | cleared | abandoned | read | reseeded | closed | wrote | polled | looked | received | parsed
  | idled | faulted | matched | orphaned | stashed | delivered | dropped | notified | answered
  | pushed | lost => exact Nat.le_refl st.sockets

theorem sock_step (inv : Opened st) (moved : Moves st i t) {s : Nat} (open_ : t.sock = some s) :
    s < t.sockets := by
  cases moved with
  | opened op held =>
    cases open_
    exact Nat.lt_succ_self _
  | closed op held => cases open_
  | dropped failing =>
    apply inv.sock s
    by_cases same : st.sock = st.curSock
    · simp [same] at open_
    · simpa [same] using open_
  | proceeds | registered | numbered | sent | unsent | called | uncalled | took | expired
  | cleared | abandoned | read | reseeded | wrote | polled | looked | received | parsed
  | idled | faulted | matched | orphaned | stashed | delivered | notified | answered
  | pushed | lost => exact inv.sock s open_

theorem exchange_step (inv : Opened st) (moved : Moves st i t) {op : Op} {stage : Stage}
    {x : Exchange} (held : t.holder = some ⟨op, stage⟩) (has : stage.exchange = some x) :
    x.socket < t.sockets := by
  refine Nat.lt_of_lt_of_le ?_ (sockets_mono moved)
  have idle : ∀ holder : Option Holder, Unheld holder → holder ≠ some ⟨op, stage⟩ := by
    intro holder unheld holds
    rw [(unheld _ holds).exchange] at has
    cases has
  cases moved with
  | proceeds _ _ _ unheld => exact absurd held (idle _ unheld)
  | closed op' holds => exact absurd held (idle _ op'.retried_unheld)
  | opened op' holds | uncalled op' y holds | cleared op' y delivery holds
  | abandoned op' y holds =>
    cases held
    cases has
  | called op' y holds | read attempt p holds | reseeded pass p holds => cases held
  | registered op' command s holds commanded connected =>
    cases held
    cases has
    exact inv.sock s connected
  | numbered attempt s holds connected =>
    cases held
    cases has
    exact inv.sock s connected
  | sent op' y holds | unsent op' y holds | expired op' y holds | took op' y delivery holds =>
    cases held
    cases has
    exact inv.exchange _ _ _ holds rfl
  | wrote | polled | looked | received | parsed | idled | faulted | matched | orphaned | stashed
  | delivered | dropped | notified | answered | pushed | lost =>
    exact inv.exchange op stage x held has

theorem unopened_step (inv : Opened st) (moved : Moves st i t) {s : Nat}
    (beyond : t.sockets ≤ s) : (t.conns s).due = [] := by
  have old := Nat.le_trans (sockets_mono moved) beyond
  rcases due_moves moved s with fewer | ⟨op, stage, x, held, sends, rfl, -, -⟩
  · rw [inv.unopened s old] at fewer
    exact List.sublist_nil.mp fewer
  · have below : x.socket < st.sockets := by
      rcases sends with rfl | rfl
      · exact inv.exchange op _ x held rfl
      · exact inv.exchange op _ x held rfl
    omega

theorem step (inv : Opened st) (moved : Moves st i t) : Opened t where
  sock _ open_ := inv.sock_step moved open_
  exchange _ _ _ held has := inv.exchange_step moved held has
  unopened _ beyond := inv.unopened_step moved beyond

/-- No call is on its way elsewhere, unopened sockets included. -/
theorem elsewhere {s : Nat} (inv : Opened st) (none : st.Elsewhere s) {r : Nat} (other : r ≠ s) :
    st.callsDue r = [] := by
  by_cases opened : r < st.sockets
  · exact none r opened other
  · unfold State.callsDue
    rw [inv.unopened r (by omega)]
    rfl

end Opened

namespace Formed

variable {st t : State} {i : Label}

theorem initial (next : Int) : Formed (State.initial next) where
  due _ _ member := absurd member List.not_mem_nil
  calling _ _ held := absurd (show (none : Option Holder) = some _ from held) nofun

theorem due_step (inv : Formed st) (numbered : Numbered st) (moved : Moves st i t) {s : Nat}
    {r : Request} (member : r ∈ (t.conns s).due) :
    (∃ m command, r = commandRequest m command) ∨ ∃ m k, r = callRequest m k := by
  rcases due_moves moved s with fewer | ⟨op, stage, x, held, sends, rfl, added, -⟩
  · exact inv.due s r (fewer.subset member)
  · rw [added, List.mem_append, List.mem_singleton] at member
    rcases member with old | rfl
    · exact inv.due x.socket r old
    · rcases sends with rfl | rfl
      · obtain ⟨command, -, form, -⟩ := numbered.request op _ x ⟨held, rfl⟩
        exact .inl ⟨_, command, form⟩
      · exact .inr (inv.calling op x held)

theorem calling_step (inv : Formed st) (moved : Moves st i t) {op : Op} {x : Exchange}
    (held : t.holder = some ⟨op, .calling x⟩) : ∃ m k, x.request = callRequest m k := by
  cases moved with
  | proceeds _ _ _ unheld => exact absurd (unheld _ held) id
  | closed op' holds => exact absurd (op'.retried_unheld _ held) id
  | numbered attempt s holds =>
    cases held
    exact ⟨_, _, rfl⟩
  | opened | registered | sent | unsent | uncalled | took | expired | cleared | abandoned
  | called | read | reseeded => cases held
  | wrote | polled | looked | received | parsed | idled | faulted | matched | orphaned | stashed
  | delivered | dropped | notified | answered | pushed | lost => exact inv.calling op x held

theorem step (inv : Formed st) (numbered : Numbered st) (moved : Moves st i t) : Formed t where
  due _ _ member := inv.due_step numbered moved member
  calling _ _ held := inv.calling_step moved held

end Formed

/-- A packet on its way was there before, or the controller has just sent it. -/
theorem incoming_moves {st t : State} {i : Label} (moved : Moves st i t) {s : Nat} {p : Packet}
    (member : p ∈ t.incoming s) :
    p ∈ st.incoming s ∨ p.isPush = true ∨
      ∃ errorId r rest, (st.conns s).due = r :: rest ∧ p = st.answerTo s r errorId ∧
        (t.conns s).due = rest ∧
        (r.isCall = false → t.nextSequenceId = st.nextSequenceId) := by
  have wired : ∀ (r : Nat) (c : Conn), c.wire.Sublist (st.conns r).wire →
      ((st.setConn r c).incoming s).Sublist (st.incoming s) := by
    intro r c fewer
    by_cases here : s = r
    · subst here
      rw [State.incoming_setConn_self]
      exact List.Sublist.append (List.Sublist.refl _) fewer
    · rw [st.incoming_setConn here]
  have routed : ∀ reader : Reader, reader.hand = [] ∨ reader.hand = st.reader.hand →
      (State.incoming { st with reader := reader } s).Sublist (st.incoming s) := by
    intro reader hand
    apply List.Sublist.append _ (List.Sublist.refl _)
    unfold State.held
    show (if st.curSock = some s then reader.hand ++ st.rxbuf else []).Sublist _
    split
    · rcases hand with none | same
      · rw [none]
        exact List.sublist_append_right _ _
      · rw [same]
    · exact List.Sublist.refl _
  have closing : ∀ (reader : Reader) (conns : Nat → Conn), reader.hand = [] →
      (conns s).wire = (st.conns s).wire →
      (State.incoming { st with reader := reader, conns := conns } s).Sublist (st.incoming s) := by
    intro reader conns none wire
    have first := routed reader (.inl none)
    unfold State.incoming at first ⊢
    show (_ ++ (conns s).wire).Sublist _
    rw [wire]
    exact first
  cases moved with
  | opened op held => exact .inl ((wired _ _ (List.nil_sublist _)).subset member)
  | sent op x held | called op x held =>
    exact .inl ((wired x.socket { st.conns x.socket with
      due := (st.conns x.socket).due ++ [x.request] } (List.Sublist.refl _)).subset member)
  | closed op held =>
    have same : (st.closedConns s).wire = (st.conns s).wire := st.closedConns_wire s
    have kept : State.incoming { st with conns := st.closedConns } s = st.incoming s :=
      State.incoming_congr rfl rfl rfl same
    have eq : p ∈ State.incoming { st with conns := st.closedConns } s := member
    rw [kept] at eq
    exact .inl eq
  | looked resting => exact .inl ((st.incoming_looked s resting).subset member)
  | received n r reading cur empty =>
    by_cases here : s = r
    · subst here
      rw [st.incoming_received n s reading cur empty] at member
      exact .inl member
    · have elsewhere : st.curSock ≠ some s := by
        rw [cur]
        exact fun same => here (Option.some.inj same).symm
      have onWire : p ∈ State.held st.curSock _ s ++ _ := member
      rw [State.held, if_neg elsewhere, List.nil_append, st.setConn_of_ne here] at onWire
      exact .inl (List.mem_append_right _ onWire)
  | parsed q rest reading buffered =>
    have eq : p ∈ State.held st.curSock ([q] ++ rest) s ++ (st.conns s).wire := member
    have same : st.reader.hand ++ st.rxbuf = [q] ++ rest := by
      rw [reading, buffered]
      rfl
    rw [← same] at eq
    exact .inl eq
  | idled reading => exact .inl ((routed .top (.inl rfl)).subset member)
  | faulted reading => exact .inl ((routed .failing (.inl rfl)).subset member)
  | matched q pending hand =>
    exact .inl ((routed (.delivering q pending.serial) (.inr (by rw [hand]; rfl))).subset member)
  | orphaned q hand =>
    exact .inl ((routed (.stashing q) (.inr (by rw [hand]; rfl))).subset member)
  | stashed q hand => exact .inl ((routed .top (.inl rfl)).subset member)
  | delivered q waiter hand => exact .inl ((routed .top (.inl rfl)).subset member)
  | notified waiter r hand => exact .inl ((routed .top (.inl rfl)).subset member)
  | dropped failing =>
    refine .inl ((closing _ _ ?_ ?_).subset member)
    · cases st.pending <;> rfl
    · split
      · exact st.closedConns_wire s
      · rfl
  | answered r errorId q rest due =>
    by_cases here : s = r
    · subst here
      have eq : p ∈ State.incoming (st.setConn s { st.conns s with
        due := rest
        wire := (st.conns s).wire ++ [st.answerTo s q errorId] }) s := member
      rw [State.incoming_setConn_self, ← List.append_assoc, List.mem_append,
        List.mem_singleton] at eq
      rcases eq with old | new
      · exact .inl old
      · refine .inr (.inr ⟨errorId, q, rest, due, new, ?_, ?_⟩)
        · show ((st.setConn s _).conns s).due = rest
          rw [State.setConn_self]
        · intro plain
          show (if q.isCall && _ then _ else _) = _
          rw [plain]
          rfl
    · have eq : p ∈ State.incoming (st.setConn r { st.conns r with
        due := rest
        wire := (st.conns r).wire ++ [st.answerTo r q errorId] }) s := member
      rw [st.incoming_setConn here] at eq
      exact .inl eq
  | pushed r packet push =>
    by_cases here : s = r
    · subst here
      have eq : p ∈ State.incoming (st.setConn s { st.conns s with
        wire := (st.conns s).wire ++
          [{ packet with index := st.emitted, socket := s, answers := none }] }) s := member
      rw [State.incoming_setConn_self, ← List.append_assoc, List.mem_append,
        List.mem_singleton] at eq
      rcases eq with old | rfl
      · exact .inl old
      · exact .inr (.inl push)
    · have eq : p ∈ State.incoming (st.setConn r { st.conns r with
        wire := (st.conns r).wire ++
          [{ packet with index := st.emitted, socket := r, answers := none }] }) s := member
      rw [st.incoming_setConn here] at eq
      exact .inl eq
  | lost r => exact .inl ((wired r _ (List.nil_sublist _)).subset member)
  | proceeds | registered | numbered | unsent | uncalled | took | expired | cleared | abandoned
  | read | reseeded | wrote | polled => exact .inl member

/-- What holds of the waiter of a status request: behind the request no call is on its way,
and an answer that has left the controller is still current. -/
structure Reseeding (st : State) (stage : Stage) (x : Exchange) : Prop where
  elsewhere : ∀ r, r ≠ x.socket → st.callsDue r = []
  behind : (st.conns x.socket).due.Pairwise
    fun a b => a.passesFor x.identifier = true → b.isCall = false
  heard : ∀ p ∈ st.incoming x.socket, p.passesFor x.identifier = true → st.Current p
  boxed : ∀ p, st.inbox x.serial = some (.reply p) → st.Current p
  took : ∀ p y, stage = .took y (.reply p) → st.Current p

theorem not_calling_of_waits {st : State} {op : Op} {stage : Stage} {x : Exchange}
    (waits : st.Waits op stage x) (op' : Op) (y : Exchange) :
    st.holder ≠ some ⟨op', .calling y⟩ := by
  apply State.not_calling waits.1
  intro z calling
  subst calling
  cases waits.2

theorem reply_of_update {inbox : Nat → Option Delivery} {w m : Nat} {delivery : Option Delivery}
    {p : Packet} (put : Function.update inbox w delivery m = some (.reply p)) :
    (m = w ∧ delivery = some (.reply p)) ∨ inbox m = some (.reply p) := by
  by_cases here : m = w
  · subst here
    rw [Function.update_self] at put
    exact .inl ⟨rfl, put⟩
  · rw [Function.update_of_ne here] at put
    exact .inr put

namespace Reseeding

variable {st t : State} {i : Label} {op : Op} {stage next : Stage} {x : Exchange}

theorem behind_step (res : Reseeding st stage x) (numbered : Numbered st)
    (waits : st.Waits op stage x) (moved : Moves st i t) :
    (t.conns x.socket).due.Pairwise
      fun a b => a.passesFor x.identifier = true → b.isCall = false := by
  rcases due_moves moved x.socket with fewer | ⟨op', stage', y, held, sends, -, added, -⟩
  · exact res.behind.sublist fewer
  · rw [added, List.pairwise_append]
    refine ⟨res.behind, List.pairwise_singleton _ _, ?_⟩
    intro a _ b single _
    rw [List.mem_singleton] at single
    subst single
    rcases sends with rfl | rfl
    · obtain ⟨command, -, form, -⟩ := numbered.request op' _ y ⟨held, rfl⟩
      rw [form]
      rfl
    · exact absurd held (not_calling_of_waits waits op' y)

/-- The answer leaves the controller: all calls before it are counted, and none follow. -/
theorem answer_current {errorId : Option Int} {r : Request} {rest : List Request}
    (res : Reseeding st stage x) (formed : Formed st) (numbered : Numbered st)
    (waits : st.Waits op stage x) (moved : Moves st i t)
    (status : x.identifier = some "FRC_GetStatus")
    (due : (st.conns x.socket).due = r :: rest) (left : (t.conns x.socket).due = rest)
    (passes : (st.answerTo x.socket r errorId).passesFor x.identifier = true)
    (still : t.nextSequenceId = st.nextSequenceId) :
    t.Current (st.answerTo x.socket r errorId) := by
  have asked : r.passesFor x.identifier = true := by
    rw [← passes]
    exact (r.echo_passesFor _ _ _ _ _).symm
  have form := formed.due x.socket r (by rw [due]; exact List.mem_cons_self)
  obtain ⟨command, -⟩ := status_of_passes form (by rw [← status]; exact asked)
  constructor
  · rw [still]
    show (if r.command = some "FRC_GetStatus" then _ else _) = _
    rw [if_pos command]
  · intro s
    by_cases here : s = x.socket
    · subst here
      unfold State.callsDue
      rw [left]
      have order := res.behind
      rw [due] at order
      apply List.filter_eq_nil_iff.mpr
      intro b member
      rw [(List.pairwise_cons.mp order).1 b member asked]
      exact nofun
    · have fewer := callsDue_moves numbered (sent_moves (not_calling_of_waits waits) moved) moved s
      rw [res.elsewhere s here] at fewer
      exact List.sublist_nil.mp fewer

theorem heard_step (res : Reseeding st stage x) (formed : Formed st) (numbered : Numbered st)
    (waits : st.Waits op stage x) (moved : Moves st i t)
    (status : x.identifier = some "FRC_GetStatus") {p : Packet}
    (member : p ∈ t.incoming x.socket) (passes : p.passesFor x.identifier = true) :
    t.Current p := by
  have same := sent_moves (not_calling_of_waits waits) moved
  rcases incoming_moves moved member with
    old | push | ⟨errorId, r, rest, due, rfl, left, still⟩
  · exact (res.heard p old passes).moves numbered same moved
  · have ignored : p.passesFor x.identifier = false := by
      unfold Packet.passesFor
      rw [push]
      rfl
    rw [ignored] at passes
    cases passes
  · have asked : r.passesFor (some "FRC_GetStatus") = true := by
      rw [← status, ← passes]
      exact (r.echo_passesFor _ _ _ _ _).symm
    have form := formed.due x.socket r (by rw [due]; exact List.mem_cons_self)
    have plain := (status_of_passes form asked).2
    exact res.answer_current formed numbered waits moved status due left passes (still plain)

/-- An inbox's reply was in it, or in the reader's hand for it. -/
theorem boxed_step (res : Reseeding st stage x) (att : Attends st stage x)
    (numbered : Numbered st) (waits : st.Waits op stage x) (moved : Moves st i t) {p : Packet}
    (put : t.inbox x.serial = some (.reply p)) : t.Current p := by
  refine State.Current.moves ?_ numbered (sent_moves (not_calling_of_waits waits) moved) moved
  cases moved with
  | took op' y delivery held =>
    rcases reply_of_update put with ⟨-, new⟩ | old
    · cases new
    · exact res.boxed p old
  | delivered q waiter hand empty =>
    rcases reply_of_update put with ⟨rfl, new⟩ | old
    · cases new
      have engaged := att.engaged (by rw [hand]; exact nofun)
      refine res.heard p ?_ (att.matched p hand)
      rw [State.incoming_release (by rw [hand]; rfl) engaged]
      exact List.mem_cons_self
    · exact res.boxed p old
  | notified waiter s hand cur empty =>
    rcases reply_of_update put with ⟨-, new⟩ | old
    · cases new
    · exact res.boxed p old
  | proceeds | opened | registered | numbered | sent | unsent | called | uncalled | expired
  | cleared | abandoned | read | reseeded | closed | wrote | polled | looked | received | parsed
  | idled | faulted | matched | orphaned | stashed | dropped | answered | pushed | lost =>
    exact res.boxed p put

theorem took_step (res : Reseeding st stage x) (numbered : Numbered st)
    (waits : st.Waits op stage x) (moved : Moves st i t) (still : t.Waits op next x) {p : Packet}
    {y : Exchange} (taken : next = .took y (.reply p)) : t.Current p := by
  refine State.Current.moves ?_ numbered (sent_moves (not_calling_of_waits waits) moved) moved
  subst taken
  have holds := still.1
  have before := waits.1
  cases moved with
  | took op' z delivery held put =>
    rw [held] at before
    cases before
    cases waits.2
    cases holds
    exact res.boxed p put
  | proceeds _ _ _ unheld => exact absurd (unheld _ holds) id
  | closed op' held => exact absurd (op'.retried_unheld _ holds) id
  | opened | registered | numbered | sent | unsent | called | uncalled | expired | cleared
  | abandoned | read | reseeded => cases holds
  | wrote | polled | looked | received | parsed | idled | faulted | matched | orphaned | stashed
  | delivered | dropped | notified | answered | pushed | lost =>
    cases before.symm.trans holds
    exact res.took p y rfl

theorem step (res : Reseeding st stage x) (att : Attends st stage x) (formed : Formed st)
    (numbered : Numbered st) (waits : st.Waits op stage x)
    (status : x.identifier = some "FRC_GetStatus") (moved : Moves st i t)
    (still : t.Waits op next x) : Reseeding t next x where
  elsewhere r other := by
    have fewer := callsDue_moves numbered (sent_moves (not_calling_of_waits waits) moved) moved r
    rw [res.elsewhere r other] at fewer
    exact List.sublist_nil.mp fewer
  behind := res.behind_step numbered waits moved
  heard _ member passes := res.heard_step formed numbered waits moved status member passes
  boxed _ put := res.boxed_step att numbered waits moved put
  took _ _ taken := res.took_step numbered waits moved still taken

theorem registered {command : String} {s : Nat} (numbered : Numbered st)
    (settled : st.Settled command s) (elsewhere : ∀ r, r ≠ s → st.callsDue r = []) :
    Reseeding (st.registered op command s) (.sending ⟨commandRequest st.serials command, s⟩)
      ⟨commandRequest st.serials command, s⟩ where
  elsewhere := elsewhere
  behind := by
    apply List.pairwise_of_forall_mem_list
    intro a member b _ passes
    have none : a.passesFor (some command) = false := settled.2.2 a member
    exact absurd (none.symm.trans passes) nofun
  heard p member passes := by
    have none : p.passesFor (some command) = false := settled.2.1 p member
    exact absurd (none.symm.trans passes) nofun
  boxed p put := by
    have empty : st.inbox st.serials = none := numbered.inbox _ (Nat.le_refl _)
    exact absurd (empty.symm.trans put) nofun
  took _ _ taken := by cases taken

end Reseeding

end AiroFanuc.Rmi

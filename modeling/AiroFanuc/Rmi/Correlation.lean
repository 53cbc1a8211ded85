import AiroFanuc.Rmi.Claims

/-! A waiter whose request goes out on a settled socket gets its own reply, or an error of its
own socket. -/

namespace AiroFanuc.Rmi

open Library

namespace Stage

theorem allowance_le (x : Exchange) (stage : Stage) : (stage.allowance x).Subperm [x.tag] := by
  cases stage <;> first | exact List.nil_subperm | exact List.Subperm.refl _

end Stage

namespace Attends

variable {st t : State} {i : Label} {stage next : Stage} {x : Exchange}

/-- A step that leaves the reader and the inboxes alone. -/
theorem aside (att : Attends st stage x) (sock : t.sock = st.sock) (cur : t.curSock = st.curSock)
    (reader : t.reader = st.reader) (inbox : t.inbox = st.inbox)
    (claims : (t.claims next x).Subperm (next.allowance x)) : Attends t next x where
  current := by
    rw [sock]
    exact att.current
  engaged := by
    rw [reader, cur]
    exact att.engaged
  claims := claims
  matched := by
    rw [reader]
    exact att.matched
  error := by
    rw [inbox]
    exact att.error

/-- The answers to come only get fewer. -/
theorem claims_of_awaited (att : Attends st stage x) (inbox : t.inbox = st.inbox)
    (awaited : (t.awaited x).Subperm (st.awaited x)) :
    (t.claims stage x).Subperm (stage.allowance x) := by
  refine List.Subperm.trans ?_ att.claims
  unfold State.claims
  rw [inbox]
  exact (List.subperm_append_left _).mpr awaited

theorem sent (att : Attends st (.sending x) x) {op : Op} :
    Attends ((st.transmit x).holding op (.waiting x)) (.waiting x) x := by
  refine att.aside rfl rfl rfl rfl ?_
  have none : st.claims (.sending x) x = [] := List.subperm_nil.mp att.claims
  obtain ⟨held, awaited⟩ := List.append_eq_nil_iff.mp none
  have out := st.awaited_transmit x
  rw [awaited, List.nil_append] at out
  show (Delivery.tags (st.inbox x.serial) ++ [] ++ (st.transmit x).awaited x).Subperm [x.tag]
  rw [show Delivery.tags (st.inbox x.serial) ++ [] = [] from held]
  exact out.subperm

/-- A waiter that gives up leaves all as it is. -/
theorem given_up (att : Attends st stage x) (untaken : stage.tags = []) {op : Op} :
    Attends (st.holding op (.abandoning x)) (.abandoning x) x := by
  refine att.aside rfl rfl rfl rfl ?_
  refine List.Subperm.trans ?_ (stage.allowance_le x)
  refine List.Subperm.trans ?_ att.claims
  unfold State.claims
  rw [untaken]
  exact List.Subperm.refl _

theorem took {delivery : Delivery} (att : Attends st (.waiting x) x)
    (put : st.inbox x.serial = some delivery) {op : Op} {journal : Journal} :
    Attends
      { st with
        inbox := Function.update st.inbox x.serial none
        holder := some ⟨op, .took x delivery⟩
        journal := journal } (.took x delivery) x where
  current := att.current
  engaged := att.engaged
  claims := by
    have emptied : Function.update st.inbox x.serial none x.serial = none :=
      Function.update_self ..
    have held : (Stage.took x delivery).tags = Delivery.tags (some delivery) := by
      cases delivery <;> rfl
    refine List.Subperm.trans ?_ att.claims
    show (Delivery.tags (Function.update st.inbox x.serial none x.serial) ++ _ ++
      st.awaited x).Subperm (Delivery.tags (st.inbox x.serial) ++ [] ++ st.awaited x)
    rw [emptied, held, put, List.append_nil]
    exact List.Subperm.refl _
  matched := att.matched
  error s found := by
    have emptied : Function.update st.inbox x.serial none x.serial = none :=
      Function.update_self ..
    exact absurd (emptied.symm.trans found) nofun

/-- What the inbox holds for a waiter is its own. -/
theorem reply_own {p : Packet} (att : Attends st stage x)
    (put : st.inbox x.serial = some (.reply p)) : p.tag = x.tag := by
  have claimed : p.tag ∈ st.claims stage x := by
    unfold State.claims
    rw [put]
    exact List.mem_cons_self
  have own := (att.claims.trans (stage.allowance_le x)).subset claimed
  exact List.mem_singleton.mp own

/-! The reader. -/

theorem looked (att : Attends st stage x) (resting : st.reader = .top) :
    Attends
      { st with
        curSock := st.sock
        rxbuf := if st.sock = st.curSock then st.rxbuf else []
        reader := if st.sock.isSome then .reading else .top } stage x where
  current := att.current
  engaged busy := by
    rcases att.current with here | gone
    · exact here
    · exact absurd (by simp [gone]) busy
  claims := by
    refine att.claims_of_awaited rfl ?_
    exact (State.awaited_sublist (st.incoming_looked x.socket resting)
      (List.Sublist.refl _)).subperm
  matched p hand := by
    cases connected : st.sock.isSome <;> simp [connected] at hand
  error := att.error

theorem received {n s : Nat} (att : Attends st stage x) (reading : st.reader = .reading)
    (cur : st.curSock = some s) (empty : st.rxbuf = []) :
    Attends
      { st.setConn s { st.conns s with wire := (st.conns s).wire.drop n } with
        rxbuf := (st.conns s).wire.take n } stage x := by
  have engaged := att.engaged (by rw [reading]; exact nofun)
  have here : x.socket = s := Option.some.inj (engaged.symm.trans cur)
  refine att.aside rfl rfl rfl rfl ?_
  refine att.claims_of_awaited rfl ?_
  apply List.Perm.subperm
  apply List.Perm.of_eq
  subst here
  refine State.awaited_congr (st.incoming_received n x.socket reading cur empty) ?_
  show ((st.setConn _ _).conns x.socket).due = _
  rw [State.setConn_self]

/-- The reader goes on with the packet it has. -/
theorem onward (att : Attends st stage x) {reader : Reader} {rxbuf : List Packet}
    {journal : Journal} (busy : st.reader ≠ .top)
    (kept : reader.hand ++ rxbuf = st.reader.hand ++ st.rxbuf)
    (matched : ∀ p, reader = .delivering p x.serial → p.passesFor x.identifier = true) :
    Attends { st with rxbuf := rxbuf, reader := reader, journal := journal } stage x where
  current := att.current
  engaged _ := att.engaged busy
  claims := by
    refine att.claims_of_awaited rfl ?_
    apply List.Perm.subperm
    apply List.Perm.of_eq
    refine State.awaited_congr ?_ rfl
    show State.held _ (reader.hand ++ rxbuf) _ ++ _ = _
    rw [kept]
    rfl
  matched := matched
  error := att.error

/-- The reader is back at the top of its loop, and may have put something into an inbox. -/
theorem at_top (att : Attends st stage x) {inbox : Nat → Option Delivery}
    {asyncPackets : List Packet} {journal : Journal}
    (claims : (Delivery.tags (inbox x.serial) ++ stage.tags ++
      State.awaited { st with reader := .top } x).Subperm (st.claims stage x))
    (error : ∀ s, inbox x.serial = some (.error s) → s = x.socket) :
    Attends
      { st with
        reader := .top
        inbox := inbox
        asyncPackets := asyncPackets
        journal := journal } stage x where
  current := att.current
  engaged busy := absurd rfl busy
  claims := claims.trans att.claims
  matched := nofun
  error := error

theorem idled (att : Attends st stage x) (reading : st.reader = .reading) :
    Attends { st with reader := .top } stage x := by
  have same : State.awaited { st with reader := .top } x = st.awaited x := by
    refine State.awaited_congr (State.incoming_congr rfl ?_ rfl rfl) rfl
    rw [reading]
    rfl
  refine att.at_top ?_ att.error
  rw [same]
  exact List.Subperm.refl _

theorem stashed {p : Packet} (att : Attends st stage x) (hand : st.reader = .stashing p)
    {asyncPackets : List Packet} {journal : Journal} :
    Attends { st with reader := .top, asyncPackets := asyncPackets, journal := journal }
      stage x := by
  have engaged := att.engaged (by rw [hand]; exact nofun)
  refine att.at_top ?_ att.error
  apply (List.subperm_append_left _).mpr
  exact (State.awaited_release (by rw [hand]; rfl) engaged).subperm

/-- The packet goes from the reader's hand into an inbox, this waiter's or another's. -/
theorem delivered {p : Packet} {waiter : Nat} (att : Attends st stage x)
    (hand : st.reader = .delivering p waiter) (empty : st.inbox waiter = none) :
    Attends
      { st with
        reader := .top
        inbox := Function.update st.inbox waiter (some (.reply p)) } stage x := by
  have engaged := att.engaged (by rw [hand]; exact nofun)
  have holds : st.reader.hand = [p] := by rw [hand]; rfl
  by_cases mine : waiter = x.serial
  · subst mine
    refine att.at_top ?_ ?_
    · rw [Function.update_self]
      unfold State.claims
      rw [empty, State.awaited_release_passing holds engaged (att.matched p hand)]
      exact List.perm_middle.symm.subperm
    · intro s found
      rw [Function.update_self] at found
      cases found
  · refine att.at_top ?_ ?_
    · rw [Function.update_of_ne (Ne.symm mine)]
      apply (List.subperm_append_left _).mpr
      exact (State.awaited_release holds engaged).subperm
    · intro s found
      rw [Function.update_of_ne (Ne.symm mine)] at found
      exact att.error s found

theorem dropped (att : Attends st stage x) (failing : st.reader = .failing) :
    Attends
      { st with
        pending := none
        sock := if st.sock = st.curSock then none else st.sock
        conns := if st.sock = st.curSock then st.closedConns else st.conns
        reader :=
          match st.pending with
          | some pending => .notifying pending.serial
          | none => .top } stage x := by
  have hand : (match st.pending with
      | some pending => Reader.notifying pending.serial
      | none => Reader.top).hand = st.reader.hand := by
    rw [failing]
    cases st.pending <;> rfl
  have wire : ((if st.sock = st.curSock then st.closedConns else st.conns) x.socket).wire =
      (st.conns x.socket).wire := by
    split
    · exact st.closedConns_wire x.socket
    · rfl
  have due : ((if st.sock = st.curSock then st.closedConns else st.conns) x.socket).due =
      (st.conns x.socket).due := by
    split
    · exact st.closedConns_due x.socket
    · rfl
  refine ⟨?_, fun _ => att.engaged (by rw [failing]; exact nofun), ?_, ?_, att.error⟩
  · show (if st.sock = st.curSock then none else st.sock) = _ ∨
      (if st.sock = st.curSock then none else st.sock) = none
    split
    · exact .inr rfl
    · exact att.current
  · refine att.claims_of_awaited rfl ?_
    apply List.Perm.subperm
    apply List.Perm.of_eq
    exact State.awaited_congr (State.incoming_congr rfl hand rfl wire) due
  · intro p delivering
    cases slot : st.pending <;> simp [slot] at delivering

theorem notified {waiter s : Nat} (att : Attends st stage x) (hand : st.reader = .notifying waiter)
    (cur : st.curSock = some s) (empty : st.inbox waiter = none) :
    Attends
      { st with
        reader := .top
        inbox := Function.update st.inbox waiter (some (.error s)) } stage x := by
  have engaged := att.engaged (by rw [hand]; exact nofun)
  have here : x.socket = s := Option.some.inj (engaged.symm.trans cur)
  have same : State.awaited { st with reader := .top } x = st.awaited x := by
    refine State.awaited_congr (State.incoming_congr rfl ?_ rfl rfl) rfl
    rw [hand]
    rfl
  refine att.at_top ?_ ?_
  · rw [same]
    apply (List.subperm_append_right _).mpr
    apply (List.subperm_append_right _).mpr
    by_cases mine : waiter = x.serial
    · subst mine
      rw [Function.update_self]
      exact List.nil_subperm
    · rw [Function.update_of_ne (Ne.symm mine)]
  · intro r found
    by_cases mine : waiter = x.serial
    · subst mine
      rw [Function.update_self] at found
      cases found
      exact here.symm
    · rw [Function.update_of_ne (Ne.symm mine)] at found
      exact att.error r found

/-! The controller. -/

theorem answered {s : Nat} {errorId : Option Int} {r : Request} {rest : List Request}
    (att : Attends st stage x) (due : (st.conns s).due = r :: rest) :
    Attends
      { (st.setConn s { st.conns s with
          due := rest
          wire := (st.conns s).wire ++ [st.answerTo s r errorId] }).countCall r with
        emitted := st.emitted + 1 } stage x := by
  refine att.aside rfl rfl rfl rfl ?_
  refine att.claims_of_awaited rfl ?_
  exact (st.awaited_answered x s errorId r rest due).subperm

theorem pushed {s : Nat} {p : Packet} (att : Attends st stage x) (push : p.isPush = true) :
    Attends
      { st.setConn s { st.conns s with wire := (st.conns s).wire ++ [p] } with
        emitted := st.emitted + 1 } stage x := by
  refine att.aside rfl rfl rfl rfl ?_
  refine att.claims_of_awaited rfl ?_
  apply List.Perm.subperm
  apply List.Perm.of_eq
  exact st.awaited_pushed x s p push

theorem lost {s : Nat} {journal : Journal} (att : Attends st stage x) :
    Attends { st.setConn s ⟨[], [], true⟩ with journal := journal } stage x := by
  refine att.aside rfl rfl rfl rfl ?_
  refine att.claims_of_awaited rfl ?_
  exact (st.awaited_lost x s).subperm

/-! The waiter comes in. -/

theorem registered {op : Op} {command : String} {s : Nat} (numbered : Numbered st)
    (settled : st.Settled command s) (connected : st.sock = some s) :
    Attends (st.registered op command s)
      (.sending ⟨commandRequest st.serials command, s⟩)
      ⟨commandRequest st.serials command, s⟩ where
  current := .inl connected
  engaged busy := by
    rcases settled.1 with resting | here
    · exact absurd resting busy
    · exact here
  claims := by
    have empty : st.inbox st.serials = none := numbered.inbox _ (Nat.le_refl _)
    have none_passes : (st.incoming s).filter (·.passesFor (some command)) = [] :=
      List.filter_eq_nil_iff.mpr fun p member => by rw [settled.2.1 p member]; exact nofun
    have none_due : (st.conns s).due.filter (·.passesFor (some command)) = [] :=
      List.filter_eq_nil_iff.mpr fun r member => by rw [settled.2.2 r member]; exact nofun
    show (Delivery.tags (st.inbox st.serials) ++ [] ++
      (((st.incoming s).filter fun p : Packet => p.passesFor (some command)).map Packet.tag ++
        ((st.conns s).due.filter fun r : Request => r.passesFor (some command)).map _)).Subperm []
    rw [empty, none_passes, none_due]
    exact List.Subperm.refl _
  matched p hand := by
    have below := numbered.reader st.serials (by
      show st.reader.waiter = _
      rw [show st.reader = .delivering p st.serials from hand]
      rfl)
    exact absurd below (Nat.lt_irrefl _)
  error r found := by
    have empty : st.inbox st.serials = none := numbered.inbox _ (Nat.le_refl _)
    exact absurd (empty.symm.trans found) nofun

/-- What one step makes of a waiter that goes on waiting. -/
theorem step {op : Op} (att : Attends st stage x) (owned : Owned st)
    (waits : st.Waits op stage x) (moved : Moves st i t) (still : t.Waits op next x) :
    Attends t next x := by
  obtain ⟨holds, waiting⟩ := still
  have before := waits.1
  -- the holder's own steps first: they fix the stage before and after
  cases moved with
  | proceeds _ _ _ unheld => exact absurd ⟨holds, waiting⟩ (State.not_waits_of_unheld unheld)
  | closed op' held => exact absurd ⟨holds, waiting⟩ (State.not_waits_of_unheld op'.retried_unheld)
  | opened op' held | registered op' command s held | numbered attempt s held =>
    rw [held] at before
    cases before
    cases waits.2
  | called op' y held | read attempt p held | reseeded pass p held => cases holds
  | uncalled op' y held | cleared op' y delivery held | abandoned op' y held =>
    cases holds
    cases waiting
  | sent op' y held =>
    rw [held] at before
    cases before
    cases waits.2
    cases holds
    exact att.sent
  | unsent op' y held =>
    rw [held] at before
    cases before
    cases waits.2
    cases holds
    exact att.given_up rfl
  | expired op' y held =>
    rw [held] at before
    cases before
    cases waits.2
    cases holds
    exact att.given_up rfl
  | took op' y delivery held put =>
    rw [held] at before
    cases before
    cases waits.2
    cases holds
    exact att.took put
  | wrote | polled =>
    cases before.symm.trans holds
    exact att.aside rfl rfl rfl rfl att.claims
  | looked resting =>
    cases before.symm.trans holds
    exact att.looked resting
  | received n s reading cur empty =>
    cases before.symm.trans holds
    exact att.received reading cur empty
  | parsed p rest reading buffered =>
    cases before.symm.trans holds
    exact att.onward (by rw [reading]; exact nofun) (by rw [reading, buffered]; rfl) nofun
  | idled reading =>
    cases before.symm.trans holds
    exact att.idled reading
  | faulted reading =>
    cases before.symm.trans holds
    exact att.onward (by rw [reading]; exact nofun) (by rw [reading]; rfl) nofun
  | matched p pending hand slot passes =>
    cases before.symm.trans holds
    have mine := owned.pending_eq waits slot
    subst mine
    refine att.onward (by rw [hand]; exact nofun) (by rw [hand]; rfl) ?_
    intro q delivering
    cases delivering
    exact passes
  | orphaned p hand =>
    cases before.symm.trans holds
    exact att.onward (by rw [hand]; exact nofun) (by rw [hand]; rfl) nofun
  | stashed p hand =>
    cases before.symm.trans holds
    exact att.stashed hand
  | delivered p waiter hand empty =>
    cases before.symm.trans holds
    exact att.delivered hand empty
  | dropped failing =>
    cases before.symm.trans holds
    exact att.dropped failing
  | notified waiter s hand cur empty =>
    cases before.symm.trans holds
    exact att.notified hand cur empty
  | answered s errorId r rest due =>
    cases before.symm.trans holds
    exact att.answered due
  | pushed s packet push =>
    cases before.symm.trans holds
    exact att.pushed push
  | lost s =>
    cases before.symm.trans holds
    exact att.lost

end Attends

/-- Every waiter of the operations in question is attended. -/
def Attended (tracked : Op → Bool) (st : State) : Prop :=
  ∀ op stage x, tracked op = true → st.Waits op stage x → Attends st stage x

theorem attended_step {tracked : Op → Bool} {st t : State} {i : Label}
    (numbered : Numbered st) (owned : Owned st) (attended : Attended tracked st)
    (orderly : st.Orderly tracked i) (moved : Moves st i t) : Attended tracked t := by
  intro op stage x watched waits
  rcases waits_before moved waits with
    ⟨before, waited, -⟩ | ⟨command, s, rfl, held, commanded, connected, rfl, rfl, rfl⟩
  · exact (attended op before x watched waited).step owned waited moved waits
  · have settled : st.Settled command s := by
      simp only [State.Orderly, held, connected, commanded] at orderly
      exact orderly watched
    exact Attends.registered numbered settled connected

end AiroFanuc.Rmi

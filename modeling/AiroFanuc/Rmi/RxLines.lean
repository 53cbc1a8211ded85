import AiroFanuc.Rmi.RxLoop

/-! Every line of a stream is dispatched once and in order, however `recv` cuts it. -/

namespace AiroFanuc.Rmi

open Library

variable {S P : Type} {loads : List UInt8 → Loaded P} {keys : P → RoutingKeys}

theorem packets_append (stream more : List UInt8) : packets loads (stream ++ more) =
    packets loads stream ++ packets loads (openLine newline stream ++ more) := by
  rw [packets, completeLines_append, List.filterMap_append]
  rfl

theorem packets_of_unended {stream : List UInt8} (unended : splitLine newline stream = none) :
    packets loads stream = [] := by
  rw [packets, unended_of_splitLine unended]
  rfl

theorem packets_of_splitLine {stream raw rest : List UInt8}
    (split : splitLine newline stream = some (raw, rest)) :
    packets loads stream = (packetOf loads raw).toList ++ packets loads rest := by
  rw [packets, (lines_of_splitLine split).1, List.filterMap_cons]
  cases packetOf loads raw <;> rfl

namespace RxThread

/-- The line that the reader takes next makes its way, and no socket is replaced with a line of its
own still in the buffer. -/
def Intact (loads : List UInt8 → Loaded P) (keys : P → RoutingKeys) (st : RxThread S P) :
    RxLabel S → Prop
  | .loop => st.sock ≠ st.current → splitLine newline st.rxbuf = none
  | .line pending =>
    match splitLine newline st.rxbuf with
    | some (raw, _) => (loadLine loads raw).taken keys pending = true
    | none => True
  | _ => True

instance [DecidableEq S] (st : RxThread S P) (label : RxLabel S) :
    Decidable (st.Intact loads keys label) := by
  unfold Intact
  split
  · infer_instance
  · split <;> infer_instance
  · infer_instance

/-- What was dispatched and what is in the buffer are what was received. -/
structure Sound (loads : List UInt8 → Loaded P) (st : RxThread S P) : Prop where
  reading : ∀ s, st.current = some s →
    packets loads (st.received s) = st.dispatched s ++ packets loads st.rxbuf ∧
      openLine newline (st.received s) = openLine newline st.rxbuf
  left : ∀ s, st.current ≠ some s → st.dispatched s = packets loads (st.received s)
  fresh : ∀ s, s ∉ st.opened → st.current ≠ some s ∧ st.sock ≠ some s ∧ st.received s = [] ∧
    st.dispatched s = []
  untouched : ∀ s, st.sock = some s → st.current ≠ some s →
    st.received s = [] ∧ st.dispatched s = []
  overran : ∀ s ∈ st.overran, s ∈ st.opened ∧ st.sock ≠ some s ∧
    (st.current = some s → st.phase ≠ .reading) ∧
    maxRxbufBytes < (openLine newline (st.received s)).length
  alive : st.phase ≠ .died

variable [DecidableEq S] {st st' : RxThread S P} {label : RxLabel S}

theorem waits_iff {s : S} : st.waits s = true ↔ st.phase = .reading ∧ st.current = some s ∧
    splitLine newline st.rxbuf = none ∧ st.rxbuf.length ≤ maxRxbufBytes := by
  simp only [waits, Bool.and_eq_true, decide_eq_true_eq, and_assoc]

omit [DecidableEq S] in
theorem sound_initial : (initial : RxThread S P).Sound loads where
  reading _ := nofun
  left _ _ := rfl
  fresh _ _ := ⟨nofun, nofun, rfl, rfl⟩
  untouched _ := nofun
  overran _ := nofun
  alive := nofun

omit [DecidableEq S] in
theorem Sound.assign (sound : st.Sound loads) {s : S} (new : s ∉ st.opened) :
    Sound loads { st with sock := some s, opened := s :: st.opened } where
  reading := sound.reading
  left := sound.left
  fresh t old := by
    obtain ⟨current, -, received, dispatched⟩ := sound.fresh t fun before =>
      old (List.mem_cons_of_mem _ before)
    refine ⟨current, ?_, received, dispatched⟩
    rintro ⟨⟩
    exact old List.mem_cons_self
  untouched t same _ := by
    cases same
    exact (sound.fresh s new).2.2
  overran t there := by
    obtain ⟨opened, -, reads, long⟩ := sound.overran t there
    refine ⟨List.mem_cons_of_mem _ opened, ?_, reads, long⟩
    rintro ⟨⟩
    exact new opened
  alive := sound.alive

omit [DecidableEq S] in
theorem Sound.drop (sound : st.Sound loads) : Sound loads { st with sock := none } where
  reading := sound.reading
  left := sound.left
  fresh t old :=
    have new := sound.fresh t old
    ⟨new.1, nofun, new.2.2⟩
  untouched _ := nofun
  overran t there :=
    have before := sound.overran t there
    ⟨before.1, nofun, before.2.2⟩
  alive := sound.alive

omit [DecidableEq S] in
/-- Nothing but the phase changes, and the reader does not begin to read. -/
theorem Sound.rephase (sound : st.Sound loads) {phase : RxPhase} (alive : phase ≠ .died)
    (away : phase ≠ .reading) : Sound loads { st with phase } :=
  { sound with
    overran := fun t there =>
      have before := sound.overran t there
      ⟨before.1, before.2.1, fun _ => away, before.2.2.2⟩
    alive }

theorem Sound.onSocketError (sound : st.Sound loads) (s : S) :
    Sound loads (st.onSocketError s) := by
  unfold RxThread.onSocketError
  split
  · exact sound.drop.rephase nofun nofun
  · exact sound.rephase nofun nofun

theorem Sound.loop (sound : st.Sound loads)
    (legal : st.sock ≠ st.current → splitLine newline st.rxbuf = none) : st.loop.Sound loads := by
  unfold RxThread.loop
  split
  · next same =>
    refine { sound with overran := fun t there => ?_, alive := by split <;> exact nofun }
    obtain ⟨opened, other, -, long⟩ := sound.overran t there
    exact ⟨opened, other, fun current => absurd (same.trans current) other, long⟩
  · next changed =>
    constructor
    · intro s sock
      obtain ⟨received, dispatched⟩ := sound.untouched s sock fun current =>
        changed (sock.trans current.symm)
      change packets loads (st.received s) = st.dispatched s ++ packets loads [] ∧
        openLine newline (st.received s) = openLine newline []
      rw [received, dispatched]
      exact ⟨rfl, rfl⟩
    · intro s other
      by_cases current : st.current = some s
      · obtain ⟨whole, -⟩ := sound.reading s current
        rw [packets_of_unended (legal changed), List.append_nil] at whole
        exact whole.symm
      · exact sound.left s current
    · intro s old
      obtain ⟨-, sock, rest⟩ := sound.fresh s old
      exact ⟨sock, sock, rest⟩
    · exact fun s sock other => absurd sock other
    · intro s there
      obtain ⟨opened, other, -, long⟩ := sound.overran s there
      exact ⟨opened, other, fun current => absurd current other, long⟩
    · show (if st.sock.isSome then RxPhase.reading else .top) ≠ .died
      split <;> exact nofun

omit [DecidableEq S] in
/-- A line leaves the buffer, and the packet that it carries is dispatched. -/
theorem Sound.take (sound : st.Sound loads) {s : S} (current : st.current = some s)
    {raw rest : List UInt8} (split : splitLine newline st.rxbuf = some (raw, rest))
    {dispatched : S → List P} (goes : dispatched s = st.dispatched s ++ (packetOf loads raw).toList)
    (others : ∀ t, t ≠ s → dispatched t = st.dispatched t) :
    Sound loads { st with rxbuf := rest, phase := .top, dispatched } where
  reading t same := by
    cases current.symm.trans same
    obtain ⟨whole, opens⟩ := sound.reading s current
    refine ⟨?_, opens.trans (lines_of_splitLine split).2⟩
    show packets loads (st.received s) = dispatched s ++ packets loads rest
    rw [whole, packets_of_splitLine split, goes, List.append_assoc]
  left t other := by
    have apart : t ≠ s := by
      rintro rfl
      exact other current
    show dispatched t = packets loads (st.received t)
    rw [others t apart]
    exact sound.left t other
  fresh t old := by
    obtain ⟨away, sock, received, none_⟩ := sound.fresh t old
    have apart : t ≠ s := by
      rintro rfl
      exact away current
    exact ⟨away, sock, received, (others t apart).trans none_⟩
  untouched t sock other := by
    have apart : t ≠ s := by
      rintro rfl
      exact other current
    obtain ⟨received, none_⟩ := sound.untouched t sock other
    exact ⟨received, (others t apart).trans none_⟩
  overran t there :=
    have before := sound.overran t there
    ⟨before.1, before.2.1, fun _ => nofun, before.2.2.2⟩
  alive := nofun

theorem Sound.dispatch (sound : st.Sound loads) {s : S} (current : st.current = some s)
    {raw rest : List UInt8} (split : splitLine newline st.rxbuf = some (raw, rest))
    {pending : Option (Option String)} (taken : (loadLine loads raw).taken keys pending = true) :
    (st.dispatch loads keys s pending raw rest).Sound loads := by
  unfold RxThread.dispatch
  cases loaded : loadLine loads raw with
  | object pkt =>
    have routed : (keys pkt).routes pending = true := by
      rw [loaded] at taken
      exact taken
    simp only [routed, if_true]
    refine sound.take current split ?_ fun t apart => Function.update_of_ne apart ..
    rw [Function.update_self, packetOf, loaded]
    rfl
  | other | valueError =>
    refine sound.take current split ?_ fun _ _ => rfl
    rw [packetOf, loaded]
    exact (List.append_nil _).symm
  | recursionError =>
    rw [loaded] at taken
    cases taken

theorem Sound.overrun (sound : st.Sound loads) {s : S} (current : st.current = some s)
    (split : splitLine newline st.rxbuf = none) (long : maxRxbufBytes < st.rxbuf.length) :
    Sound loads { st.onSocketError s with overran := s :: st.overran } := by
  have dropped := sound.onSocketError s
  refine { dropped with overran := fun t there => ?_ }
  rcases List.mem_cons.mp there with rfl | before
  · refine ⟨?_, ?_, fun _ => nofun, ?_⟩
    · by_contra new
      exact (sound.fresh t new).1 current
    · show (if st.sock = some t then none else st.sock) ≠ some t
      split
      · exact nofun
      · assumption
    · show maxRxbufBytes < (openLine newline (st.received t)).length
      rw [(sound.reading t current).2, openLine_of_unended (unended_of_splitLine split)]
      exact long
  · exact dropped.overran t before

theorem Sound.chunk (sound : st.Sound loads) {s : S} {bytes : List UInt8}
    (waits : st.waits s = true) :
    Sound loads { st with
      rxbuf := st.rxbuf ++ bytes
      received := Function.update st.received s (st.received s ++ bytes) } := by
  obtain ⟨phase, current, split, -⟩ := waits_iff.mp waits
  have others {t : S} (apart : t ≠ s) :
      Function.update st.received s (st.received s ++ bytes) t = st.received t :=
    Function.update_of_ne apart ..
  have unended : openLine newline st.rxbuf = st.rxbuf :=
    openLine_of_unended (unended_of_splitLine split)
  constructor
  · intro t same
    cases current.symm.trans same
    obtain ⟨whole, opens⟩ := sound.reading s current
    rw [packets_of_unended split, List.append_nil] at whole
    rw [unended] at opens
    show packets loads (Function.update st.received s (st.received s ++ bytes) s) =
        st.dispatched s ++ packets loads (st.rxbuf ++ bytes) ∧
      openLine newline (Function.update st.received s (st.received s ++ bytes) s) =
        openLine newline (st.rxbuf ++ bytes)
    rw [Function.update_self, packets_append, openLine_append, whole, opens]
    exact ⟨rfl, rfl⟩
  · intro t other
    have apart : t ≠ s := by
      rintro rfl
      exact other current
    show st.dispatched t =
      packets loads (Function.update st.received s (st.received s ++ bytes) t)
    rw [others apart]
    exact sound.left t other
  · intro t old
    obtain ⟨away, sock, received, none_⟩ := sound.fresh t old
    have apart : t ≠ s := by
      rintro rfl
      exact away current
    exact ⟨away, sock, (others apart).trans received, none_⟩
  · intro t sock other
    have apart : t ≠ s := by
      rintro rfl
      exact other current
    obtain ⟨received, none_⟩ := sound.untouched t sock other
    exact ⟨(others apart).trans received, none_⟩
  · intro t there
    obtain ⟨opened, sock, reads, long⟩ := sound.overran t there
    have apart : t ≠ s := by
      rintro rfl
      exact reads current phase
    refine ⟨opened, sock, reads, ?_⟩
    show maxRxbufBytes <
      (openLine newline (Function.update st.received s (st.received s ++ bytes) t)).length
    rw [others apart]
    exact long
  · exact sound.alive

theorem Sound.step (sound : st.Sound loads) (legal : st.Intact loads keys label)
    (moved : RxThread.step loads keys st label = some st') : st'.Sound loads := by
  cases label with
  | assign next =>
    cases next with
    | none =>
      cases moved
      exact sound.drop
    | some s =>
      simp only [RxThread.step] at moved
      split at moved <;> cases moved
      next new => exact sound.assign new
  | stop =>
    simp only [RxThread.step] at moved
    split at moved <;> cases moved
    exact sound.rephase (by simp) (by simp)
  | loop =>
    simp only [RxThread.step] at moved
    split at moved <;> cases moved
    exact sound.loop legal
  | line pending =>
    simp only [RxThread.step] at moved
    split at moved
    · obtain ⟨s, current, lined⟩ := Option.bind_eq_some_iff.mp moved
      simp only [Intact] at legal
      unfold RxThread.line at lined
      split at lined
      · next raw rest split =>
        cases lined
        rw [split] at legal
        exact sound.dispatch current split legal
      · next split =>
        split at lined <;> cases lined
        next long => exact sound.overrun current split long
    · cases moved
  | chunk bytes =>
    obtain ⟨s, -, chunked⟩ := Option.bind_eq_some_iff.mp moved
    split at chunked <;> cases chunked
    next able => exact sound.chunk able.1
  | idle =>
    obtain ⟨s, -, waited⟩ := Option.bind_eq_some_iff.mp moved
    split at waited <;> cases waited
    exact sound.rephase (by simp) (by simp)
  | fail =>
    obtain ⟨s, -, failed⟩ := Option.bind_eq_some_iff.mp moved
    split at failed <;> cases failed
    exact sound.onSocketError s

/-- The bytes of a line come in one by one. -/
theorem waits_reaches {s : S} {bytes : List UInt8} (phase : st.phase = .reading)
    (current : st.current = some s) (unended : newline ∉ st.rxbuf ++ bytes)
    (short : (st.rxbuf ++ bytes).length ≤ maxRxbufBytes) :
    ∃ next, (rxLoop loads keys S).Reaches (fun _ _ => True) st next ∧ next.phase = .reading ∧
      next.current = some s ∧ next.rxbuf = st.rxbuf ++ bytes := by
  induction bytes generalizing st with
  | nil => exact ⟨st, .refl, phase, current, (List.append_nil _).symm⟩
  | cons b more ih =>
    have before : newline ∉ st.rxbuf := fun there => unended (List.mem_append_left _ there)
    have room : st.rxbuf.length ≤ maxRxbufBytes := by
      rw [List.length_append] at short
      omega
    have waits : st.waits s = true :=
      waits_iff.mpr ⟨phase, current, splitLine_of_not_mem before, room⟩
    have stepped : (rxLoop loads keys S).step st (.chunk [b]) = some { st with
        rxbuf := st.rxbuf ++ [b]
        received := Function.update st.received s (st.received s ++ [b]) } := by
      show (st.current.bind fun s => _) = _
      rw [current, Option.bind_some,
        if_pos ⟨waits, List.cons_ne_nil _ _, Nat.succ_le_succ (Nat.zero_le _)⟩]
    obtain ⟨next, onward, there⟩ := @ih { st with
      rxbuf := st.rxbuf ++ [b]
      received := Function.update st.received s (st.received s ++ [b]) } phase current
      (by simpa using unended) (by simpa using short)
    exact ⟨next, Machine.Reaches.head trivial stepped onward, by simpa using there⟩

end RxThread

/-- A line of any length up to the bound that makes `json.loads` run out of stack ends the
reader. -/
theorem reader_dies_of [DecidableEq S] (keys : P → RoutingKeys) (s : S) (raw : List UInt8)
    (one : newline ∉ raw) (short : raw.length ≤ maxRxbufBytes)
    (recurses : loadLine loads raw = .recursionError) :
    ∃ st, (rxLoop loads keys S).Reachable (fun _ _ => True) st ∧ st.phase = .died := by
  obtain ⟨st, onward, phase, current, buffered⟩ :=
    @RxThread.waits_reaches S P loads keys _
      { RxThread.initial with
        sock := some s, opened := [s], current := some s, phase := .reading }
      s raw rfl rfl one short
  have held : st.rxbuf = raw := buffered
  have there : (rxLoop loads keys S).Reachable (fun _ _ => True) st :=
    Machine.Reaches.head (i := .assign (some s)) trivial rfl
      (Machine.Reaches.head (i := .loop) trivial rfl onward)
  have waits : st.waits s = true := by
    refine RxThread.waits_iff.mpr ⟨phase, current, ?_, held ▸ short⟩
    exact splitLine_of_not_mem (held ▸ one)
  have ended : (rxLoop loads keys S).step st (.chunk [newline]) = some { st with
      rxbuf := st.rxbuf ++ [newline]
      received := Function.update st.received s (st.received s ++ [newline]) } := by
    show (st.current.bind fun s => _) = _
    rw [current, Option.bind_some,
      if_pos ⟨waits, List.cons_ne_nil _ _, Nat.succ_le_succ (Nat.zero_le _)⟩]
  have taken : (rxLoop loads keys S).step { st with
      rxbuf := st.rxbuf ++ [newline]
      received := Function.update st.received s (st.received s ++ [newline]) } (.line none) =
      some { st with
        rxbuf := []
        received := Function.update st.received s (st.received s ++ [newline])
        phase := .died } := by
    show (if st.phase = .reading then st.current.bind fun s => _ else none) = _
    rw [if_pos phase, current, Option.bind_some]
    simp only [RxThread.line, held, splitLine_append one, RxThread.dispatch, recurses]
  exact ⟨_, (there.step trivial ended).step trivial taken, rfl⟩

/-- `json.loads` as far as this run needs it: an empty object, and brackets nested too deep. -/
def nestedLoads (text : List UInt8) : Loaded Unit :=
  if text = [0x7b, 0x7d] then .object ()
  else if text = List.replicate 60000 0x5b then .recursionError
  else .valueError

/-- The keys of the empty object. -/
def noKeys : Unit → RoutingKeys := fun _ => ⟨.none, .none, .none⟩

/-- A packet whose `Communication` is a list is lost on its way. -/
example : RoutingKeys.routes ⟨.text "FRC_Reset", .collection false, .none⟩ none = false := rfl

end AiroFanuc.Rmi

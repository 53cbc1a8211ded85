import AiroFanuc.Receive.Interface

/-! Captures of calibration samples against a poll thread that keeps feeding the ring. -/

namespace AiroFanuc.Receive

open Library

variable {R : Type} [Field R] [LinearOrder R]

/-- A capture that has read its sample and not yet judged it. -/
structure Pending (R : Type) where
  raw : JointSample R
  accepted : JointSample R
  threshold : R
  windowS : R

inductive Call (R : Type) where
  | idle
  | sampled (p : Pending R)
  | looked (p : Pending R) (newest : List R) (count : ℕ) (ageS : R)

/-- A capture that succeeded, with the samples its velocity was estimated on, all that had been
ingested until then, and those of them that had come in since it read its own. -/
structure Taken (R : Type) where
  raw : JointSample R
  accepted : JointSample R
  threshold : R
  windowS : R
  nowNs : ℤ
  window : List (JointSample R)
  fed : List (JointSample R)
  late : List (JointSample R)

/-- A capture that returned or raised, and the bookkeeping before and after it. -/
structure Ended (R : Type) where
  began : Dataset R
  result : Except (CaptureError R) (Taken R)
  left : Dataset R

/-- The interface, and the history of its run: the samples ingested, those of them since the call
under way read its own, the captures since the last reset (newest first), and every capture. -/
structure Run (R : Type) where
  ring : List (JointSample R)
  dataset : Dataset R
  call : Call R
  ingested : List (JointSample R)
  late : List (JointSample R)
  began : Dataset R
  taken : List (Taken R)
  ended : List (Ended R)

/-- `look` and `estimate` are the second and the third critical section of a capture, each with
the clock reading before it. -/
inductive Label (R : Type) where
  | ingest (sample : JointSample R)
  | capture (threshold window : Option R)
  | look (nowNs : ℤ)
  | estimate (nowNs : ℤ)
  | reset

def Run.new : Run R := ⟨[], .empty, .idle, [], [], .empty, [], []⟩

def Run.raise (r : Run R) (error : CaptureError R) : Run R :=
  { r with call := .idle, ended := ⟨r.began, .error error, r.dataset⟩ :: r.ended }

def Run.accept (r : Run R) (t : Taken R) : Run R :=
  { r with
    call := .idle, dataset := record t.accepted, taken := t :: r.taken,
    ended := ⟨r.began, .ok t, record t.accepted⟩ :: r.ended }

def Run.ingest (settings : Settings R) (r : Run R) (sample : JointSample R) : Run R :=
  { r with
    ring := append settings.ringSize r.ring sample, ingested := r.ingested ++ [sample],
    late := r.late ++ [sample] }

/-- The first critical section and the checks under it. -/
def Run.capture (settings : Settings R) (r : Run R) (threshold window : Option R) : Run R :=
  let r := { r with late := [], began := r.dataset }
  match r.ring.getLast? with
  | none => r.raise .noSamples
  | some newest =>
    match checkSource settings r.dataset newest with
    | .error error => r.raise error
    | .ok accepted =>
      { r with
        call := .sampled ⟨newest, accepted, threshold.getD settings.stillnessDegS,
          window.getD settings.lsqWindowS⟩ }

def Run.look (r : Run R) (p : Pending R) (nowNs : ℤ) : Run R :=
  match r.ring.getLast? with
  | none => r.raise .typeError
  | some newest =>
    { r with
      call := .looked p newest.qDeg (r.ring.countP (recent nowNs p.windowS))
        (((nowNs - newest.tWallNs : ℤ) : R) / 10 ^ 9) }

def Run.estimate (settings : Settings R) (r : Run R) (p : Pending R) (newest : List R)
    (count : ℕ) (ageS : R) (nowNs : ℤ) : Run R :=
  let window := r.ring.filter (recent nowNs p.windowS)
  match conclude settings r.dataset p.accepted p.threshold newest count ageS
      (estimateVelocityDegS settings window p.windowS) with
  | .error error => r.raise error
  | .ok () => r.accept ⟨p.raw, p.accepted, p.threshold, p.windowS, nowNs, window, r.ingested, r.late⟩

def Run.step (settings : Settings R) (r : Run R) : Label R → Option (Run R)
  | .ingest sample => some (r.ingest settings sample)
  | .capture threshold window =>
    match r.call with
    | .idle => some (r.capture settings threshold window)
    | _ => none
  | .look nowNs =>
    match r.call with
    | .sampled p => some (r.look p nowNs)
    | _ => none
  | .estimate nowNs =>
    match r.call with
    | .looked p newest count ageS => some (r.estimate settings p newest count ageS nowNs)
    | _ => none
  | .reset =>
    match r.call with
    | .idle => some { r with dataset := .empty, taken := [] }
    | _ => none

def machine (settings : Settings R) : Machine (Run R) (Label R) where
  start := .new
  step := Run.step settings

def Call.pending : Call R → Option (Pending R)
  | .idle => none
  | .sampled p | .looked p _ _ _ => some p

/-! ### The dataset -/

section Dataset

variable {settings : Settings R} {r r' : Run R} {l : Label R}

/-- The samples accepted since the last reset, the newest first. -/
structure Consistent (settings : Settings R) (ingested : List (JointSample R))
    (taken : List (Taken R)) : Prop where
  oneSource : ∀ a ∈ taken, ∀ b ∈ taken, a.accepted.source = b.accepted.source
  converted : ∀ a ∈ taken, a.accepted.source ≠ .rmiUnconverted
  apart : taken.IsChain fun later earlier =>
    Apart settings.minChangeDeg later.accepted.qDeg earlier.accepted.qDeg
  ingested : ∀ a ∈ taken, a.raw ∈ ingested
  represents : ∀ a ∈ taken, Represents settings a.raw a.accepted

/-- What the bookkeeping says after these captures. -/
def recorded : List (Taken R) → Dataset R
  | [] => .empty
  | t :: _ => record t.accepted

/-- The samples that a ring of this size still holds, of all that it was fed. -/
def lastOf (ringSize : ℕ) (fed : List (JointSample R)) : List (JointSample R) :=
  fed.drop (fed.length - ringSize)

/-- What is so of every capture that succeeded: its window is of the ring at the gate, and no
joint as it was read is over the threshold. -/
structure Measured (settings : Settings R) (t : Taken R) : Prop where
  window : t.window = (lastOf settings.ringSize t.fed).filter (recent t.nowNs t.windowS)
  fed : ∃ earlier, t.fed = earlier ++ t.raw :: t.late
  represents : Represents settings t.raw t.accepted
  slow : ∃ v, estimateVelocityDegS settings t.window t.windowS = .ok (some v) ∧
    ∀ y ∈ v, |y| ≤ t.threshold

structure Sound (settings : Settings R) (r : Run R) : Prop where
  ring : r.ring = lastOf settings.ringSize r.ingested
  dataset : r.dataset = recorded r.taken
  consistent : Consistent settings r.ingested r.taken
  began : ∀ p, r.call.pending = some p → r.began = r.dataset
  pending : ∀ p, r.call.pending = some p → Represents settings p.raw p.accepted ∧
    (∃ earlier, r.ingested = earlier ++ p.raw :: r.late) ∧
    ∀ source, r.dataset.acceptedSource = some source → p.accepted.source = source
  raised : ∀ e ∈ r.ended, ∀ error, e.result = .error error → e.left = e.began
  measured : ∀ e ∈ r.ended, ∀ t, e.result = .ok t → Measured settings t

theorem Consistent.nil (ingested : List (JointSample R)) : Consistent settings ingested [] := by
  constructor
  · intro a member
    cases member
  · intro a member
    cases member
  · exact .nil
  · intro a member
    cases member
  · intro a member
    cases member

theorem Consistent.ingest {ingested : List (JointSample R)} {taken : List (Taken R)}
    (consistent : Consistent settings ingested taken) (sample : JointSample R) :
    Consistent settings (ingested ++ [sample]) taken := by
  constructor
  · exact consistent.oneSource
  · exact consistent.converted
  · exact consistent.apart
  · intro a member
    exact List.mem_append_left [sample] (consistent.ingested a member)
  · exact consistent.represents

/-- One more capture keeps the dataset in one source, and each pose apart from the one before. -/
theorem Consistent.take {ingested : List (JointSample R)} {taken : List (Taken R)} {t : Taken R}
    (consistent : Consistent settings ingested taken) (present : t.raw ∈ ingested)
    (represents : Represents settings t.raw t.accepted)
    (source : ∀ source, (recorded taken).acceptedSource = some source →
      t.accepted.source = source)
    (changed : ∀ lastQ, (recorded taken).lastAcceptedQ = some lastQ →
      Apart settings.minChangeDeg t.accepted.qDeg lastQ) :
    Consistent settings ingested (t :: taken) := by
  have same : ∀ a ∈ taken, t.accepted.source = a.accepted.source := by
    intro a member
    cases taken with
    | nil => cases member
    | cons last rest =>
      exact (source _ rfl).trans (consistent.oneSource last List.mem_cons_self a member)
  constructor
  · intro a first b second
    rcases List.mem_cons.mp first with rfl | here <;>
      rcases List.mem_cons.mp second with rfl | there
    · rfl
    · exact same b there
    · exact (same a here).symm
    · exact consistent.oneSource a here b there
  · intro a member
    rcases List.mem_cons.mp member with rfl | member
    · exact represents.source
    · exact consistent.converted a member
  · cases taken with
    | nil => exact .singleton t
    | cons last rest => exact .cons_cons (changed _ rfl) consistent.apart
  · intro a member
    rcases List.mem_cons.mp member with rfl | member
    · exact present
    · exact consistent.ingested a member
  · intro a member
    rcases List.mem_cons.mp member with rfl | member
    · exact represents
    · exact consistent.represents a member

theorem Sound.new : Sound settings (Run.new : Run R) := by
  constructor
  · exact List.drop_nil.symm
  · rfl
  · exact .nil []
  · intro p pending
    cases pending
  · intro p pending
    cases pending
  · intro e member
    cases member
  · intro e member
    cases member

omit [Field R] [LinearOrder R] in
theorem append_lastOf (ringSize : ℕ) (fed : List (JointSample R)) (sample : JointSample R) :
    append ringSize (lastOf ringSize fed) sample = lastOf ringSize (fed ++ [sample]) := by
  have here : fed.length - ringSize ≤ fed.length := Nat.sub_le _ _
  rw [append, lastOf, lastOf, ← List.drop_append_of_le_length here, List.drop_drop,
    List.length_drop, List.length_append, List.length_singleton]
  congr 1
  omega

theorem Sound.ingest (sound : Sound settings r) (sample : JointSample R) :
    Sound settings (r.ingest settings sample) := by
  constructor
  · exact (congrArg (append _ · sample) sound.ring).trans (append_lastOf _ _ _)
  · exact sound.dataset
  · exact sound.consistent.ingest sample
  · exact sound.began
  · intro p pending
    obtain ⟨represents, ⟨earlier, whole⟩, source⟩ := sound.pending p pending
    refine ⟨represents, ⟨earlier, ?_⟩, source⟩
    simp only [Run.ingest, whole, List.append_assoc, List.cons_append]
  · exact sound.raised
  · exact sound.measured

/-- A capture that raises touches nothing but its own outcome. -/
theorem Sound.raise (sound : Sound settings r) (began : r.began = r.dataset)
    (error : CaptureError R) : Sound settings (r.raise error) := by
  constructor
  · exact sound.ring
  · exact sound.dataset
  · exact sound.consistent
  · intro p pending
    cases pending
  · intro p pending
    cases pending
  · intro e member error' failed
    rcases List.mem_cons.mp member with rfl | member
    · exact began.symm
    · exact sound.raised e member error' failed
  · intro e member t succeeded
    rcases List.mem_cons.mp member with rfl | member
    · cases succeeded
    · exact sound.measured e member t succeeded

theorem Sound.capture (sound : Sound settings r) (threshold window : Option R)
    (idle : r.call = .idle) : Sound settings (r.capture settings threshold window) := by
  have afresh : Sound settings { r with late := [], began := r.dataset } := by
    constructor
    · exact sound.ring
    · exact sound.dataset
    · exact sound.consistent
    · exact fun _ _ => rfl
    · intro p pending
      rw [idle] at pending
      cases pending
    · exact sound.raised
    · exact sound.measured
  simp only [Run.capture]
  split
  · exact afresh.raise rfl _
  case h_2 newest last =>
    split
    · exact afresh.raise rfl _
    case h_2 accepted checked =>
      obtain ⟨represents, source⟩ := checkSource_ok checked
      constructor
      · exact sound.ring
      · exact sound.dataset
      · exact sound.consistent
      · exact fun _ _ => rfl
      · intro p pending
        cases pending
        obtain ⟨before, whole⟩ := List.getLast?_eq_some_iff.mp last
        rw [sound.ring] at whole
        refine ⟨represents, ⟨r.ingested.take (r.ingested.length - settings.ringSize) ++ before, ?_⟩,
          source⟩
        rw [List.append_assoc, ← whole]
        exact (List.take_append_drop _ _).symm
      · exact sound.raised
      · exact sound.measured

theorem Sound.look (sound : Sound settings r) {p : Pending R} (nowNs : ℤ)
    (called : r.call = .sampled p) : Sound settings (r.look p nowNs) := by
  have pending : r.call.pending = some p := by rw [called, Call.pending]
  simp only [Run.look]
  split
  · exact sound.raise (sound.began p pending) _
  · constructor
    · exact sound.ring
    · exact sound.dataset
    · exact sound.consistent
    · exact fun _ _ => sound.began p pending
    · intro p' pending'
      cases pending'
      exact sound.pending p pending
    · exact sound.raised
    · exact sound.measured

theorem Sound.accept (sound : Sound settings r) {t : Taken R} (present : t.raw ∈ r.ingested)
    (measured : Measured settings t)
    (source : ∀ source, r.dataset.acceptedSource = some source → t.accepted.source = source)
    (changed : checkChanged settings r.dataset t.accepted = .ok ()) :
    Sound settings (r.accept t) := by
  rw [sound.dataset] at source changed
  constructor
  · exact sound.ring
  · rfl
  · apply sound.consistent.take present measured.represents source
    intro lastQ last
    exact checkChanged_ok changed last
  · intro p pending
    cases pending
  · intro p pending
    cases pending
  · intro e member error failed
    rcases List.mem_cons.mp member with rfl | member
    · cases failed
    · exact sound.raised e member error failed
  · intro e member t' succeeded
    rcases List.mem_cons.mp member with rfl | member
    · cases succeeded
      exact measured
    · exact sound.measured e member t' succeeded

theorem Sound.estimate (sound : Sound settings r) {p : Pending R} {newest : List R} {count : ℕ}
    {ageS : R} (nowNs : ℤ) (called : r.call = .looked p newest count ageS) :
    Sound settings (r.estimate settings p newest count ageS nowNs) := by
  have pending : r.call.pending = some p := by rw [called, Call.pending]
  obtain ⟨represents, ⟨earlier, whole⟩, source⟩ := sound.pending p pending
  have present : p.raw ∈ r.ingested := by
    rw [whole]
    exact List.mem_append_right earlier List.mem_cons_self
  simp only [Run.estimate]
  split
  · exact sound.raise (sound.began p pending) _
  case h_2 concluded =>
    obtain ⟨slow, changed⟩ := conclude_ok concluded
    apply sound.accept present _ source changed
    constructor
    · exact congrArg (List.filter _) sound.ring
    · exact ⟨earlier, whole⟩
    · exact represents
    · exact slow

theorem Sound.reset (sound : Sound settings r) (idle : r.call = .idle) :
    Sound settings { r with dataset := .empty, taken := [] } := by
  constructor
  · exact sound.ring
  · rfl
  · exact .nil r.ingested
  · intro p pending
    rw [idle] at pending
    cases pending
  · intro p pending
    rw [idle] at pending
    cases pending
  · exact sound.raised
  · exact sound.measured

theorem Sound.step (sound : Sound settings r) (moved : r.step settings l = some r') :
    Sound settings r' := by
  cases l with
  | ingest sample =>
    cases moved
    exact sound.ingest sample
  | capture threshold window =>
    simp only [Run.step] at moved
    split at moved
    case h_1 idle =>
      cases moved
      exact sound.capture threshold window idle
    · cases moved
  | look nowNs =>
    simp only [Run.step] at moved
    split at moved
    case h_1 p called =>
      cases moved
      exact sound.look nowNs called
    · cases moved
  | estimate nowNs =>
    simp only [Run.step] at moved
    split at moved
    case h_1 p newest count ageS called =>
      cases moved
      exact sound.estimate nowNs called
    · cases moved
  | reset =>
    simp only [Run.step] at moved
    split at moved
    case h_1 idle =>
      cases moved
      exact sound.reset idle
    · cases moved

theorem sound_of_reachable (reached : (machine settings).Reachable (fun _ _ => True) r) :
    Sound settings r :=
  reached.invariant .new fun _ _ _ sound _ moved => sound.step moved

/-- Three samples a quarter of a second apart, and a capture behind them. -/
def fedAndCaptured (source : Source) (startNs : ℤ) (q : ℕ → List ℚ) : List (Label ℚ) :=
  [.ingest ⟨q 0, startNs, source⟩, .ingest ⟨q 1, startNs + 250000000, source⟩,
    .ingest ⟨q 2, startNs + 500000000, source⟩, .capture none none,
    .look (startNs + 500000000), .estimate (startNs + 500000000)]

end Dataset

/-! ### Stillness -/

section Stillness

variable {settings : Settings R} {r : Run R} {t : Taken R}

/-- Over these samples the least-squares speed of `y` is at most the threshold. -/
def Still (window : List (JointSample R)) (threshold : R) (y : JointSample R → R) : Prop :=
  ∃ rate, FitsWithSlope window wallS y rate ∧ |rate| ≤ threshold

/-- Stillness was judged on the pose that was captured. -/
structure Judged (t : Taken R) : Prop where
  accepted : t.accepted = inAcceptedFrame t.raw
  newest : t.window.getLast? = some t.raw
  oneSource : ∀ s ∈ t.window, s.source = t.raw.source
  still : ∀ j < t.accepted.qDeg.length,
    Still t.window t.threshold fun s => joint j (inAcceptedFrame s)

/-- The sample a capture read is recent at its gate and none ingested since is (but for a last one
equal to it), the last ones ingested that are recent and fit the ring are all of its source, and
for joints read over RMI the sum of J2 and J3 is still over the window as well. -/
structure Undisturbed (settings : Settings R) (t : Taken R) : Prop where
  inWindow : recent t.nowNs t.windowS t.raw = true
  noneSince : ∀ s, (t.late.filter (recent t.nowNs t.windowS)).getLast? = some s → s = t.raw
  unmixed : ∀ s ∈ lastOf settings.ringSize t.fed,
    recent t.nowNs t.windowS s = true → s.source = t.raw.source
  coupled : t.raw.source = .rmiUnconverted →
    Still t.window t.threshold fun s => joint 2 s + joint 1 s

theorem still_iff [IsStrictOrderedRing R] {window : List (JointSample R)}
    (wide : 0 < spread window wallS) (threshold : R) (y : JointSample R → R) :
    Still window threshold y ↔ |slope window wallS y| ≤ threshold := by
  simp only [Still, fitsWithSlope_iff wide, exists_eq_left]

/-- The last sample of a window that is not empty is the last recent one of all ingested. -/
theorem Measured.getLast? [IsStrictOrderedRing R] (measured : Measured settings t) :
    t.window.getLast? = (t.fed.filter (recent t.nowNs t.windowS)).getLast? := by
  obtain ⟨v, estimated, -⟩ := measured.slow
  have present := (estimateVelocityDegS_some estimated).1
  have inside : t.window <:+ t.fed.filter (recent t.nowNs t.windowS) := by
    rw [measured.window]
    exact (List.drop_suffix _ _).filter _
  obtain ⟨before, whole⟩ := inside
  rw [← whole, List.getLast?_append_of_ne_nil _ present]

theorem Measured.oneSource_iff (measured : Measured settings t) :
    (∀ s ∈ t.window, s.source = t.raw.source) ↔ ∀ s ∈ lastOf settings.ringSize t.fed,
      recent t.nowNs t.windowS s = true → s.source = t.raw.source := by
  simp only [measured.window, List.mem_filter, and_imp]

theorem Measured.newest_iff [IsStrictOrderedRing R] (measured : Measured settings t) :
    t.window.getLast? = some t.raw ↔ recent t.nowNs t.windowS t.raw = true ∧
      ∀ s, (t.late.filter (recent t.nowNs t.windowS)).getLast? = some s → s = t.raw := by
  obtain ⟨earlier, fed⟩ := measured.fed
  rw [measured.getLast?, fed, List.filter_append, List.filter_cons, List.getLast?_append]
  cases since : (t.late.filter (recent t.nowNs t.windowS)).getLast? with
  | some s =>
    have inside : recent t.nowNs t.windowS s = true :=
      (List.mem_filter.mp (List.mem_of_getLast? since)).2
    have found : ((if recent t.nowNs t.windowS t.raw = true
        then t.raw :: t.late.filter (recent t.nowNs t.windowS)
        else t.late.filter (recent t.nowNs t.windowS))).getLast? = some s := by
      split
      · rw [List.getLast?_cons, since, Option.getD_some]
      · exact since
    rw [found, Option.some_or]
    constructor
    · intro same
      cases same
      exact ⟨inside, fun s' same' => (Option.some.inj same').symm⟩
    · rintro ⟨-, same⟩
      rw [same s rfl]
  | none =>
    have none_late := List.getLast?_eq_none_iff.mp since
    rw [none_late]
    constructor
    · intro same
      refine ⟨?_, nofun⟩
      by_contra old
      rw [if_neg old] at same
      simp only [List.getLast?_nil, Option.none_or] at same
      exact old (List.mem_filter.mp (List.mem_of_getLast? same)).2
    · rintro ⟨inside, -⟩
      rw [if_pos inside]
      rfl

omit [LinearOrder R] in
theorem length_inAcceptedFrame (s : JointSample R) :
    (inAcceptedFrame s).qDeg.length = s.qDeg.length := by
  rw [inAcceptedFrame]
  split
  · exact List.length_set
  · rfl

omit [LinearOrder R] in
theorem joint_inAcceptedFrame {s : JointSample R} (j : ℕ)
    (same : s.source = .rmiUnconverted → j ≠ 2) : joint j (inAcceptedFrame s) = joint j s := by
  rw [inAcceptedFrame]
  split
  case isTrue rmi =>
    simp only [joint, List.getD_eq_getElem?_getD, List.getElem?_set_ne (same rmi).symm]
  case isFalse => rfl

omit [LinearOrder R] in
theorem joint_two_inAcceptedFrame {s : JointSample R} (rmi : s.source = .rmiUnconverted)
    (long : 3 ≤ s.qDeg.length) : joint 2 (inAcceptedFrame s) = joint 2 s + joint 1 s := by
  rw [inAcceptedFrame, if_pos rmi]
  simp only [joint, List.getD_eq_getElem?_getD, List.getElem?_set_self (by omega : 2 < s.qDeg.length),
    Option.getD_some]

end Stillness

end AiroFanuc.Receive

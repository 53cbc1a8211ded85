import AiroFanuc.Probe.Facts
import Mathlib.Data.Rat.Floor

/-! The full preflight checks, and what the loss of a fact does to their hard blocks. -/

namespace AiroFanuc.Probe

variable {R : Type} [Field R] [LinearOrder R]

/-- What refuses a bring-up, with what its text reports. -/
inductive HardBlock where
  | alarm (hint : String)
  | pLevel (deliverVersion minHard : String)
  | externalControl (missingPrograms : List String)
  | gripper (missing : List String)
  deriving DecidableEq, Repr

inductive PositionLimit where
  | lower
  | upper
  deriving DecidableEq, Repr

inductive Warning (R : Type) where
  | probeFailed (text : String)
  | probe (text : String)
  | notBanded
  | unparseable (deliverVersion : String)
  | warnBand (deliverVersion minWarn : String)
  | editionDiffers (deliverVersion edition : String)
  | orderedButMissing (missing : List String)
  | treatedAsPresent
  | jointCount (reported : ℕ)
  | velocity (joint : ℕ) (profile controller : Double R) (above : Bool)
  | position (limit : PositionLimit) (joint : ℕ) (profile controller : Double R) (wider : Bool)
  deriving DecidableEq

inductive NumpyError where
  | valueError
  | indexError
  deriving DecidableEq, Repr

structure Report (R : Type) where
  warnings : List (Warning R)
  hardBlocks : List HardBlock
  controller : Option (ControllerFacts R)

def Report.warn (r : Report R) (warning : Warning R) : Report R :=
  { r with warnings := r.warnings ++ [warning] }

def Report.block (r : Report R) (hardBlock : HardBlock) : Report R :=
  { r with hardBlocks := r.hardBlocks ++ [hardBlock] }

/-- `_HARD_BLOCK_ALARMS`. -/
def hardBlockAlarms : List (String × String) :=
  [("SYST-348", "SYST-348 payload monitor active — confirm the payload on the TP " ++
      "(RESET does NOT clear it; do not jog in AUTO — re-raises SYST-328)."),
    ("SYST-322", "SYST-322 auto status-check timeout — requires a controller power-cycle " ++
      "(+ DCS acknowledge).")]

/-- The report the full checks add to: the warnings so far, and a block for each active alarm
that no retry clears. -/
def Report.start (warnings : List (Warning R)) (alarms : List String) : Report R :=
  ⟨warnings, alarms.flatMap fun alarm => (hardBlockAlarms.filter fun known =>
    decide (known.1.toList <:+: alarm.toList)).map fun known => .alarm known.2, none⟩

/-! ### The checks -/

def pLevelMinWarn : String := "V9.40P84"

def pLevelMinHard : String := "V9.40P81"

def externalControlPrograms : List String := ["stream_motn", "rmi_move"]

/-- A field that is `None` or empty. -/
def given (text : Option String) : Option String := text.filter fun t => decide (t ≠ "")

def noteEdition (r : Report R) (facts : ControllerFacts R) (deliverVersion : String)
    (got : ℕ × ℕ × ℕ) : Report R :=
  match given (facts.version.bind VersionInfo.softwareEdition) with
  | none => r
  | some edition =>
    if pLevelKey edition ≠ some got then r.warn (.editionDiffers deliverVersion edition) else r

def checkPLevel (r : Report R) (facts : ControllerFacts R) : Report R :=
  match given (facts.order.bind OrderFile.deliverVersion) with
  | none => r.warn .notBanded
  | some deliverVersion =>
    match pLevelKey deliverVersion with
    | none => r.warn (.unparseable deliverVersion)
    | some got =>
      let banded :=
        if (pLevelKey pLevelMinHard).any (below got) then
          r.block (.pLevel deliverVersion pLevelMinHard)
        else if (pLevelKey pLevelMinWarn).any (below got) then
          r.warn (.warnBand deliverVersion pLevelMinWarn)
        else r
      noteEdition banded facts deliverVersion got

def missingFrom (facts : ControllerFacts R) (programs : List String) : List String :=
  programs.filter fun p => !facts.hasTpProgram p

def checkExternalControl (r : Report R) (facts : ControllerFacts R) : Report R :=
  let missingPrograms := missingFrom facts externalControlPrograms
  if facts.hasExternalControl then
    if missingPrograms ≠ [] ∧ facts.tpPrograms ≠ [] then r.warn (.orderedButMissing missingPrograms)
    else r
  else if facts.order = none then r
  else if missingPrograms = [] then r.warn .treatedAsPresent
  else r.block (.externalControl missingPrograms)

def checkGripper (r : Report R) (facts : ControllerFacts R) (programs : List String) : Report R :=
  let missing := missingFrom facts programs
  if missing ≠ [] ∧ facts.tpPrograms ≠ [] then r.block (.gripper missing) else r

/-- Entry `j` of `prof - ctrl`, one entry of the controller's stretched over all joints. -/
def delta (ctrl : List (Double R)) (prof : Joints R) (j : Fin supportedNdof) : Double R :=
  (Double.finite (degrees (prof j))).sub (ctrl.getD (if ctrl.length = 1 then 0 else j) .nan)

def diverging (tolerance : R) (ctrl : List (Double R)) (prof : Joints R) :
    List (Fin supportedNdof) :=
  (List.finRange supportedNdof).filter fun j => (delta ctrl prof j).abs.above tolerance

def wider (limit : PositionLimit) (d : Double R) : Bool :=
  match limit with
  | .lower => ((Double.finite 0).sub d).above 0
  | .upper => d.above 0

/-- The line about one joint. A stretched entry has no place of its own to be printed from. -/
def notePosition (limit : PositionLimit) (prof : Joints R) (ctrl : List (Double R))
    (done : Report R × Option NumpyError) (j : Fin supportedNdof) : Report R × Option NumpyError :=
  match done.2, ctrl[j.val]? with
  | some error, _ => (done.1, some error)
  | none, none => (done.1, some .indexError)
  | none, some value =>
    (done.1.warn (.position limit j (.finite (degrees (prof j))) value
      (wider limit (delta ctrl prof j))), none)

/-- One of the two loops over the position limits. Arrays that do not broadcast raise. -/
def crossCheckPosition (limit : PositionLimit) (prof : Joints R) (ctrl : List (Double R))
    (r : Report R) : Report R × Option NumpyError :=
  if ctrl.length ≠ supportedNdof ∧ ctrl.length ≠ 1 then (r, some .valueError)
  else (diverging (1 / 20) ctrl prof).foldl (notePosition limit prof ctrl) (r, none)

def noteVelocity (prof : Joints R) (ctrl : List (Double R)) (r : Report R)
    (j : Fin supportedNdof) : Report R :=
  r.warn (.velocity j (.finite (degrees (prof j))) (ctrl.getD j .nan)
    ((delta ctrl prof j).above 0))

def crossCheckVelocity (prof : Joints R) (ctrl : List (Double R)) (r : Report R) : Report R :=
  (diverging (1 / 2) ctrl prof).foldl (noteVelocity prof ctrl) r

def crossCheckProfile (r : Report R) (facts : ControllerFacts R) (profile : RobotProfile R) :
    Report R × Option NumpyError :=
  match facts.limits with
  | none => (r, none)
  | some limits =>
    if limits.ndof ≠ supportedNdof then (r.warn (.jointCount limits.ndof), none)
    else
      let r := crossCheckVelocity profile.velocityLimits (limits.velocityDegS.take supportedNdof) r
      match crossCheckPosition .lower profile.positionLimitsLower
          (limits.lowerDeg.take supportedNdof) r with
      | (r, some error) => (r, some error)
      | (r, none) =>
        crossCheckPosition .upper profile.positionLimitsUpper (limits.upperDeg.take supportedNdof) r

/-- The arguments of `_run_full_checks` besides the report. -/
structure Wanted (R : Type) [Field R] [LinearOrder R] where
  profile : Option (RobotProfile R)
  expectGripper : Bool
  gripperPrograms : List String

def noteProbe (r : Report R) (text : String) : Report R := r.warn (.probe text)

/-- `_run_full_checks` after the probe, which either gave facts or failed. What it raises leaves
the report as far as it had come. -/
def runFullChecks (wanted : Wanted R) (r : Report R) (outcome : Except String (ControllerFacts R)) :
    Report R × Option NumpyError :=
  match outcome with
  | .error text => (r.warn (.probeFailed text), none)
  | .ok facts =>
    let r := { r with controller := some facts }
    let r := facts.warnings.foldl noteProbe r
    let r := checkExternalControl (checkPLevel r facts) facts
    let r := if wanted.expectGripper then checkGripper r facts wanted.gripperPrograms else r
    match wanted.profile with
    | none => (r, none)
    | some profile => crossCheckProfile r facts profile

/-! ### What each check blocks -/

section Blocks

variable {r : Report R} {facts : ControllerFacts R}

omit [Field R] [LinearOrder R] in
@[simp] theorem Report.warn_hardBlocks (r : Report R) (warning : Warning R) :
    (r.warn warning).hardBlocks = r.hardBlocks := rfl

omit [Field R] [LinearOrder R] in
@[simp] theorem Report.block_hardBlocks (r : Report R) (hardBlock : HardBlock) :
    (r.block hardBlock).hardBlocks = r.hardBlocks ++ [hardBlock] := rfl

omit [Field R] [LinearOrder R] in
theorem foldl_hardBlocks {α : Type} (note : Report R → α → Report R)
    (quiet : ∀ r a, (note r a).hardBlocks = r.hardBlocks) (l : List α) (r : Report R) :
    (l.foldl note r).hardBlocks = r.hardBlocks := by
  induction l generalizing r with
  | nil => rfl
  | cons a l ih => exact (ih (note r a)).trans (quiet r a)

omit [Field R] [LinearOrder R] in
theorem noteEdition_hardBlocks (deliverVersion : String) (got : ℕ × ℕ × ℕ) :
    (noteEdition r facts deliverVersion got).hardBlocks = r.hardBlocks := by
  simp only [noteEdition]
  split
  · rfl
  · split <;> rfl

/-- The Deliver Ver that is below the hard floor. -/
def belowFloor (facts : ControllerFacts R) : Option String :=
  (given (facts.order.bind OrderFile.deliverVersion)).filter fun deliverVersion =>
    (pLevelKey deliverVersion).any fun got => (pLevelKey pLevelMinHard).any (below got)

omit [Field R] [LinearOrder R] in
theorem checkPLevel_hardBlocks : (checkPLevel r facts).hardBlocks =
    r.hardBlocks ++ ((belowFloor facts).map fun v => HardBlock.pLevel v pLevelMinHard).toList := by
  simp only [checkPLevel, belowFloor]
  split
  case h_1 unknown => simp [unknown]
  case h_2 deliverVersion known =>
    split
    case h_1 key => simp [known, key]
    case h_2 got key =>
      rw [noteEdition_hardBlocks]
      split
      case isTrue floor => simp [known, key, floor, Option.filter]
      case isFalse floor => split <;> simp [known, key, floor, Option.filter]

omit [Field R] [LinearOrder R] in
theorem checkExternalControl_hardBlocks : (checkExternalControl r facts).hardBlocks =
    r.hardBlocks ++ if facts.hasExternalControl = false ∧ facts.order ≠ none ∧
        missingFrom facts externalControlPrograms ≠ [] then
      [.externalControl (missingFrom facts externalControlPrograms)] else [] := by
  simp only [checkExternalControl]
  cases ordered : facts.hasExternalControl with
  | true =>
    rw [if_pos rfl]
    split <;> simp
  | false =>
    rw [if_neg Bool.false_ne_true]
    split
    case isTrue unknown => simp [unknown]
    case isFalse known =>
      split
      case isTrue present => simp [present]
      case isFalse missing => simp [known, missing]

omit [Field R] [LinearOrder R] in
theorem checkGripper_hardBlocks (programs : List String) :
    (checkGripper r facts programs).hardBlocks =
    r.hardBlocks ++ if missingFrom facts programs ≠ [] ∧ facts.tpPrograms ≠ [] then
      [.gripper (missingFrom facts programs)] else [] := by
  simp only [checkGripper]
  split <;> simp

theorem crossCheckPosition_hardBlocks (limit : PositionLimit) (prof : Joints R)
    (ctrl : List (Double R)) : (crossCheckPosition limit prof ctrl r).1.hardBlocks = r.hardBlocks := by
  have quiet (l : List (Fin supportedNdof)) (done : Report R × Option NumpyError) :
      (l.foldl (notePosition limit prof ctrl) done).1.hardBlocks = done.1.hardBlocks := by
    induction l generalizing done with
    | nil => rfl
    | cons j l ih =>
      rw [List.foldl_cons, ih]
      simp only [notePosition]
      split <;> rfl
  simp only [crossCheckPosition]
  split
  · rfl
  · exact quiet _ _

/-- The cross-check of the profile only ever warns. -/
theorem crossCheckProfile_hardBlocks (profile : RobotProfile R) :
    (crossCheckProfile r facts profile).1.hardBlocks = r.hardBlocks := by
  have velocity (prof : Joints R) (ctrl : List (Double R)) :
      (crossCheckVelocity prof ctrl r).hardBlocks = r.hardBlocks :=
    foldl_hardBlocks (noteVelocity prof ctrl) (fun _ _ => rfl) _ r
  simp only [crossCheckProfile]
  split
  · rfl
  · split
    · rfl
    · split
      case h_1 lowered =>
        have first := congrArg (fun done => done.1.hardBlocks) lowered
        simp only [crossCheckPosition_hardBlocks, velocity] at first
        exact first.symm
      case h_2 lowered =>
        have first := congrArg (fun done => done.1.hardBlocks) lowered
        simp only [crossCheckPosition_hardBlocks, velocity] at first
        exact (crossCheckPosition_hardBlocks _ _ _).trans first.symm

/-- The hard blocks one probe's facts raise. -/
def blocks (wanted : Wanted R) (facts : ControllerFacts R) : List HardBlock :=
  ((belowFloor facts).map fun v => HardBlock.pLevel v pLevelMinHard).toList ++
    (if facts.hasExternalControl = false ∧ facts.order ≠ none ∧
        missingFrom facts externalControlPrograms ≠ [] then
      [.externalControl (missingFrom facts externalControlPrograms)] else []) ++
    if wanted.expectGripper = true ∧ missingFrom facts wanted.gripperPrograms ≠ [] ∧
        facts.tpPrograms ≠ [] then
      [.gripper (missingFrom facts wanted.gripperPrograms)] else []

theorem runFullChecks_hardBlocks (wanted : Wanted R) (r : Report R) (facts : ControllerFacts R) :
    (runFullChecks wanted r (.ok facts)).1.hardBlocks = r.hardBlocks ++ blocks wanted facts := by
  simp only [runFullChecks]
  generalize start : { r with controller := some facts } = started
  have same : started.hardBlocks = r.hardBlocks := by rw [← start]
  have probed : (facts.warnings.foldl noteProbe started).hardBlocks = r.hardBlocks :=
    (foldl_hardBlocks noteProbe (fun _ _ => rfl) _ _).trans same
  generalize facts.warnings.foldl noteProbe started = r' at probed
  have checked : (if wanted.expectGripper = true then
      checkGripper (checkExternalControl (checkPLevel r' facts) facts) facts wanted.gripperPrograms
      else checkExternalControl (checkPLevel r' facts) facts).hardBlocks =
      r.hardBlocks ++ blocks wanted facts := by
    cases gripper : wanted.expectGripper <;>
      simp [blocks, gripper, checkGripper_hardBlocks, checkExternalControl_hardBlocks,
        checkPLevel_hardBlocks, probed]
  split
  · exact checked
  · exact (crossCheckProfile_hardBlocks _).trans checked

end Blocks

/-! ### Losing facts -/

section Losing

/-- `less` is what a probe that found out `known` reports when files or the listing were not
fetched and fields or lines of a file not parsed. -/
structure LessKnown (known less : ControllerFacts R) : Prop where
  order : ∀ o', less.order = some o' → ∃ o, known.order = some o ∧
    (o'.deliverVersion = none ∨ o'.deliverVersion = o.deliverVersion) ∧
    o'.options.Sublist o.options
  version : ∀ v', less.version = some v' → ∃ v, known.version = some v ∧
    (v'.model = none ∨ v'.model = v.model) ∧
    (v'.softwareEdition = none ∨ v'.softwareEdition = v.softwareEdition)
  limits : ∀ l', less.limits = some l' → ∃ l, known.limits = some l ∧
    (l'.velocityDegS = [] ∨ l'.velocityDegS = l.velocityDegS) ∧
    (l'.lowerDeg = [] ∨ l'.lowerDeg = l.lowerDeg) ∧
    (l'.upperDeg = [] ∨ l'.upperDeg = l.upperDeg)
  tpPrograms : less.tpPrograms = [] ∨ less.tpPrograms = known.tpPrograms

/-- The same for whole outcomes: a probe that fails knows nothing. -/
inductive Forgets : Except String (ControllerFacts R) → Except String (ControllerFacts R) → Prop
  | failed (known : Except String (ControllerFacts R)) (text : String) : Forgets known (.error text)
  | facts {known less : ControllerFacts R} (less_known : LessKnown known less) :
      Forgets (.ok known) (.ok less)

/-- What raises a hard block. -/
inductive Check where
  | alarm (hint : String)
  | pLevel
  | externalControl
  | gripper
  deriving DecidableEq, Repr

def HardBlock.check : HardBlock → Check
  | .alarm hint => .alarm hint
  | .pLevel _ _ => .pLevel
  | .externalControl _ => .externalControl
  | .gripper _ => .gripper

/-- The External Control Package is ordered, or its programs are installed. -/
def ControllerFacts.Evident (facts : ControllerFacts R) : Prop :=
  facts.hasExternalControl = true ∨ missingFrom facts externalControlPrograms = []

/-- What `less` still has of the order file comes with the evidence `known` has. -/
def EvidenceKept : Except String (ControllerFacts R) → Except String (ControllerFacts R) → Prop
  | .ok known, .ok less => less.order = none ∨ (known.Evident → less.Evident)
  | _, _ => True

variable {known less : ControllerFacts R}

theorem given_eq_some {text : Option String} {t : String} (found : given text = some t) :
    text = some t := by
  rw [given, Option.filter_eq_some_iff] at found
  exact found.1

omit [Field R] [LinearOrder R] in
/-- A Deliver Ver that is still known is below the floor as it was. -/
theorem LessKnown.belowFloor (lost : LessKnown known less) {v : String}
    (found : belowFloor less = some v) : belowFloor known = some v := by
  rw [Probe.belowFloor, Option.filter_eq_some_iff] at found ⊢
  obtain ⟨named, low⟩ := found
  refine ⟨?_, low⟩
  have field := given_eq_some named
  obtain ⟨o', order, version⟩ := Option.bind_eq_some_iff.mp field
  obtain ⟨o, was, kept, -⟩ := lost.order o' order
  rcases kept with gone | same
  · rw [gone] at version
    cases version
  · rw [order, Option.bind_some, same] at named
    rw [was, Option.bind_some]
    exact named

omit [Field R] [LinearOrder R] in
theorem LessKnown.missingFrom (lost : LessKnown known less) (programs : List String)
    (listed : less.tpPrograms ≠ []) : missingFrom less programs = missingFrom known programs := by
  simp only [Probe.missingFrom, ControllerFacts.hasTpProgram, lost.tpPrograms.resolve_left listed]

theorem mem_blocks {wanted : Wanted R} {facts : ControllerFacts R} {b : HardBlock} :
    b ∈ blocks wanted facts ↔
      (∃ v, Probe.belowFloor facts = some v ∧ b = .pLevel v pLevelMinHard) ∨
      ((facts.order ≠ none ∧ ¬ facts.Evident) ∧
        b = .externalControl (Probe.missingFrom facts externalControlPrograms)) ∨
      ((wanted.expectGripper = true ∧ Probe.missingFrom facts wanted.gripperPrograms ≠ [] ∧
        facts.tpPrograms ≠ []) ∧ b = .gripper (Probe.missingFrom facts wanted.gripperPrograms)) := by
  have judged : (facts.hasExternalControl = false ∧ facts.order ≠ none ∧
      Probe.missingFrom facts externalControlPrograms ≠ []) ↔
      (facts.order ≠ none ∧ ¬ facts.Evident) := by
    simp only [ControllerFacts.Evident, not_or, Bool.not_eq_true]
    tauto
  simp only [blocks, judged, List.mem_append, or_assoc, Option.mem_toList,
    Option.map_eq_some_iff, List.mem_ite_nil_right, List.mem_singleton, @eq_comm _ b]

omit [Field R] [LinearOrder R] in
theorem start_alarms {warnings : List (Warning R)} {alarms : List String} {b : HardBlock}
    (member : b ∈ (Report.start warnings alarms).hardBlocks) : ∃ hint, b.check = .alarm hint := by
  simp only [Report.start, List.mem_flatMap, List.mem_map] at member
  obtain ⟨-, -, alarm, -, rfl⟩ := member
  exact ⟨alarm.2, rfl⟩

/-- Losing facts adds no hard block exactly if the order file is lost with the evidence it is
judged by, or the evidence is kept. -/
theorem hardBlocks_iff (wanted : Wanted R) (warnings : List (Warning R)) (alarms : List String)
    {known less : Except String (ControllerFacts R)} (forgets : Forgets known less) :
    (∀ b ∈ (runFullChecks wanted (.start warnings alarms) less).1.hardBlocks,
      ∃ b' ∈ (runFullChecks wanted (.start warnings alarms) known).1.hardBlocks,
        b'.check = b.check) ↔ EvidenceKept known less := by
  generalize began : Report.start warnings alarms = r
  have alarmed : ∀ b ∈ r.hardBlocks, ∃ hint, b.check = .alarm hint := by
    intro b member
    rw [← began] at member
    exact start_alarms member
  cases forgets with
  | failed known text =>
    have kept : EvidenceKept known (.error text) := by cases known <;> trivial
    refine ⟨fun _ => kept, fun _ b member => ⟨b, ?_, rfl⟩⟩
    cases known with
    | error => exact member
    | ok known =>
      rw [runFullChecks_hardBlocks]
      exact List.mem_append_left _ member
  | @facts known less lost =>
    simp only [runFullChecks_hardBlocks, EvidenceKept]
    constructor
    · intro kept
      by_contra forgotten
      obtain ⟨ordered, evident⟩ := not_or.mp forgotten
      obtain ⟨evident, unseen⟩ := Classical.not_imp.mp evident
      have raised : .externalControl (Probe.missingFrom less externalControlPrograms) ∈
          r.hardBlocks ++ blocks wanted less :=
        List.mem_append_right _ (mem_blocks.mpr (.inr (.inl ⟨⟨ordered, unseen⟩, rfl⟩)))
      obtain ⟨b', member, same⟩ := kept _ raised
      rcases List.mem_append.mp member with early | late
      · obtain ⟨hint, alarm⟩ := alarmed b' early
        rw [alarm] at same
        cases same
      · rcases mem_blocks.mp late with ⟨v, -, rfl⟩ | ⟨⟨-, blocked⟩, -⟩ | ⟨-, rfl⟩
        · cases same
        · exact blocked evident
        · cases same
    · intro kept b member
      rcases List.mem_append.mp member with early | late
      · exact ⟨b, List.mem_append_left _ early, rfl⟩
      · rcases mem_blocks.mp late with
          ⟨v, low, rfl⟩ | ⟨⟨ordered, unseen⟩, rfl⟩ | ⟨⟨wants, missing, listed⟩, rfl⟩
        · refine ⟨_, List.mem_append_right _ (mem_blocks.mpr (.inl ⟨v, ?_, rfl⟩)), rfl⟩
          exact lost.belowFloor low
        · have known_order : known.order ≠ none := by
            obtain ⟨o', order⟩ := Option.ne_none_iff_exists'.mp ordered
            obtain ⟨o, was, -⟩ := lost.order o' order
            rw [was]
            exact Option.some_ne_none o
          have blocked : ¬ known.Evident := fun evident => unseen (kept.resolve_left ordered evident)
          exact ⟨_, List.mem_append_right _
            (mem_blocks.mpr (.inr (.inl ⟨⟨known_order, blocked⟩, rfl⟩))), rfl⟩
        · rw [lost.missingFrom _ listed] at missing
          have listing := lost.tpPrograms.resolve_left listed
          rw [listing] at listed
          exact ⟨_, List.mem_append_right _
            (mem_blocks.mpr (.inr (.inr ⟨⟨wants, missing, listed⟩, rfl⟩))), rfl⟩

/-- An order file with these options, and these programs on the controller. -/
def ordered (deliverVersion : String) (options : List (String × String)) (programs : List String) :
    ControllerFacts ℚ :=
  ⟨some ⟨some deliverVersion, options⟩, none, none, programs, []⟩

def checksOnly : Wanted ℚ := ⟨none, true, ["gripdisp", "grprun"]⟩

theorem listing_lost (deliverVersion : String) (options : List (String × String))
    (programs : List String) :
    Forgets (.ok (ordered deliverVersion options programs))
      (.ok (ordered deliverVersion options [])) := by
  constructor
  constructor
  · rintro o' same
    exact ⟨o', same, .inr rfl, List.Sublist.refl _⟩
  · rintro v' same
    cases same
  · rintro l' same
    cases same
  · exact .inl rfl

theorem hardBlocks_iff_ordered :
    (ordered "V9.40/P70" [("1A05B-2600-S636", "External Control Pkg")]
      []).hasExternalControl = true ∧
    ∀ b ∈ (runFullChecks checksOnly (.start [] []) (.ok (ordered "V9.40/P70"
        [("1A05B-2600-S636", "External Control Pkg")] []))).1.hardBlocks,
      ∃ b' ∈ (runFullChecks checksOnly (.start [] []) (.ok (ordered "V9.40/P70"
        [("1A05B-2600-S636", "External Control Pkg")] ["rmi_move"]))).1.hardBlocks,
        b'.check = b.check := by
  have evident : (ordered "V9.40/P70" [("1A05B-2600-S636", "External Control Pkg")]
      []).hasExternalControl = true := by decide +kernel
  constructor
  · exact evident
  · apply (hardBlocks_iff checksOnly [] [] (listing_lost _ _ _)).mpr
    exact .inr fun _ => .inl evident

/-- S636 is not in the order file but both programs are installed; when the listing is not fetched
the bring-up is refused for it. -/
theorem listing_lost_blocks : ∃ known less : Except String (ControllerFacts ℚ),
    Forgets known less ∧ ∃ b ∈ (runFullChecks checksOnly (.start [] []) less).1.hardBlocks,
      ∀ b' ∈ (runFullChecks checksOnly (.start [] []) known).1.hardBlocks, b'.check ≠ b.check := by
  refine ⟨.ok (ordered "V9.40/P84" [("1A05B-2680-H705", "CRX-10iA/L")]
    ["gripdisp", "grprun", "rmi_move", "stream_motn"]), _, listing_lost _ _ _,
    .externalControl ["stream_motn", "rmi_move"], ?_, ?_⟩
  · decide +kernel
  · have none : (runFullChecks checksOnly (.start [] []) (.ok (ordered "V9.40/P84"
        [("1A05B-2680-H705", "CRX-10iA/L")]
        ["gripdisp", "grprun", "rmi_move", "stream_motn"]))).1.hardBlocks = [] := by
      decide +kernel
    rw [none]
    exact List.forall_mem_nil _

end Losing

end AiroFanuc.Probe

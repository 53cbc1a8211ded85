import AiroFanuc.TickEngine.Config

/-! Cubic-Hermite playback: the basis, the trajectory sampler and the end blend. -/

namespace AiroFanuc.TickEngine

structure HermiteSample (R : Type) where
  q : Vec6 R
  qd : Vec6 R
  qdd : Vec6 R

def HermiteSample.zero {R : Type} [Zero R] : HermiteSample R := ⟨0, 0, 0⟩

def HermiteSample.atRest {R : Type} [Zero R] (q : Vec6 R) : HermiteSample R := ⟨q, 0, 0⟩

section Eval

variable {R : Type} [Field R]

def hermiteEval (q0 qd0 q1 qd1 : Vec6 R) (s hS : R) : HermiteSample R :=
  let s2 := s * s
  let s3 := s2 * s
  let h00 := 2 * s3 - 3 * s2 + 1
  let h10 := s3 - 2 * s2 + s
  let h01 := -2 * s3 + 3 * s2
  let h11 := s3 - s2
  let h00d := 6 * s2 - 6 * s
  let h10d := 3 * s2 - 4 * s + 1
  let h01d := -6 * s2 + 6 * s
  let h11d := 3 * s2 - 2 * s
  let h00dd := 12 * s - 6
  let h10dd := 6 * s - 4
  let h01dd := -12 * s + 6
  let h11dd := 6 * s - 2
  let invH := 1 / hS
  let invH2 := invH * invH
  { q := fun j => h00 * q0 j + h10 * hS * qd0 j + h01 * q1 j + h11 * hS * qd1 j
    qd := fun j => (h00d * q0 j + h01d * q1 j) * invH + h10d * qd0 j + h11d * qd1 j
    qdd := fun j =>
      (h00dd * q0 j + h01dd * q1 j) * invH2 + (h10dd * qd0 j + h11dd * qd1 j) * invH }

def hermiteAtNs (t0Ns : Int) (q0 qd0 : Vec6 R) (t1Ns : Int) (q1 qd1 : Vec6 R)
    (tQueryNs : Int) : HermiteSample R :=
  let hNs := wrapInt64 (t1Ns - t0Ns)
  if hNs ≤ 0 then .atRest q1
  else
    let hS : R := (hNs : R) / 10 ^ 9
    let s : R := (wrapInt64 (tQueryNs - t0Ns) : R) / (hNs : R)
    hermiteEval q0 qd0 q1 qd1 s hS

end Eval

/-- A view of one submitted trajectory. The knots are copied by value: a submitted
buffer is never written again, and who owns it is tracked by its pointer. -/
structure TrajectorySampler (R : Type) where
  times : List Int
  q : List (Vec6 R)
  qd : List (Vec6 R)
  n : Nat

section Sampler

variable {R : Type} [Field R] [LinearOrder R] [FloorRing R]

def TrajectorySampler.unbound : TrajectorySampler R := ⟨[], [], [], 0⟩

def TrajectorySampler.bind (timesNs : List Int) (q qd : List (Vec6 R)) (n : Nat) :
    TrajectorySampler R := ⟨timesNs, q, qd, n⟩

def TrajectorySampler.durationNs (s : TrajectorySampler R) : Int :=
  if s.n < 2 then 0 else wrapInt64 (s.times.getD (s.n - 1) 0 - s.times.getD 0 0)

def TrajectorySampler.qLast (s : TrajectorySampler R) : Vec6 R := s.q.getD (s.n - 1) 0
def TrajectorySampler.qdLast (s : TrajectorySampler R) : Vec6 R := s.qd.getD (s.n - 1) 0

/-- `std::upper_bound` over the first `n` knot times. -/
def upperBound (times : List Int) (n : Nat) (query : Int) : Nat :=
  (times.take n).findIdx (fun t => decide (query < t))

def TrajectorySampler.sample (s : TrajectorySampler R) (tauNs : Int) (speedScale : R) :
    HermiteSample R :=
  if s.n < 1 then .zero
  else if s.n = 1 then .atRest (s.q.getD 0 0)
  else
    let t0d : R := (s.times.getD 0 0 : R)
    let tEndD : R := (s.times.getD (s.n - 1) 0 : R)
    let tQuery := t0d + speedScale * (tauNs : R)
    if tQuery ≤ t0d then .atRest (s.q.getD 0 0)
    else if tEndD ≤ tQuery then .atRest (s.q.getD (s.n - 1) 0)
    else
      let hi := min (max (upperBound s.times s.n (truncInt64 tQuery)) 1) (s.n - 1)
      let lo := hi - 1
      let segNs : R := (wrapInt64 (s.times.getD hi 0 - s.times.getD lo 0) : R)
      let hS := segNs / 10 ^ 9
      let u := (tQuery - (s.times.getD lo 0 : R)) / segNs
      let nat := hermiteEval (s.q.getD lo 0) (s.qd.getD lo 0) (s.q.getD hi 0) (s.qd.getD hi 0) u hS
      { q := nat.q
        qd := fun j => speedScale * nat.qd j
        qdd := fun j => speedScale * speedScale * nat.qdd j }

end Sampler

structure QdEndBlend (R : Type) where
  qEnd : Vec6 R
  qdEnd : Vec6 R
  qCoast : Vec6 R
  durNs : Int
  numTicks : Int
  maxAbsQdEnd : R
  active : Bool

section Blend

variable {R : Type} [Field R] [LinearOrder R] [FloorRing R]

def QdEndBlend.cleared : QdEndBlend R := ⟨0, 0, 0, 0, 0, 0, false⟩

/-- `num_ticks_` of a blend that moves. -/
def QdEndBlend.ticks (minBlendS itpS : R) : Int :=
  max 1 (castInt32 ⌈minBlendS / itpS - 1 / 10 ^ 9⌉)

/-- Every field is overwritten, so the planned blend does not depend on the one before. -/
def QdEndBlend.plan (qEnd qdEnd : Vec6 R) (minBlendS itpS : R) : QdEndBlend R :=
  if maxAbs qdEnd ≤ 0 then
    { qEnd := qEnd
      qdEnd := qdEnd
      qCoast := qEnd
      durNs := 0
      numTicks := 0
      maxAbsQdEnd := maxAbs qdEnd
      active := false }
  else
    let numTicks := ticks minBlendS itpS
    let durS : R := (numTicks : R) * itpS
    { qEnd := qEnd
      qdEnd := qdEnd
      qCoast := fun j => qEnd j + 1 / 2 * durS * qdEnd j
      durNs := llround (durS * 10 ^ 9)
      numTicks := numTicks
      maxAbsQdEnd := maxAbs qdEnd
      active := true }

def QdEndBlend.sample (b : QdEndBlend R) (tauNs : Int) : HermiteSample R :=
  if b.active = false ∨ b.durNs ≤ tauNs then .atRest b.qCoast
  else if tauNs ≤ 0 then
    -- The entry sample already carries the ramp's constant acceleration.
    let hS : R := (b.durNs : R) / 10 ^ 9
    { q := b.qEnd, qd := b.qdEnd, qdd := fun j => -b.qdEnd j / hS }
  else hermiteAtNs 0 b.qEnd b.qdEnd b.durNs b.qCoast 0 tauNs

end Blend

end AiroFanuc.TickEngine

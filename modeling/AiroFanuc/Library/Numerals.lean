import Mathlib.Data.Nat.Init

/-! The numerals that definitions over an arbitrary field share. That each is at least two is a
constant of its own, so the same numeral is the same term wherever it is written. -/

namespace AiroFanuc.Library

instance two_atLeastTwo : Nat.AtLeastTwo 2 := ⟨by decide⟩

instance three_atLeastTwo : Nat.AtLeastTwo 3 := ⟨by decide⟩

instance four_atLeastTwo : Nat.AtLeastTwo 4 := ⟨by decide⟩

instance five_atLeastTwo : Nat.AtLeastTwo 5 := ⟨by decide⟩

instance six_atLeastTwo : Nat.AtLeastTwo 6 := ⟨by decide⟩

instance eight_atLeastTwo : Nat.AtLeastTwo 8 := ⟨by decide⟩

instance ten_atLeastTwo : Nat.AtLeastTwo 10 := ⟨by decide⟩

instance twelve_atLeastTwo : Nat.AtLeastTwo 12 := ⟨by decide⟩

instance fifteen_atLeastTwo : Nat.AtLeastTwo 15 := ⟨by decide⟩

instance twenty_atLeastTwo : Nat.AtLeastTwo 20 := ⟨by decide⟩

instance hundred_atLeastTwo : Nat.AtLeastTwo 100 := ⟨by decide⟩

instance straightAngle_atLeastTwo : Nat.AtLeastTwo 180 := ⟨by decide⟩

instance thousand_atLeastTwo : Nat.AtLeastTwo 1000 := ⟨by decide⟩

end AiroFanuc.Library

/-!
# Virtual time

Virtual time is counted in whole microseconds of 64 bits.  A sum that does not
fit stops at the greatest time.
-/

namespace VipHost

/-- A sum of times in microseconds, stopped at the greatest. -/
def saturatingAdd (a b : UInt64) : UInt64 :=
  UInt64.ofNat (min (a.toNat + b.toNat) (UInt64.size - 1))

theorem toNat_saturatingAdd (a b : UInt64) :
    (saturatingAdd a b).toNat = min (a.toNat + b.toNat) (UInt64.size - 1) := by
  simp only [saturatingAdd, UInt64.toNat_ofNat', UInt64.size]
  omega

end VipHost

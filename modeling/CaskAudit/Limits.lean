/-!
# Limits

The numbers at which a count in 32 or 64 bits ends.
-/

namespace CaskAudit

/-- The first number that 32 bits cannot hold. -/
abbrev limit32 : Nat := 4294967296

/-- The first number that 64 bits cannot hold. -/
abbrev limit64 : Nat := 18446744073709551616

/-- Whether 64 bits, of which one is the sign, hold a number. -/
abbrev FitsSigned64 (n : Int) : Prop := -9223372036854775808 ≤ n ∧ n < 9223372036854775808

end CaskAudit

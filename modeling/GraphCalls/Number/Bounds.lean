/-
The numbers that fit words of 32 and 64 bits.
-/
namespace GraphCalls
namespace Bounds

/-- The largest number of 32 bits. -/
def maxUnsigned32 : Nat := 4294967295

/-- The largest number of 64 bits. -/
def maxUnsigned64 : Nat := 18446744073709551615

/-- The largest number of 64 bits of which one is the sign. -/
def maxSigned64 : Nat := 9223372036854775807

/-- The magnitude of the smallest number of 64 bits of which one is the sign. -/
def minSigned64 : Nat := 9223372036854775808

end Bounds
end GraphCalls

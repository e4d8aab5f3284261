/-!
Amounts: whole numbers in the 64 bits that a store keeps of them.
-/

namespace Wagebook.Amount

def Fits (n : Int) : Prop := -0x8000000000000000 ≤ n ∧ n < 0x8000000000000000

instance (n : Int) : Decidable (Fits n) := by unfold Fits; infer_instance

/-- What 64 bits keep of a number: one that does not fit wraps around. -/
def wrapped (n : Int) : Int := n.bmod 0x10000000000000000

end Wagebook.Amount

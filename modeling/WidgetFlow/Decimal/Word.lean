/-!
# Machine words

The whole numbers that fit a signed machine word of 64 bits, and the word that a number becomes when
only its last 64 bits are kept.
-/

namespace WidgetFlow.Decimal

/-- The least signed machine word. -/
def leastWord : Int := -9223372036854775808

/-- The greatest signed machine word. -/
def greatestWord : Int := 9223372036854775807

/-- The greatest machine word without sign. -/
def greatestUnsigned : Nat := 18446744073709551615

/-- The number fits a signed machine word. -/
def fitsWord (n : Int) : Bool := leastWord ≤ n && n ≤ greatestWord

/-- The signed machine word with the last 64 bits of a number: past the greatest comes the least. -/
def wrapWord (n : Int) : Int := n.bmod (greatestUnsigned + 1)

end WidgetFlow.Decimal

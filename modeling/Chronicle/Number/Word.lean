/-!
# Words of 64 bits

The integers that fit a word of 64 bits with a sign.
-/
namespace Chronicle

/-- What the integers of a word stay below. -/
def wordBound : Nat := 0x8000000000000000

/-- Whether an integer fits a word. -/
def fitsWord (i : Int) : Bool :=
  -(wordBound : Int) ≤ i && i < wordBound

end Chronicle

/-! Character sets as tables of inclusive code point ranges. -/
namespace Reckoner.Text

abbrev Ranges := Array (Nat × Nat)

def Ranges.hold (ranges : Ranges) (c : Char) : Bool :=
  ranges.any fun range => range.1 ≤ c.toNat && c.toNat ≤ range.2

end Reckoner.Text

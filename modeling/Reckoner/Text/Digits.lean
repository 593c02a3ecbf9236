/-! ASCII decimal digits. Digits of other scripts are treated as letters. -/
namespace Reckoner.Text

def isDigits (cs : List Char) : Bool := !cs.isEmpty && cs.all Char.isDigit

/-- Most significant digit first. -/
def ofDigits (cs : List Char) : Nat := cs.foldl (fun n c => 10 * n + (c.toNat - '0'.toNat)) 0

end Reckoner.Text

import Reckoner.Tree.Basic

/-! Prefix notation of trees, `(- (+ 1 2) 3)`, by a worklist, as sums can be as deep as their
text is long. -/
namespace Reckoner.Tree

inductive Piece where
  | tree (t : Tree)
  | text (s : String)

def Piece.weight : Piece → Nat
  | tree t => 5 * t.size
  | text _ => 1

def totalWeight : List Piece → Nat
  | [] => 0
  | p :: rest => p.weight + totalWeight rest

def write (out : String) : List Piece → String
  | [] => out
  | .text s :: due => write (out ++ s) due
  | .tree (literal v _) :: due => write (out ++ v.text) due
  | .tree (operation o l r _) :: due =>
    write (out ++ "(" ++ o.text ++ " ") (.tree l :: .text " " :: .tree r :: .text ")" :: due)
termination_by due => totalWeight due
decreasing_by all_goals simp only [totalWeight, Piece.weight, size]; omega

def display (t : Tree) : String := write "" [.tree t]

end Reckoner.Tree

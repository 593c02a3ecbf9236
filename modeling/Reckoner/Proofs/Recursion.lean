import Reckoner.Tree.Display
import Reckoner.Proofs.Pointing

/-! Call depth of evaluation and display as loops over the left spine with a nested call for
each right operand. Parsed trees need at most one call more than the nesting limit, and the
length of a sum does not count. -/
namespace Reckoner

namespace Tree

/-- Maximum number of simultaneously active calls. -/
def nestedCalls : Tree → Nat
  | literal .. => 0
  | operation _ left right _ => max left.nestedCalls (right.nestedCalls + 1)

def leaf : Tree → Value
  | literal v _ => v
  | operation _ left _ _ => left.leaf

def links : Tree → List (Token × Tree)
  | literal .. => []
  | operation o left right _ => left.links ++ [(o,right)]

def openings : Tree → String
  | literal .. => ""
  | operation o left _ _ => "(" ++ o.text ++ " " ++ left.openings

/-- A left-associated sum of several operands. -/
def chain (first : Tree) (links : List (Token × Tree)) : Tree :=
  links.foldl (fun left link => join link.1 left link.2) first

end Tree

/-- A traversal by a loop over the left spine: initial value, and the step over an operator
given the result for its right operand. -/
structure Walk (α : Type) where
  start : Tree → α
  resume : α → Token → α → Except Error α

namespace Walk

def evaluating (policy : OverflowPolicy) : Walk Value := ⟨Tree.leaf,fun v o right => policy.apply o v right⟩

/-- Display accumulates the text written so far. -/
def writing : Walk String :=
  ⟨fun t => t.openings ++ t.leaf.text,fun out _ right => .ok (out ++ (" " ++ right ++ ")"))⟩

variable {α : Type}

/-- The loop over operators and right operands. `call` handles a right operand, and the loop has
no result where `call` has none. -/
def loop (w : Walk α) (call : Tree → Option (Except Error α)) (a : α) :
    List (Token × Tree) → Option (Except Error α)
  | [] => some (.ok a)
  | (o,right) :: links =>
    match call right with
    | none => none
    | some (.error e) => some (.error e)
    | some (.ok b) =>
      match w.resume a o b with
      | .error e => some (.error e)
      | .ok a => w.loop call a links

/-- The traversal with at most this many nested calls; no result if it needs more. -/
def within (w : Walk α) : Nat → Tree → Option (Except Error α)
  | 0, t => w.loop (fun _ => none) (w.start t) t.links
  | calls + 1, t => w.loop (w.within calls) (w.start t) t.links

variable {w : Walk α} {call other : Tree → Option (Except Error α)} {links : List (Token × Tree)}
  {calls : Nat} {t : Tree}

theorem loop_congr {a : α} (same : ∀ link ∈ links, call link.2 = other link.2) :
    w.loop call a links = w.loop other a links := by
  induction links generalizing a with
  | nil => rfl
  | cons link links ih =>
    obtain ⟨first,same⟩ := List.forall_mem_cons.mp same
    simp only [loop,first,ih same]

theorem loop_append {a : α} {more : List (Token × Tree)} : w.loop call a (links ++ more) =
    match w.loop call a links with
    | some (.ok a) => w.loop call a more
    | unfinished => unfinished := by
  induction links generalizing a with
  | nil => rfl
  | cons link links ih =>
    rw [List.cons_append,loop,loop]
    cases call link.2 with
    | none => rfl
    | some result =>
      cases result with
      | error e => rfl
      | ok b =>
        dsimp only
        cases w.resume a link.1 b with
        | error e => rfl
        | ok next => exact ih

theorem loop_called {a b : α} (done : w.loop call a links = some (.ok b)) :
    ∀ link ∈ links, ∃ c, call link.2 = some (.ok c) := by
  induction links generalizing a with
  | nil => exact nofun
  | cons link links ih =>
    rw [loop] at done
    split at done
    next => cases done
    next => cases done
    next c called =>
      split at done
      next => cases done
      next => exact List.forall_mem_cons.mpr ⟨⟨c,called⟩,ih done⟩

end Walk

namespace Tree

/-- The call depth depends on the right operands only. -/
theorem nestedCalls_le {t : Tree} {calls : Nat} :
    t.nestedCalls ≤ calls ↔ ∀ link ∈ t.links, link.2.nestedCalls < calls := by
  induction t with
  | literal => simp [nestedCalls,links]
  | operation o left right s ihl =>
    rw [nestedCalls,links,List.forall_mem_append,List.forall_mem_singleton,← ihl]
    exact Nat.max_le

theorem nestedCalls_chain {first : Tree} {links : List (Token × Tree)} {calls : Nat} :
    (first.chain links).nestedCalls ≤ calls ↔
      first.nestedCalls ≤ calls ∧ ∀ link ∈ links, link.2.nestedCalls < calls := by
  induction links generalizing first with
  | nil => simp [chain]
  | cons link links ih =>
    have step : first.chain (link :: links) = (join link.1 first link.2).chain links := rfl
    rw [step,ih,join,nestedCalls,List.forall_mem_cons,← and_assoc]
    refine and_congr_left fun _ => ?_
    omega

/-- A literal right operand takes a call but no group. -/
theorem nestedCalls_le_rightDepth (t : Tree) : t.nestedCalls ≤ t.rightDepth + 1 := by
  induction t with
  | literal => exact Nat.zero_le _
  | operation o left right s ihl ihr =>
    cases right with
    | literal =>
      simp only [nestedCalls,rightDepth,isLiteral,if_true]
      omega
    | operation =>
      rw [nestedCalls,rightDepth,isLiteral,if_neg Bool.false_ne_true]
      omega

end Tree

namespace Walk

variable {α : Type} {w : Walk α} {calls : Nat} {t : Tree}

theorem within_eq {whole : Tree → Except Error α}
    (walked : ∀ t, w.loop (fun right => some (whole right)) (w.start t) t.links = some (whole t))
    (enough : t.nestedCalls ≤ calls) : w.within calls t = some (whole t) := by
  induction calls generalizing t with
  | zero =>
    rw [within,← walked]
    exact loop_congr fun link member => absurd (Tree.nestedCalls_le.mp enough link member) (Nat.not_lt_zero _)
  | succ calls ih =>
    rw [within,← walked]
    exact loop_congr fun link member =>
      ih (Nat.le_of_lt_succ (Tree.nestedCalls_le.mp enough link member))

/-- A completed traversal used at most the available calls. -/
theorem nestedCalls_le_of_within {a : α} (done : w.within calls t = some (.ok a)) : t.nestedCalls ≤ calls := by
  induction calls generalizing t a with
  | zero =>
    refine Tree.nestedCalls_le.mpr fun link member => ?_
    obtain ⟨_,impossible⟩ := loop_called done link member
    cases impossible
  | succ calls ih =>
    refine Tree.nestedCalls_le.mpr fun link member => ?_
    obtain ⟨_,called⟩ := loop_called done link member
    exact Nat.lt_succ_of_le (ih called)

theorem evaluating_walked (policy : OverflowPolicy) (t : Tree) :
    (evaluating policy).loop (fun right => some (right.reduce policy)) t.leaf t.links =
      some (t.reduce policy) := by
  induction t with
  | literal => rfl
  | operation o left right s ihl =>
    rw [Tree.leaf,Tree.links,loop_append,ihl,Tree.reduce]
    cases left.reduce policy with
    | error e => rfl
    | ok l =>
      simp only [loop]
      rw [ok_bind]
      cases right.reduce policy with
      | error e => rfl
      | ok r =>
        simp only [ok_bind,evaluating]
        cases policy.apply o l r <;> rfl

end Walk

namespace Tree

theorem write_tree (t : Tree) (out : String) (due : List Piece) :
    write out (.tree t :: due) = write (out ++ t.display) due := by
  induction t generalizing out due with
  | literal v s =>
    rw [display,write,write,write,String.empty_append]
  | operation o left right s ihl ihr =>
    have written (out : String) (due : List Piece) : write out (.tree (operation o left right s) :: due) =
        write (out ++ "(" ++ o.text ++ " " ++ left.display ++ " " ++ right.display ++ ")") due := by
      rw [write,ihl,write,ihr,write]
    rw [display,written,written,write]
    simp only [String.append_assoc,String.empty_append]

theorem display_literal (v : Value) (s : Span) : (literal v s).display = v.text := by
  rw [display,write,write,String.empty_append]

theorem display_operation (o : Token) (left right : Tree) (s : Span) :
    (operation o left right s).display =
      "(" ++ o.text ++ " " ++ left.display ++ " " ++ right.display ++ ")" := by
  rw [display,write,write_tree,write,write_tree,write,write,String.empty_append]

end Tree

namespace Walk

theorem writing_after (out : String) (t : Tree) :
    writing.loop (fun right => some (.ok right.display)) (out ++ (t.openings ++ t.leaf.text)) t.links =
      some (.ok (out ++ t.display)) := by
  induction t generalizing out with
  | literal v s =>
    rw [Tree.display_literal,Tree.openings,String.empty_append]
    rfl
  | operation o left right s ihl =>
    have before : out ++ ((Tree.operation o left right s).openings ++ left.leaf.text) =
        out ++ "(" ++ o.text ++ " " ++ (left.openings ++ left.leaf.text) := by
      simp only [Tree.openings,String.append_assoc]
    rw [Tree.leaf,Tree.links,before,loop_append,ihl,Tree.display_operation]
    simp only [loop,writing,String.append_assoc]

theorem writing_walked (t : Tree) :
    writing.loop (fun right => some (.ok right.display)) (writing.start t) t.links = some (.ok t.display) := by
  have written := writing_after "" t
  rwa [String.empty_append,String.empty_append] at written

end Walk

namespace Strategy

variable {strategy : Strategy} {config : Config} {source : String} {tree : Tree}

/-- Right depth of every parsed tree is within the nesting limit. -/
theorem rightDepth_of_parse (parsed : (strategy.parse config).on source = .ok tree) :
    tree.rightDepth ≤ config.maxDepth := by
  cases strategy with
  | recursiveDescent =>
    obtain ⟨front,rest,d,leading,trees⟩ := Grammar.leadingSum_of_parse parsed
    exact_mod_cast (d.rightDepth_le leading.nested trees).1
  | shuntingYard =>
    obtain ⟨d,_,nested,trees⟩ := shuntingYard_ok.mp parsed
    exact_mod_cast (d.rightDepth_le nested trees).1
  | reversePolish =>
    simp only [parse,on_ok,work_bind_ok,ofExcept_ok] at parsed
    obtain ⟨_,tokens,middle,read,built,_⟩ := parsed
    exact (Postfix.listed_of_build built).2

end Strategy

namespace Walk

variable {calls : Nat} {t : Tree}

theorem evaluating_within (policy : OverflowPolicy) (enough : t.nestedCalls ≤ calls) :
    (evaluating policy).within calls t = some (t.evaluate policy) := by
  rw [Tree.evaluate_eq_reduce]
  exact within_eq (evaluating_walked policy) enough

theorem writing_within (enough : t.nestedCalls ≤ calls) : writing.within calls t = some (.ok t.display) :=
  within_eq writing_walked enough

end Walk

namespace Calculator

/-- On a parsed tree evaluation and display complete with `maxDepth + 1` nested calls. For any
tree `nestedCalls` is the exact number required, and an operand appended to a sum contributes
only its own calls. -/
theorem nested_calls_bounded (c : Calculator) (source : String) (tree : Tree)
    (parsed : c.parse source = .ok tree) :
    (tree.nestedCalls ≤ c.config.maxDepth + 1 ∧
      (∀ policy, (Walk.evaluating policy).within (c.config.maxDepth + 1) tree = some (tree.evaluate policy)) ∧
      Walk.writing.within (c.config.maxDepth + 1) tree = some (.ok tree.display)) ∧
    (∀ (t : Tree) (calls : Nat),
      (Walk.writing.within calls t = some (.ok t.display) ↔ t.nestedCalls ≤ calls) ∧
      ∀ policy v, t.evaluate policy = .ok v →
        ((Walk.evaluating policy).within calls t = some (.ok v) ↔ t.nestedCalls ≤ calls)) ∧
    ∀ (first : Tree) (links : List (Token × Tree)) (calls : Nat),
      (first.chain links).nestedCalls ≤ calls ↔
        first.nestedCalls ≤ calls ∧ ∀ link ∈ links, link.2.nestedCalls < calls := by
  have bound : tree.nestedCalls ≤ c.config.maxDepth + 1 :=
    tree.nestedCalls_le_rightDepth.trans (Nat.succ_le_succ (Strategy.rightDepth_of_parse parsed))
  refine ⟨⟨bound,fun policy => Walk.evaluating_within policy bound,Walk.writing_within bound⟩,
    fun t calls => ⟨⟨Walk.nestedCalls_le_of_within,Walk.writing_within⟩,fun policy v evaluated => ?_⟩,
    fun _ _ _ => Tree.nestedCalls_chain⟩
  refine ⟨Walk.nestedCalls_le_of_within,fun enough => ?_⟩
  rw [Walk.evaluating_within policy enough,evaluated]

theorem nested_calls_bounded_three :
    let infixed : Calculator := ⟨.recursiveDescent,⟨2,.reject,.checked⟩⟩
    let postfixed : Calculator := ⟨.reversePolish,⟨2,.reject,.checked⟩⟩
    (∃ t, infixed.parse "1 - ( 2 - ( 3 - 4 ) )" = .ok t ∧ t.nestedCalls = 3 ∧ t.nestedCalls ≤ 2 + 1 ∧
      Walk.writing.within 3 t = some (.ok t.display) ∧ Walk.writing.within 2 t ≠ some (.ok t.display)) ∧
    ∃ t, postfixed.parse "1 2 3 4 - - -" = .ok t ∧ t.nestedCalls = 3 ∧ t.nestedCalls ≤ 2 + 1 := by
  intro infixed postfixed
  constructor
  · have parsed : infixed.parse "1 - ( 2 - ( 3 - 4 ) )" = .ok
        (.operation ⟨.additiveOperator,"-",⟨2,3⟩⟩ (.literal 1 ⟨0,1⟩)
          (.operation ⟨.additiveOperator,"-",⟨8,9⟩⟩ (.literal 2 ⟨6,7⟩)
            (.operation ⟨.additiveOperator,"-",⟨14,15⟩⟩ (.literal 3 ⟨12,13⟩) (.literal 4 ⟨16,17⟩)
              ⟨12,17⟩) ⟨6,17⟩) ⟨0,17⟩) := by decide +kernel
    obtain ⟨⟨bound,_,displayed⟩,counted,_⟩ := nested_calls_bounded infixed _ _ parsed
    exact ⟨_,parsed,rfl,bound,displayed,fun early => absurd ((counted _ 2).1.mp early) (by decide)⟩
  · have parsed : postfixed.parse "1 2 3 4 - - -" = .ok
        (.operation ⟨.additiveOperator,"-",⟨12,13⟩⟩ (.literal 1 ⟨0,1⟩)
          (.operation ⟨.additiveOperator,"-",⟨10,11⟩⟩ (.literal 2 ⟨2,3⟩)
            (.operation ⟨.additiveOperator,"-",⟨8,9⟩⟩ (.literal 3 ⟨4,5⟩) (.literal 4 ⟨6,7⟩)
              ⟨4,7⟩) ⟨2,7⟩) ⟨0,7⟩) := by decide +kernel
    exact ⟨_,parsed,rfl,(nested_calls_bounded postfixed _ _ parsed).1.1⟩

end Calculator

end Reckoner

import Reckoner.Config
import Reckoner.Postfix.Assembly
import Reckoner.Proofs.Derivation
import Reckoner.Proofs.Lexing

/-! Trees and their reverse Polish listings. Assembly is the inverse of listing on trees whose
right depth is within the nesting limit, which holds for the tree of every nested derivation. -/
namespace Reckoner

open Postfix

namespace Tree

/-- Depth of the groups needed to write the tree as infix text. Only right operands that are
operations need one. -/
def rightDepth : Tree → Nat
  | literal .. => 0
  | operation _ left right _ =>
    if right.isLiteral then left.rightDepth else max left.rightDepth (right.rightDepth + 1)

/-- The tokens are the post-order listing of the tree. -/
inductive ListedAs : Tree → List Token → Prop where
  | literal {t : Token} {v : Value} (kind : t.kind = .number)
      (value : Value.ofNumeral? t.text = some v) : ListedAs (.literal v t.span) [t]
  | operation {o : Token} {left right : Tree} {ls rs : List Token}
      (kind : o.kind = .additiveOperator) : ListedAs left ls → ListedAs right rs →
      ListedAs (.operation o left right ⟨left.span.start,right.span.stop⟩) (ls ++ rs ++ [o])

theorem rightDepth_operands (o : Token) (left right : Tree) (s : Span) :
    left.rightDepth ≤ (operation o left right s).rightDepth ∧
      right.rightDepth ≤ (operation o left right s).rightDepth := by
  cases right with
  | literal => simp [rightDepth,isLiteral]
  | operation =>
    rw [rightDepth,isLiteral,if_neg Bool.false_ne_true]
    omega

end Tree

variable {maxDepth : Nat} {parts final : List Part} {ts : List Token} {tree : Tree}

theorem Postfix.assemble_operand {t : Token} (kind : t.kind ≠ .additiveOperator) :
    assemble maxDepth parts t = (Tree.ofToken t).map fun tree => ⟨tree,0⟩ :: parts := by
  cases found : t.kind with
  | additiveOperator => exact absurd found kind
  | number | openParen | closeParen =>
    simp only [assemble,found]
    cases Tree.ofToken t <;> rfl

theorem Postfix.assemble_number {t : Token} (kind : t.kind = .number) :
    assemble maxDepth parts t = (Tree.ofToken t).map fun tree => ⟨tree,0⟩ :: parts :=
  assemble_operand (by simp [kind])

theorem Postfix.assemble_operator {t : Token} {left right : Part} (kind : t.kind = .additiveOperator) :
    assemble maxDepth (right :: left :: parts) t =
      if maxDepth < left.joinDepth right then .error ⟨.nestingTooDeep maxDepth,t.span.start⟩
      else .ok (⟨Tree.join t left.tree right.tree,left.joinDepth right⟩ :: parts) := by
  simp only [assemble,kind]

theorem Postfix.joinDepth_rightDepth (o : Token) (left right : Tree) :
    Part.joinDepth ⟨left,left.rightDepth⟩ ⟨right,right.rightDepth⟩ =
      (Tree.join o left right).rightDepth := rfl

theorem Postfix.assemble_listed (listed : tree.ListedAs ts) (within : tree.rightDepth ≤ maxDepth) :
    ts.foldlM (assemble maxDepth) parts = .ok (⟨tree,tree.rightDepth⟩ :: parts) := by
  induction listed generalizing parts with
  | literal kind value =>
    rw [List.foldlM_cons,assemble_number kind,Tree.ofToken,if_pos kind,value]
    rfl
  | @operation o left right ls rs kind _ _ ihl ihr =>
    have operands := Tree.rightDepth_operands o left right ⟨left.span.start,right.span.stop⟩
    have first : ls.foldlM (assemble maxDepth) parts = _ := ihl (by omega)
    have second : rs.foldlM (assemble maxDepth) (⟨left,left.rightDepth⟩ :: parts) = _ := ihr (by omega)
    have third : assemble maxDepth (⟨right,right.rightDepth⟩ :: ⟨left,left.rightDepth⟩ :: parts) o =
        .ok (⟨Tree.join o left right,(Tree.join o left right).rightDepth⟩ :: parts) := by
      change (Tree.join o left right).rightDepth ≤ maxDepth at within
      rw [assemble_operator kind,joinDepth_rightDepth o,if_neg (Nat.not_lt.mpr within)]
    simp only [List.foldlM_append,List.foldlM_cons,List.foldlM_nil,first,second,third,bind,
      Except.bind,pure,Except.pure]
    rfl

theorem Postfix.build_listed (listed : tree.ListedAs ts) (within : tree.rightDepth ≤ maxDepth) :
    build maxDepth ts = .ok tree := by
  rw [build,assemble_listed listed within]
  rfl

theorem Postfix.inRange_of_assembled (assembled : ts.foldlM (assemble maxDepth) parts = .ok final) :
    ∀ t ∈ ts, t.kind = .number → t.InRange := by
  induction ts generalizing parts with
  | nil => exact nofun
  | cons t ts ih =>
    rw [List.foldlM_cons,except_bind_ok] at assembled
    obtain ⟨next,first,rest⟩ := assembled
    refine List.forall_mem_cons.mpr ⟨fun kind => ?_,ih rest⟩
    rw [assemble_number kind,Tree.ofToken,if_pos kind] at first
    rw [Token.inRange_iff,← Value.ofNumeral_eq]
    cases read : Value.ofNumeral? t.text with
    | none =>
      rw [read] at first
      cases first
    | some v => exact ⟨v,rfl⟩

namespace Derivation

variable {n : Nonterminal}

theorem listedAs (d : Derivation n) (trees : d.tree? = some tree) : tree.ListedAs d.listing := by
  induction d generalizing tree with
  | number word =>
    rw [tree?,← Value.ofNumeral_eq,Option.map_eq_some_iff] at trees
    obtain ⟨v,value,rfl⟩ := trees
    exact .literal word.2 value
  | group opening inner closing ih => exact ih trees
  | single operand ih => exact ih trees
  | chain left operator right ihl ihr =>
    obtain ⟨l,r,hl,hr,rfl⟩ := tree_chain.mp trees
    exact .operation operator.2 (ihl hl) (ihr hr)

/-- An operation in primary position is parenthesised, so its contents have one group less to
open. -/
theorem rightDepth_le (d : Derivation n) {limit : Int} (nested : NestedWithin limit d.tokens)
    (trees : d.tree? = some tree) : tree.rightDepth ≤ limit ∧
      (n = .primary → tree.isLiteral = false → tree.rightDepth + 1 ≤ limit) := by
  induction d generalizing limit tree with
  | number word =>
    obtain ⟨v,_,rfl⟩ := Option.map_eq_some_iff.mp trees
    exact ⟨nested [] List.nil_prefix,fun _ => nofun⟩
  | group opening inner closing ih =>
    have inside := (ih (nestedWithin_group.mp nested) trees).1
    exact ⟨by omega,fun _ _ => by omega⟩
  | single operand ih => exact ⟨(ih nested trees).1,nofun⟩
  | chain left operator right ihl ihr =>
    obtain ⟨nestedLeft,nestedRight⟩ := nestedWithin_chain.mp nested
    obtain ⟨l,r,hl,hr,rfl⟩ := tree_chain.mp trees
    have leftBound := (ihl nestedLeft hl).1
    have rightBound := (ihr nestedRight hr).2 rfl
    refine ⟨?_,nofun⟩
    rw [Tree.join,Tree.rightDepth]
    cases literal : r.isLiteral with
    | true => simpa using leftBound
    | false =>
      have := rightBound literal
      rw [if_neg Bool.false_ne_true]
      omega

theorem build_listing {d : Derivation .sum} (nested : NestedWithin maxDepth d.tokens) :
    build maxDepth d.listing = .ok tree ↔ d.tree? = some tree := by
  have builds {tree : Tree} (trees : d.tree? = some tree) : build maxDepth d.listing = .ok tree := by
    have depth := (d.rightDepth_le nested trees).1
    exact build_listed (d.listedAs trees) (by omega)
  refine ⟨fun built => ?_,builds⟩
  obtain ⟨parts,assembled,_⟩ := except_bind_ok.mp built
  have fits : ∀ t ∈ d.tokens, t.kind = .number → t.InRange := by
    intro t member kind
    have kept : t ∈ d.listing.filter (·.kind = .number) := by
      rw [d.listing_numbers]
      exact List.mem_filter.mpr ⟨member,by simpa using kind⟩
    exact inRange_of_assembled assembled t (List.mem_filter.mp kept).1 kind
  obtain ⟨other,trees⟩ := d.tree_exists_iff.mpr fits
  rw [trees,Except.ok.inj ((builds trees).symm.trans built)]

end Derivation

/-! The converse. Each assembly step preserves `Stacked`, so a token list that leaves a single
part is the listing of that part. -/

namespace Postfix

/-- Every part on the stack is listed by its own consecutive block of tokens, newest part last,
and its right depth is within the limit. -/
inductive Stacked (maxDepth : Nat) : List Part → List Token → Prop where
  | empty : Stacked maxDepth [] []
  | push {parts : List Part} {tree : Tree} {ts us : List Token} : Stacked maxDepth parts ts →
      tree.ListedAs us → tree.rightDepth ≤ maxDepth →
      Stacked maxDepth (⟨tree,tree.rightDepth⟩ :: parts) (ts ++ us)

theorem Stacked.assemble {t : Token} {next : List Part} (stacked : Stacked maxDepth parts ts)
    (success : Postfix.assemble maxDepth parts t = .ok next) : Stacked maxDepth next (ts ++ [t]) := by
  by_cases kind : t.kind = .additiveOperator
  · cases stacked with
    | empty => simp [Postfix.assemble,kind] at success
    | @push _ right _ us below listedRight _ =>
      cases below with
      | empty => simp [Postfix.assemble,kind] at success
      | @push _ left ts ls below listedLeft _ =>
        rw [assemble_operator kind,joinDepth_rightDepth t] at success
        split at success
        next => cases success
        next within =>
          cases success
          have order : ts ++ ls ++ us ++ [t] = ts ++ (ls ++ us ++ [t]) := by
            simp only [List.append_assoc]
          rw [order]
          exact .push below (.operation kind listedLeft listedRight) (Nat.not_lt.mp within)
  · rw [assemble_operand kind] at success
    cases converted : Tree.ofToken t with
    | error e =>
      rw [converted] at success
      cases success
    | ok leaf =>
      rw [converted] at success
      cases success
      obtain ⟨number,v,value,rfl⟩ := Tree.ofToken_ok.mp converted
      exact .push stacked (.literal number value) (Nat.zero_le _)

theorem Stacked.foldlM_assemble {front : List Token} (stacked : Stacked maxDepth parts front)
    (assembled : ts.foldlM (Postfix.assemble maxDepth) parts = .ok final) :
    Stacked maxDepth final (front ++ ts) := by
  induction ts generalizing parts front with
  | nil =>
    cases assembled
    rwa [List.append_nil]
  | cons t ts ih =>
    rw [List.foldlM_cons,except_bind_ok] at assembled
    obtain ⟨next,first,rest⟩ := assembled
    rw [List.append_cons]
    exact ih (stacked.assemble first) rest

theorem single_ok : single parts = .ok tree ↔ ∃ depth, parts = [⟨tree,depth⟩] := by
  unfold single
  split
  next part =>
    cases part
    simp
  next several =>
    refine ⟨nofun,?_⟩
    rintro ⟨depth,rfl⟩
    exact absurd rfl (several _)

theorem listed_of_build (built : build maxDepth ts = .ok tree) :
    tree.ListedAs ts ∧ tree.rightDepth ≤ maxDepth := by
  obtain ⟨parts,assembled,left⟩ := except_bind_ok.mp built
  obtain ⟨depth,rfl⟩ := single_ok.mp left
  cases Stacked.empty.foldlM_assemble assembled with
  | push below listed within =>
    cases below
    exact ⟨listed,within⟩

/-- A token list assembles to a tree iff it is the listing of that tree and the right depth is
within the limit. No list is the listing of two trees. -/
theorem build_inverts_listing (config : Config) (ts : List Token) :
    (∀ tree, build config.maxDepth ts = .ok tree ↔
      tree.ListedAs ts ∧ tree.rightDepth ≤ config.maxDepth) ∧
    ∀ tree other : Tree, tree.ListedAs ts → other.ListedAs ts → tree = other := by
  refine ⟨fun tree => ⟨listed_of_build,fun h => build_listed h.1 h.2⟩,?_⟩
  intro tree other listed again
  have first := build_listed listed (Nat.le_max_left _ other.rightDepth)
  have second := build_listed again (Nat.le_max_right tree.rightDepth _)
  exact Except.ok.inj (first.symm.trans second)

theorem build_inverts_listing_right_operand :
    let ts : List Token := [⟨.number,"+1",⟨0,2⟩⟩,⟨.number,"02",⟨3,5⟩⟩,⟨.number,"3",⟨6,7⟩⟩,
      ⟨.additiveOperator,"-",⟨8,9⟩⟩,⟨.additiveOperator,"+",⟨10,11⟩⟩]
    let tree : Tree := .operation ⟨.additiveOperator,"+",⟨10,11⟩⟩ (.literal 1 ⟨0,2⟩)
      (.operation ⟨.additiveOperator,"-",⟨8,9⟩⟩ (.literal 2 ⟨3,5⟩) (.literal 3 ⟨6,7⟩) ⟨3,7⟩) ⟨0,7⟩
    build 1 ts = .ok tree ∧ tree.ListedAs ts ∧ tree.rightDepth ≤ 1 ∧ build 0 ts ≠ .ok tree ∧
      ∀ other : Tree, other.ListedAs ts → other = tree := by
  intro ts tree
  have built : build 1 ts = .ok tree := by decide +kernel
  obtain ⟨decodes,unique⟩ := build_inverts_listing ⟨1,.reject,.checked⟩ ts
  obtain ⟨listed,within⟩ := (decodes tree).mp built
  refine ⟨built,listed,within,fun flat => ?_,fun other again => unique other tree again listed⟩
  have tooDeep := (((build_inverts_listing ⟨0,.reject,.checked⟩ ts).1 tree).mp flat).2
  exact absurd tooDeep (by decide)

end Postfix

end Reckoner

import Reckoner.Calculator
import Reckoner.Proofs.Parsing
import Reckoner.Proofs.Evaluation

/-! Relocating words. No decision on words, tokens, groups or parts depends on their positions,
so every result commutes with relocation. -/
namespace Reckoner

/-- A map of positions that fixes zero, the start of a text. -/
structure Relocation where
  start : Nat → Nat
  stop : Nat → Nat
  origin : start 0 = 0

/-- Types with positions in them. -/
class Movable (α : Type) where
  move : Relocation → α → α

open Movable (move)

namespace Movable

variable {α σ : Type}

instance : Movable Unit := ⟨fun _ u => u⟩

instance : Movable Value := ⟨fun _ v => v⟩

instance : Movable Span := ⟨fun r s => ⟨r.start s.start,r.stop s.stop⟩⟩

instance : Movable Word := ⟨fun r w => ⟨w.text,move r w.span⟩⟩

instance : Movable Token := ⟨fun r t => ⟨t.kind,t.text,move r t.span⟩⟩

instance : Movable Error := ⟨fun r e => ⟨e.cause,r.start e.position⟩⟩

def tree (r : Relocation) : Tree → Tree
  | .literal v s => .literal v (move r s)
  | .operation o left right s => .operation (move r o) (tree r left) (tree r right) (move r s)

instance : Movable Tree := ⟨tree⟩

instance [Movable α] : Movable (Option α) := ⟨fun r => Option.map (move r)⟩

instance [Movable α] : Movable (List α) := ⟨fun r => List.map (move r)⟩

instance [Movable α] : Movable (Array α) := ⟨fun r => Array.map (move r)⟩

instance : Movable Lexer := ⟨fun r l => ⟨move r l.unread,r.start l.stop⟩⟩

instance : Movable Parser := ⟨fun r p => ⟨move r p.lexer,move r p.lookahead,p.depth,p.maxDepth⟩⟩

instance : Movable Postfix.Yard :=
  ⟨fun r y => ⟨move r y.output,move r y.waiting,y.openGroups,y.operandDue⟩⟩

instance : Movable Postfix.Part := ⟨fun r part => ⟨move r part.tree,part.depth⟩⟩

instance [Movable α] : Movable (Except Error α) where
  move
  | r, .ok a => .ok (move r a)
  | r, .error e => .error (move r e)

instance [Movable σ] [Movable α] : Movable (EStateM.Result Error σ α) where
  move
  | r, .ok a s => .ok (move r a) (move r s)
  | r, .error e s => .error (move r e) (move r s)

end Movable

/-- The second work on relocated input gives the relocated outcome of the first. -/
def Carries {σ α : Type} [Movable σ] [Movable α] (r : Relocation)
    (work moved : EStateM Error σ α) : Prop :=
  ∀ s, moved (move r s) = move r (work s)

variable {σ α β : Type} [Movable σ] [Movable α] [Movable β] {r : Relocation}

namespace Carries

theorem pure (a : α) : Carries r (Pure.pure a : EStateM Error σ α) (Pure.pure (move r a)) :=
  fun _ => rfl

theorem ofExcept (x : Except Error α) :
    Carries r (MonadExcept.ofExcept x : EStateM Error σ α) (MonadExcept.ofExcept (move r x)) := by
  cases x <;> exact fun _ => rfl

theorem bind {x y : EStateM Error σ α} {f g : α → EStateM Error σ β} (first : Carries r x y)
    (after : ∀ a, Carries r (f a) (g (move r a))) : Carries r (x >>= f) (y >>= g) := by
  intro s
  have same := first s
  cases done : x s with
  | ok a middle =>
    rw [done] at same
    rw [work_bind_eq same,work_bind_eq done]
    exact after a middle
  | error e middle =>
    rw [done] at same
    rw [work_bind_error.mpr (.inl done),work_bind_error.mpr (.inl same)]
    rfl

end Carries

theorem move_empty : move r (#[] : Array α) = #[] := Array.map_empty

theorem move_bind {x : Except Error α} {f g : α → Except Error β}
    (after : ∀ a, g (move r a) = move r (f a)) : move r x >>= g = move r (x >>= f) := by
  cases x with
  | ok a => exact after a
  | error e => rfl

theorem move_foldlM {step : σ → α → Except Error σ}
    (same : ∀ s a, step (move r s) (move r a) = move r (step s a)) (s : σ) (xs : List α) :
    (move r xs).foldlM step (move r s) = move r (xs.foldlM step s) := by
  induction xs generalizing s with
  | nil => rfl
  | cons x xs ih =>
    rw [show move r (x :: xs) = move r x :: move r xs from rfl,List.foldlM_cons,List.foldlM_cons,same]
    exact move_bind ih

theorem move_ok (a : α) : move r (.ok a : Except Error α) = .ok (move r a) := rfl

theorem move_finished (a : α) (s : σ) :
    move r (.ok a s : EStateM.Result Error σ α) = .ok (move r a) (move r s) := rfl

theorem Word.text_move (w : Word) : (move r w).text = w.text := rfl

@[simp] theorem Token.kind_move (t : Token) : (move r t).kind = t.kind := rfl

@[simp] theorem Token.text_move (t : Token) : (move r t).text = t.text := rfl

theorem Word.token_move (w : Word) : (move r w).token = move r w.token := by
  unfold token
  rw [w.text_move]
  cases TokenKind.ofWord? w.text <;> rfl

namespace Lexer

theorem next_cons (w : Word) (ws : List Word) (stop : Nat) : next ⟨w :: ws,stop⟩ =
    match w.token with
    | .ok t => .ok (some t) ⟨ws,stop⟩
    | .error e => .error e ⟨ws,stop⟩ := rfl

theorem next_carries : Carries r next next := by
  rintro ⟨unread,stop⟩
  cases unread with
  | nil => rfl
  | cons w ws =>
    change next ⟨move r w :: move r ws,r.start stop⟩ = _
    rw [next_cons,next_cons,w.token_move]
    cases w.token <;> rfl

theorem feedWords_move {step : σ → Token → Except Error σ}
    (same : ∀ s t, step (move r s) (move r t) = move r (step s t)) (stop : Nat) (s : σ) (ws : List Word) :
    feedWords step (r.start stop) (move r s) (move r ws) = move r (feedWords step stop s ws) := by
  induction ws generalizing s with
  | nil => rfl
  | cons w ws ih =>
    change feedWords step (r.start stop) (move r s) (move r w :: move r ws) = _
    unfold feedWords
    rw [w.token_move]
    cases w.token with
    | error e => rfl
    | ok t =>
      rw [move_ok]
      dsimp only
      rw [same]
      cases step s t with
      | error e => rfl
      | ok next => exact ih next

theorem feed_carries {step : σ → Token → Except Error σ}
    (same : ∀ s t, step (move r s) (move r t) = move r (step s t)) (s : σ) :
    Carries r (feed step s) (feed step (move r s)) :=
  fun l => feedWords_move same l.stop s l.unread

theorem rest_carries : Carries r rest rest := by
  have fed : Carries r rest (feed (fun tokens t => .ok (tokens.push t)) (move r #[])) :=
    feed_carries (fun _ _ => congrArg Except.ok Array.map_push.symm) #[]
  rwa [move_empty] at fed

end Lexer

namespace Parser

theorem start_carries (maxDepth : Nat) : Carries r (start maxDepth) (start maxDepth) := by
  intro l
  have next := Lexer.next_carries (r := r) l
  unfold start
  rw [next]
  cases Lexer.next l <;> rfl

theorem kind_move (p : Parser) : (move r p).kind? = p.kind? := by
  obtain ⟨lexer,lookahead,depth,maxDepth⟩ := p
  cases lookahead <;> rfl

theorem remaining_move (p : Parser) : (move r p).remaining = p.remaining := by
  obtain ⟨lexer,lookahead,depth,maxDepth⟩ := p
  have unread : (move r lexer.unread).length = lexer.unread.length := List.length_map _
  cases lookahead <;> exact congrArg (· + _) unread

theorem expect_carries (kind : TokenKind) : Carries r (expect kind) (expect kind) := by
  rintro ⟨lexer,lookahead,depth,maxDepth⟩
  cases lookahead with
  | none => rfl
  | some t =>
    change expect kind ⟨move r lexer,some (move r t),depth,maxDepth⟩ = _
    unfold expect
    dsimp only
    rw [Token.kind_move,Lexer.next_carries]
    split
    · cases Lexer.next lexer <;> rfl
    · rfl

theorem enterGroup_carries (position : Nat) :
    Carries r (enterGroup position) (enterGroup (r.start position)) := by
  rintro ⟨lexer,lookahead,depth,maxDepth⟩
  change enterGroup (r.start position) ⟨move r lexer,move r lookahead,depth,maxDepth⟩ = _
  unfold enterGroup
  dsimp only
  split <;> rfl

theorem exitGroup_carries : Carries r exitGroup exitGroup := fun _ => rfl

theorem finish_carries (trailing : TrailingInput) : Carries r (finish trailing) (finish trailing) := by
  rintro ⟨lexer,lookahead,depth,maxDepth⟩
  cases lookahead <;> cases trailing <;> rfl

end Parser

theorem Tree.span_move (t : Tree) : (move r t).span = move r t.span := by
  cases t <;> rfl

theorem Tree.isLiteral_move (t : Tree) : (move r t).isLiteral = t.isLiteral := by
  cases t <;> rfl

theorem Tree.join_move (operator : Token) (left right : Tree) :
    join (move r operator) (move r left) (move r right) = move r (join operator left right) := by
  rw [join,left.span_move,right.span_move]
  rfl

theorem Tree.ofToken_move (t : Token) : ofToken (move r t) = move r (ofToken t) := by
  unfold ofToken
  rw [t.kind_move,t.text_move]
  split
  · cases Value.ofNumeral? t.text <;> rfl
  · rfl

namespace Grammar

open Reckoner.Parser

theorem number_carries : Carries r number number := by
  refine (expect_carries .number).bind fun t => ?_
  rw [Tree.ofToken_move]
  exact .ofExcept _

theorem groupOf_carries {inside moved : ParserM Tree} (inner : Carries r inside moved) :
    Carries r (groupOf inside) (groupOf moved) :=
  (expect_carries .openParen).bind fun opening => (enterGroup_carries opening.span.start).bind fun _ =>
    inner.bind fun tree => (expect_carries .closeParen).bind fun _ => exitGroup_carries.bind fun _ =>
      .pure tree

/-- By induction on the fuel. Productions branch on token kinds only. -/
theorem productions_carry (fuel : Nat) : Carries r (primaryWithin fuel) (primaryWithin fuel) ∧
    ∀ left, Carries r (chainWithin fuel left) (chainWithin fuel (move r left)) := by
  induction fuel with
  | zero =>
    constructor
    · rw [primaryWithin]
      exact number_carries
    · intro left
      rw [chainWithin,chainWithin]
      exact .pure left
  | succ fuel ih =>
    obtain ⟨primary,chain⟩ := ih
    constructor
    · intro p
      rw [primaryWithin_succ,primaryWithin_succ,p.kind_move]
      split
      · exact groupOf_carries (primary.bind chain) p
      · exact number_carries p
    · intro left p
      rw [chainWithin_succ,chainWithin_succ,p.kind_move]
      split
      · refine Carries.bind (expect_carries .additiveOperator) (fun operator => ?_) p
        refine primary.bind fun right => ?_
        rw [Tree.join_move]
        exact chain _
      · rfl

theorem sumWithin_carries (fuel : Nat) : Carries r (sumWithin fuel) (sumWithin fuel) :=
  (productions_carry fuel).1.bind (productions_carry fuel).2

theorem sum_carries : Carries r sum sum := by
  intro p
  unfold sum
  rw [p.remaining_move]
  exact sumWithin_carries _ p

theorem parse_carries (config : Config) : Carries r (parse config) (parse config) := by
  intro l
  have whole : Carries r (do let tree ← sum; finish config.trailingInput; return tree)
      (do let tree ← sum; finish config.trailingInput; return tree) :=
    sum_carries.bind fun tree => (finish_carries config.trailingInput).bind fun _ => .pure tree
  unfold parse
  rw [start_carries]
  cases start config.maxDepth l with
  | error e rest => rfl
  | ok p rest =>
    rw [move_finished]
    dsimp only
    rw [whole p]
    cases (sum >>= _ : ParserM Tree) p <;> rfl

end Grammar

namespace Postfix

theorem Part.joinDepth_move (left right : Part) :
    (move r left).joinDepth (move r right) = left.joinDepth right := by
  change (if (move r right.tree).isLiteral then left.depth else max left.depth (right.depth + 1)) = _
  rw [Tree.isLiteral_move]
  rfl

theorem assemble_move (maxDepth : Nat) (parts : List Part) (t : Token) :
    assemble maxDepth (move r parts) (move r t) = move r (assemble maxDepth parts t) := by
  unfold assemble
  rw [t.kind_move,Tree.ofToken_move]
  cases t.kind with
  | additiveOperator =>
    match parts with
    | right :: left :: below =>
      change (if maxDepth < (move r left).joinDepth (move r right) then _ else _) = _
      rw [Part.joinDepth_move]
      dsimp only
      split
      · rfl
      · change Except.ok (Part.mk (Tree.join (move r t) (move r left.tree) (move r right.tree)) _ :: _) = _
        rw [Tree.join_move]
        rfl
    | [] => rfl
    | [_] => rfl
  | number | openParen | closeParen => cases Tree.ofToken t <;> rfl

theorem single_move (parts : List Part) : single (move r parts) = move r (single parts) := by
  -- A text without parts is blamed at its start, for which the start has to stay.
  have second : ((move r parts).reverse[1]?.map fun part => part.tree.span.start).getD 0 =
      r.start ((parts.reverse[1]?.map fun part => part.tree.span.start).getD 0) := by
    change ((parts.map (move r)).reverse[1]?.map _).getD 0 = _
    rw [← List.map_reverse,List.getElem?_map,Option.map_map]
    cases parts.reverse[1]? with
    | none => exact r.origin.symm
    | some part => exact congrArg Span.start part.tree.span_move
  match parts with
  | [part] => rfl
  | [] => exact congrArg (fun position => Except.error (Error.mk .invalidPostfixExpression position)) second
  | first :: next :: rest =>
    exact congrArg (fun position => Except.error (Error.mk .invalidPostfixExpression position)) second

theorem build_move (maxDepth : Nat) (ts : List Token) :
    build maxDepth (move r ts) = move r (build maxDepth ts) := by
  have assembled : (move r ts).foldlM (assemble maxDepth) [] = move r (ts.foldlM (assemble maxDepth) []) :=
    move_foldlM (assemble_move maxDepth) [] ts
  rw [build,assembled]
  exact move_bind single_move

namespace Yard

theorem released_move (y : Yard) : (move r y).released = move r y.released :=
  List.takeWhile_map ..

theorem kept_move (y : Yard) : (move r y).kept = move r y.kept :=
  List.dropWhile_map ..

theorem output_move (output : Array Token) (ts : List Token) :
    move r output ++ move r ts = move r (output ++ ts) := by
  apply Array.toList_inj.mp
  change (output.map (move r) ++ ts.map (move r)).toList = ((output ++ ts).map (move r)).toList
  rw [Array.toList_appendList,Array.toList_map,Array.toList_map,Array.toList_appendList,List.map_append]

theorem empty_move : move r ({} : Yard) = {} :=
  congrArg (fun output => Yard.mk output [] 0 true) move_empty

theorem accept_move (maxDepth : Nat) (y : Yard) (t : Token) :
    accept maxDepth (move r y) (move r t) = move r (accept maxDepth y t) := by
  have released := output_move (r := r) y.output y.released
  unfold accept
  rw [t.kind_move,released_move,kept_move]
  obtain ⟨output,waiting,openGroups,operandDue⟩ := y
  cases t.kind with
  | number =>
    cases operandDue with
    | true => exact congrArg (fun output => Except.ok (Yard.mk output _ _ _)) Array.map_push.symm
    | false => rfl
  | additiveOperator =>
    cases operandDue with
    | true => rfl
    | false => exact congrArg (fun output => Except.ok (Yard.mk output _ _ _)) released
  | openParen =>
    cases operandDue with
    | true =>
      change (if maxDepth ≤ openGroups then _ else _) = move r (if maxDepth ≤ openGroups then _ else _)
      split <;> rfl
    | false => rfl
  | closeParen =>
    cases operandDue with
    | true => rfl
    | false =>
      cases (Yard.mk output waiting openGroups false).kept with
      | nil => rfl
      | cons opening below => exact congrArg (fun output => Except.ok (Yard.mk output _ _ _)) released

/-- The end of the text is relocated as if a word started there, since errors can point to it. -/
theorem finish_move (stop : Nat) (y : Yard) :
    (move r y).finish (r.start stop) = move r (y.finish stop) := by
  unfold finish
  rw [kept_move,released_move]
  change (if y.operandDue then _ else _) = _
  split
  · rfl
  · cases y.kept with
    | cons opening below => rfl
    | nil => exact congrArg Except.ok (output_move y.output y.released)

end Yard

theorem convert_carries (maxDepth : Nat) : Carries r (convert maxDepth) (convert maxDepth) := by
  have fed : Carries r (Lexer.feed (Yard.accept maxDepth) {}) (Lexer.feed (Yard.accept maxDepth) (move r {})) :=
    Lexer.feed_carries (Yard.accept_move maxDepth) {}
  rw [Yard.empty_move] at fed
  refine fed.bind fun y l => ?_
  change (MonadExcept.ofExcept ((move r y).finish (r.start l.stop)) : LexerM _) (move r l) =
    move r ((MonadExcept.ofExcept (y.finish l.stop) : LexerM _) l)
  rw [Yard.finish_move]
  exact Carries.ofExcept _ l

end Postfix

/-- For every strategy, parsing commutes with relocation. -/
theorem Strategy.parse_carries (strategy : Strategy) (config : Config) :
    Carries r (strategy.parse config) (strategy.parse config) := by
  have built (tokens : Array Token) :
      Carries r (MonadExcept.ofExcept (Postfix.build config.maxDepth tokens.toList) : LexerM Tree)
        (MonadExcept.ofExcept (Postfix.build config.maxDepth (move r tokens).toList)) := by
    rw [show (move r tokens).toList = move r tokens.toList from Array.toList_map,Postfix.build_move]
    exact .ofExcept _
  cases strategy with
  | recursiveDescent => exact Grammar.parse_carries config
  | shuntingYard => exact (Postfix.convert_carries config.maxDepth).bind built
  | reversePolish => exact Lexer.rest_carries.bind built

theorem Token.combine_move (operator : Token) (left right : Int) :
    (move r operator).combine? left right = operator.combine? left right := rfl

theorem OverflowPolicy.apply_move (policy : OverflowPolicy) (operator : Token) (left right : Value) :
    policy.apply (move r operator) left right = move r (policy.apply operator left right) := by
  unfold apply
  rw [operator.combine_move]
  cases operator.combine? left.toInt right.toInt with
  | none => rfl
  | some n =>
    dsimp only
    cases policy.store? n <;> rfl

theorem Tree.evaluate_move (policy : OverflowPolicy) (t : Tree) :
    (move r t).evaluate policy = move r (t.evaluate policy) := by
  rw [evaluate_eq_reduce,evaluate_eq_reduce]
  induction t with
  | literal => rfl
  | operation o left right s ihl ihr =>
    change (do
      let l ← (move r left).reduce policy
      let v ← (move r right).reduce policy
      policy.apply (move r o) l v) = _
    rw [ihl,ihr,reduce]
    exact move_bind fun l => move_bind fun v => policy.apply_move o l v

end Reckoner

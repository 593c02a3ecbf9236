import Reckoner.Calculator
import Reckoner.Proofs.Assembly
import Reckoner.Proofs.Conversion
import Reckoner.Proofs.Parsing

/-! Recursive descent and shunting-yard build the tree of the same derivation. They differ only
on words after a leading sum, which the parser can ignore and the conversion always reads. -/
namespace Reckoner

namespace Strategy

variable {config : Config} {source : String} {tree : Tree}

theorem recursiveDescent_ok (rejecting : config.trailingInput = .reject) :
    (recursiveDescent.parse config).on source = .ok tree ↔ ∃ d : Derivation .sum,
      Spells source d.tokens ∧ NestedWithin config.maxDepth d.tokens ∧ d.tree? = some tree := by
  constructor
  · exact Grammar.derivation_of_parse rejecting
  · rintro ⟨d,spelled,nested,trees⟩
    exact Grammar.parse_of_derivation spelled nested trees

theorem shuntingYard_ok : (shuntingYard.parse config).on source = .ok tree ↔
    ∃ d : Derivation .sum, Spells source d.tokens ∧ NestedWithin config.maxDepth d.tokens ∧
      d.tree? = some tree := by
  simp only [parse,on_ok,work_bind_ok,ofExcept_ok]
  constructor
  · rintro ⟨_,output,_,converted,built,_⟩
    obtain ⟨d,spelled,nested,listed⟩ := Postfix.convert_ok.mp (on_ok.mpr ⟨_,converted⟩)
    rw [listed] at built
    exact ⟨d,spelled,nested,(Derivation.build_listing nested).mp built⟩
  · rintro ⟨d,spelled,nested,trees⟩
    obtain ⟨l,converted⟩ := on_ok.mp (Postfix.convert_ok.mpr ⟨d,spelled,nested,List.toList_toArray⟩)
    have built := (Derivation.build_listing nested).mpr trees
    exact ⟨l,_,l,converted,by rwa [List.toList_toArray],rfl⟩

theorem parse_of_derivation {strategy : Strategy} {d : Derivation .sum}
    (known : strategy = recursiveDescent ∨ strategy = shuntingYard)
    (spelled : Spells source d.tokens) (nested : NestedWithin config.maxDepth d.tokens)
    (trees : d.tree? = some tree) : (strategy.parse config).on source = .ok tree := by
  rcases known with rfl | rfl
  · exact Grammar.parse_of_derivation spelled nested trees
  · exact shuntingYard_ok.mpr ⟨d,spelled,nested,trees⟩

/-- With trailing input rejected, the infix strategies accept the same texts with the same
trees, and calculation agrees. With trailing input ignored, recursive descent still builds every
tree that shunting-yard builds. -/
theorem infix_strategies_agree (config : Config) (source : String) :
    (config.trailingInput = .reject →
      (∀ tree, (recursiveDescent.parse config).on source = .ok tree ↔
        (shuntingYard.parse config).on source = .ok tree) ∧
      ∀ tree, (recursiveDescent.parse config).on source = .ok tree ∨
          (shuntingYard.parse config).on source = .ok tree →
        (Calculator.mk recursiveDescent config).calculate source =
          (Calculator.mk shuntingYard config).calculate source) ∧
    ∀ tree, (shuntingYard.parse config).on source = .ok tree →
      (recursiveDescent.parse config).on source = .ok tree := by
  refine ⟨fun rejecting => ?_,fun tree success => ?_⟩
  · have same (tree : Tree) : (recursiveDescent.parse config).on source = .ok tree ↔
        (shuntingYard.parse config).on source = .ok tree := by
      rw [recursiveDescent_ok rejecting,shuntingYard_ok]
    refine ⟨same,fun tree either => ?_⟩
    have first : (recursiveDescent.parse config).on source = .ok tree := either.elim id (same tree).mpr
    have second := (same tree).mp first
    simp only [Calculator.calculate,Calculator.parse,first,second]
  · obtain ⟨d,spelled,nested,trees⟩ := shuntingYard_ok.mp success
    exact parse_of_derivation (.inl rfl) spelled nested trees

theorem infix_strategies_agree_difference :
    ({} : Config).trailingInput = .reject ∧
    ∃ tree, (recursiveDescent.parse {}).on "1 - 2" = .ok tree ∧
      (shuntingYard.parse {}).on "1 - 2" = .ok tree ∧
      (Calculator.mk recursiveDescent {}).calculate "1 - 2" =
        (Calculator.mk shuntingYard {}).calculate "1 - 2" ∧
      (shuntingYard.parse ⟨256,.ignore,.checked⟩).on "1 - 2" = .ok tree ∧
      (recursiveDescent.parse ⟨256,.ignore,.checked⟩).on "1 - 2" = .ok tree := by
  let tree : Tree := .operation ⟨.additiveOperator,"-",⟨2,3⟩⟩ (.literal 1 ⟨0,1⟩) (.literal 2 ⟨4,5⟩)
    ⟨0,5⟩
  have first : (recursiveDescent.parse {}).on "1 - 2" = .ok tree := by decide +kernel
  have ignoring : (shuntingYard.parse ⟨256,.ignore,.checked⟩).on "1 - 2" = .ok tree := by decide +kernel
  obtain ⟨same,calculations⟩ := (infix_strategies_agree {} "1 - 2").1 rfl
  exact ⟨rfl,tree,first,(same tree).mp first,calculations tree (.inl first),ignoring,
    (infix_strategies_agree _ "1 - 2").2 tree ignoring⟩

end Strategy

end Reckoner

import Packrat.Proofs.Grammar.Cycles
import Packrat.Proofs.Grammar.Levelling

/-! Analyzers that have been asked before. Whatever the questions were, what is kept of the answers is
true of the grammar; and where no rule is left-recursive, nothing is ever cut off. -/
namespace Packrat

namespace Query

variable {α : Type}

def answer (q : Query α) (f : Findings) : Option α :=
  match q f with
  | .ok value _ => some value
  | .error _ _ => none

def after (q : Query α) (f : Findings) : Findings :=
  match q f with
  | .ok _ g => g
  | .error _ g => g

theorem answerSomeIff {q : Query α} {f : Findings} {value : α} :
    q.answer f = some value ↔ q f = .ok value (q.after f) := by
  unfold answer after
  cases ran : q f with
  | ok v g => simp
  | error e g => simp

theorem answerWhenOk {q : Query α} {f g : Findings} {value : α} (ran : q f = .ok value g) :
    q.answer f = some value := by
  simp [answer, ran]

theorem afterWhenOk {q : Query α} {f g : Findings} {value : α} (ran : q f = .ok value g) : q.after f = g := by
  simp [after, ran]

end Query

inductive Question where
  | expand (rule : String) (k depth : Nat)
  | firstOf (node : Node)
  | byDepth (rule : String)
  | level (rule : String) (depth : Nat)
  | levelOfNode (node : Node) (depth : Nat)
  | byLevel (rule : String)

def Question.Answered (a : Analyzer) (f g : Findings) : Question → Prop
  | .expand rule k depth => ∃ paths, a.expand rule k depth f = .ok paths g
  | .firstOf node => ∃ paths, a.firstOfNode node f = .ok paths g
  | .byDepth rule => ∃ found, a.recursionByDepth rule f = .ok found g
  | .level rule depth => ∃ e, a.level rule depth f = .ok e g
  | .levelOfNode node depth => ∃ e, a.levelOfNode node depth f = .ok e g
  | .byLevel rule => ∃ answer, a.recursionByLevel rule f = .ok answer g

inductive Analyzer.Asked (a : Analyzer) : Findings → Prop where
  | fresh : Asked a {}
  | again {f g} (before : Asked a f) (question : Question) (answered : question.Answered a f g) : Asked a g

namespace Analyzer

variable {a : Analyzer} {f g : Findings}

theorem Asked.faithfulAndLevelled (asked : a.Asked f) : f.desk.Faithful a ∧ f.Levelled a := by
  have byDepth : ∀ {f g : Findings}, f.Levelled a → g.desk.Faithful a → g.levelCache = f.levelCache →
      g.desk.Faithful a ∧ g.Levelled a := by
    intro f g levelled faithful same
    refine ⟨faithful, ?_⟩
    unfold Findings.Levelled
    rw [same]
    exact levelled
  have byLevel : ∀ {f g : Findings} {result : Prop}, f.desk.Faithful a →
      g.desk = f.desk ∧ g.Levelled a ∧ result → g.desk.Faithful a ∧ g.Levelled a :=
    fun faithful given => ⟨given.1 ▸ faithful, given.2.1⟩
  induction asked with
  | fresh => exact ⟨fun _ _ found => (nomatch found), fun _ _ _ member => nomatch member⟩
  | again before question answered ih =>
    obtain ⟨faithful, levelled⟩ := ih
    cases question with
    | expand rule k depth =>
      obtain ⟨_, ran⟩ := answered
      exact byDepth levelled ((expandOk ran).1.keepsFaithful faithful).1 (expandOk ran).2
    | firstOf node =>
      obtain ⟨_, ran⟩ := answered
      exact byDepth levelled ((firstOfNodeOk ran).1.keepsFaithful faithful).1 (firstOfNodeOk ran).2
    | byDepth rule =>
      obtain ⟨_, ran⟩ := answered
      obtain ⟨_, same, _, expands⟩ := byDepthOk ran
      exact byDepth levelled (expands.keepsFaithful faithful).1 same
    | level rule depth =>
      obtain ⟨_, ran⟩ := answered
      have positive : 0 < max depth 1 := Nat.lt_of_lt_of_le Nat.one_pos (Nat.le_max_right _ _)
      exact byLevel faithful (givesWithin _ rule positive (Nat.le_refl _) _ _ _ ran levelled)
    | levelOfNode node depth =>
      obtain ⟨_, ran⟩ := answered
      exact byLevel faithful (givesLevelOfNode node depth _ _ _ ran levelled)
    | byLevel rule =>
      obtain ⟨_, ran⟩ := answered
      exact byLevel faithful (givesInLevels rule _ Nat.one_pos false _ _ _ ran levelled)

theorem linkedCleared (g : Grammar) (d : Desk) (cycles : List Cycle) (leading : Bool) (next : List String) :
    (d.cleared cycles).Linked g leading next := ⟨List.isChain_nil, fun _ _ top => nomatch top⟩

theorem expandWhole (exact : a.nullable = a.grammar.nullable) (distinct : a.grammar.Distinct)
    (acyclic : ∀ rule, ¬ a.grammar.LeftRecursive rule) (faithful : f.desk.Faithful a) {rule : String} {k depth : Nat}
    (positive : 0 < k) {paths : PathSet} (ran : a.expand rule k depth f = .ok paths g) :
    paths = (Whole.ofRule a depth rule k).paths := by
  have expands := (expandOk ran).1
  have faithful : (f.desk.cleared f.cycles).Faithful a := faithful
  obtain ⟨finds, _⟩ := expands.findsWhileLinked exact distinct positive faithful (linkedCleared _ _ _ _ _)
    (Nat.le_of_eq (Nat.zero_add _))
  obtain ⟨_, _, uncut⟩ := expands.keepsFaithful faithful
  refine (uncut (Nat.le_antisymm (Nat.le_of_not_lt fun cut => ?_) finds.more)).1
  obtain ⟨c, _, closes⟩ := finds.cut cut
  obtain ⟨n, _, walk⟩ := closes.walkAroundCycle
  exact acyclic c.head (Grammar.transGenIffWalk.mpr ⟨n, walk⟩)

theorem Asked.expandWhole (exact : a.nullable = a.grammar.nullable) (distinct : a.grammar.Distinct)
    (acyclic : ∀ rule, ¬ a.grammar.LeftRecursive rule) (asked : a.Asked f) {rule : String} {k depth : Nat}
    (positive : 0 < k) {paths : PathSet} (ran : a.expand rule k depth f = .ok paths g) :
    paths = (Whole.ofRule a depth rule k).paths :=
  Analyzer.expandWhole exact distinct acyclic asked.faithfulAndLevelled.1 positive ran

end Analyzer
end Packrat

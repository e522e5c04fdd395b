import Packrat.Proofs.Grammar.Acceptance
import Packrat.Proofs.Grammar.Consulted
import Packrat.Proofs.Grammar.Unfolding

/-! What an analyzer answers, after any questions and whether or not they were answered in time. The first-K
sets of a grammar without left recursion, and the levels of any grammar, are those that are described
without caches, bounds on rounds or early stops. -/
namespace Packrat
namespace Analyzer

theorem firstSetsExact (g : Grammar) (config : AnalyzerConfig) {a : Analyzer} {clock : Nat → Nat}
    (made : a = .ofGrammar g config clock) (distinct : g.Distinct) (acyclic : ∀ rule, ¬ g.LeftRecursive rule)
    (branched : g.Branched) {k : Nat} (positive : 0 < k) (rule : String) (depth : Nat) {f : Findings}
    (consulted : a.Consulted f) :
    (a.InTime → ∃ paths h, a.expand rule k depth f = .ok paths h) ∧
      ∀ paths h, a.expand rule k depth f = .ok paths h →
        (∀ p, p ∈ paths ↔ ∃ u, g.Unfolds depth (.call rule) u ∧ p = u.take k) ∧
        ∀ p ∈ paths, p.length < k → p.hasRules = false → ∃ w :
            List String, p = w.map .token ∧ g.Derives (.call rule) w := by
  subst made
  refine ⟨fun inTime => endsExpand inTime rule k depth f, fun paths h ran => ?_⟩
  rw [expandWhole rfl distinct acyclic consulted.isReliable.faithful positive ran]
  have holds := Whole.holdsRule (a := .ofGrammar g config clock) rfl distinct branched depth rule positive
  refine ⟨holds, fun p inside short unbroken => ?_⟩
  obtain ⟨w, rfl⟩ := Path.tokensWithoutRules unbroken
  exact ⟨w, rfl, (holds.wholeWhenShort inside short).derivesSpelling rfl⟩

namespace Sample

def layered : Grammar where
  entry := "S"
  rules := [("S", .inOrder [.many (.call "A"), .call "B"] none),
    ("A", .firstOf [.consume "a", .inOrder [.consume "b", .call "C"] none]),
    ("B", .optional (.consume "x"))]
  tokens := ["a", "b", "x"].map fun text => { name := text, shape := .literal text }

def pressed : Analyzer := .ofGrammar layered {} fun n => if n = 1 then 11 * Duration.perSecond else 0

def stopped : Findings := (Question.expand "S" 3 6).after pressed {}

def resumed : Findings := (Question.level "S" 1).after pressed ((Question.expand "A" 3 2).after pressed stopped)

theorem pressedConsulted : pressed.Consulted resumed := .again (.again (.again .fresh _) _) _

theorem layeredBranched : layered.Branched := by
  intro rule body known
  have member := Grammar.ruleListed known
  simp only [layered, List.mem_cons, List.not_mem_nil, or_false, Prod.mk.injEq] at member
  obtain ⟨_, rfl⟩ | ⟨_, rfl⟩ | ⟨_, rfl⟩ := member <;> simp [Node.Branched, Node.choices, Node.nodes, Node.nodesAll]

end Sample

theorem firstSetsExactUnderTimeout :
    (Sample.pressed.expand "S" 3 6).answer {} = none ∧
      ∀ p, p ∈ ([[], [.rule "A"], [.rule "A", .rule "A"], [.rule "A", .rule "B"], [.rule "B"]] : PathSet) ↔
        ∃ u, Sample.layered.Unfolds 1 (.call "S") u ∧ p = u.take 2 := by
  have late : (Sample.pressed.expand "S" 3 6).answer {} = none := by decide +kernel
  have ran : (Sample.pressed.expand "S" 2 1).answer Sample.resumed =
      Option.some [[], [.rule "A"], [.rule "A", .rule "A"], [.rule "A", .rule "B"], [.rule "B"]] := by decide +kernel
  have distinct : Sample.layered.Distinct := by unfold Grammar.Distinct; decide
  have accepted : (Validation.validate Sample.layered {} fun _ => 0).1.accepts := by decide +kernel
  have acyclic := Validation.acceptedAcyclic distinct (by decide) accepted
  exact ⟨late, ((firstSetsExact Sample.layered {} (a := Sample.pressed) rfl distinct acyclic Sample.layeredBranched
    Nat.two_pos "S" 1 Sample.pressedConsulted).2 _ _ (Query.answerSomeIff.mp ran)).1⟩

theorem levelsExact (g : Grammar) (config : AnalyzerConfig) {a : Analyzer} {clock : Nat → Nat}
    (made : a = .ofGrammar g config clock) (rule : String) {depth : Nat} (positive : 0 < depth) {f : Findings}
    (consulted : a.Consulted f) :
    (a.InTime → ∃ e h, a.level rule depth f = .ok e h) ∧
      ∀ e h, a.level rule depth f = .ok e h →
        (e.truncated = false → ∀ p, p ∈ e.paths ↔ g.Level depth rule p) ∧
        (e.truncated = true → (∀ p ∈ e.paths, g.Level depth rule p) ∧ e.paths.length ≤ max 1 config.maxPaths) := by
  subst made
  refine ⟨fun inTime => endsWithin inTime _ rule _ f, fun e h ran => ?_⟩
  obtain ⟨_, small, fits⟩ := ((ensuresLevel rule depth).alsoGives (givesLevel rule positive)).answered ran
    consulted.isReliable
  exact ⟨fun all p => ⟨fits.sound p, fits.complete all p⟩, fun _ => ⟨fits.sound, small⟩⟩

namespace Sample

def twoLevels : PathSet :=
  [[], [.token "a"], [.token "a", .token "x"], [.token "b", .rule "C"], [.token "b", .rule "C", .token "x"],
    [.token "x"]]

end Sample

theorem levelsExactUnderTimeout :
    (Sample.pressed.level "S" 2).answer Sample.resumed = Option.some ⟨Sample.twoLevels, false⟩ ∧
      ∀ p, p ∈ Sample.twoLevels ↔ Sample.layered.Level 2 "S" p := by
  have ran : (Sample.pressed.level "S" 2).answer Sample.resumed = Option.some ⟨Sample.twoLevels, false⟩ := by
    decide +kernel
  exact ⟨ran, ((levelsExact Sample.layered {} (a := Sample.pressed) rfl "S" Nat.two_pos Sample.pressedConsulted).2 _ _
    (Query.answerSomeIff.mp ran)).1 rfl⟩

end Analyzer
end Packrat

import Packrat.Proofs.Grammar.Acceptance
import Packrat.Proofs.Session.Leading

/-! Left recursion is foreseen. A rule that is invoked where it is open is left-recursive in the recorded
grammar, so no parse from the entry of an accepted grammar ends in left recursion. -/
namespace Packrat

namespace Session

variable {env : Setup} {g : Grammar} {s : Session}

theorem errorFromIsLeftRecursion (env : Setup) (s : Session) (f : Failure) :
    (s.errorFrom env f).isLeftRecursion = false := by
  unfold errorFrom
  split <;> rfl

theorem concludedIsLeftRecursion {r : Verdict × Session} {error : ParseError} (failed : concluded env r = .error error)
    (blamed : error.isLeftRecursion) : r.1 = .fatal error := by
  have never : ∀ (s : Session) f, s.errorFrom env f ≠ error := by
    rintro s f rfl
    rw [errorFromIsLeftRecursion] at blamed
    exact absurd blamed Bool.false_ne_true
  obtain ⟨verdict, t⟩ := r
  cases verdict with
  | ok =>
    obtain ⟨found, scans, scan⟩ := scanChangesScans env defaultGoal t
    simp only [concluded, finish, scan] at failed
    cases found with
    | ended cursor =>
      simp only at failed
      split at failed
      · cases failed
        exact absurd blamed Bool.false_ne_true
      · cases failed
    | token next cursor => exact absurd (Except.error.inj failed) (never _ _)
    | unrecognized cursor c => exact absurd (Except.error.inj failed) (never _ _)
  | mismatch => exact absurd (Except.error.inj failed) (never _ _)
  | fatal e => rw [Except.error.inj failed]

variable {rules : Rules} {name entry : String}

theorem nestedCall {entry c : String × String} (reaches : rules.Reaches entry c) (env : Setup) (g : Grammar)
    (s : Session) : Nested env g rules entry (.body (.call c.1 c.2)) s.reset where
  among := .inr ⟨rfl, fun _ called => List.mem_singleton.mp called ▸ reaches⟩
  knows := fun _ member => nomatch member
  chain := .nil
  behind := nofun
  leads := nofun

theorem nestedReset (env : Setup) (g : Grammar) (rules : Rules) (name entry : String) (s : Session) :
    Nested env g rules (name, entry) (.body (.call name entry)) s.reset := nestedCall .entry env g s

theorem parseRuleLeftRecursion (describes : g.Describes rules (name, entry)) (sound : s.Sound env) {error : ParseError}
    (failed : (s.parseRule env rules name entry).1 = .error error) (blamed : error.isLeftRecursion) :
    ∃ rule, g.LeftRecursive rule := by
  obtain ⟨stats, eq⟩ := parseRuleConcludes env rules name entry s
  rw [eq] at failed
  cases ran : concluded env (invoke env rules env.config.maxRuleDepth name entry s.reset) with
  | ok output =>
    rw [ran] at failed
    exact nomatch failed
  | error e =>
    rw [ran] at failed
    cases failed
    have start := nestedReset env g rules name entry s
    have invoked := conformsInvoke describes env.config.maxRuleDepth .entry s.reset .start
      (soundReset sound) start.knows
    exact (invoked.stopped error (concludedIsLeftRecursion ran blamed) blamed).leftRecursive describes
      (soundReset sound) start

end Session

namespace Parser

theorem leftRecursionForeseen {rules : Rules} {name entry : String} (plain : rules.Plain)
    (agree : rules.NamesAgree name entry) {tokens : List Definition} {config : AnalyzerConfig} {clock : Nat → Nat}
    (deep : (Grammar.collect rules name entry tokens).1.rules.length ≤ config.maxDepth)
    (accepted : (Validation.validate (Grammar.collect rules name entry tokens).1 config clock).1.accepts)
    {source : String} {definitions : List Definition} {p : Parser} (reachable : Reachable source definitions p)
    (span : TextRange) (position : LineCol) (rule : String) (cycle : List String) :
    (p.parse rules name entry).1 ≠ .error (.leftRecursion span position rule cycle) := by
  intro failed
  have describes := Grammar.collectDescribes plain agree tokens
  obtain ⟨looping, recursive⟩ := Session.parseRuleLeftRecursion describes reachable.sourceAndSound.2 failed rfl
  exact Validation.acceptedAcyclic (Grammar.collectDistinct rules name entry tokens) deep accepted looping recursive

namespace Sample

def grouped : Rules :=
  [("E", .inOrder [.call "N" "N", .call "T" "T"]), ("N", .optional (.consume "c" defaultGoal)),
    ("T", .firstOf [.inOrder [.consume "S" defaultGoal, .call "E" "E", .consume "b" defaultGoal],
      .consume "a" defaultGoal])]

def groups : Parser := (Parser.ofDefinitions ";cab" definitions).toOption.get (by decide +kernel)

end Sample

theorem leftRecursionForeseenInGroup :
    (Validation.validate (Grammar.collect Sample.grouped "E" "E" Sample.definitions).1 {} fun _ => 0).1.accepts ∧
      (Sample.groups.parse Sample.grouped "E" "E").1.isOk ∧
      ∀ span position rule cycle,
        (Sample.groups.parse Sample.grouped "E" "E").1 ≠ .error (.leftRecursion span position rule cycle) := by
  have accepted : (Validation.validate (Grammar.collect Sample.grouped "E" "E" Sample.definitions).1 {}
      fun _ => 0).1.accepts := by decide +kernel
  have plain : Sample.grouped.Plain := by unfold Rules.Plain; decide
  have agree : Sample.grouped.NamesAgree "E" "E" := Rules.namesAgreeOf (by decide) "E"
  have reachable : Reachable ";cab" Sample.definitions Sample.groups := .new (Parser.ofDefinitionsOfOption _)
  exact ⟨accepted, by decide +kernel, leftRecursionForeseen plain agree (by decide +kernel) accepted reachable⟩

end Parser
end Packrat

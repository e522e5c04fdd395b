import Packrat.Proofs.Transparency

/-! The errors a parse has recovered from, with the cache and without it. An answer from the cache brings them
along with the path of the rules that were open when they were recorded; all else is the same. -/
namespace Packrat

theorem Memo.Records.recoveriesNonempty {env : Setup} {see : Recovery → Recovery} {path : List String}
    {memo : Memo} {m : Match} {trail : Trail} (records : memo.Records env see path (.ok m trail))
    {r : Repair} (repaired : r ∈ m.repairs) : memo.recoveries ≠ [] := by
  cases memo with
  | success stop node tokens attempt =>
    obtain ⟨_, _, _, recoveries, _, _⟩ := records
    intro none
    rw [show attempt.recoveries = [] from none, List.map_nil] at recoveries
    rw [List.map_eq_nil_iff.mp recoveries.symm] at repaired
    exact nomatch repaired
  | failure attempt => exact records.elim

theorem errorsEqIffPaths {a b : List ParseError} (rest : a.map ParseError.pathless = b.map ParseError.pathless) :
    a = b ↔ a.map ParseError.path = b.map ParseError.path := by
  constructor
  · rintro rfl
    rfl
  · intro paths
    induction a generalizing b with
    | nil =>
      cases b with
      | nil => rfl
      | cons e b => exact nomatch rest
    | cons e a ih =>
      cases b with
      | nil => exact nomatch rest
      | cons e' b =>
        obtain ⟨head, tail⟩ := List.cons.inj rest
        obtain ⟨path, paths⟩ := List.cons.inj paths
        rw [ParseError.eqIffPathless.mpr ⟨head, path⟩, ih tail paths]

namespace Parser

def Steady (p : Parser) (rules : Rules) (name rule : String) : Prop :=
  ∀ n t u memo,
    Session.Runs (p.setCache true).setup rules p.config.maxRuleDepth (.body (.call name rule)) p.session.reset n t →
    Session.Answers (p.setCache true).setup rules p.config.maxRuleDepth (.body (.call name rule))
      p.session.reset n u memo →
    memo.recoveries ≠ [] → MemoKey.of n t.state = MemoKey.of n u.state → t.path = u.path

section
variable {source : String} {definitions : List Definition} {p : Parser} {rules : Rules} {name rule : String}
  (reachable : Reachable source definitions p) (whole : NoPairs source.toList) (strict : rules.Strict)
  (agree : rules.NamesAgree name rule) (spares : p.config.recover = true → p.Spares rules name rule)
include reachable whole strict agree spares

theorem switchSteady (steady : p.Steady rules name rule)
    (shallow : ∀ span position rule' depth, ((p.setCache false).parse rules name rule).1 ≠
      .error (.recursionLimit span position rule' depth)) :
    ((p.setCache true).parse rules name rule).1.map (Output.seen id) =
      ((p.setCache false).parse rules name rule).1.map (Output.seen id) := by
  refine switchAlike reachable whole strict agree spares
    (fun key path => ∃ n t, Session.Runs (p.setCache true).setup rules p.config.maxRuleDepth
      (.body (.call name rule)) p.session.reset n t ∧ MemoKey.of n t.state = key ∧ t.path = path)
    (fun runs => ⟨_, _, runs, rfl, rfl⟩) ?_ shallow
  rintro n u memo _ o answers ⟨n', t, runs, key, rfl⟩ records m trail rfl r repaired
  obtain rfl : n' = n := congrArg MemoKey.rule key
  rw [steady n' t u memo runs answers (records.recoveriesNonempty repaired) key]

theorem recoveredErrors {b : Output} (succeeds : ((p.setCache false).parse rules name rule).1 = .ok b) :
    ∃ a, ((p.setCache true).parse rules name rule).1 = .ok a ∧
      a.errors.map ParseError.pathless = b.errors.map ParseError.pathless ∧
      (a.errors = b.errors ↔ a.errors.map ParseError.path = b.errors.map ParseError.path) ∧
      (p.Steady rules name rule → a.errors = b.errors) := by
  have shallow : ∀ span position rule' depth, ((p.setCache false).parse rules name rule).1 ≠
      .error (.recursionLimit span position rule' depth) := by
    rw [succeeds]
    exact fun _ _ _ _ eq => nomatch eq
  have same := switchPathless reachable whole strict agree spares shallow
  rw [succeeds] at same
  cases on : ((p.setCache true).parse rules name rule).1 with
  | error e =>
    rw [on] at same
    exact nomatch same
  | ok a =>
    rw [on] at same
    have rest : a.errors.map ParseError.pathless = b.errors.map ParseError.pathless := by
      have := Except.ok.inj same
      simp only [Output.seen, Prod.mk.injEq] at this
      exact this.2.2.2
    refine ⟨a, rfl, rest, errorsEqIffPaths rest, fun steady => ?_⟩
    have exact' := switchSteady reachable whole strict agree spares steady shallow
    rw [succeeds, on] at exact'
    have := Except.ok.inj exact'
    simp only [Output.seen, Prod.mk.injEq, List.map_id] at this
    exact this.2.2.2

end

theorem recoveredErrorsOfList :
    ∃ a b, ((Sample.parser.setCache false).parse Sample.rules "R" "R").1 = .ok b ∧
      ((Sample.parser.setCache true).parse Sample.rules "R" "R").1 = .ok a ∧
      a.errors.map ParseError.pathless = b.errors.map ParseError.pathless ∧
      (a.errors = b.errors ↔ a.errors.map ParseError.path = b.errors.map ParseError.path) ∧
      (Sample.parser.Steady Sample.rules "R" "R" → a.errors = b.errors) := by
  have reachable : Reachable "ca;b" Sample.definitions Sample.parser :=
    (Reachable.new (Parser.ofDefinitionsOfOption _)).configured _
  have whole : NoPairs "ca;b".toList := by decide
  have succeeds : ((Sample.parser.setCache false).parse Sample.rules "R" "R").1.isOk := by decide +kernel
  cases result : ((Sample.parser.setCache false).parse Sample.rules "R" "R").1 with
  | error e =>
    rw [result] at succeeds
    exact nomatch succeeds
  | ok b =>
    obtain ⟨a, on, facts⟩ := recoveredErrors reachable whole (Rules.strictOf (by decide))
      (Rules.namesAgreeOf (by decide) "R") (fun _ => sparesAmple reachable whole (by decide +kernel) _ _ _) result
    exact ⟨a, b, rfl, on, facts⟩

theorem recoveredErrorsKeepPath :
    Sample.parser.config.recover ∧ Sample.parser.Spares Sample.rules "R" "R" ∧
      ((Sample.parser.setCache true).parse Sample.rules "R" "R").1.toOption.map
        (fun a => a.errors.map ParseError.path) = some [["R", "A", "L"]] ∧
      ((Sample.parser.setCache false).parse Sample.rules "R" "R").1.toOption.map
        (fun b => b.errors.map ParseError.path) = some [["R", "B", "L"]] := by
  have reachable : Reachable "ca;b" Sample.definitions Sample.parser :=
    (Reachable.new (Parser.ofDefinitionsOfOption _)).configured _
  exact ⟨rfl, sparesAmple reachable (by decide) (by decide +kernel) _ _ _, by decide +kernel, by decide +kernel⟩

end Parser
end Packrat

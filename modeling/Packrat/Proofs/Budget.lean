import Packrat.Proofs.Session.Fragments
import Packrat.Proofs.Transparency

/-! The budget of errors. It is looked at before a recovery, but not when an answer from the cache brings errors
along. So it is kept all along a parse exactly if every answer finds room in it. -/
namespace Packrat
namespace Session

def InBudget (env : Setup) (s : Session) : Prop := s.recoveries.length ≤ env.config.maxErrors

def budgeting (env : Setup) : Invariant := ⟨InBudget env, fun _ _ => True⟩

variable {env : Setup} {s t : Session}

theorem skipRecoveries (env : Setup) (fuel : Nat) (s : Session) :
    (s.skip env fuel).2.recoveries = s.recoveries := (skipQuiet env fuel s).2.1

theorem consumeRecoveries (token : String) (goal : Goal) (s : Session) :
    (consume env token goal s).2.recoveries = s.recoveries := by
  obtain ⟨found, scans, scan⟩ := scanChangesScans env goal s
  simp only [consume, scan]
  cases found with
  | token t next =>
    simp only
    split
    · exact pushChildRecoveries _ _
    · rfl
  | ended cursor => rfl
  | unrecognized cursor c => rfl

theorem recoverInBudget (failure : Failure) (h : s.InBudget env) : (s.recover env failure).2.InBudget env := by
  have recoveries := skipRecoveries env (env.source.length + 1) s
  unfold recover
  split
  · exact h
  · rename_i left
    cases ran : s.skip env (env.source.length + 1) with
    | mk nodes t =>
      rw [ran] at recoveries
      have recoveries : t.recoveries = s.recoveries := recoveries
      simp only
      split
      · rw [InBudget, recoveries]
        exact h
      · rw [InBudget, pushChildRecoveries]
        show (t.recoveries ++ [_]).length ≤ env.config.maxErrors
        rw [recoveries, List.length_append, List.length_singleton]
        omega

theorem rewoundInBudget (h : t.InBudget env) (m : Mark) : (t.rewind m).InBudget env := by
  rw [InBudget, rewindRecoveries, List.length_take]
  exact Nat.le_trans (Nat.min_le_right _ _) h

theorem closedInBudget {name : String} (verdict : Verdict) (h : t.InBudget env) :
    (closed env name s (verdict, t)).2.InBudget env := by
  have given : (t.recoveries.take s.recoveries.length).length ≤ env.config.maxErrors := by
    rw [List.length_take]
    exact Nat.le_trans (Nat.min_le_right _ _) h
  cases verdict with
  | ok =>
    rw [InBudget, closedOkRecoveries]
    exact h
  | mismatch =>
    obtain ⟨log, eq⟩ := closedMismatch env name s t
    rw [eq]
    exact given
  | fatal error =>
    obtain ⟨log, eq⟩ := closedFatal env name s t error
    rw [eq]
    exact given

theorem budgetingKept (env : Setup) : (budgeting env).Kept env where
  refl := fun _ => trivial
  trans := fun _ _ => trivial
  scan := by
    intro s goal h
    obtain ⟨found, scans, scan⟩ := scanChangesScans env goal s
    rw [scan]
    exact ⟨h, trivial⟩
  consume := by
    intro s token goal h
    have kept : (consume env token goal s).2.InBudget env := by
      rw [InBudget, consumeRecoveries]
      exact h
    exact ⟨kept, trivial⟩
  skipToken := by
    intro s t token next h found
    obtain ⟨_, scans, scan⟩ := scanChangesScans env defaultGoal s
    cases scan.symm.trans found
    exact ⟨h, trivial⟩
  skipUnknown := by
    intro s t cursor c h found
    obtain ⟨_, scans, scan⟩ := scanChangesScans env defaultGoal s
    cases scan.symm.trans found
    exact ⟨h, trivial⟩
  recover := fun failure h => ⟨recoverInBudget failure h, trivial⟩
  rewound := fun _ step => ⟨rewoundInBudget step.1 _, trivial⟩
  isolated := fun h => h
  rejoined := fun _ step => ⟨step.1, trivial⟩
  opened := by
    intro s name h _
    obtain ⟨log, eq⟩ := openedAsUpdate env name s (s.asked env name)
    rw [eq]
    exact h
  closed := fun verdict _ step => ⟨closedInBudget verdict step.1, trivial⟩

section
variable {rules : Rules} {depth : Nat} {task : Task} {first : Session}

def AnswersFit (env : Setup) (rules : Rules) (depth : Nat) (task : Task) (first : Session) : Prop :=
  ∀ name t memo, Answers env rules depth task first name t memo →
    t.recoveries.length + memo.recoveries.length ≤ env.config.maxErrors

theorem budgetAnswer (fit : AnswersFit env rules depth task first) {name : String} {memo : Memo}
    (answers : Answers env rules depth task first name s memo) (_ : s.InBudget env)
    (cache : Cache MemoKey Memo) (log : List Message) (_ : ∀ e ∈ cache.entries, e ∈ s.memo.entries) :
    (budgeting env).Step s (({ s with memo := cache, log := log } : Session).replay memo).2 := by
  have fits : (({ s with memo := cache, log := log } : Session).replay memo).2.InBudget env := by
    rw [InBudget, replayRecoveries, List.length_append]
    exact fit name s memo answers
  exact ⟨fits, trivial⟩

theorem Answers.passesWithRecoveries {name : String} {memo : Memo}
    (answers : Answers env rules depth task first name s memo) :
    ∃ t, Passes env rules depth task first t ∧ t.recoveries = s.recoveries ++ memo.recoveries := by
  obtain ⟨d, rule, reached, enters, found⟩ := answers
  refine ⟨_, ⟨d, _, s, reached, .inr rfl⟩, ?_⟩
  show (invoke env rules d name rule s).2.recoveries = _
  cases d <;>
  · obtain ⟨log, cache, _, eq⟩ := subruleHit _ enters found
    rw [invoke, eq, replayRecoveries]

theorem budgetKeptIff (h : first.InBudget env) :
    (∀ t, Passes env rules depth task first t → t.InBudget env) ↔ AnswersFit env rules depth task first := by
  constructor
  · intro kept name s memo answers
    obtain ⟨t, passes, recoveries⟩ := answers.passesWithRecoveries
    have within := kept t passes
    rw [InBudget, recoveries, List.length_append] at within
    exact within
  · intro fit t passes
    exact (budgetingKept env).holdsInPasses (budgetAnswer fit) h passes

end

theorem fragmentingReset (s : Session) : fragmenting.holds s.reset := fun _ member => nomatch member

theorem finishRecoveries (env : Setup) (s : Session) : (finish env s).2.recoveries = s.recoveries := by
  obtain ⟨found, scans, scan⟩ := scanChangesScans env defaultGoal s
  obtain ⟨root, furthest, tokens, left, _⟩ := finishSession env s
  rw [left, scan]

theorem parseRuleRecoveries (env : Setup) (rules : Rules) (name rule : String) (s : Session) :
    (s.parseRule env rules name rule).2.recoveries =
      (invoke env rules env.config.maxRuleDepth name rule s.reset).2.recoveries := by
  obtain ⟨t, stats, log, eq, rfl | rfl⟩ := parseRuleSession env rules name rule s
  · rw [eq]
  · rw [eq]
    exact finishRecoveries env _

theorem finishErrors {output : Output} (done : (finish env s).1 = .ok output) :
    output.errors.length ≤ (Tree.skippedIn s.root).length := by
  obtain ⟨found, scans, scan⟩ := scanChangesScans env defaultGoal s
  simp only [finish, scan] at done
  cases found with
  | ended cursor =>
    simp only at done
    split at done
    · cases done
    · rename_i root last
      cases done
      obtain ⟨before, eq⟩ := List.getLast?_eq_some_iff.mp last
      rw [eq, Tree.skippedInAppend, List.length_append]
      refine Nat.le_trans (List.length_filterMap_le _ _) ?_
      simp [Tree.skippedIn, Tree.topErrorsAll]
  | token t next => cases done
  | unrecognized cursor c => cases done

theorem Fragmented.rootFromReset (h : Fragmented s.reset t) :
    (Tree.skippedIn t.root).length = t.recoveries.length := by
  obtain ⟨nodes, more, levels, recoveries, ranges⟩ := h
  have levels : t.frames ++ [t.root] = [nodes] := levels
  have recoveries : t.recoveries = more := recoveries
  have root : t.root = nodes := by
    rcases List.append_eq_singleton_iff.mp levels with ⟨_, root⟩ | ⟨_, none⟩
    · exact (List.cons.inj root).1
    · exact absurd none (List.cons_ne_nil _ _)
  rw [root, ranges, recoveries, List.length_map]

theorem parseErrors {rules : Rules} {name rule : String} {output : Output}
    (succeeds : (s.parseRule env rules name rule).1 = .ok output) :
    output.errors.length ≤ (s.parseRule env rules name rule).2.recoveries.length := by
  obtain ⟨stats, eq⟩ := parseRuleConcludes env rules name rule s
  rw [parseRuleRecoveries]
  have here : Reached env rules env.config.maxRuleDepth (.body (.call name rule)) s.reset
      env.config.maxRuleDepth (.body (.call name rule)) s.reset := .start
  have step := (fragmentingKept env).invokeObeys fragmentsAnswer env.config.maxRuleDepth name rule s.reset here
    (fragmentingReset s)
  rw [eq] at succeeds
  cases ran : invoke env rules env.config.maxRuleDepth name rule s.reset with
  | mk verdict t =>
    rw [ran] at succeeds step
    cases verdict with
    | ok =>
      cases done : (finish env t).1 with
      | ok ended =>
        simp only [concluded, done] at succeeds
        cases succeeds
        have shown : ended.errors.length ≤ (Tree.skippedIn t.root).length := finishErrors done
        exact Nat.le_trans shown (Nat.le_of_eq step.2.rootFromReset)
      | error e =>
        simp only [concluded, done] at succeeds
        cases succeeds
    | mismatch => cases succeeds
    | fatal error => cases succeeds

end Session

namespace Parser

theorem errorBudget (p : Parser) (rules : Rules) (name rule : String) :
    ((∀ t, Session.Passes p.setup rules p.config.maxRuleDepth (.body (.call name rule)) p.session.reset t →
        t.recoveries.length ≤ p.config.maxErrors) ↔
      Session.AnswersFit p.setup rules p.config.maxRuleDepth (.body (.call name rule)) p.session.reset) ∧
    (p.config.memoize = false →
      Session.AnswersFit p.setup rules p.config.maxRuleDepth (.body (.call name rule)) p.session.reset) ∧
    (Session.AnswersFit p.setup rules p.config.maxRuleDepth (.body (.call name rule)) p.session.reset →
      (p.parse rules name rule).2.session.recoveries.length ≤ p.config.maxErrors ∧
      ∀ output, (p.parse rules name rule).1 = .ok output → output.errors.length ≤ p.config.maxErrors) := by
  have kept : (∀ t, Session.Passes p.setup rules p.config.maxRuleDepth (.body (.call name rule)) p.session.reset t →
        t.InBudget p.setup) ↔
      Session.AnswersFit p.setup rules p.config.maxRuleDepth (.body (.call name rule)) p.session.reset :=
    Session.budgetKeptIff (Nat.zero_le p.config.maxErrors)
  refine ⟨kept, ?_, fun fit => ?_⟩
  · rintro off n t memo ⟨_, _, _, _, found⟩
    have on := (Session.rememberedMem found).1
    rw [show p.setup.config.memoize = false from off] at on
    exact nomatch on
  · have ended : (p.parse rules name rule).2.session.recoveries.length ≤ p.config.maxErrors := by
      show (p.session.parseRule p.setup rules name rule).2.recoveries.length ≤ _
      rw [Session.parseRuleRecoveries]
      exact kept.mpr fit _ ⟨_, _, _, .start, .inr rfl⟩
    exact ⟨ended, fun output succeeds => Nat.le_trans (Session.parseErrors succeeds) ended⟩

namespace Sample

def spending : Rules :=
  [("R", .firstOf [.inOrder [.consume "a" defaultGoal, .consume "S" defaultGoal, .call "L" "L",
      .consume "b" defaultGoal],
      .inOrder [.many (.inOrder [.consume "a" defaultGoal, .consume "b" defaultGoal]), .call "L" "L"]]),
    ("L", .many (.inOrder [.consume "c" defaultGoal, .consume "b" defaultGoal]))]

def spender : Parser :=
  ((Parser.ofDefinitions "a;c;" definitions).toOption.get (by decide +kernel)).withConfig
    { recover := true, syncTokens := ["S"], maxErrors := 1 }

end Sample

theorem errorBudgetUncached :
    (Sample.spender.setCache false).config.maxErrors = 1 ∧
      ((Sample.spender.setCache false).parse Sample.spending "R" "R").2.session.recoveries.length ≤ 1 := by
  have kept := errorBudget (Sample.spender.setCache false) Sample.spending "R" "R"
  exact ⟨rfl, (kept.2.2 (kept.2.1 rfl)).1⟩

theorem errorBudgetOverdrawn :
    Sample.spender.config.memoize ∧ Sample.spender.config.maxErrors = 1 ∧
      (Sample.spender.parse Sample.spending "R" "R").1.toOption.map (fun output => output.errors.length) = some 2 ∧
      ¬ ∀ t, Session.Passes Sample.spender.setup Sample.spending Sample.spender.config.maxRuleDepth
        (.body (.call "R" "R")) Sample.spender.session.reset t →
          t.recoveries.length ≤ Sample.spender.config.maxErrors := by
  refine ⟨rfl, rfl, by decide +kernel, fun kept => ?_⟩
  have spent := kept _ ⟨_, _, _, .start, .inr rfl⟩
  revert spent
  decide +kernel

end Parser
end Packrat

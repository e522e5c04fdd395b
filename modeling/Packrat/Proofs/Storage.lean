import Packrat.Proofs.Session.Storing

/-! What a parse stores. A rule that was run is put into the cache once, when it is closed, and the cache holds
no more than it may. -/
namespace Packrat

namespace Session

theorem parseRuleCounts (env : Setup) (rules : Rules) (name rule : String) (s : Session) :
    (s.parseRule env rules name rule).2.memo = (invoke env rules env.config.maxRuleDepth name rule s.reset).2.memo ∧
      (s.parseRule env rules name rule).2.stats.cacheMisses = (s.parseRule env rules name rule).2.memo.misses ∧
      (s.parseRule env rules name rule).2.stats.cacheEvictions =
          (s.parseRule env rules name rule).2.memo.evictions := by
  unfold parseRule
  cases invoke env rules env.config.maxRuleDepth name rule s.reset with
  | mk verdict t =>
    cases verdict with
    | ok =>
      have kept := finishMemo env t
      simp only
      cases done : finish env t with
      | mk result u =>
        rw [done] at kept
        cases result <;> exact ⟨kept, rfl, rfl⟩
    | mismatch => exact ⟨rfl, rfl, rfl⟩
    | fatal error => exact ⟨rfl, rfl, rfl⟩

theorem resetBounded (s : Session) : s.reset.memo.Bounded s.memo.capacity :=
  ⟨List.nodup_nil, rfl, Nat.zero_le _⟩

end Session

namespace Parser

theorem Used.capacityConfigured {source : String} {definitions : List Definition} {p : Parser}
    (used : Used source definitions p) :
    p.session.memo.capacity = max 1 p.config.maxMemo := by
  obtain ⟨q, _, _, _, capacity⟩ := used.likeNew
  rw [capacity, Nat.max_comm]
  rfl

theorem storedOnce {source : String} {definitions : List Definition} {p : Parser} (used : Used source definitions p)
    (on : p.config.memoize = true) (rules : Rules) (name rule : String) :
    (∀ d called its t verdict u, Session.RunsRule p.setup rules p.config.maxRuleDepth (.body (.call name rule))
        p.session.reset d called its t (verdict, u) →
      u.memo.find? (MemoKey.of called t.state) = none ∧
        (((∃ error, verdict = .fatal error) ∧ (Session.invoke p.setup rules d called its t).2.memo = u.memo) ∨
          (∀ error, verdict ≠ .fatal error) ∧ ∃ memo,
            (Session.invoke p.setup rules d called its t).2.memo = u.memo.insert (MemoKey.of called t.state) memo)) ∧
    (∀ t, Session.Passes p.setup rules p.config.maxRuleDepth (.body (.call name rule)) p.session.reset t →
      (t.memo.entries.map (·.1)).Nodup ∧ t.memo.entries.length ≤ max 1 p.config.maxMemo) ∧
    (Session.Clean p.setup rules p.config.maxRuleDepth (.body (.call name rule)) p.session.reset →
      (p.parse rules name rule).2.stats.cacheMisses =
        (p.parse rules name rule).2.stats.cacheEvictions +
            (p.parse rules name rule).2.session.memo.entries.length) := by
  have room : 0 < max 1 p.config.maxMemo := Nat.lt_of_lt_of_le Nat.zero_lt_one (Nat.le_max_left _ _)
  have sound : p.session.reset.Sound p.setup := Session.soundReset used.isReachable.sourceAndSound.2
  have bounded : p.session.reset.memo.Bounded (max 1 p.config.maxMemo) := used.capacityConfigured ▸
    Session.resetBounded p.session
  refine ⟨fun d called its t verdict u runs => runs.resultStored on room sound bounded, fun t passes =>
    ?_, fun clean => ?_⟩
  · have held := passes.memoBounded on room sound bounded
    exact ⟨held.distinct, held.few⟩
  · obtain ⟨kept, misses, evictions⟩ := Session.parseRuleCounts p.setup rules name rule p.session
    have kept : (p.parse rules name rule).2.session.memo =
      (Session.invoke p.setup rules p.config.maxRuleDepth name rule p.session.reset).2.memo := kept
    obtain ⟨_, _, stores⟩ := Session.storesInvoke on room p.config.maxRuleDepth name rule p.session.reset .start
      ⟨sound, bounded⟩
    have balanced := stores.balanced clean
    rw [← kept] at balanced
    rw [show (p.parse rules name rule).2.stats.cacheMisses = _ from misses,
      show (p.parse rules name rule).2.stats.cacheEvictions = _ from evictions]
    exact Cache.Balanced.sinceClear balanced

theorem storedOnceOnList :
    Sample.parser.config.memoize = true ∧
      Session.Clean Sample.parser.setup Sample.rules Sample.parser.config.maxRuleDepth (.body (.call "R" "R"))
        Sample.parser.session.reset ∧
      (Sample.parser.parse Sample.rules "R" "R").2.stats.cacheMisses = 4 ∧
      (Sample.parser.parse Sample.rules "R" "R").2.stats.cacheEvictions = 2 ∧
      (Sample.parser.parse Sample.rules "R" "R").2.session.memo.entries.length = 2 := by
  have used : Used "ca;b" Sample.definitions Sample.parser := (Used.new (Parser.ofDefinitionsOfOption _)).configured _
  have on : Sample.parser.config.memoize = true := rfl
  have matches' : (Session.invoke Sample.parser.setup Sample.rules Sample.parser.config.maxRuleDepth "R" "R"
      Sample.parser.session.reset).1 = .ok := by decide +kernel
  have strict : Sample.rules.Strict := Rules.strictOf (by decide)
  have clean : Session.Clean Sample.parser.setup Sample.rules Sample.parser.config.maxRuleDepth (.body (.call "R" "R"))
      Sample.parser.session.reset := Session.cleanOf strict fun error fatal => nomatch matches'.symm.trans fatal
  have balanced := (storedOnce used on Sample.rules "R" "R").2.2 clean
  have misses : (Sample.parser.parse Sample.rules "R" "R").2.stats.cacheMisses = 4 := by decide +kernel
  have evictions : (Sample.parser.parse Sample.rules "R" "R").2.stats.cacheEvictions = 2 := by decide +kernel
  rw [misses, evictions] at balanced
  exact ⟨on, clean, misses, evictions, by omega⟩

end Parser
end Packrat

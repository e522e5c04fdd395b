import Packrat.Proofs.Session.Realizing

/-! Invocations do what they mean. A rule that is run is closed over what its body means; a
remembered result does again what it was recorded for, in another session and below other
open rules. -/
namespace Packrat

def Memo.Records (env : Setup) (see : Recovery → Recovery) (path : List String) : Memo → Outcome → Prop
  | .success stop node tokens attempt, .ok m trail =>
    stop.place = m.stop ∧ m.nodes = [node] ∧ (∃ k, tokens = Session.renumber k m.tokens) ∧
      attempt.recoveries.map see = (m.repairs.map fun r => see ((r.under path).recovery env)) ∧
      attempt.reached = trail.reached ∧ attempt.failure = trail.failure
  | .failure attempt, .mismatch trail =>
    attempt.recoveries = [] ∧ attempt.reached = trail.reached ∧ attempt.failure = trail.failure
  | _, _ => False

theorem Memo.Records.outcomeEnds {env : Setup} {see : Recovery → Recovery} {path : List String} {memo : Memo}
    {o : Outcome} (h : memo.Records env see path o) : ¬ o.Halts := by
  cases o with
  | ok _ _ => exact id
  | mismatch _ => exact id
  | fatal _ => cases memo <;> exact h.elim
  | cut => cases memo <;> exact h.elim

namespace Session

variable {env : Setup} {scheme : Scheme} {missed : Outcome → Prop} {around : Semantics.Around Place}

theorem pathCons (s : Session) (name : String) {t : Session}
    (stack : t.ruleStack = s.here name :: s.ruleStack) : t.path = s.path ++ [name] := by
  simp [path, stack, here]

theorem openedPlace (env : Setup) (name : String) (s : Session) (memo : Cache MemoKey Memo) :
    (opened env name s memo).place = s.place := congrArg State.place (openedState env name s memo)

theorem openedPath (env : Setup) (name : String) (s : Session) (memo : Cache MemoKey Memo) :
    (opened env name s memo).path = s.path ++ [name] :=
  pathCons s name (openedRuleStack env name s memo)

theorem lengthPath (s : Session) : s.path.length = s.ruleStack.length := by simp [path]

/- The trail of a rule, seen from outside: its high-water mark starts where the rule does, and
its failure lies below it. -/
structure Shut (name : String) (s : Session) (trail : Trail) (t : Session) : Prop where
  reached : t.highWater = (trail.inRule name s.place).reached
  furthest : t.furthest = (trail.inRule name s.place).failure.rootedAt s.path
  failure : t.furthest.relativeTo s.ruleStack.length = (trail.inRule name s.place).failure

theorem Trailed.shutByRule {name : String} {s t : Session} {memo : Cache MemoKey Memo} {trail : Trail}
    (h : Trailed (opened env name s memo) trail t) : Shut name s trail t := by
  obtain ⟨log, eq⟩ := openedAsUpdate env name s memo
  have furthest : t.furthest = (trail.inRule name s.place).failure.rootedAt s.path := by
    rw [h.furthest, openedPath, eq]
    exact (Failure.emptyMerge (trail.proper.rootedAt _)).trans (Failure.rootedAtRootedAt _ _ _).symm
  refine ⟨?_, furthest, ?_⟩
  · rw [h.highWater, eq]
    rfl
  · rw [furthest, ← lengthPath]
    exact (trail.inRule name s.place).proper.relativeTo s.path

theorem Shut.trailedOutside {name : String} {s t u : Session} {trail : Trail} (h : Shut name s trail t)
    (highWater : u.highWater = max s.highWater t.highWater)
    (furthest : u.furthest = s.furthest.merge t.furthest) : Trailed s (trail.inRule name s.place) u where
  highWater := by rw [highWater, h.reached]
  furthest := by rw [furthest, h.furthest]

section
variable {name : String} {s t : Session} {m : Match} {trail : Trail} {memo : Cache MemoKey Memo}

theorem Follows.childrenWhenOpened (h : Follows env scheme.see (opened env name s memo) m trail t) :
    t.children = m.nodes := by
  rw [h.childrenAppended, ← viewChildren, openedView]
  rfl

theorem Follows.recoveriesWhenOpened (h : Follows env scheme.see (opened env name s memo) m trail t) :
    t.recoveries.map scheme.see = s.recoveries.map scheme.see ++
      (m.repairs.map (·.under [name])).map fun r => scheme.see ((r.under s.path).recovery env) := by
  rw [h.recoveries, openedRecoveries, openedPath, List.map_map]
  simp only [Function.comp_def, Repair.underUnder]

theorem Follows.tokensWhenOpened (h : Follows env scheme.see (opened env name s memo) m trail t) :
    t.tokens.take t.state.tokenIndex =
      s.tokens.take s.state.tokenIndex ++ renumber s.state.tokenIndex m.tokens := by
  rw [h.tokens, openedTokens, openedState]

theorem Follows.whenClosed (h : Follows env scheme.see (opened env name s memo) m trail t)
    (enclosed : Enclosed name s t) :
    Follows env scheme.see s { m with
      nodes := [Tree.ofRule name m.nodes s.place.offset s.place.position]
      repairs := m.repairs.map (·.under [name]) } (trail.inRule name s.place)
      (closed env name s (.ok, t)).2 := by
  obtain ⟨stats, log, eq⟩ := closedOk env name s t enclosed.inFrame
  rw [eq, h.childrenWhenOpened]
  refine Follows.pushChild (m := { m with nodes := [], repairs := m.repairs.map (·.under [name]) }) ?_ _
  refine ⟨h.toTrailed.shutByRule.trailedOutside rfl rfl, ?_, ?_, h.tokensWhenOpened, h.recoveriesWhenOpened⟩
  · rw [← openedState env name s memo]
    exact h.state
  · rw [List.append_nil]
    exact enclosed.outer.trans s.levelsByChildren

theorem Follows.successRecorded (hs : s.Settled env) (h : Follows env scheme.see (opened env name s memo) m trail t) :
    (successOf name s t).Records env scheme.see s.path (env.meaning.inRule name s.place (.ok m trail)) := by
  have shut := h.toTrailed.shutByRule
  refine ⟨h.endsAtPlace, ?_, ⟨s.state.tokenIndex, ?_⟩, ?_, shut.reached, shut.failure⟩
  · rw [h.childrenWhenOpened]
    rfl
  · rw [h.tokensWhenOpened]
    have length : (s.tokens.take s.state.tokenIndex).length = s.state.tokenIndex := by
      rw [List.length_take]
      exact Nat.min_eq_left hs.index
    exact List.drop_left' length
  · have all := h.recoveriesWhenOpened
    rw [List.map_drop, all]
    exact List.drop_left' (List.length_map _)

end

theorem Known.afterRemembering {s t : Session} {key : MemoKey} {memo : Memo} (known : t.Known env scheme)
    (valid : env.config.memoize → scheme.valid key memo) (entries : s.memo = remembering env t.memo key memo) :
    s.Known env scheme := by
  intro memoize e member
  rw [entries] at member
  rcases memRemembering member with rfl | old
  · exact valid memoize
  · exact known memoize e old

theorem Realized.whenClosed {name : String} {s : Session} {memo : Cache MemoKey Memo} {o : Outcome}
    {r : Verdict × Session} (hs : s.Settled env) (enclosed : Enclosed name s r.2)
    (store : ∀ memo, memo.Records env scheme.see s.path (env.meaning.inRule name s.place o) →
      scheme.valid (MemoKey.of name s.state) memo)
    (h : (opened env name s memo).Realized env scheme o r) :
    s.Realized env scheme (env.meaning.inRule name s.place o) (closed env name s r) := by
  obtain ⟨verdict, t⟩ := r
  cases o with
  | ok m trail =>
    obtain ⟨rfl, follows, known⟩ := h
    obtain ⟨stats, log, eq⟩ := closedOk env name s t enclosed.inFrame
    refine ⟨by rw [eq], follows.whenClosed enclosed, ?_⟩
    refine known.afterRemembering (fun _ => store _ (follows.successRecorded hs)) ?_
    rw [eq]
    exact pushChildMemo _ _
  | mismatch trail =>
    obtain ⟨rfl, trailed, known⟩ := h
    obtain ⟨log, eq⟩ := closedMismatch env name s t
    have shut := trailed.shutByRule
    refine ⟨by rw [eq], by rw [eq]; exact shut.trailedOutside rfl rfl, ?_⟩
    refine known.afterRemembering (fun _ => store (failureOf s t) ⟨rfl, shut.reached, shut.failure⟩) ?_
    rw [eq]
  | fatal error =>
    obtain rfl : verdict = .fatal error := h
    obtain ⟨log, eq⟩ := closedFatal env name s t error
    show (Session.closed env name s (.fatal error, t)).1 = _
    rw [eq]
  | cut => exact h

theorem replayFollows {s : Session} {m : Match} {trail : Trail} {stop : State} {node : Tree}
    {tokens : List Token} {attempt : Attempt} (place : stop.place = m.stop) (nodes : m.nodes = [node])
    (renumbered : ∃ k, tokens = renumber k m.tokens)
    (recoveries : attempt.recoveries.map scheme.see =
      m.repairs.map fun r => scheme.see ((r.under s.path).recovery env))
    (reached : attempt.reached = trail.reached) (failure : attempt.failure = trail.failure) :
    Follows env scheme.see s m trail (replay s (.success stop node tokens attempt)).2 := by
  obtain ⟨k, rfl⟩ := renumbered
  have length := lengthRenumber k m.tokens
  have follows : Follows env scheme.see s { m with nodes := [] } trail (replayAttempt { s with
      tokens := s.tokens.take s.state.tokenIndex ++ renumber s.state.tokenIndex (renumber k m.tokens)
      state := { stop with tokenIndex := s.state.tokenIndex + (renumber k m.tokens).length } } attempt) := by
    refine ⟨⟨?_, ?_⟩, ?_, ?_, ?_, ?_⟩
    · rw [← reached]
      rfl
    · rw [← failure]
      rfl
    · rw [← place, length]
      rfl
    · rw [List.append_nil]
      exact s.levelsByChildren
    · show (_ ++ _ : List Token).take (s.state.tokenIndex + (renumber k m.tokens).length) = _
      rw [renumberRenumber, List.take_of_length_le]
      rw [List.length_append, List.length_take, lengthRenumber, length]
      exact Nat.add_le_add_right (Nat.min_le_left _ _) _
    · simp only [replayAttempt, List.map_append, recoveries]
  have pushed := follows.pushChild node
  rw [show ([] : List Tree) ++ [node] = m.nodes from nodes.symm] at pushed
  exact pushed

def SeenAlike (env : Setup) (see : Recovery → Recovery) (path other : List String) (o : Outcome) : Prop :=
  ∀ m trail, o = .ok m trail → ∀ r ∈ m.repairs,
    see ((r.under path).recovery env) = see ((r.under other).recovery env)

theorem replayRealized {s : Session} {path : List String} {memo : Memo} {o : Outcome}
    (records : memo.Records env scheme.see path o) (known : s.Known env scheme)
    (alike : SeenAlike env scheme.see path s.path o) : s.Realized env scheme o (replay s memo) := by
  cases memo with
  | success stop node tokens attempt =>
    cases o with
    | ok m trail =>
      obtain ⟨place, nodes, renumbered, recoveries, reached, failure⟩ := records
      refine ⟨rfl, replayFollows place nodes renumbered (recoveries.trans ?_) reached failure, ?_⟩
      · exact List.map_congr_left (alike m trail rfl)
      · unfold Known
        simp only [replay, replayAttempt, pushChildMemo]
        exact known
    | mismatch _ => exact records.elim
    | fatal _ => exact records.elim
    | cut => exact records.elim
  | failure attempt =>
    cases o with
    | ok _ _ => exact records.elim
    | mismatch trail =>
      obtain ⟨none, reached, failure⟩ := records
      refine ⟨rfl, ⟨?_, ?_⟩, known⟩
      · rw [← reached]
        rfl
      · rw [← failure]
        rfl
    | fatal _ => exact records.elim
    | cut => exact records.elim

theorem Realized.withoutLog {s : Session} {o : Outcome} {r : Verdict × Session} {memo : Cache MemoKey Memo}
    {log : List Message} (h : ({ s with memo := memo, log := log } : Session).Realized env scheme o r) :
    s.Realized env scheme o r := by
  cases o with
  | ok m trail =>
    obtain ⟨verdict, follows, known⟩ := h
    exact ⟨verdict, ⟨⟨follows.highWater, follows.furthest⟩, follows.state, follows.levels, follows.tokens,
      follows.recoveries⟩, known⟩
  | mismatch trail =>
    obtain ⟨verdict, trailed, known⟩ := h
    exact ⟨verdict, ⟨trailed.highWater, trailed.furthest⟩, known⟩
  | fatal error => exact h
  | cut => exact h

theorem Ready.whenOpened {s : Session} (ready : s.Ready env scheme around) {name : String}
    (miss : s.remembered env name = none) :
    (opened env name s (s.asked env name)).Ready env scheme ((name, s.place) :: around) where
  settled := ready.settled.whenOpened name (askedEntries miss)
  stack := by
    exact (openedRuleStack env name s _).trans (congrArg _ ready.stack)
  inside := by
    rw [openedPlace]
    exact Ahead.allEntered ready.inside name (.refl _)
  known := by
    obtain ⟨log, eq⟩ := openedAsUpdate env name s (s.asked env name)
    intro memoize e member
    rw [eq] at member
    exact ready.known memoize e (askedEntries miss ▸ member)

theorem simulatesSubrule {name : String} {body : Action} {m : Meaning} {o : Outcome} (inner : Outcome → Prop)
    (keeps : Keeps env body) {s : Session} (ready : s.Ready env scheme around)
    (means : m s.place s.recoveries.length = o)
    (ran : s.Enters env name → s.remembered env name = none →
      (Session.opened env name s (s.asked env name)).Simulates env scheme inner o
        (body (Session.opened env name s (s.asked env name))))
    (outside : s.Enters env name → o.Halts → inner o → missed o)
    (store : s.Enters env name → s.remembered env name = none →
      ∀ memo, memo.Records env scheme.see s.path (env.meaning.inRule name s.place o) →
        scheme.valid (MemoKey.of name s.state) memo)
    (hit : s.Enters env name → ∀ memo, s.remembered env name = Option.some memo →
      (env.meaning.inRule name s.place o).Halts ∧ missed (env.meaning.inRule name s.place o) ∨
      ∃ path, memo.Records env scheme.see path (env.meaning.inRule name s.place o) ∧
        SeenAlike env scheme.see path s.path (env.meaning.inRule name s.place o)) :
    s.Simulates env scheme missed
      (env.meaning.entering (env.meaning.stack around) name m s.place s.recoveries.length)
          (subrule env name body s) := by
  have active : s.active.contains (s.here name) = s.ruleStack.contains (name, env.meaning.offset s.place) := by
    rw [ready.settled.active]
    rfl
  unfold Semantics.entering
  rw [← ready.stack, ← active]
  by_cases isOpen : s.active.contains (s.here name)
  · rw [subruleOpen body isOpen, if_pos isOpen]
    exact .inr rfl
  · rw [if_neg isOpen]
    by_cases deep : env.config.maxRuleDepth ≤ s.ruleStack.length
    · rw [subruleDeep body isOpen deep, if_pos (show env.meaning.levels ≤ _ from deep)]
      exact .inr rfl
    · have enters : s.Enters env name := ⟨isOpen, Nat.not_le.mp deep⟩
      rw [if_neg (show ¬ env.meaning.levels ≤ _ from deep), means]
      cases asked : s.remembered env name with
      | some memo =>
        obtain ⟨log, cache, subset, eq⟩ := subruleHit body enters asked
        rw [eq]
        rcases hit enters memo asked with excused | ⟨path, records, alike⟩
        · exact .inl excused
        · have known : ({ s with memo := cache, log := log } : Session).Known env scheme :=
            fun memoize e member => ready.known memoize e (subset e member)
          exact .inr (replayRealized records known alike).withoutLog
      | none =>
        have onward := (keeps _ (ready.whenOpened asked).settled).2
        rw [subruleFresh body enters asked]
        rcases ran enters asked with ⟨halts, excused⟩ | realized
        · refine .inl ?_
          rw [Semantics.inRule, Result.elimHalts halts]
          exact ⟨halts, outside enters halts excused⟩
        · exact .inr (realized.whenClosed ready.settled onward.enclosedByRule (store enters asked))

end Session
end Packrat

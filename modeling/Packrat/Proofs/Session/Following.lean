import Packrat.Proofs.Meaning
import Packrat.Proofs.Session.Keeping

/-! When a session has done what a match says: position, nodes, tokens and recovered errors are those of the
match, and its trail has been taken up. Errors are compared through a function, so a part may be left out. -/
namespace Packrat

theorem Session.renumberAppend (first : Nat) (tokens more : List Token) :
    renumber first (tokens ++ more) = renumber first tokens ++ renumber (first + tokens.length) more := by
  simp only [renumber, List.mapIdx_append]
  congr 1
  apply List.mapIdx_eq_mapIdx_iff.mpr
  intro i _
  rw [Nat.add_assoc, Nat.add_comm i]

theorem Session.renumberRenumber (first other : Nat) (tokens : List Token) :
    renumber first (renumber other tokens) = renumber first tokens := by
  simp [renumber, List.mapIdx_mapIdx, Function.comp_def]

theorem Session.lengthRenumber (first : Nat) (tokens : List Token) :
    (renumber first tokens).length = tokens.length := List.length_mapIdx

namespace Repair

theorem underUnder (r : Repair) (inner outer : List String) :
    (r.under inner).under outer = r.under (outer ++ inner) := by
  simp [under, Failure.rootedAtRootedAt]

end Repair

namespace Session

structure Trailed (s : Session) (trail : Trail) (t : Session) : Prop where
  highWater : t.highWater = max s.highWater trail.reached
  furthest : t.furthest = s.furthest.merge (trail.failure.rootedAt s.path)

structure Follows (env : Setup) (see : Recovery → Recovery) (s : Session) (m : Match) (trail : Trail)
    (t : Session) : Prop extends Trailed s trail t where
  state : t.state = m.stop.state (s.state.tokenIndex + m.tokens.length)
  levels : t.levels = (s.children ++ m.nodes) :: s.levels.tail
  tokens : t.tokens.take t.state.tokenIndex =
    s.tokens.take s.state.tokenIndex ++ renumber s.state.tokenIndex m.tokens
  recoveries : t.recoveries.map see =
    s.recoveries.map see ++ m.repairs.map fun r => see ((r.under s.path).recovery env)

theorem Trailed.emptyTrail {s t : Session} (highWater : t.highWater = s.highWater)
    (furthest : t.furthest = s.furthest) : Trailed s {} t where
  highWater := by rw [highWater]; exact (Nat.max_zero _).symm
  furthest := by
    rw [furthest]
    exact (Failure.mergeEmpty _).symm

theorem Trailed.trans {s t u : Session} {first later : Trail} (st : Trailed s first t)
    (tu : Trailed t later u) (path : t.path = s.path) : Trailed s (first.append later) u where
  highWater := by
    rw [tu.highWater, st.highWater]
    exact Nat.max_assoc _ _ _
  furthest := by
    rw [tu.furthest, st.furthest, path, Failure.mergeAssoc, ← Failure.rootedAtMerge]
    rfl

theorem Extends.pathKept {s t : Session} (h : s.Extends t) : t.path = s.path := by
  unfold Session.path
  rw [show t.ruleStack = s.ruleStack from h.stack]

variable {env : Setup} {see : Recovery → Recovery}

theorem Returned.followsNothing {s t : Session} {trail : Trail} (back : s.Returned t) (trailed : Trailed s trail t) :
    Follows env see s { stop := s.place } trail t where
  toTrailed := trailed
  state := back.state
  levels := by
    rw [back.levels, List.append_nil]
    exact s.levelsByChildren
  tokens := by
    rw [back.state]
    exact back.tokens.trans (List.append_nil _).symm
  recoveries := by
    rw [back.recoveries]
    exact (List.append_nil _).symm

theorem Follows.refl (s : Session) : Follows env see s { stop := s.place } {} s :=
  Returned.followsNothing ⟨rfl, rfl, rfl, rfl, rfl, rfl⟩ (Trailed.emptyTrail rfl rfl)

theorem Trailed.followsRewound {s t : Session} {trail : Trail} (h : Trailed s trail t) (onward : s.Extends t) :
    Follows env see s { stop := s.place } trail (t.rewind s.mark) :=
  onward.returnedByRewind.followsNothing
    ⟨(rewindHighWater _ _).trans h.highWater, (rewindFurthest _ _).trans h.furthest⟩

namespace Follows

variable {s t u : Session} {m more : Match} {trail later : Trail}

theorem endsAtPlace (h : Follows env see s m trail t) : t.place = m.stop := by
  rw [Session.place, h.state]
  rfl

theorem childrenAppended (h : Follows env see s m trail t) : t.children = s.children ++ m.nodes := by
  have := t.levelsByChildren
  rw [h.levels] at this
  exact (List.cons.inj this).1.symm

theorem outerFramesKept (h : Follows env see s m trail t) : t.levels.tail = s.levels.tail := by
  rw [h.levels]
  rfl

theorem recoveryCount (h : Follows env see s m trail t) :
    t.recoveries.length = s.recoveries.length + m.repairs.length := by
  have := congrArg List.length h.recoveries
  simpa using this

theorem trans (st : Follows env see s m trail t) (tu : Follows env see t more later u)
    (path : t.path = s.path) : Follows env see s (m.append more) (trail.append later) u where
  toTrailed := st.toTrailed.trans tu.toTrailed path
  state := by
    rw [tu.state, st.state]
    simp [Match.append, Nat.add_assoc]
  levels := by
    rw [tu.levels, st.childrenAppended, st.outerFramesKept, List.append_assoc]
    rfl
  tokens := by
    rw [tu.tokens, st.tokens, st.state, Place.stateTokenIndex, List.append_assoc, ← renumberAppend]
    rfl
  recoveries := by
    rw [tu.recoveries, st.recoveries, path, List.append_assoc, ← List.map_append]
    rfl

theorem stoodStill (h : Follows env see s m trail t) :
    stoodStill s.mark t ↔ m.stop.offset = s.place.offset ∧ m.tokens = [] := by
  unfold Session.stoodStill
  rw [h.state]
  simp only [mark, Place.stateOffset, Place.stateTokenIndex, Bool.and_eq_true, beq_iff_eq,
    Nat.add_eq_left, List.length_eq_zero_iff]
  rfl

theorem infiniteLoopAgrees (h : Follows env see s m trail t) (stack : t.ruleStack = s.ruleStack) (attempts : Nat) :
    t.infiniteLoop s.mark attempts = m.stop.loop s.ruleStack m.nodes attempts := by
  unfold infiniteLoop Place.loop infiniteLoop
  have current : t.currentRule = (m.stop.below s.ruleStack m.nodes).currentRule := by
    unfold currentRule Place.below
    rw [stack]
  rw [current, h.state, h.childrenAppended, mark, List.drop_left]
  rfl

end Follows

theorem Trailed.whenRejoined {s t : Session} {trail : Trail} (h : Trailed s.isolated trail t) :
    Trailed s (trail.startingAt s.place) (s.rejoined t) where
  highWater := by
    show max s.highWater t.highWater = _
    rw [h.highWater]
    rfl
  furthest := by
    show s.furthest.merge t.furthest = _
    rw [h.furthest]
    exact congrArg _ (Failure.emptyMerge (trail.proper.rootedAt _))

theorem Trailed.isolatedFurthest {s t : Session} {trail : Trail} (h : Trailed s.isolated trail t) :
    t.furthest = trail.failure.rootedAt s.path := by
  rw [h.furthest]
  exact Failure.emptyMerge (trail.proper.rootedAt _)

theorem Follows.whenRejoined {s t : Session} {m : Match} {trail : Trail}
    (h : Follows env see s.isolated m trail t) :
    Follows env see s m (trail.startingAt s.place) (s.rejoined t) :=
  ⟨h.toTrailed.whenRejoined, h.state, h.levels, h.tokens, h.recoveries⟩

theorem commitFollows (s : Session) (t : Token) (next : Cursor) :
    Follows env see s { (Meaning.taking t next).1 with nodes := [] } (Meaning.taking t next).2
      (s.commit t next) where
  highWater := rfl
  furthest := rfl
  state := rfl
  levels := by
    rw [List.append_nil]
    exact s.levelsByChildren
  tokens := by
    show (s.tokens.take s.state.tokenIndex ++ [_]).take (s.state.tokenIndex + 1) = _
    have length : (s.tokens.take s.state.tokenIndex ++ [{ t with index := s.state.tokenIndex }]).length ≤
        s.state.tokenIndex + 1 := by
      rw [List.length_append, List.length_take, List.length_singleton]
      omega
    rw [List.take_of_length_le length]
    rfl
  recoveries := (List.append_nil _).symm

theorem Follows.pushChild {s t : Session} {m : Match} {trail : Trail} (h : Follows env see s m trail t)
    (node : Tree) : Follows env see s { m with nodes := m.nodes ++ [node] } trail (t.pushChild node) := by
  have view := pushChildView t node
  simp only [Session.view, View.mk.injEq] at view
  obtain ⟨state, levels, _, _, tokens, recoveries⟩ := view
  refine ⟨⟨?_, ?_⟩, ?_, ?_, ?_, ?_⟩
  · rw [pushChildHighWater]
    exact h.highWater
  · rw [pushChildFurthest]
    exact h.furthest
  · rw [state]
    exact h.state
  · rw [levels, h.childrenAppended, h.outerFramesKept, List.append_assoc]
  · rw [tokens, state]
    exact h.tokens
  · rw [recoveries]
    exact h.recoveries

theorem Follows.withoutScans {s t : Session} {scans : List (ScanKey × Scan)} {m : Match} {trail : Trail}
    (h : Follows env see { s with scans := scans } m trail t) : Follows env see s m trail t :=
  ⟨⟨h.highWater, h.furthest⟩, h.state, h.levels, h.tokens, h.recoveries⟩

structure Skips (env : Setup) (see : Recovery → Recovery) (s : Session) (passed : Match × Trail)
    (r : List Tree × Session) : Prop where
  nodes : r.1 = passed.1.nodes
  follows : Follows env see s { passed.1 with nodes := [] } passed.2 r.2
  memo : r.2.memo = s.memo

theorem Skips.afterCommit {s : Session} {t : Token} {next : Cursor} {passed : Match × Trail}
    {r : List Tree × Session} (rest : Skips env see (s.commit t next) passed r) :
    Skips env see s ((Meaning.taking t next).1.append passed.1, (Meaning.taking t next).2.append passed.2)
      (.ofToken t :: r.1, r.2) where
  nodes := congrArg _ rest.nodes
  follows := (commitFollows s t next).trans rest.follows rfl
  memo := rest.memo

theorem skipsNothing (s : Session) : Skips env see s ({ stop := s.place }, {}) ([], s) :=
  ⟨rfl, Follows.refl s, rfl⟩

theorem Skips.withoutScans {s : Session} {scans : List (ScanKey × Scan)} {passed : Match × Trail}
    {r : List Tree × Session} (h : Skips env see { s with scans := scans } passed r) :
    Skips env see s passed r :=
  ⟨h.nodes, h.follows.withoutScans, h.memo⟩

theorem skipFollows (whole : NoPairs env.source) (fuel : Nat) {s : Session} (h : s.Settled env) :
    Skips env see s (Meaning.skipped env fuel s.place) (s.skip env fuel) := by
  induction fuel generalizing s with
  | zero => exact skipsNothing s
  | succ fuel ih =>
    obtain ⟨scans, scan, known⟩ := h.afterScan defaultGoal
    have moves := readMovesOn whole h defaultGoal
    have settled := h.withScans known
    simp only [skip, scan, Meaning.skipped]
    cases found : s.place.read env defaultGoal with
    | token t next =>
      rw [found] at moves
      have committed := settled.afterCommit (t := t) moves.1
      simp only
      split
      · have last : Skips env see { s with scans := scans } (Meaning.taking t next)
            ([.ofToken t], ({ s with scans := scans } : Session).commit t next) :=
          ⟨rfl, commitFollows _ t next, rfl⟩
        exact last.withoutScans
      · exact (ih committed).afterCommit.withoutScans
    | ended cursor =>
      have none : Skips env see { s with scans := scans } ({ stop := s.place }, {})
          ([], { s with scans := scans }) := skipsNothing _
      exact none.withoutScans
    | unrecognized cursor c =>
      rw [found] at moves
      have committed := settled.afterCommit (t := (unrecognizedToken cursor c).1) moves.1
      exact (ih committed).afterCommit.withoutScans

end Session

namespace Meaning

theorem skippedNothing (env : Setup) (fuel : Nat) (p : Place)
    (none : (skipped env fuel p).1.nodes.isEmpty) : skipped env fuel p = ({ stop := p }, {}) := by
  cases fuel with
  | zero => rfl
  | succ fuel =>
    unfold skipped at none ⊢
    cases found : p.read env defaultGoal with
    | token t next =>
      simp only [found] at none
      split at none <;> simp [taking, Match.append] at none
    | ended cursor => rfl
    | unrecognized cursor c => simp [found, taking, Match.append] at none

theorem skippedRepairs (env : Setup) (fuel : Nat) (p : Place) : (skipped env fuel p).1.repairs = [] := by
  induction fuel generalizing p with
  | zero => rfl
  | succ fuel ih =>
    unfold skipped
    cases p.read env defaultGoal with
    | token t next =>
      simp only
      split
      · rfl
      · exact ih _
    | ended cursor => rfl
    | unrecognized cursor c => exact ih _

end Meaning

namespace Session

variable {env : Setup} {see : Recovery → Recovery}

theorem errorFromMessage (env : Setup) (s : Session) (f : Failure) (stack : List String) :
    (s.errorFrom env (f.rootedAt stack)).message = (s.errorFrom env f).message := by
  unfold Failure.rootedAt
  split
  · unfold errorFrom
    cases f.found <;> rfl
  · rfl

structure Recovers (env : Setup) (see : Recovery → Recovery) (s : Session)
    (passed : Option (Match × Trail)) (r : Bool × Session) : Prop where
  success : r.1 = passed.isSome
  follows : Follows env see s (passed.getD ({ stop := s.place }, {})).1
    (passed.getD ({ stop := s.place }, {})).2 r.2
  memo : r.2.memo = s.memo

theorem Follows.whenRepaired {s t : Session} {stop : Place} {tokens : List Token} {trail : Trail}
    (h : Follows env see s ⟨stop, [], tokens, []⟩ trail t) (r : Repair) (log : List Message) (node : Tree) :
    Follows env see s ⟨stop, [node], tokens, [r]⟩ trail (({ t with
      log := log
      recoveries := t.recoveries ++ [(r.under s.path).recovery env] } : Session).pushChild node) := by
  have recorded : Follows env see s ⟨stop, [], tokens, [r]⟩ trail { t with
      log := log
      recoveries := t.recoveries ++ [(r.under s.path).recovery env] } := by
    refine ⟨⟨h.highWater, h.furthest⟩, h.state, h.levels, h.tokens, ?_⟩
    have kept := h.recoveries
    simp only [List.map_nil, List.append_nil] at kept
    simp only [List.map_append, kept, List.map_cons, List.map_nil]
  exact recorded.pushChild node

theorem recoverFollows (whole : NoPairs env.source) {s : Session} (h : s.Settled env)
    (budget : s.recoveries.length < env.config.maxErrors) (failure : Failure) :
    Recovers env see s (Meaning.recovered env failure s.place)
      (s.recover env (failure.rootedAt s.path)) := by
  have skips : Skips env see s (Meaning.skipped env (env.source.length + 1) s.place)
    (s.skip env (env.source.length + 1)) := skipFollows whole _ h
  have repairs := Meaning.skippedRepairs env (env.source.length + 1) s.place
  have nothing := Meaning.skippedNothing env (env.source.length + 1) s.place
  have message := errorFromMessage env s failure s.path
  unfold recover Meaning.recovered
  rw [if_neg (Nat.not_le.mpr budget)]
  generalize Meaning.skipped env (env.source.length + 1) s.place = passed at skips repairs nothing ⊢
  obtain ⟨nodes, follows, memo⟩ := skips
  cases ran : s.skip env (env.source.length + 1) with
  | mk skipped t =>
    rw [ran] at nodes follows memo
    simp only at nodes follows memo ⊢
    rw [nodes, message]
    by_cases empty : passed.1.nodes.isEmpty
    · rw [if_pos empty, if_pos empty]
      rw [nothing empty] at follows
      exact ⟨rfl, follows, memo⟩
    · rw [if_neg empty, if_neg empty]
      rw [repairs] at follows
      refine ⟨rfl, ?_, ?_⟩
      · exact follows.whenRepaired ⟨s.place, (Tree.ofError (s.errorFrom env failure).message passed.1.nodes
          s.place.offset s.place.position).range, failure⟩ _ _
      · rw [pushChildMemo]
        exact memo

end Session
end Packrat

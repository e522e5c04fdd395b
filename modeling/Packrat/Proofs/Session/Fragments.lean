import Packrat.Proofs.Session.Invariant

/-! Every recovery leaves an error node in the tree: the nodes appended while errors are recovered from have, in
order, the ranges that were skipped. So has what is remembered of a rule. -/
namespace Packrat

theorem Tree.topErrorsAllAppend (nodes more : List Tree) :
    topErrorsAll (nodes ++ more) = topErrorsAll nodes ++ topErrorsAll more := by
  induction nodes with
  | nil => rfl
  | cons t rest ih => simp [topErrorsAll, ih]

def Tree.skippedIn (nodes : List Tree) : List TextRange := (topErrorsAll nodes).map range

theorem Tree.skippedInAppend (nodes more : List Tree) :
    skippedIn (nodes ++ more) = skippedIn nodes ++ skippedIn more := by
  rw [skippedIn, topErrorsAllAppend, List.map_append]
  rfl

def Memo.Fragmented : Memo → Prop
  | .success _ node _ attempt => Tree.skippedIn [node] = attempt.recoveries.map (·.1)
  | .failure attempt => attempt.recoveries = []

namespace Session

def Fragmented (s t : Session) : Prop :=
  ∃ nodes more, t.levels = (s.children ++ nodes) :: s.levels.tail ∧ t.recoveries = s.recoveries ++ more ∧
    Tree.skippedIn nodes = more.map (·.1)

def fragmenting : Invariant := ⟨fun s => ∀ e ∈ s.memo.entries, e.2.Fragmented, Fragmented⟩

variable {env : Setup} {s t u : Session}

theorem Fragmented.ofQuietEnd (levels : t.levels = s.levels) (recoveries : t.recoveries = s.recoveries) :
    Fragmented s t := by
  refine ⟨[], [], ?_, ?_, rfl⟩
  · rw [levels, List.append_nil]
    exact s.levelsByChildren
  · rw [recoveries, List.append_nil]

theorem Fragmented.trans (first : Fragmented s t) (later : Fragmented t u) : Fragmented s u := by
  obtain ⟨nodes, more, levels, recoveries, ranges⟩ := first
  obtain ⟨nodes', more', levels', recoveries', ranges'⟩ := later
  obtain ⟨children, outer⟩ := childrenOfLevels levels
  refine ⟨nodes ++ nodes', more ++ more', ?_, ?_, ?_⟩
  · rw [levels', children, outer, List.append_assoc]
  · rw [recoveries', recoveries, List.append_assoc]
  · rw [Tree.skippedInAppend, ranges, ranges', List.map_append]

theorem Fragmented.afterPush {more : List Recovery} (levels : t.levels = s.levels)
    (recoveries : t.recoveries = s.recoveries ++ more) {node : Tree}
    (ranges : Tree.skippedIn [node] = more.map (·.1)) : Fragmented s (t.pushChild node) := by
  have view := pushChildView t node
  simp only [Session.view, View.mk.injEq] at view
  obtain ⟨_, pushed, _, _, _, kept⟩ := view
  obtain ⟨children, outer⟩ := childrenOfLevels (levels.trans s.levelsByChildren)
  refine ⟨[node], more, ?_, kept.trans recoveries, ranges⟩
  rw [pushed, children, outer]

theorem Fragmented.afterRecording {r : Recovery} {log : List Message} (levels : t.levels = s.levels)
    (recoveries : t.recoveries = s.recoveries) {node : Tree} (ranges : Tree.skippedIn [node] = [r].map (·.1)) :
    Fragmented s (({ t with log := log, recoveries := t.recoveries ++ [r] } : Session).pushChild node) := by
  refine Fragmented.afterPush ?_ ?_ ranges
  · exact levels
  · exact congrArg (· ++ [r]) recoveries

theorem scanChangesScans (env : Setup) (goal : Goal) (s : Session) :
    ∃ found scans, s.scan env goal = (found, { s with scans := scans }) := by
  unfold scan
  cases s.scans.lookup (s.scanKey goal) with
  | some found => exact ⟨found, s.scans, rfl⟩
  | none => exact ⟨_, _, rfl⟩

theorem skipQuiet (env : Setup) (fuel : Nat) (s : Session) :
    (s.skip env fuel).2.levels = s.levels ∧ (s.skip env fuel).2.recoveries = s.recoveries ∧
      (s.skip env fuel).2.memo = s.memo := by
  induction fuel generalizing s with
  | zero => exact ⟨rfl, rfl, rfl⟩
  | succ fuel ih =>
    obtain ⟨found, scans, scan⟩ := scanChangesScans env defaultGoal s
    simp only [skip, scan]
    cases found with
    | token token next =>
      simp only
      split
      · exact ⟨rfl, rfl, rfl⟩
      · exact ih (({ s with scans := scans } : Session).commit token next)
    | ended cursor => exact ⟨rfl, rfl, rfl⟩
    | unrecognized cursor c =>
      exact ih (({ s with scans := scans } : Session).commit (unrecognizedToken cursor c).1
        (unrecognizedToken cursor c).2)

theorem consumeMemo (env : Setup) (token : String) (goal : Goal) (s : Session) :
    (consume env token goal s).2.memo = s.memo := by
  obtain ⟨found, scans, scan⟩ := scanChangesScans env goal s
  simp only [consume, scan]
  cases found with
  | token t next =>
    simp only
    split
    · exact pushChildMemo _ _
    · rfl
  | ended cursor => rfl
  | unrecognized cursor c => rfl

theorem recoverMemo (env : Setup) (failure : Failure) (s : Session) : (s.recover env failure).2.memo = s.memo := by
  obtain ⟨_, _, memo⟩ := skipQuiet env (env.source.length + 1) s
  unfold recover
  split
  · rfl
  · simp only
    split
    · exact memo
    · exact (pushChildMemo _ _).trans memo

theorem fragmentsConsume (token : String) (goal : Goal) (h : fragmenting.holds s) :
    fragmenting.Step s (consume env token goal s).2 := by
  obtain ⟨found, scans, scan⟩ := scanChangesScans env goal s
  have still : ∀ {t : Session}, t.levels = s.levels → t.recoveries = s.recoveries → t.memo = s.memo →
      fragmenting.Step s t :=
    fun levels recoveries memo => ⟨fun e member => h e (memo ▸ member), .ofQuietEnd levels recoveries⟩
  simp only [consume, scan]
  cases found with
  | token t next =>
    simp only
    split
    · refine ⟨fun e member => ?_, ?_⟩
      · rw [pushChildMemo] at member
        exact h e member
      · refine Fragmented.afterPush ?_ (List.append_nil _).symm rfl
        rfl
    · exact still rfl rfl rfl
  | ended cursor => exact still rfl rfl rfl
  | unrecognized cursor c => exact still rfl rfl rfl

theorem fragmentsRecover (failure : Failure) (h : fragmenting.holds s) :
    fragmenting.Step s (s.recover env failure).2 := by
  obtain ⟨levels, recoveries, memo⟩ := skipQuiet env (env.source.length + 1) s
  unfold recover
  split
  · exact ⟨h, .ofQuietEnd rfl rfl⟩
  · cases ran : s.skip env (env.source.length + 1) with
    | mk nodes t =>
      rw [ran] at levels recoveries memo
      simp only
      split
      · exact ⟨fun e member => h e (memo ▸ member), .ofQuietEnd levels recoveries⟩
      · refine ⟨fun e member => ?_, ?_⟩
        · rw [pushChildMemo] at member
          exact h e (memo ▸ member)
        · exact Fragmented.afterRecording levels recoveries rfl

theorem fragmentsRewound (step : fragmenting.Step s t) :
    fragmenting.Step s (t.rewind s.mark) := by
  obtain ⟨memo, nodes, more, levels, recoveries, _⟩ := step
  obtain ⟨children, outer⟩ := childrenOfLevels levels
  have view := rewindView t s.mark
  simp only [Session.view, View.mk.injEq] at view
  obtain ⟨_, levels', _, _, _, recoveries'⟩ := view
  refine ⟨fun e member => ?_, .ofQuietEnd ?_ ?_⟩
  · rw [rewindMemo] at member
    exact memo e member
  · rw [levels', children, outer, mark, List.take_left]
    exact s.levelsByChildren.symm
  · rw [recoveries', recoveries, mark, List.take_left]

theorem Fragmented.inFrame {name : String} {memo : Cache MemoKey Memo}
    (h : Fragmented (opened env name s memo) t) :
    t.frames ≠ [] ∧ t.frames.tail ++ [t.root] = s.levels ∧
      ∃ more, t.recoveries = s.recoveries ++ more ∧ Tree.skippedIn t.children = more.map (·.1) := by
  obtain ⟨nodes, more, levels, recoveries, ranges⟩ := h
  have view := openedView env name s memo
  simp only [Session.view, View.mk.injEq] at view
  obtain ⟨_, open', _, _, _, recoveries'⟩ := view
  obtain ⟨children, outer⟩ := childrenOfLevels open'
  rw [children, outer, List.nil_append] at levels
  obtain ⟨inFrame, outer⟩ := frameOfLevels levels
  refine ⟨inFrame, outer, more, ?_, ?_⟩
  · rw [recoveries, recoveries']
  · rw [(childrenOfLevels levels).1, ranges]

theorem fragmentsClosed {name : String} {memo : Cache MemoKey Memo} (verdict : Verdict)
    (step : fragmenting.Step (opened env name s memo) t) :
    fragmenting.Step s (closed env name s (verdict, t)).2 := by
  obtain ⟨known, fragmented⟩ := step
  obtain ⟨inFrame, outer, more, recoveries, ranges⟩ := fragmented.inFrame
  have taken : t.recoveries.take s.recoveries.length = s.recoveries := by rw [recoveries, List.take_left]
  cases verdict with
  | ok =>
    obtain ⟨stats, log, eq⟩ := closedOk env name s t inFrame
    have node : Tree.skippedIn [Tree.ofRule name t.children s.state.offset s.state.position] = more.map (·.1) := by
      rw [← ranges]
      simp [Tree.skippedIn, Tree.topErrorsAll, Tree.ofRule, Tree.topErrors]
    rw [eq]
    refine ⟨fun e member => ?_, Fragmented.afterPush ?_ ?_ node⟩
    · rw [pushChildMemo] at member
      rcases memRemembering member with rfl | old
      · show Tree.skippedIn _ = (t.recoveries.drop s.recoveries.length).map (·.1)
        rw [node, recoveries, List.drop_left]
      · exact known e old
    · exact outer
    · exact recoveries
  | mismatch =>
    obtain ⟨log, eq⟩ := closedMismatch env name s t
    rw [eq]
    refine ⟨fun e member => ?_, .ofQuietEnd outer taken⟩
    rcases memRemembering member with rfl | old
    · rfl
    · exact known e old
  | fatal error =>
    obtain ⟨log, eq⟩ := closedFatal env name s t error
    rw [eq]
    exact ⟨known, .ofQuietEnd outer taken⟩

theorem fragmentsReplay {memo : Memo} (h : fragmenting.holds s) (fragmented : memo.Fragmented) :
    fragmenting.Step s (s.replay memo).2 := by
  cases memo with
  | success stop node tokens attempt =>
    refine ⟨fun e member => ?_, Fragmented.afterPush ?_ ?_ fragmented⟩
    · simp only [replay, replayAttempt, pushChildMemo] at member
      exact h e member
    · rfl
    · rfl
  | failure attempt =>
    refine ⟨h, .ofQuietEnd rfl ?_⟩
    show s.recoveries ++ attempt.recoveries = s.recoveries
    rw [show attempt.recoveries = [] from fragmented, List.append_nil]

theorem fragmentingKept (env : Setup) : fragmenting.Kept env where
  refl := fun s => .ofQuietEnd rfl rfl
  trans := Fragmented.trans
  scan := by
    intro s goal h
    obtain ⟨found, scans, scan⟩ := scanChangesScans env goal s
    rw [scan]
    exact ⟨h, .ofQuietEnd rfl rfl⟩
  consume := fun token goal h => fragmentsConsume token goal h
  skipToken := by
    intro s t token next h found
    obtain ⟨_, scans, scan⟩ := scanChangesScans env defaultGoal s
    cases scan.symm.trans found
    exact ⟨h, .ofQuietEnd rfl rfl⟩
  skipUnknown := by
    intro s t cursor c h found
    obtain ⟨_, scans, scan⟩ := scanChangesScans env defaultGoal s
    cases scan.symm.trans found
    exact ⟨h, .ofQuietEnd rfl rfl⟩
  recover := fun failure h => fragmentsRecover failure h
  rewound := fun _ step => fragmentsRewound step
  isolated := fun h => h
  rejoined := fun _ step => step
  opened := by
    intro s name h miss e member
    obtain ⟨log, eq⟩ := openedAsUpdate env name s (s.asked env name)
    rw [eq] at member
    exact h e (askedEntries miss ▸ member)
  closed := fun verdict _ step => fragmentsClosed verdict step

theorem fragmentsAnswer {rules : Rules} {depth : Nat} {task : Task} {first : Session} {name : String} {memo : Memo}
    (answers : Answers env rules depth task first name s memo) (h : fragmenting.holds s)
    (cache : Cache MemoKey Memo) (log : List Message) (subset : ∀ e ∈ cache.entries, e ∈ s.memo.entries) :
    fragmenting.Step s (({ s with memo := cache, log := log } : Session).replay memo).2 := by
  have holds : fragmenting.holds { s with memo := cache, log := log } := fun e member => h e (subset e member)
  exact fragmentsReplay holds (h _ answers.memoStored)

end Session
end Packrat

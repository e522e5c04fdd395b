import Packrat.Proofs.Session.Invariant
import Packrat.Proofs.Session.Settled

/-! Every operation keeps sessions settled and extends them, hence so does every body, with
or without the cache and with or without recovery. -/
namespace Packrat.Session

def Keeps (env : Setup) (a : Action) : Prop :=
  ∀ s, s.Settled env → (a s).2.Settled env ∧ s.Extends (a s).2

variable {env : Setup}

theorem keepsStill (verdict : Verdict) : Keeps env fun s => (verdict, s) :=
  fun s h => ⟨h, Extends.refl s⟩

theorem readMovesOn (whole : NoPairs env.source) {s : Session} (h : s.Settled env) (goal : Goal) :
    (s.place.read env goal).MovesOn env.source s.state.offset :=
  Lexer.readTokenMovesOn whole h.stands env.lexer goal s.place.prev

theorem Settled.withScans {s : Session} (h : s.Settled env) {scans : List (ScanKey × Scan)}
    (known : ScansTrue env scans) : ({ s with scans := scans } : Session).Settled env :=
  ⟨h.stands, h.index, h.active, known, h.memo⟩

theorem keepsConsume (whole : NoPairs env.source) (token : String) (goal : Goal) :
    Keeps env (consume env token goal) := by
  intro s h
  obtain ⟨scans, scan, known⟩ := h.afterScan goal
  have moves := readMovesOn whole h goal
  simp only [consume, scan]
  have settled := h.withScans known
  cases found : s.place.read env goal with
  | token t next =>
    rw [found] at moves
    simp only
    split
    · have committed := settled.afterCommit (t := t) moves.1
      exact ⟨committed.pushChild _, (settled.extendsCommit moves.2.1).trans (extendsPushChild _ _)⟩
    · exact ⟨⟨h.stands, h.index, h.active, known, h.memo⟩, Extends.refl s⟩
  | ended cursor => exact ⟨⟨h.stands, h.index, h.active, known, h.memo⟩, Extends.refl s⟩
  | unrecognized cursor c => exact ⟨⟨h.stands, h.index, h.active, known, h.memo⟩, Extends.refl s⟩

theorem Settled.whenIsolated {s : Session} (h : s.Settled env) : s.isolated.Settled env :=
  ⟨h.stands, h.index, h.active, h.scans, h.memo⟩

theorem Settled.whenRejoined {t : Session} (h : t.Settled env) (s : Session) :
    (s.rejoined t).Settled env :=
  ⟨h.stands, h.index, h.active, h.scans, h.memo⟩

theorem keepsRound {body : Action} (keeps : Keeps env body) {s : Session} (h : s.Settled env) :
    (s.rejoined (body s.isolated).2).Settled env ∧ s.Extends (s.rejoined (body s.isolated).2) := by
  obtain ⟨settled, onward⟩ := keeps s.isolated h.whenIsolated
  exact ⟨settled.whenRejoined s, onward⟩

structure Skipped (env : Setup) (s : Session) (nodes : List Tree) (t : Session) : Prop where
  settled : t.Settled env
  onward : s.Extends t
  levels : t.levels = s.levels
  recoveries : t.recoveries = s.recoveries
  still : nodes = [] → t.state = s.state
  further : nodes ≠ [] → s.state.offset < t.state.offset

theorem Skipped.withoutScans {s t : Session} {scans : List (ScanKey × Scan)} {nodes : List Tree}
    (h : Skipped env { s with scans := scans } nodes t) : Skipped env s nodes t :=
  ⟨h.settled, h.onward, h.levels, h.recoveries, h.still, h.further⟩

theorem skippedCommit {s : Session} (h : s.Settled env) {t : Token} {next : Cursor}
    (further : s.state.offset < next.offset) {nodes : List Tree} {u : Session}
    (rest : Skipped env (s.commit t next) nodes u) (node : Tree) : Skipped env s (node :: nodes) u where
  settled := rest.settled
  onward := (h.extendsCommit further).trans rest.onward
  levels := rest.levels
  recoveries := rest.recoveries
  still := fun empty => nomatch empty
  further := fun _ => by
    have := rest.onward.ahead.placeLeads.offsetLe
    exact Nat.lt_of_lt_of_le further this

theorem skippedNothing {s : Session} (h : s.Settled env) : Skipped env s [] s :=
  ⟨h, Extends.refl s, rfl, rfl, fun _ => rfl, fun empty => absurd rfl empty⟩

theorem skippedBySkip (whole : NoPairs env.source) (fuel : Nat) {s : Session} (h : s.Settled env) :
    Skipped env s (s.skip env fuel).1 (s.skip env fuel).2 := by
  induction fuel generalizing s with
  | zero => exact skippedNothing h
  | succ fuel ih =>
    obtain ⟨scans, scan, known⟩ := h.afterScan defaultGoal
    have moves := readMovesOn whole h defaultGoal
    have settled := h.withScans known
    simp only [skip, scan]
    cases found : s.place.read env defaultGoal with
    | token t next =>
      rw [found] at moves
      have committed := settled.afterCommit (t := t) moves.1
      simp only
      split
      · exact (skippedCommit settled moves.2.1 (skippedNothing committed) _).withoutScans
      · exact (skippedCommit settled moves.2.1 (ih committed) _).withoutScans
    | ended cursor => exact (skippedNothing settled).withoutScans
    | unrecognized cursor c =>
      rw [found] at moves
      have committed := settled.afterCommit (t := (unrecognizedToken cursor c).1) moves.1
      exact (skippedCommit settled moves.2 (ih committed) _).withoutScans

theorem Skipped.extendsWhenRecorded {s t : Session} {nodes : List Tree} (h : Skipped env s nodes t)
    (some : nodes ≠ []) (recovery : Recovery) (log : List Message) :
    s.Extends { t with recoveries := t.recoveries ++ [recovery], log := log } := by
  obtain ⟨stack, active, levels, tokens, recoveries, ahead, paid⟩ := h.onward
  refine ⟨stack, active, levels, tokens, recoveries.trans (List.prefix_append _ _), ahead, ?_⟩
  have further := h.further some
  show (t.recoveries ++ [recovery]).length + s.state.offset ≤ s.recoveries.length + t.state.offset
  rw [List.length_append, h.recoveries, List.length_singleton]
  omega

theorem keepsRecover (whole : NoPairs env.source) (failure : Failure) {s : Session}
    (h : s.Settled env) :
    (s.recover env failure).2.Settled env ∧ s.Extends (s.recover env failure).2 := by
  unfold recover
  split
  · exact ⟨h, Extends.refl s⟩
  · have skipped := skippedBySkip whole (env.source.length + 1) h
    cases ran : s.skip env (env.source.length + 1) with
    | mk nodes t =>
      rw [ran] at skipped
      simp only
      split
      · exact ⟨skipped.settled, skipped.onward⟩
      · rename_i some
        have onward := skipped.extendsWhenRecorded (by simpa using some)
        refine ⟨Settled.pushChild ?_ _, (onward _ _).trans (extendsPushChild _ _)⟩
        exact ⟨skipped.settled.stands, skipped.settled.index, skipped.settled.active,
          skipped.settled.scans, skipped.settled.memo⟩

theorem Settled.whenOpened {s : Session} (h : s.Settled env) (name : String) {memo : Cache MemoKey Memo}
    (same : memo.entries = s.memo.entries) : (opened env name s memo).Settled env := by
  obtain ⟨log, eq⟩ := openedAsUpdate env name s memo
  rw [eq]
  exact ⟨h.stands, h.index, congrArg _ h.active, h.scans, fun e member => h.memo e (same ▸ member)⟩

structure Enclosed (name : String) (s t : Session) : Prop where
  inFrame : t.frames ≠ []
  outer : t.frames.tail ++ [t.root] = s.levels
  stack : t.ruleStack = s.here name :: s.ruleStack
  active : t.active = s.here name :: s.active
  tokens : t.tokens.take s.state.tokenIndex = s.tokens.take s.state.tokenIndex
  recoveries : s.recoveries <+: t.recoveries
  ahead : s.state.Precedes t.state
  paid : t.recoveries.length + s.state.offset ≤ s.recoveries.length + t.state.offset

theorem Extends.enclosedByRule {name : String} {s t : Session} {memo : Cache MemoKey Memo}
    (h : (opened env name s memo).Extends t) : Enclosed name s t := by
  unfold Extends at h
  rw [openedView] at h
  obtain ⟨stack, active, ⟨nodes, levels⟩, tokens, recoveries, ahead, paid⟩ := h
  obtain ⟨inFrame, outer⟩ := frameOfLevels levels
  exact ⟨inFrame, outer, stack, active, tokens, recoveries, ahead, paid⟩

theorem Enclosed.takeRecoveries {name : String} {s t : Session} (h : Enclosed name s t) :
    t.recoveries.take s.recoveries.length = s.recoveries := by
  obtain ⟨more, eq⟩ := h.recoveries
  rw [← eq]
  exact List.take_left

theorem successFits {name : String} {s t : Session} (ht : t.Settled env) (h : Enclosed name s t) :
    (successOf name s t).Fits env (MemoKey.of name s.state) := by
  have taken : ((t.tokens.take t.state.tokenIndex).drop s.state.tokenIndex).length =
      t.state.tokenIndex - s.state.tokenIndex := by
    rw [List.length_drop, List.length_take, Nat.min_eq_left ht.index]
  refine ⟨ht.stands, ?_, ?_⟩
  · have := h.paid
    have := h.recoveries.length_le
    simp only [List.length_drop, MemoKey.of]
    omega
  · rcases h.ahead with same | further
    · refine .inl ⟨?_, ?_⟩
      · rw [same]
        rfl
      · apply List.eq_nil_of_length_eq_zero
        rw [taken, same, Nat.sub_self]
    · refine .inr ⟨further.1, fun none => ?_⟩
      rw [none] at taken
      simp only [List.length_nil] at taken
      omega

theorem keepsClosed {name : String} {s t : Session} (hs : s.Settled env) (ht : t.Settled env)
    (h : Enclosed name s t) (verdict : Verdict) :
    (closed env name s (verdict, t)).2.Settled env ∧ s.Extends (closed env name s (verdict, t)).2 := by
  have active : t.active.erase (s.here name) = s.active := by rw [h.active, List.erase_cons_head]
  have stack : t.ruleStack.tail = s.ruleStack := by rw [h.stack, List.tail_cons]
  have index : s.state.tokenIndex ≤ t.tokens.length := by
    have := congrArg List.length h.tokens
    have := hs.index
    simp only [List.length_take] at *
    omega
  cases verdict with
  | ok =>
    obtain ⟨stats, log, eq⟩ := closedOk env name s t h.inFrame
    rw [eq]
    refine ⟨Settled.pushChild ?_ _, Extends.trans ?_ (extendsPushChild _ _)⟩
    · refine ⟨ht.stands, ht.index, active.trans (hs.active.trans stack.symm), ht.scans, ?_⟩
      intro e member
      rcases memRemembering member with rfl | old
      · exact successFits ht h
      · exact ht.memo e old
    · refine ⟨stack, active, ⟨[], ?_⟩, h.tokens, h.recoveries, h.ahead, h.paid⟩
      rw [List.append_nil, viewChildren]
      exact h.outer.trans s.levelsByChildren
  | mismatch =>
    obtain ⟨log, eq⟩ := closedMismatch env name s t
    rw [eq]
    refine ⟨⟨hs.stands, index, active.trans (hs.active.trans stack.symm), ht.scans, ?_⟩,
      Returned.extendsByNothing ⟨rfl, h.outer, stack, active, h.tokens, h.takeRecoveries⟩⟩
    intro e member
    rcases memRemembering member with rfl | old
    · rfl
    · exact ht.memo e old
  | fatal error =>
    obtain ⟨log, eq⟩ := closedFatal env name s t error
    rw [eq]
    exact ⟨⟨hs.stands, index, active.trans (hs.active.trans stack.symm), ht.scans, ht.memo⟩,
      Returned.extendsByNothing ⟨rfl, h.outer, stack, active, h.tokens, h.takeRecoveries⟩⟩

theorem Memo.Fits.precedesStop {s : Session} (h : s.Settled env) {name : String} {stop : State} {node : Tree}
    {tokens : List Token} {attempt : Attempt}
    (fits : (Memo.success stop node tokens attempt).Fits env (MemoKey.of name s.state)) :
    s.state.Precedes { stop with tokenIndex := s.state.tokenIndex + tokens.length } := by
  obtain ⟨stands, _, ⟨key, rfl⟩ | ⟨further, some⟩⟩ := fits
  · simp only [Place.key, MemoKey.of, MemoKey.mk.injEq] at key
    have same := stands.onePlace h.stands key.2.1 key.2.2.1 key.2.2.2
    refine .inl ?_
    rw [List.length_nil, Nat.add_zero]
    exact congrArg (Place.state · s.state.tokenIndex) same
  · refine .inr ⟨further, ?_⟩
    have := List.length_pos_of_ne_nil some
    show s.state.tokenIndex < s.state.tokenIndex + tokens.length
    omega

theorem keepsReplay {s : Session} (h : s.Settled env) {name : String} {memo : Memo}
    (fits : memo.Fits env (MemoKey.of name s.state)) :
    (s.replay memo).2.Settled env ∧ s.Extends (s.replay memo).2 := by
  cases memo with
  | success stop node tokens attempt =>
    have ahead := Memo.Fits.precedesStop h fits
    have length : (renumber s.state.tokenIndex tokens).length = tokens.length := by
      simp [renumber]
    simp only [replay, replayAttempt]
    refine ⟨Settled.pushChild ?_ _, Extends.trans ?_ (extendsPushChild _ _)⟩
    · refine ⟨fits.1, ?_, h.active, h.scans, h.memo⟩
      have := h.index
      simp only [List.length_append, List.length_take, length]
      omega
    · refine ⟨rfl, rfl, (Extends.refl s).levels, ?_, List.prefix_append _ _, ahead, ?_⟩
      · show (s.tokens.take s.state.tokenIndex ++ _).take s.state.tokenIndex = _
        have : (s.tokens.take s.state.tokenIndex).length = s.state.tokenIndex := by
          rw [List.length_take]
          exact Nat.min_eq_left h.index
        rw [List.take_append_of_le_length (by omega), List.take_take, Nat.min_self]
        rfl
      · have := fits.2.1
        show (s.recoveries ++ attempt.recoveries).length + s.state.offset ≤ s.recoveries.length + stop.offset
        rw [List.length_append]
        simp only [MemoKey.of] at this
        omega
  | failure attempt =>
    have none : attempt.recoveries = [] := fits
    simp only [replay, replayAttempt, none, List.append_nil]
    exact ⟨⟨h.stands, h.index, h.active, h.scans, h.memo⟩, Extends.refl s⟩

def settling (env : Setup) : Invariant := ⟨(·.Settled env), Extends⟩

theorem settlingKept (whole : NoPairs env.source) : (settling env).Kept env where
  refl := Extends.refl
  trans := Extends.trans
  scan := by
    intro s goal h
    obtain ⟨scans, scan, known⟩ := h.afterScan goal
    rw [scan]
    exact ⟨h.withScans known, Extends.refl s⟩
  consume := fun token goal h => keepsConsume whole token goal _ h
  skipToken := by
    intro s t token next h found
    obtain ⟨scans, scan, known⟩ := h.afterScan defaultGoal
    have moves := readMovesOn whole h defaultGoal
    obtain ⟨read, rfl⟩ := Prod.mk.inj (scan.symm.trans found)
    rw [read] at moves
    exact ⟨(h.withScans known).afterCommit moves.1, (h.withScans known).extendsCommit moves.2.1⟩
  skipUnknown := by
    intro s t cursor c h found
    obtain ⟨scans, scan, known⟩ := h.afterScan defaultGoal
    have moves := readMovesOn whole h defaultGoal
    obtain ⟨read, rfl⟩ := Prod.mk.inj (scan.symm.trans found)
    rw [read] at moves
    exact ⟨(h.withScans known).afterCommit moves.1, (h.withScans known).extendsCommit moves.2⟩
  recover := fun failure h => keepsRecover whole failure h
  rewound := fun h step => ⟨h.afterRewind step.1 step.2, step.2.returnedByRewind.extendsByNothing⟩
  isolated := Settled.whenIsolated
  rejoined := fun {s _} _ step => ⟨step.1.whenRejoined s, step.2⟩
  opened := fun h miss => h.whenOpened _ (askedEntries miss)
  closed := fun verdict h step => keepsClosed h step.1 step.2.enclosedByRule verdict

theorem keepsAnswers {rules : Rules} {depth : Nat} {task : Task} {first s : Session} {name : String} {memo : Memo}
    (answers : Answers env rules depth task first name s memo) (h : s.Settled env) (cache : Cache MemoKey Memo)
    (log : List Message) (subset : ∀ e ∈ cache.entries, e ∈ s.memo.entries) :
    (settling env).Step s (({ s with memo := cache, log := log } : Session).replay memo).2 := by
  have settled : ({ s with memo := cache, log := log } : Session).Settled env :=
    ⟨h.stands, h.index, h.active, h.scans, fun e member => h.memo e (subset e member)⟩
  exact keepsReplay settled (h.memo _ answers.memoStored)

section
variable (whole : NoPairs env.source)
include whole

theorem keepsExec {call : String → String → Action} (calls : ∀ name rule, Keeps env (call name rule)) (b : Body) :
    Keeps env (exec env call b) := by
  have always : ∀ {k s k' t}, Invariant.Anywhere k s → Starts env call k s k' t → Invariant.Anywhere k' t :=
    fun _ _ => trivial
  have kept : ∀ name rule, (settling env).Obeys Invariant.Anywhere (.body (.call name rule)) (call name rule) :=
    fun name rule s _ h => calls name rule s h
  exact fun s h => (settlingKept whole).execObeys always kept b s trivial h

theorem Starts.settledAndExtends {call : String → String → Action} (calls : ∀ name rule, Keeps env (call name rule))
    {k k' : Task} {s t : Session} (starts : Starts env call k s k' t) (h : s.Settled env) :
    t.Settled env ∧ s.Extends t := by
  have always : ∀ {k s k' t}, Invariant.Anywhere k s → Starts env call k s k' t → Invariant.Anywhere k' t :=
    fun _ _ => trivial
  obtain ⟨settled, rfl | onward⟩ :=
    (settlingKept whole).startingHolds always (fun name rule s _ h => calls name rule s h) trivial h starts
  · exact ⟨settled, Extends.refl s⟩
  · exact ⟨settled, onward⟩

theorem keepsInvoke (rules : Rules) (depth : Nat) (name rule : String) :
    Keeps env (invoke env rules depth name rule) := by
  intro s h
  have here : Reached env rules depth (.body (.call name rule)) s depth (.body (.call name rule)) s := .start
  exact (settlingKept whole).invokeObeys keepsAnswers depth name rule s here h

variable {rules : Rules} {depth : Nat} {task : Task} {s t : Session}

theorem keepsFinishing {d : Nat} {k : Task} (reached : Reached env rules depth task s d k t) (h : t.Settled env) :
    (finishing env (invoke env rules d) k t).Settled env ∧ t.Extends (finishing env (invoke env rules d) k t) :=
  (settlingKept whole).finishingSteps Reached.within ((settlingKept whole).invokeObeys keepsAnswers d) k reached h

theorem Reached.keepsSettled {d : Nat} {k : Task} (reached : Reached env rules depth task s d k t)
    (h : s.Settled env) : t.Settled env :=
  (settlingKept whole).holdsWhenReached keepsAnswers h reached

theorem Passes.keepsSettled (passes : Passes env rules depth task s t) (h : s.Settled env) : t.Settled env :=
  (settlingKept whole).holdsInPasses keepsAnswers h passes

theorem Reached.recoveriesPaid {d : Nat} {k : Task} (reached : Reached env rules depth task s d k t)
    (h : s.Settled env) :
    t.recoveries.length + s.state.offset ≤ s.recoveries.length + t.state.offset := by
  induction reached with
  | start => exact Nat.le_refl _
  | within before starts ih =>
    have step := (starts.settledAndExtends whole (keepsInvoke whole rules _) (before.keepsSettled whole h)).2.paid
    simp only [view] at step
    omega
  | enter before _ _ ih =>
    obtain ⟨log, eq⟩ := openedAsUpdate env _ _ _
    rw [eq]
    exact ih

end

end Packrat.Session

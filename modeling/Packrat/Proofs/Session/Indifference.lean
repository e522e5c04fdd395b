import Packrat.Proofs.Session.Keeping

/-! What was scanned and logged before makes no difference. From settled sessions that differ in their
scans and their log only, every body ends alike, in sessions that again differ in these only, down to
the statistics and the order of the cache. -/
namespace Packrat.Session

def having (s : Session) (scans : List (ScanKey × Scan)) (log : List Message) : Session :=
  { s with scans := scans, log := log }

def Alike (env : Setup) (a : Action) : Prop :=
  ∀ s scans log, s.Settled env → ScansTrue env scans →
    ∃ scans' log', ScansTrue env scans' ∧ a (s.having scans log) = ((a s).1, (a s).2.having scans' log')

structure Indifferent (env : Setup) (a : Action) : Prop where
  keeps : Keeps env a
  alike : Alike env a

variable {env : Setup}

section
variable (s : Session) (scans : List (ScanKey × Scan)) (log : List Message)

theorem havingSetChildren (children : List Tree) :
    (s.having scans log).setChildren children = (s.setChildren children).having scans log := by
  unfold setChildren having
  cases s.frames <;> rfl

theorem havingPushChild (node : Tree) : (s.having scans log).pushChild node = (s.pushChild node).having scans log :=
  havingSetChildren s scans log _

theorem havingRewind (m : Mark) : (s.having scans log).rewind m = (s.rewind m).having scans log := by
  unfold rewind having
  by_cases still : s.state = m.state
  · simp only [if_pos still, setChildren, children]
    cases s.frames <;> rfl
  · simp only [if_neg still, setChildren, children]
    cases s.frames <;> rfl

theorem havingRecorded (r : Recovery) (text : String) (node : Tree) :
    ({ (s.having scans log).note .debug text with
        recoveries := ((s.having scans log).note .debug text).recoveries ++ [r] } : Session).pushChild node =
      (({ s.note .debug text with recoveries := (s.note .debug text).recoveries ++ [r] } : Session).pushChild
        node).having
        scans (⟨.debug, text⟩ :: log) :=
  havingPushChild { s.note .debug text with recoveries := s.recoveries ++ [r] } scans _ node

theorem havingReplay (memo : Memo) :
    (s.having scans log).replay memo = ((s.replay memo).1, (s.replay memo).2.having scans log) := by
  cases memo with
  | success stop node tokens attempt =>
    simp only [replay, ← havingPushChild]
    rfl
  | failure attempt => rfl

end

variable {s : Session} {scans : List (ScanKey × Scan)}

theorem Settled.withScansAndLog (h : s.Settled env) (known : ScansTrue env scans) (log : List Message) :
    (s.having scans log).Settled env :=
  ⟨h.stands, h.index, h.active, known, h.memo⟩

theorem Settled.scanAlike (h : s.Settled env) (known : ScansTrue env scans) (log : List Message) (goal : Goal) :
    ∃ own scans', ScansTrue env own ∧ ScansTrue env scans' ∧
      s.scan env goal = (s.place.read env goal, s.having own s.log) ∧
      (s.having scans log).scan env goal = (s.place.read env goal, s.having scans' log) := by
  obtain ⟨own, scan, true⟩ := h.afterScan goal
  obtain ⟨scans', scan', true'⟩ := (h.withScansAndLog known log).afterScan goal
  exact ⟨own, scans', true, true', scan, scan'⟩

theorem alikeStill (verdict : Verdict) : Alike env fun s => (verdict, s) :=
  fun _ scans log _ known => ⟨scans, log, known, rfl⟩

theorem alikeConsume (token : String) (goal : Goal) : Alike env (consume env token goal) := by
  intro s scans log h known
  obtain ⟨own, scans', _, true, scan, scan'⟩ := h.scanAlike known log goal
  refine ⟨scans', log, true, ?_⟩
  simp only [consume, scan, scan']
  cases s.place.read env goal with
  | token t next =>
    simp only
    split
    · exact congrArg (Verdict.ok, ·) (havingPushChild ((s.having own s.log).commit t next) scans' log _)
    · rfl
  | ended cursor => rfl
  | unrecognized cursor c => rfl

theorem alikeNotAhead (token : String) (goal : Goal) : Alike env (notAhead env token goal) := by
  intro s scans log h known
  obtain ⟨own, scans', _, true, scan, scan'⟩ := h.scanAlike known log goal
  refine ⟨scans', log, true, ?_⟩
  simp only [notAhead, scan, scan']
  cases s.place.read env goal <;> rfl

theorem alikeSameLine : Alike env (sameLine env) := by
  intro s scans log h known
  obtain ⟨own, scans', _, true, scan, scan'⟩ := h.scanAlike known log defaultGoal
  refine ⟨scans', log, true, ?_⟩
  simp only [sameLine, scan, scan']
  cases s.place.read env defaultGoal <;> rfl

theorem skipAlike (whole : NoPairs env.source) (fuel : Nat) {s : Session} {scans : List (ScanKey × Scan)}
    (log : List Message) (h : s.Settled env) (known : ScansTrue env scans) :
    ∃ scans', ScansTrue env scans' ∧
      (s.having scans log).skip env fuel = ((s.skip env fuel).1, (s.skip env fuel).2.having scans' log) := by
  induction fuel generalizing s scans with
  | zero => exact ⟨scans, known, rfl⟩
  | succ fuel ih =>
    obtain ⟨own, scans', true, true', scan, scan'⟩ := h.scanAlike known log defaultGoal
    have moves := readMovesOn whole h defaultGoal
    have settled := h.withScansAndLog true s.log
    simp only [skip, scan, scan']
    cases found : s.place.read env defaultGoal with
    | token t next =>
      rw [found] at moves
      simp only
      split
      · exact ⟨scans', true', rfl⟩
      · obtain ⟨scans'', true'', eq⟩ := ih (settled.afterCommit (t := t) moves.1) true'
        exact ⟨scans'', true'', congrArg (fun r => (Tree.ofToken t :: r.1, r.2)) eq⟩
    | ended cursor => exact ⟨scans', true', rfl⟩
    | unrecognized cursor c =>
      rw [found] at moves
      obtain ⟨scans'', true'', eq⟩ := ih (settled.afterCommit (t := (unrecognizedToken cursor c).1) moves.1) true'
      exact ⟨scans'', true'', congrArg (fun r => (Tree.ofToken (unrecognizedToken cursor c).1 :: r.1, r.2)) eq⟩

theorem recoverAlike (whole : NoPairs env.source) (failure : Failure) {s : Session} {scans : List (ScanKey × Scan)}
    (log : List Message) (h : s.Settled env) (known : ScansTrue env scans) :
    ∃ scans' log', ScansTrue env scans' ∧ (s.having scans log).recover env failure =
      ((s.recover env failure).1, (s.recover env failure).2.having scans' log') := by
  obtain ⟨scans', known', eq⟩ := skipAlike whole (env.source.length + 1) log h known
  unfold recover
  by_cases spent : env.config.maxErrors ≤ s.recoveries.length
  · refine ⟨scans, log, known, ?_⟩
    rw [if_pos spent]
    exact if_pos spent
  · rw [if_neg spent, if_neg (show ¬ env.config.maxErrors ≤ (s.having scans log).recoveries.length from spent), eq]
    cases s.skip env (env.source.length + 1) with
    | mk nodes t =>
      simp only
      split
      · exact ⟨scans', log, known', rfl⟩
      · exact ⟨scans', _, known', congrArg (true, ·) (havingRecorded t scans' log _ _ _)⟩

theorem Ran.runsAlike (whole : NoPairs env.source) {call : String → String → Action}
    (calls : ∀ name rule, Indifferent env (call name rule)) {k : Task} {s : Session} {r : Verdict × Session}
    (ran : Ran env call k s r) (h : s.Settled env) {scans : List (ScanKey × Scan)} (known : ScansTrue env scans)
    (log : List Message) :
    ∃ scans' log', ScansTrue env scans' ∧ Ran env call k (s.having scans log) (r.1, r.2.having scans' log') := by
  have settled : ∀ k {k' s t}, s.Settled env → Starts env call k s k' t → t.Settled env :=
    fun _ _ _ _ h starts => (starts.settledAndExtends whole (fun name rule => (calls name rule).keeps) h).1
  induction ran generalizing scans log with
  | @consume s token goal =>
    obtain ⟨scans', log', known', eq⟩ := alikeConsume token goal s scans log h known
    exact ⟨scans', log', known', eq ▸ .consume⟩
  | @notAhead s token goal =>
    obtain ⟨scans', log', known', eq⟩ := alikeNotAhead token goal s scans log h known
    exact ⟨scans', log', known', eq ▸ .notAhead⟩
  | @sameLine s =>
    obtain ⟨scans', log', known', eq⟩ := alikeSameLine s scans log h known
    exact ⟨scans', log', known', eq ▸ .sameLine⟩
  | mismatch => exact ⟨scans, log, known, .mismatch⟩
  | raise => exact ⟨scans, log, known, .raise⟩
  | @call s name rule =>
    obtain ⟨scans', log', known', eq⟩ := (calls name rule).alike s scans log h known
    exact ⟨scans', log', known', eq ▸ .call⟩
  | parsed _ inner =>
    obtain ⟨scans', log', known', inner'⟩ := inner h known log
    exact ⟨scans', log', known', .parsed inner'⟩
  | attempt _ inner =>
    obtain ⟨scans', log', known', inner'⟩ := inner h known log
    exact ⟨scans', log', known', .attempt inner'⟩
  | nothing => exact ⟨scans, log, known, .nothing⟩
  | @next s t b rest r first _ inner later =>
    obtain ⟨scans', log', known', first'⟩ := inner h known log
    have h' := settled (.body (.inOrder (b :: rest))) h (.next first.execResult)
    obtain ⟨scans'', log'', known'', later'⟩ := later h' known' log'
    exact ⟨scans'', log'', known'', .next first' later'⟩
  | broken _ failed inner =>
    obtain ⟨scans', log', known', first'⟩ := inner h known log
    exact ⟨scans', log', known', .broken first' failed⟩
  | exhausted => exact ⟨scans, log, known, .exhausted⟩
  | branch _ decided inner =>
    obtain ⟨scans', log', known', first'⟩ := inner h known log
    exact ⟨scans', log', known', .branch first' decided⟩
  | @other s t b rest r first _ inner later =>
    obtain ⟨scans', log', known', first'⟩ := inner h known log
    have h' := settled (.body (.firstOf (b :: rest))) h (.other first.execResult)
    obtain ⟨scans'', log'', known'', later'⟩ := later h' known' log'
    rw [← havingRewind] at later'
    exact ⟨scans'', log'', known'', .other first' later'⟩
  | present _ decided inner =>
    obtain ⟨scans', log', known', inner'⟩ := inner h known log
    exact ⟨scans', log', known', .present inner' decided⟩
  | absent _ inner =>
    obtain ⟨scans', log', known', inner'⟩ := inner h known log
    refine ⟨scans', log', known', ?_⟩
    rw [← havingRewind]
    exact .absent inner'
  | many _ rounds =>
    obtain ⟨scans', log', known', rounds'⟩ := rounds h known log
    exact ⟨scans', log', known', .many rounds'⟩
  | more first moved _ inner rounds =>
    obtain ⟨scans', log', known', first'⟩ := inner h known log
    obtain ⟨scans'', log'', known'', rounds'⟩ := rounds (settled _ h (.more first.execResult moved)) known' log'
    exact ⟨scans'', log'', known'', .more first' moved rounds'⟩
  | unmoved _ still inner =>
    obtain ⟨scans', log', known', first'⟩ := inner h known log
    exact ⟨scans', log', known', .unmoved first' still⟩
  | never _ inner =>
    obtain ⟨scans', log', known', first'⟩ := inner h known log
    refine ⟨scans', log', known', ?_⟩
    rw [← havingRewind]
    exact .never first'
  | stopped _ inner =>
    obtain ⟨scans', log', known', first'⟩ := inner h known log
    exact ⟨scans', log', known', .stopped first'⟩
  | spent => exact ⟨scans, log, known, .spent⟩
  | @again s t b fuel done r round moved _ inner later =>
    obtain ⟨scans', log', known', round'⟩ := inner h.whenIsolated known log
    obtain ⟨scans'', log'', known'', later'⟩ :=
      later (settled (.rounds b (fuel + 1) done) h (.again round.execResult moved)) known' log'
    exact ⟨scans'', log'', known'', .again round' moved later'⟩
  | @stuck s t b fuel done _ still inner =>
    obtain ⟨scans', log', known', round'⟩ := inner h.whenIsolated known log
    exact ⟨scans', log', known', .stuck (s := s.having scans log) round' still⟩
  | @enough s t b fuel done _ off inner =>
    obtain ⟨scans', log', known', round'⟩ := inner h.whenIsolated known log
    refine ⟨scans', log', known', ?_⟩
    rw [← havingRewind]
    exact .enough (s := s.having scans log) round' off
  | @resumed s t u b fuel done r round on recovered _ inner later =>
    obtain ⟨scans', log', known', round'⟩ := inner h.whenIsolated known log
    have back := settled (.rounds b (fuel + 1) done) h (.recover round.execResult on)
    obtain ⟨own, log'', known'', eq⟩ := recoverAlike whole t.furthest log' back known'
    rw [← havingRewind, recovered] at eq
    obtain ⟨last, logged, known, later'⟩ :=
      later (settled (.rounds b (fuel + 1) done) h (.recovered round.execResult on recovered)) known'' log''
    exact ⟨last, logged, known, .resumed (s := s.having scans log) round' on eq later'⟩
  | @givenUp s t u b fuel done round on refused inner =>
    obtain ⟨scans', log', known', round'⟩ := inner h.whenIsolated known log
    have back := settled (.rounds b (fuel + 1) done) h (.recover round.execResult on)
    obtain ⟨own, log'', known'', eq⟩ := recoverAlike whole t.furthest log' back known'
    rw [← havingRewind, refused] at eq
    exact ⟨own, log'', known'', .givenUp (s := s.having scans log) round' on eq⟩
  | @failed s t b fuel done error _ inner =>
    obtain ⟨scans', log', known', round'⟩ := inner h.whenIsolated known log
    exact ⟨scans', log', known', .failed (s := s.having scans log) round'⟩

theorem havingClosed (env : Setup) (name : String) (s t : Session) (verdict : Verdict)
    (scans scans' : List (ScanKey × Scan)) (log log' : List Message) :
    ∃ log'', closed env name (s.having scans log) (verdict, t.having scans' log') =
      ((closed env name s (verdict, t)).1, (closed env name s (verdict, t)).2.having scans' log'') := by
  obtain ⟨own, left⟩ := traceChangesLog env (if verdict = .ok then "match" else "fail") name
    { t with frames := t.frames.tail }
  obtain ⟨log'', right⟩ := traceChangesLog env (if verdict = .ok then "match" else "fail") name
    { t.having scans' log' with frames := t.frames.tail }
  refine ⟨log'', ?_⟩
  have right : ({ t.having scans' log' with frames := (t.having scans' log').frames.tail } : Session).trace env
      (if verdict = .ok then "match" else "fail") name = _ := right
  simp only [closed, runFresh, closeRule, left, right, remember]
  cases verdict with
  | ok =>
    cases env.config.memoize <;> simp only [pushChild, setChildren, children] <;> cases t.frames.tail <;> rfl
  | mismatch => cases env.config.memoize <;> rfl
  | fatal error => rfl

theorem havingOpened (env : Setup) (name : String) (s : Session) (scans : List (ScanKey × Scan))
    (log : List Message) (memo : Cache MemoKey Memo) :
    ∃ log', opened env name (s.having scans log) memo = (opened env name s memo).having scans log' := by
  obtain ⟨own, left⟩ := openedAsUpdate env name s memo
  obtain ⟨log', right⟩ := openedAsUpdate env name (s.having scans log) memo
  refine ⟨log', ?_⟩
  rw [left, right]
  rfl

theorem alikeSubrule (name : String) {body : Action} (body' : Indifferent env body) :
    Alike env (subrule env name body) := by
  intro s scans log h known
  rcases subruleCases env name body s with
    ⟨isOpen, eq⟩ | ⟨notOpen, deep, eq⟩ | ⟨memo, enters, hit, eq⟩ | ⟨enters, miss, eq⟩
  · refine ⟨scans, log, known, ?_⟩
    rw [eq]
    exact subruleOpen body isOpen
  · refine ⟨scans, log, known, ?_⟩
    rw [eq]
    exact subruleDeep body notOpen deep
  · have enters' : (s.having scans log).Enters env name := enters
    refine ⟨scans, ((s.having scans log).answering env name).log, known, ?_⟩
    rw [eq, subruleAnswered body enters' hit]
    exact havingReplay (s.answering env name) scans _ memo
  · have enters' : (s.having scans log).Enters env name := enters
    obtain ⟨within, opened'⟩ := havingOpened env name s scans log (s.asked env name)
    obtain ⟨scans', inside, known', ran⟩ := body'.alike _ scans within (h.whenOpened name (askedEntries miss)) known
    obtain ⟨log', closed'⟩ := havingClosed env name s (body (opened env name s (s.asked env name))).2
      (body (opened env name s (s.asked env name))).1 scans scans' log inside
    refine ⟨scans', log', known', ?_⟩
    rw [eq, subruleFresh body enters' miss]
    rw [show opened env name (s.having scans log) ((s.having scans log).asked env name) = _ from opened', ran]
    exact closed'

section
variable (whole : NoPairs env.source)
include whole

theorem indifferentExec {call : String → String → Action} (calls : ∀ name rule, Indifferent env (call name rule))
    (b : Body) : Indifferent env (exec env call b) := by
  refine ⟨keepsExec whole (fun name rule => (calls name rule).keeps) b, fun s scans log h known => ?_⟩
  obtain ⟨scans', log', known', ran⟩ := (execRan env call b s).runsAlike whole calls h known log
  exact ⟨scans', log', known', ran.execResult⟩

theorem indifferentInvoke (rules : Rules) (depth : Nat) (name rule : String) :
    Indifferent env (invoke env rules depth name rule) := by
  refine ⟨keepsInvoke whole rules depth name rule, ?_⟩
  induction depth generalizing name rule with
  | zero => exact alikeSubrule name ⟨keepsStill .mismatch, alikeStill .mismatch⟩
  | succ depth ih =>
    have calls : ∀ name rule, Indifferent env (invoke env rules depth name rule) :=
      fun name rule => ⟨keepsInvoke whole rules depth name rule, ih name rule⟩
    exact alikeSubrule name (indifferentExec whole calls (rules.body rule))

end

end Packrat.Session

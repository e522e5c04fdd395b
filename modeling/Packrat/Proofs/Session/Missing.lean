import Packrat.Proofs.Failure
import Packrat.Proofs.Session.Fragments
import Packrat.Proofs.Session.Running

/-! The tokens that a run expects and does not find, in the order in which it misses them. The furthest failure
is what these come to, whatever was recorded before. -/
namespace Packrat

structure Miss where
  token : String
  found : Scan
  path : List String

namespace Miss

def offset (m : Miss) : Nat := m.found.offset

def failure (m : Miss) : Failure :=
  { offset := some m.offset, position := m.found.position, expected := [m.token], found := m.found.found,
    path := m.path }

def tally (misses : List Miss) : Failure := misses.foldl (fun f m => f.merge m.failure) {}

theorem foldlMerge (misses : List Miss) (f : Failure) :
    misses.foldl (fun f m => f.merge m.failure) f = f.merge (tally misses) := by
  induction misses generalizing f with
  | nil => rfl
  | cons m rest ih =>
    have whole : tally (m :: rest) = m.failure.merge (tally rest) := ih _
    rw [List.foldl_cons, ih, whole, Failure.mergeAssoc]

theorem tallyAppend (misses more : List Miss) : tally (misses ++ more) = (tally misses).merge (tally more) := by
  rw [tally, List.foldl_append, foldlMerge]
  rfl

theorem tallySingle (m : Miss) : tally [m] = m.failure := rfl

theorem tallyProper (misses : List Miss) : (tally misses).Proper := by
  induction misses using List.reverseRecOn with
  | nil => exact Failure.emptyProper
  | append_singleton rest m ih =>
    rw [tallyAppend]
    exact ih.mergeProper _

end Miss

namespace Session

def failing (s : Session) (f : Failure) : Session := { s with furthest := f }

abbrev Account := Session → List Miss

def missesConsume (env : Setup) (token : String) (goal : Goal) : Account := fun s =>
  match (consume env token goal s).1 with
  | .mismatch => [⟨token, (s.scan env goal).1, s.path⟩]
  | _ => []

section
variable (env : Setup) (body : Action) (account : Account)

def missesRounds : Nat → Account
  | 0, _ => []
  | fuel + 1, s =>
    account s.isolated ++
      match body s.isolated with
      | (.ok, t) => if stoodStill s.mark (s.rejoined t) then [] else missesRounds fuel (s.rejoined t)
      | (.mismatch, t) =>
        if env.config.recover && s.state.offset < t.highWater then
          match ((s.rejoined t).rewind s.mark).recover env t.furthest with
          | (true, u) => missesRounds fuel u
          | (false, _) => []
        else []
      | (.fatal _, _) => []

def missesSome : Account := fun s =>
  account s ++
    match body s with
    | (.ok, t) => if stoodStill s.mark t then [] else missesRounds env body account (roundLimit env) t
    | _ => []

end

mutual

def missesExec (env : Setup) (call : String → String → Action) (below : String → String → Account) : Body → Account
  | .consume token goal => missesConsume env token goal
  | .inOrder parts => missesInOrder env call below parts
  | .call name rule => below name rule
  | .firstOf branches => missesFirstOf env call below branches
  | .many body => missesRounds env (exec env call body) (missesExec env call below body) (roundLimit env)
  | .some body => missesSome env (exec env call body) (missesExec env call below body)
  | .optional body => missesExec env call below body
  | .notAhead _ _ => fun _ => []
  | .sameLine => fun _ => []
  | .mismatch => fun _ => []
  | .raise _ => fun _ => []
  | .whenRecording _ parsed => missesExec env call below parsed
  | .attempt body => missesExec env call below body

def missesInOrder (env : Setup) (call : String → String → Action) (below : String → String → Account) :
    List Body → Account
  | [] => fun _ => []
  | b :: rest => fun s =>
    missesExec env call below b s ++
      match exec env call b s with
      | (.ok, t) => missesInOrder env call below rest t
      | _ => []

def missesFirstOf (env : Setup) (call : String → String → Action) (below : String → String → Account) :
    List Body → Account
  | [] => fun _ => []
  | b :: rest => fun s =>
    missesExec env call below b s ++
      match exec env call b s with
      | (.mismatch, t) => missesFirstOf env call below rest (t.rewind s.mark)
      | _ => []

end

instance (env : Setup) (name : String) (s : Session) : Decidable (s.Enters env name) :=
  inferInstanceAs (Decidable (_ ∧ _))

def missesSubrule (env : Setup) (name : String) (account : Account) : Account := fun s =>
  if s.Enters env name ∧ (s.remembered env name).isNone then account (opened env name s (s.asked env name)) else []

def missesInvoke (env : Setup) (rules : Rules) : Nat → String → String → Account
  | 0, name, _ => missesSubrule env name fun _ => []
  | depth + 1, name, rule =>
    missesSubrule env name
      (missesExec env (invoke env rules depth) (missesInvoke env rules depth) (rules.body rule))

def missesTask (env : Setup) (call : String → String → Action) (below : String → String → Account) : Task → Account
  | .body b => missesExec env call below b
  | .rounds b fuel _ => missesRounds env (exec env call b) (missesExec env call below b) fuel
  | .recover _ => fun _ => []
  | .skip _ => fun _ => []

section
variable {env : Setup} {call : String → String → Action} {below : String → String → Account} {b : Body}
  {rest : List Body} {fuel done : Nat} {s t u : Session} {error : ParseError}

theorem missesInParts :
    missesTask env call below (.body (.inOrder (b :: rest))) s =
      missesTask env call below (.body b) s ++
        match exec env call b s with
        | (.ok, t) => missesTask env call below (.body (.inOrder rest)) t
        | _ => [] := rfl

theorem missesInBranches :
    missesTask env call below (.body (.firstOf (b :: rest))) s =
      missesTask env call below (.body b) s ++
        match exec env call b s with
        | (.mismatch, t) => missesTask env call below (.body (.firstOf rest)) (t.rewind s.mark)
        | _ => [] := rfl

theorem missesInSome :
    missesTask env call below (.body (.some b)) s =
      missesTask env call below (.body b) s ++
        match exec env call b s with
        | (.ok, t) =>
          if stoodStill s.mark t then [] else missesTask env call below (.rounds b (roundLimit env) 1) t
        | _ => [] := rfl

theorem missesInRound :
    missesTask env call below (.rounds b (fuel + 1) done) s =
      missesTask env call below (.body b) s.isolated ++
        match exec env call b s.isolated with
        | (.ok, t) =>
          if stoodStill s.mark (s.rejoined t) then []
          else missesTask env call below (.rounds b fuel (done + 1)) (s.rejoined t)
        | (.mismatch, t) =>
          if env.config.recover && s.state.offset < t.highWater then
            match ((s.rejoined t).rewind s.mark).recover env t.furthest with
            | (true, u) => missesTask env call below (.rounds b fuel (done + 1)) u
            | (false, _) => []
          else []
        | (.fatal _, _) => [] := rfl

theorem nothingUnlessMatched {r : Verdict × Session} {rest : Account} (failed : r.1 ≠ .ok) :
    (match r with
      | (.ok, t) => rest t
      | _ => []) = [] := by
  obtain ⟨verdict, t⟩ := r
  cases verdict with
  | ok => exact absurd rfl failed
  | mismatch => rfl
  | fatal error => rfl

theorem nothingUnlessFailed {r : Verdict × Session} {rest : Account} (decided : r.1 ≠ .mismatch) :
    (match r with
      | (.mismatch, t) => rest t
      | _ => []) = [] := by
  obtain ⟨verdict, t⟩ := r
  cases verdict with
  | ok => rfl
  | mismatch => exact absurd rfl decided
  | fatal error => rfl

theorem missesNext (matched : exec env call b s = (.ok, t)) :
    missesTask env call below (.body (.inOrder (b :: rest))) s =
      missesTask env call below (.body b) s ++ missesTask env call below (.body (.inOrder rest)) t := by
  simp only [missesInParts, matched]

theorem missesBroken (failed : (exec env call b s).1 ≠ .ok) :
    missesTask env call below (.body (.inOrder (b :: rest))) s = missesTask env call below (.body b) s := by
  rw [missesInParts, nothingUnlessMatched failed, List.append_nil]

theorem missesOther (failed : exec env call b s = (.mismatch, t)) :
    missesTask env call below (.body (.firstOf (b :: rest))) s =
      missesTask env call below (.body b) s ++ missesTask env call below (.body (.firstOf rest)) (t.rewind s.mark) := by
  simp only [missesInBranches, failed]

theorem missesBranch (decided : (exec env call b s).1 ≠ .mismatch) :
    missesTask env call below (.body (.firstOf (b :: rest))) s = missesTask env call below (.body b) s := by
  rw [missesInBranches, nothingUnlessFailed decided, List.append_nil]

theorem missesMore (matched : exec env call b s = (.ok, t)) (moved : stoodStill s.mark t = false) :
    missesTask env call below (.body (.some b)) s =
      missesTask env call below (.body b) s ++ missesTask env call below (.rounds b (roundLimit env) 1) t := by
  simp only [missesInSome, matched, moved, Bool.false_eq_true, if_false]

theorem missesUnmoved (matched : exec env call b s = (.ok, t)) (still : stoodStill s.mark t = true) :
    missesTask env call below (.body (.some b)) s = missesTask env call below (.body b) s := by
  simp only [missesInSome, matched, still, if_true, List.append_nil]

theorem missesNever (failed : (exec env call b s).1 ≠ .ok) :
    missesTask env call below (.body (.some b)) s = missesTask env call below (.body b) s := by
  rw [missesInSome, nothingUnlessMatched failed, List.append_nil]

theorem missesAgain (matched : exec env call b s.isolated = (.ok, t))
    (moved : stoodStill s.mark (s.rejoined t) = false) :
    missesTask env call below (.rounds b (fuel + 1) done) s =
      missesTask env call below (.body b) s.isolated ++
        missesTask env call below (.rounds b fuel (done + 1)) (s.rejoined t) := by
  simp only [missesInRound, matched, moved, Bool.false_eq_true, if_false]

theorem missesStuck (matched : exec env call b s.isolated = (.ok, t))
    (still : stoodStill s.mark (s.rejoined t) = true) :
    missesTask env call below (.rounds b (fuel + 1) done) s = missesTask env call below (.body b) s.isolated := by
  simp only [missesInRound, matched, still, if_true, List.append_nil]

theorem missesEnough (failed : exec env call b s.isolated = (.mismatch, t))
    (off : (env.config.recover && s.state.offset < t.highWater) = false) :
    missesTask env call below (.rounds b (fuel + 1) done) s = missesTask env call below (.body b) s.isolated := by
  simp only [missesInRound, failed, off, Bool.false_eq_true, if_false, List.append_nil]

theorem missesResumed (failed : exec env call b s.isolated = (.mismatch, t))
    (on : (env.config.recover && s.state.offset < t.highWater) = true)
    (recovered : ((s.rejoined t).rewind s.mark).recover env t.furthest = (true, u)) :
    missesTask env call below (.rounds b (fuel + 1) done) s =
      missesTask env call below (.body b) s.isolated ++ missesTask env call below (.rounds b fuel (done + 1)) u := by
  simp only [missesInRound, failed, on, if_true, recovered]

theorem missesGivenUp (failed : exec env call b s.isolated = (.mismatch, t))
    (on : (env.config.recover && s.state.offset < t.highWater) = true)
    (refused : ((s.rejoined t).rewind s.mark).recover env t.furthest = (false, u)) :
    missesTask env call below (.rounds b (fuel + 1) done) s = missesTask env call below (.body b) s.isolated := by
  simp only [missesInRound, failed, on, if_true, refused, List.append_nil]

theorem missesFailed (failed : exec env call b s.isolated = (.fatal error, t)) :
    missesTask env call below (.rounds b (fuel + 1) done) s = missesTask env call below (.body b) s.isolated := by
  simp only [missesInRound, failed, List.append_nil]

end

section
variable (s : Session) (f : Failure)

theorem failingOwnFurthest : s.failing s.furthest = s := rfl

theorem failingSetChildren (children : List Tree) :
    (s.failing f).setChildren children = (s.setChildren children).failing f := by
  unfold setChildren failing
  cases s.frames <;> rfl

theorem failingPushChild (node : Tree) : (s.failing f).pushChild node = (s.pushChild node).failing f :=
  failingSetChildren s f _

theorem failingRewind (m : Mark) : (s.failing f).rewind m = (s.rewind m).failing f := by
  unfold rewind failing
  by_cases still : s.state = m.state
  · simp only [if_pos still, setChildren, children]
    cases s.frames <;> rfl
  · simp only [if_neg still, setChildren, children]
    cases s.frames <;> rfl

theorem failingScan (env : Setup) (goal : Goal) :
    (s.failing f).scan env goal = ((s.scan env goal).1, (s.scan env goal).2.failing f) := by
  have same : (s.failing f).scans.lookup ((s.failing f).scanKey goal) = s.scans.lookup (s.scanKey goal) := rfl
  simp only [scan, same]
  cases s.scans.lookup (s.scanKey goal) <;> rfl

theorem failingRecorded (r : Recovery) (text : String) (node : Tree) :
    ({ (s.failing f).note .debug text with
        recoveries := ((s.failing f).note .debug text).recoveries ++ [r] } : Session).pushChild node =
      (({ s.note .debug text with recoveries := (s.note .debug text).recoveries ++ [r] } : Session).pushChild
        node).failing f :=
  failingPushChild { s.note .debug text with recoveries := s.recoveries ++ [r] } f node

theorem failingSkip (env : Setup) (fuel : Nat) :
    (s.failing f).skip env fuel = ((s.skip env fuel).1, (s.skip env fuel).2.failing f) := by
  induction fuel generalizing s with
  | zero => rfl
  | succ fuel ih =>
    have scan := failingScan s f env defaultGoal
    simp only [skip, scan]
    cases s.scan env defaultGoal with
    | mk found t =>
      cases found with
      | token token next =>
        have later := ih (t.commit token next)
        simp only
        split
        · rfl
        · rw [show (t.failing f).commit token next = (t.commit token next).failing f from rfl, later]
      | ended cursor => rfl
      | unrecognized cursor c =>
        have later := ih (t.commit (unrecognizedToken cursor c).1 (unrecognizedToken cursor c).2)
        simp only
        rw [show (t.failing f).commit (unrecognizedToken cursor c).1 (unrecognizedToken cursor c).2 =
          (t.commit (unrecognizedToken cursor c).1 (unrecognizedToken cursor c).2).failing f from rfl, later]

theorem failingRecover (env : Setup) (failure : Failure) :
    (s.failing f).recover env failure = ((s.recover env failure).1, (s.recover env failure).2.failing f) := by
  have skip := failingSkip s f env (env.source.length + 1)
  simp only [recover, skip]
  by_cases budget : env.config.maxErrors ≤ s.recoveries.length
  · rw [if_pos budget]
    exact if_pos budget
  · rw [if_neg budget]
    refine (if_neg budget).trans ?_
    by_cases nothing : (s.skip env (env.source.length + 1)).1.isEmpty
    · simp only [if_pos nothing]
    · simp only [if_neg nothing]
      exact congrArg (true, ·) (failingRecorded _ f _ _ _)

end

def Adds (a : Action) (account : Account) : Prop :=
  ∀ s f, a (s.failing f) = ((a s).1, (a s).2.failing (f.merge (Miss.tally (account s)))) ∧
    account (s.failing f) = account s

variable {env : Setup} {call : String → String → Action} {below : String → String → Account}

theorem addsStill (verdict : Verdict) : Adds (fun s => (verdict, s)) fun _ => [] := fun _ _ => ⟨rfl, rfl⟩

theorem addsConsume (token : String) (goal : Goal) : Adds (consume env token goal) (missesConsume env token goal) := by
  intro s f
  obtain ⟨found, scans, scan⟩ := scanChangesScans env goal s
  simp only [missesConsume, consume, failingScan, scan]
  cases found with
  | token next cursor =>
    simp only
    by_cases same : next.name = token
    · simp only [if_pos same]
      exact ⟨congrArg (Verdict.ok, ·) (failingPushChild (({ s with scans := scans } : Session).commit next cursor) f _),
        trivial⟩
    · simp only [if_neg same]
      exact ⟨rfl, rfl⟩
  | ended cursor => exact ⟨rfl, rfl⟩
  | unrecognized cursor c => exact ⟨rfl, rfl⟩

theorem addsNotAhead (token : String) (goal : Goal) : Adds (notAhead env token goal) fun _ => [] := by
  intro s f
  have scan := failingScan s f env goal
  simp only [notAhead, scan]
  cases s.scan env goal with
  | mk found t => cases found <;> exact ⟨rfl, trivial⟩

theorem addsSameLine : Adds (sameLine env) fun _ => [] := by
  intro s f
  have scan := failingScan s f env defaultGoal
  simp only [sameLine, scan]
  cases s.scan env defaultGoal with
  | mk found t => cases found <;> exact ⟨rfl, trivial⟩

theorem Adds.fromNothing {body : Action} {account : Account} (adds : Adds body account) {s : Session}
    (nothing : s.furthest = {}) : (body s).2.furthest = Miss.tally (account s) := by
  have same := (adds s s.furthest).1
  rw [failingOwnFurthest, nothing, Failure.emptyMerge (Miss.tallyProper _)] at same
  rw [same]
  rfl

theorem failingRejoined {b : Body} {misses : List Miss} {s : Session} {r : Verdict × Session} (f : Failure)
    (ran : Ran env call (.body b) s.isolated r)
    (adds : ∀ f, Ran env call (.body b) (s.isolated.failing f) (r.1, r.2.failing (f.merge (Miss.tally misses)))) :
    (s.failing f).rejoined r.2 = (s.rejoined r.2).failing (f.merge (Miss.tally misses)) := by
  have same := ran.execResult.symm.trans (adds {}).execResult
  rw [Failure.emptyMerge (Miss.tallyProper _)] at same
  have recorded : r.2.furthest = Miss.tally misses := congrArg (fun r : Verdict × Session => r.2.furthest) same
  rw [← recorded]
  rfl

theorem Ran.runsWithFailure (calls : ∀ name rule, Adds (call name rule) (below name rule)) {k : Task} {s : Session}
    {r : Verdict × Session} (ran : Ran env call k s r) (f : Failure) :
    Ran env call k (s.failing f) (r.1, r.2.failing (f.merge (Miss.tally (missesTask env call below k s)))) ∧
      missesTask env call below k (s.failing f) = missesTask env call below k s := by
  induction ran generalizing f with
  | @consume s token goal =>
    obtain ⟨ran, same⟩ := (addsConsume token goal : Adds (Session.consume env token goal) _) s f
    exact ⟨ran ▸ .consume, same⟩
  | @notAhead s token goal =>
    obtain ⟨ran, same⟩ := (addsNotAhead token goal : Adds (Session.notAhead env token goal) _) s f
    exact ⟨ran ▸ .notAhead, same⟩
  | @sameLine s =>
    obtain ⟨ran, same⟩ := (addsSameLine : Adds (Session.sameLine env) _) s f
    exact ⟨ran ▸ .sameLine, same⟩
  | mismatch => exact ⟨.mismatch, rfl⟩
  | raise => exact ⟨.raise, rfl⟩
  | @call s name rule =>
    obtain ⟨ran, same⟩ := calls name rule s f
    exact ⟨ran ▸ .call, same⟩
  | parsed _ inner => exact ⟨.parsed (inner f).1, (inner f).2⟩
  | attempt _ inner => exact ⟨.attempt (inner f).1, (inner f).2⟩
  | nothing => exact ⟨.nothing, rfl⟩
  | next first _ inner later =>
    obtain ⟨first', same⟩ := inner f
    obtain ⟨later', same'⟩ := later (f.merge (Miss.tally _))
    rw [missesNext first.execResult, missesNext first'.execResult, same, same', Miss.tallyAppend, ← Failure.mergeAssoc]
    exact ⟨.next first' later', rfl⟩
  | broken first failed inner =>
    obtain ⟨first', same⟩ := inner f
    rw [missesBroken (first.execResult ▸ failed), missesBroken (first'.execResult ▸ failed), same]
    exact ⟨.broken first' failed, rfl⟩
  | exhausted => exact ⟨.exhausted, rfl⟩
  | branch first decided inner =>
    obtain ⟨first', same⟩ := inner f
    rw [missesBranch (first.execResult ▸ decided), missesBranch (first'.execResult ▸ decided), same]
    exact ⟨.branch first' decided, rfl⟩
  | @other s t _ _ _ first _ inner later =>
    obtain ⟨first', same⟩ := inner f
    obtain ⟨later', same'⟩ := later (f.merge (Miss.tally _))
    rw [← failingRewind] at later' same'
    rw [missesOther first.execResult, missesOther first'.execResult, same, Miss.tallyAppend, ← Failure.mergeAssoc]
    exact ⟨.other first' later', congrArg _ same'⟩
  | present _ decided inner => exact ⟨.present (inner f).1 decided, (inner f).2⟩
  | absent _ inner =>
    refine ⟨?_, (inner f).2⟩
    rw [← failingRewind]
    exact .absent (inner f).1
  | many _ rounds => exact ⟨.many (rounds f).1, (rounds f).2⟩
  | more first moved _ inner rounds =>
    obtain ⟨first', same⟩ := inner f
    obtain ⟨rounds', same'⟩ := rounds (f.merge (Miss.tally _))
    rw [missesMore first.execResult moved, missesMore first'.execResult moved, same, same', Miss.tallyAppend,
      ← Failure.mergeAssoc]
    exact ⟨.more first' moved rounds', rfl⟩
  | unmoved first still inner =>
    obtain ⟨first', same⟩ := inner f
    rw [missesUnmoved first.execResult still, missesUnmoved first'.execResult still, same]
    exact ⟨.unmoved first' still, rfl⟩
  | never first inner =>
    obtain ⟨first', same⟩ := inner f
    rw [missesNever (first.execResult ▸ nofun), missesNever (first'.execResult ▸ nofun), same, ← failingRewind]
    exact ⟨.never first', rfl⟩
  | stopped first inner =>
    obtain ⟨first', same⟩ := inner f
    rw [missesNever (first.execResult ▸ nofun), missesNever (first'.execResult ▸ nofun), same]
    exact ⟨.stopped first', rfl⟩
  | spent => exact ⟨.spent, rfl⟩
  | @again s t b fuel done r round moved _ inner later =>
    have joined := failingRejoined f round fun f => (inner f).1
    obtain ⟨later', same'⟩ := later (f.merge (Miss.tally _))
    rw [← joined] at later' same'
    rw [missesAgain round.execResult moved, missesAgain (s := s.failing f) round.execResult moved, Miss.tallyAppend,
      ← Failure.mergeAssoc]
    exact ⟨.again (s := s.failing f) round moved later', congrArg _ same'⟩
  | @stuck s t b fuel done round still inner =>
    have joined := failingRejoined f round fun f => (inner f).1
    rw [missesStuck round.execResult still, missesStuck (s := s.failing f) round.execResult still, ← joined]
    exact ⟨.stuck (s := s.failing f) round still, rfl⟩
  | @enough s t b fuel done round off inner =>
    have joined := failingRejoined f round fun f => (inner f).1
    rw [missesEnough round.execResult off, missesEnough (s := s.failing f) round.execResult off, ← failingRewind,
      ← joined]
    exact ⟨.enough (s := s.failing f) round off, rfl⟩
  | @resumed s t u b fuel done r round on recovered _ inner later =>
    have joined := failingRejoined f round fun f => (inner f).1
    obtain ⟨later', same'⟩ := later (f.merge (Miss.tally (missesTask env call below (.body b) s.isolated)))
    have resumed : (((s.failing f).rejoined t).rewind s.mark).recover env t.furthest =
        (true, u.failing (f.merge (Miss.tally (missesTask env call below (.body b) s.isolated)))) := by
      rw [joined, failingRewind, failingRecover, recovered]
    rw [missesResumed round.execResult on recovered, missesResumed (s := s.failing f) round.execResult on resumed,
      Miss.tallyAppend, ← Failure.mergeAssoc]
    exact ⟨.resumed (s := s.failing f) round on resumed later', congrArg _ same'⟩
  | @givenUp s t u b fuel done round on refused inner =>
    have joined := failingRejoined f round fun f => (inner f).1
    have given : (((s.failing f).rejoined t).rewind s.mark).recover env t.furthest =
        (false, u.failing (f.merge (Miss.tally (missesTask env call below (.body b) s.isolated)))) := by
      rw [joined, failingRewind, failingRecover, refused]
    rw [missesGivenUp round.execResult on refused, missesGivenUp (s := s.failing f) round.execResult on given]
    exact ⟨.givenUp (s := s.failing f) round on given, rfl⟩
  | @failed s t b fuel done error round inner =>
    have joined := failingRejoined f round fun f => (inner f).1
    rw [missesFailed round.execResult, missesFailed (s := s.failing f) round.execResult, ← joined]
    exact ⟨.failed (s := s.failing f) round, rfl⟩

theorem addsExec (calls : ∀ name rule, Adds (call name rule) (below name rule)) (b : Body) :
    Adds (exec env call b) (missesExec env call below b) := by
  intro s f
  obtain ⟨ran, same⟩ := (execRan env call b s).runsWithFailure calls f
  exact ⟨ran.execResult, same⟩

section
variable {name : String} {body : Action} {account : Account}

theorem closedFailing (off : env.config.memoize = false) (s : Session) (f : Failure) (r : Verdict × Session) :
    closed env name (s.failing f) r =
      ((closed env name s r).1, (closed env name s r).2.failing (f.merge r.2.furthest)) := by
  obtain ⟨verdict, t⟩ := r
  cases verdict with
  | ok =>
    obtain ⟨log, traced⟩ := traceChangesLog env "match" name { t with frames := t.frames.tail }
    simp only [closed, runFresh, closeRule, if_true, traced, remember, off, Bool.false_eq_true, if_false]
    exact congrArg (fun u : Session => (Verdict.ok, { u with active := u.active.erase (s.here name) }))
      (failingPushChild { t with
        frames := t.frames.tail
        ruleStack := t.ruleStack.tail
        highWater := max s.highWater t.highWater
        furthest := s.furthest.merge t.furthest
        stats := { t.stats with nodesCreated := t.stats.nodesCreated + 1 }
        log := log } (f.merge t.furthest) _)
  | mismatch =>
    obtain ⟨log, traced⟩ := traceChangesLog env "fail" name { t with frames := t.frames.tail }
    simp only [closed, runFresh, closeRule, reduceCtorEq, if_false, traced, remember, off, Bool.false_eq_true]
    rfl
  | fatal error =>
    obtain ⟨log, traced⟩ := traceChangesLog env "fail" name { t with frames := t.frames.tail }
    simp only [closed, runFresh, closeRule, reduceCtorEq, if_false, traced]
    rfl

theorem addsSubrule (off : env.config.memoize = false) (adds : Adds body account) :
    Adds (subrule env name body) (missesSubrule env name account) := by
  intro s f
  have unremembered : ∀ u : Session, u.remembered env name = none := by
    intro u
    rw [remembered, off]
    rfl
  have missed : missesSubrule env name account s =
      if s.Enters env name then account (opened env name s (s.asked env name)) else [] := by
    simp only [missesSubrule, unremembered, Option.isNone_none, and_true]
  refine ⟨?_, rfl⟩
  rw [missed]
  by_cases enters : s.Enters env name
  · have recorded := adds.fromNothing (s := opened env name s (s.asked env name)) ?_
    · rw [if_pos enters, subruleFresh body enters (unremembered s), ← recorded]
      exact (subruleFresh body (s := s.failing f) enters (unremembered _)).trans (closedFailing off s f _)
    · obtain ⟨log, eq⟩ := openedAsUpdate env name s (s.asked env name)
      rw [eq]
  · rw [if_neg enters]
    rcases subruleCases env name body s with ⟨isOpen, eq⟩ | ⟨notOpen, deep, eq⟩ | ⟨_, entered, _⟩ | ⟨entered, _⟩
    · rw [eq]
      exact subruleOpen (s := s.failing f) body isOpen
    · rw [eq]
      exact subruleDeep (s := s.failing f) body notOpen deep
    · exact absurd entered enters
    · exact absurd entered enters

end

theorem addsInvoke (off : env.config.memoize = false) (rules : Rules) (depth : Nat) (name rule : String) :
    Adds (invoke env rules depth name rule) (missesInvoke env rules depth name rule) := by
  induction depth generalizing name rule with
  | zero => exact addsSubrule off (addsStill .mismatch)
  | succ depth ih => exact addsSubrule off (addsExec ih (rules.body rule))

end Session
end Packrat

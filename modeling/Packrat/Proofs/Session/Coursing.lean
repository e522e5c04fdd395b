import Packrat.Proofs.Course
import Packrat.Proofs.Session.Growth

/-! Without recovery, runs take the course that their bodies have, on any source. A task is only followed where
its course does not halt, or halts in a way that no answer from the cache hides. -/
namespace Packrat

namespace Course

def Fair (stops : Course → Prop) (o : Course) : Prop := o.Halts → stops o

theorem firstFair {stops : Course → Prop} {o : Course} {found : Spot → Unit → Course} {failed : Unit → Course}
    (h : Fair stops (o.elim found failed)) : Fair stops o := by
  intro halts
  rw [Result.elimHalts halts] at h
  exact h halts

end Course

def Memo.Tells (o : Course) : Memo → Prop
  | .success stop _ _ _ => o = .ok stop.spot ()
  | .failure _ => o = .mismatch ()

theorem Memo.Tells.courseEnds {memo : Memo} {o : Course} (h : memo.Tells o) : ¬ o.Halts := by
  cases memo with
  | success stop node tokens attempt =>
    rw [show o = _ from h]
    exact id
  | failure attempt =>
    rw [show o = _ from h]
    exact id

def Task.course (env : Setup) (stack : List (String × Nat)) (call : String → String → Eval Spot Spot Unit Bool) :
    Task → Spot → Course
  | .body b, p => env.course.eval none stack call b p 0
  | .rounds b fuel done, p => env.course.repeated none stack (env.course.eval none stack call b) fuel done p 0
  | .recover _, _ => .cut
  | .skip _, _ => .cut

namespace Session

theorem Starts.keepsPlain {env : Setup} {call : String → String → Action} {k k' : Task} {s t : Session}
    {invoked : String × String → Prop} (off : env.config.recover = false) (starts : Starts env call k s k' t)
    (plain : k.Plain invoked) : k'.Plain invoked := by
  cases starts with
  | first => exact (Task.plainParts plain).1
  | next _ => exact (Task.plainParts plain).2
  | branch => exact (Task.plainParts plain).1
  | other _ => exact (Task.plainParts plain).2
  | recover _ moved =>
    simp [off] at moved
  | attempt => exact Bool.noConfusion plain.1
  | skip _ => exact plain
  | skipToken _ _ => exact plain
  | skipUnknown _ => exact plain
  | _ => exact plain

section
variable (env : Setup) (valid : MemoKey → Memo → Prop)

def Trusts (s : Session) : Prop := env.config.memoize → ∀ e ∈ s.memo.entries, valid e.1 e.2

structure Underway (around : Semantics.Around Spot) (s : Session) : Prop where
  sound : s.Sound env
  stack : s.ruleStack = env.course.stack around
  inside : ∀ e ∈ around, e.2.Leads s.state.spot
  trusts : s.Trusts env valid

def Arrives : Course → Verdict × Session → Prop
  | .ok q _, r => r.1 = .ok ∧ r.2.state.spot = q ∧ r.2.Trusts env valid
  | .mismatch _, r => r.1 = .mismatch ∧ r.2.Trusts env valid
  | .fatal limit, r => ∃ error, r.1 = .fatal error ∧ error.isLimit = limit
  | .cut, _ => False

end

variable {env : Setup} {valid : MemoKey → Memo → Prop} {around : Semantics.Around Spot} {s t : Session}

theorem Underway.afterGrowth (h : s.Underway env valid around) (step : (growing env).Step s t)
    (trusts : t.Trusts env valid) : t.Underway env valid around := by
  obtain ⟨sound, g, grows⟩ := step
  exact ⟨sound, grows.stack.trans h.stack, fun e member => (h.inside e member).trans grows.covers.spotLeads, trusts⟩

theorem Underway.afterRewind (h : s.Underway env valid around) (step : (growing env).Step s t)
    (trusts : t.Trusts env valid) :
    (t.rewind s.mark).Underway env valid around ∧ (t.rewind s.mark).state = s.state := by
  obtain ⟨g, grows⟩ := step.2
  refine ⟨h.afterGrowth (growsRewound h.sound step) ?_, (grows.returnedByRewind h.sound).state⟩
  unfold Trusts
  rw [rewindMemo]
  exact trusts

theorem Underway.whenIsolated (h : s.Underway env valid around) : s.isolated.Underway env valid around :=
  ⟨(growingUpheld env).isolated h.sound, h.stack, h.inside, h.trusts⟩

section
variable {o : Course} {error : ParseError}

theorem Arrives.courseOfMatch (h : Arrives env valid o (.ok, t)) : o = .ok t.state.spot () ∧ t.Trusts env valid := by
  cases o with
  | ok q trail => exact ⟨congrArg (Result.ok · trail) h.2.1.symm, h.2.2⟩
  | mismatch _ => exact nomatch h.1
  | fatal limit =>
    obtain ⟨_, none, _⟩ := h
    exact nomatch none
  | cut => exact False.elim h

theorem Arrives.courseOfMismatch (h : Arrives env valid o (.mismatch, t)) : o = .mismatch () ∧ t.Trusts env valid := by
  cases o with
  | ok q _ => exact nomatch h.1
  | mismatch _ => exact ⟨rfl, h.2⟩
  | fatal limit =>
    obtain ⟨_, none, _⟩ := h
    exact nomatch none
  | cut => exact False.elim h

theorem Arrives.courseOfError (h : Arrives env valid o (.fatal error, t)) : o = .fatal error.isLimit := by
  cases o with
  | ok q _ => exact nomatch h.1
  | mismatch _ => exact nomatch h.1
  | fatal limit =>
    obtain ⟨_, ran, same⟩ := h
    cases ran
    rw [same]
  | cut => exact False.elim h

variable {found : Spot → Unit → Course} {failed : Unit → Course}

theorem Arrives.unlessMatched {r : Verdict × Session} (h : Arrives env valid o r) (wrong : r.1 ≠ .ok) :
    Arrives env valid (o.elim found .mismatch) r := by
  cases o with
  | ok q _ => exact absurd h.1 wrong
  | mismatch _ => exact h
  | fatal limit => exact h
  | cut => exact h

theorem Arrives.whenDecided {r : Verdict × Session} (h : Arrives env valid o r) (decided : r.1 ≠ .mismatch) :
    Arrives env valid (o.elim .ok failed) r := by
  cases o with
  | ok q _ => exact h
  | mismatch _ => exact absurd h.1 decided
  | fatal limit => exact h
  | cut => exact h

theorem Arrives.whenHalted (h : Arrives env valid o (.fatal error, t)) (u : Session) :
    Arrives env valid (o.elim found failed) (.fatal error, u) := by
  rw [h.courseOfError]
  exact ⟨error, rfl, rfl⟩

end

structure Pursuit where
  env : Setup
  rules : Rules
  depth : Nat
  task : Task
  first : Session
  valid : MemoKey → Memo → Prop
  stops : Semantics.Around Spot → Course → Prop

namespace Pursuit

variable (x : Pursuit)

def call (d : Nat) : String → String → Action := invoke x.env x.rules d

def walk (around : Semantics.Around Spot) (d : Nat) : Task → Spot → Course :=
  Task.course x.env (x.env.course.stack around) (x.env.course.guarded none x.rules d (x.env.course.stack around))

structure Due (around : Semantics.Around Spot) (d : Nat) (k : Task) (s : Session) : Prop where
  underway : s.Underway x.env x.valid around
  reached : Reached x.env x.rules x.depth x.task x.first d k s
  fair : Course.Fair (x.stops around) (x.walk around d k s.state.spot)

def Follows (around : Semantics.Around Spot) (d : Nat) (k : Task) (s : Session) (r : Verdict × Session) : Prop :=
  Arrives x.env x.valid (x.walk around d k s.state.spot) r

variable {x} {around : Semantics.Around Spot} {d : Nat} {s t : Session} {b : Body} {rest : List Body}

theorem Due.runGrows (h : x.Due around d (.body b) s) {r : Verdict × Session}
    (ran : Ran x.env (x.call d) (.body b) s r) : (growing x.env).Step s r.2 :=
  ran.execResult ▸ h.underway.sound.runGrows x.rules d b

def Left (x : Pursuit) (around : Semantics.Around Spot) (d : Nat) (k : Task) (s : Session) (k' : Task)
    (t : Session) : Prop :=
  x.Due around d k' t ∧ x.walk around d k s.state.spot = x.walk around d k' t.state.spot

theorem Left.followsWhole {k k' : Task} (left : x.Left around d k s k' t) {r : Verdict × Session}
    (follows : x.Due around d k' t → x.Follows around d k' t r) : x.Follows around d k s r := by
  unfold Follows
  rw [left.2]
  exact follows left.1

theorem Due.leavesTo {k k' : Task} (h : x.Due around d k s)
    (same : x.walk around d k s.state.spot = x.walk around d k' t.state.spot)
    (underway : t.Underway x.env x.valid around)
    (starts : Starts x.env (x.call d) k s k' t) : x.Left around d k s k' t :=
  ⟨⟨underway, h.reached.within starts, same ▸ h.fair⟩, same⟩

theorem Due.firstPart (h : x.Due around d (.body (.inOrder (b :: rest))) s) : x.Due around d (.body b) s :=
  ⟨h.underway, h.reached.within .first, Course.firstFair h.fair⟩

theorem Due.laterParts (h : x.Due around d (.body (.inOrder (b :: rest))) s)
    (ran : Ran x.env (x.call d) (.body b) s (.ok, t)) (follows : x.Follows around d (.body b) s (.ok, t)) :
    x.Left around d (.body (.inOrder (b :: rest))) s (.body (.inOrder rest)) t := by
  obtain ⟨course, trusts⟩ := follows.courseOfMatch
  refine h.leavesTo ?_ (h.underway.afterGrowth (h.firstPart.runGrows ran) trusts) (.next ran.execResult)
  show (x.walk around d (.body b) s.state.spot).elim _ _ = _
  rw [course]
  exact x.env.coursePrepends _ _

theorem Due.firstBranch (h : x.Due around d (.body (.firstOf (b :: rest))) s) : x.Due around d (.body b) s :=
  ⟨h.underway, h.reached.within .branch, Course.firstFair h.fair⟩

theorem Due.laterBranches (h : x.Due around d (.body (.firstOf (b :: rest))) s)
    (ran : Ran x.env (x.call d) (.body b) s (.mismatch, t))
    (follows : x.Follows around d (.body b) s (.mismatch, t)) :
    x.Left around d (.body (.firstOf (b :: rest))) s (.body (.firstOf rest)) (t.rewind s.mark) := by
  obtain ⟨course, trusts⟩ := follows.courseOfMismatch
  obtain ⟨underway, state⟩ := h.underway.afterRewind (h.firstBranch.runGrows ran) trusts
  refine h.leavesTo ?_ underway (.other ran.execResult)
  show (x.walk around d (.body b) s.state.spot).elim _ _ = _
  rw [course, state]
  exact x.env.coursePrepends _ _

theorem Due.insideOptional (h : x.Due around d (.body (.optional b)) s) : x.Due around d (.body b) s :=
  ⟨h.underway, h.reached.within .optional, Course.firstFair h.fair⟩

theorem Due.insideMany (h : x.Due around d (.body (.many b)) s) :
    x.Left around d (.body (.many b)) s (.rounds b (roundLimit x.env) 0) s :=
  h.leavesTo rfl h.underway .many

theorem Due.onceInSome (h : x.Due around d (.body (.some b)) s) : x.Due around d (.body b) s :=
  ⟨h.underway, h.reached.within .once, Course.firstFair h.fair⟩

theorem Due.moreInSome (h : x.Due around d (.body (.some b)) s) (ran : Ran x.env (x.call d) (.body b) s (.ok, t))
    (follows : x.Follows around d (.body b) s (.ok, t)) (moved : stoodStill s.mark t = false) :
    x.Left around d (.body (.some b)) s (.rounds b (roundLimit x.env) 1) t := by
  obtain ⟨course, trusts⟩ := follows.courseOfMatch
  have step := h.onceInSome.runGrows ran
  have further := movedFurther step moved
  refine h.leavesTo ?_ (h.underway.afterGrowth step trusts) (.more ran.execResult moved)
  show (x.walk around d (.body b) s.state.spot).elim _ _ = _
  rw [course]
  exact (if_neg ((x.env.courseStood _ _).not.mpr further)).trans (x.env.coursePrepends _ _)

theorem Due.whenParsing {recorded : Body} (h : x.Due around d (.body (.whenRecording recorded b)) s) :
    x.Left around d (.body (.whenRecording recorded b)) s (.body b) s :=
  h.leavesTo rfl h.underway .parsed

variable {fuel done : Nat}

theorem Due.insideRound (h : x.Due around d (.rounds b (fuel + 1) done) s) : x.Due around d (.body b) s.isolated :=
  ⟨h.underway.whenIsolated, h.reached.within .round, Course.firstFair h.fair⟩

theorem Due.rejoinedGrows (h : x.Due around d (.rounds b (fuel + 1) done) s) {verdict : Verdict}
    (ran : Ran x.env (x.call d) (.body b) s.isolated (verdict, t)) : (growing x.env).Step s (s.rejoined t) :=
  (growingUpheld x.env).rejoined h.underway.sound (h.insideRound.runGrows ran)

theorem Due.nextRound (h : x.Due around d (.rounds b (fuel + 1) done) s)
    (ran : Ran x.env (x.call d) (.body b) s.isolated (.ok, t))
    (follows : x.Follows around d (.body b) s.isolated (.ok, t))
    (moved : stoodStill s.mark (s.rejoined t) = false) :
    x.Left around d (.rounds b (fuel + 1) done) s (.rounds b fuel (done + 1)) (s.rejoined t) := by
  obtain ⟨course, trusts⟩ := follows.courseOfMatch
  have step := h.rejoinedGrows ran
  have further := movedFurther step moved
  refine h.leavesTo ?_ (h.underway.afterGrowth step trusts) (.again ran.execResult moved)
  show (x.walk around d (.body b) s.isolated.state.spot).elim _ _ = _
  rw [course]
  exact (if_neg ((x.env.courseStood _ _).not.mpr further)).trans (x.env.coursePrepends _ _)

theorem followsConsume (due : x.Due around d (.body b) s) (token : String) (goal : Goal) :
    Arrives x.env x.valid (x.env.course.consume token goal s.state.spot 0) (consume x.env token goal s) := by
  obtain ⟨found, scans, scan, read, _⟩ := due.underway.sound.afterScan goal
  have seen : x.env.course.look goal s.state.spot = found.glance.glimpse :=
    congrArg Glance.glimpse read.glanceIsLook.symm
  have still : ∀ found, ({ s with scans := scans } : Session).expect token found |>.Trusts x.env x.valid :=
    fun _ => due.underway.trusts
  simp only [consume, scan, Semantics.consume, seen]
  cases found with
  | token t next =>
    simp only [Scan.glance, Glance.glimpse]
    by_cases same : t.name = token
    · rw [if_pos same, if_pos same]
      refine ⟨rfl, ?_, ?_⟩
      · rw [pushChildState]
        rfl
      · unfold Trusts
        rw [pushChildMemo]
        exact due.underway.trusts
    · rw [if_neg same, if_neg same]
      exact ⟨rfl, still _⟩
  | ended cursor => exact ⟨rfl, still _⟩
  | unrecognized cursor c => exact ⟨rfl, still _⟩

theorem followsNotAhead (due : x.Due around d (.body b) s) (token : String) (goal : Goal) :
    Arrives x.env x.valid (x.env.course.notAhead token goal s.state.spot 0) (notAhead x.env token goal s) := by
  obtain ⟨found, scans, scan, read, _⟩ := due.underway.sound.afterScan goal
  have seen : x.env.course.look goal s.state.spot = found.glance.glimpse :=
    congrArg Glance.glimpse read.glanceIsLook.symm
  have trusts : ({ s with scans := scans } : Session).Trusts x.env x.valid := due.underway.trusts
  simp only [notAhead, scan, Semantics.notAhead, seen]
  cases found with
  | token t next =>
    simp only [Scan.glance, Glance.glimpse]
    by_cases same : t.name = token
    · rw [if_pos same, if_pos same]
      exact ⟨rfl, trusts⟩
    · rw [if_neg same, if_neg same]
      exact ⟨rfl, rfl, trusts⟩
  | ended cursor => exact ⟨rfl, rfl, trusts⟩
  | unrecognized cursor c => exact ⟨rfl, rfl, trusts⟩

theorem followsSameLine (due : x.Due around d (.body b) s) :
    Arrives x.env x.valid (x.env.course.sameLine s.state.spot 0) (sameLine x.env s) := by
  obtain ⟨found, scans, scan, read, _⟩ := due.underway.sound.afterScan defaultGoal
  have seen : x.env.course.look defaultGoal s.state.spot = found.glance.glimpse :=
    congrArg Glance.glimpse read.glanceIsLook.symm
  have trusts : ({ s with scans := scans } : Session).Trusts x.env x.valid := due.underway.trusts
  simp only [sameLine, scan, Semantics.sameLine, seen]
  cases found with
  | token t next =>
    cases broken : t.breakBefore with
    | true =>
      simp only [Scan.glance, Glance.glimpse, broken, if_true]
      exact ⟨rfl, trusts⟩
    | false =>
      simp only [Scan.glance, Glance.glimpse, broken, Bool.false_eq_true, if_false]
      exact ⟨rfl, rfl, trusts⟩
  | ended cursor => exact ⟨rfl, rfl, trusts⟩
  | unrecognized cursor c => exact ⟨rfl, rfl, trusts⟩

theorem followsRan (off : x.env.config.recover = false) {invoked : String × String → Prop}
    (calls : ∀ {name rule s}, invoked (name, rule) → x.Due around d (.body (.call name rule)) s →
      x.Follows around d (.body (.call name rule)) s (x.call d name rule s))
    {k : Task} {r : Verdict × Session} (ran : Ran x.env (x.call d) k s r) (plain : k.Plain invoked)
    (due : x.Due around d k s) : x.Follows around d k s r := by
  induction ran with
  | consume => exact followsConsume due _ _
  | notAhead => exact followsNotAhead due _ _
  | sameLine => exact followsSameLine due
  | mismatch => exact ⟨rfl, due.underway.trusts⟩
  | raise => exact ⟨_, rfl, rfl⟩
  | call => exact calls (plain.2 _ List.mem_cons_self) due
  | parsed _ inner => exact due.whenParsing.followsWhole (inner plain)
  | attempt _ _ => exact Bool.noConfusion plain.1
  | nothing => exact ⟨rfl, rfl, due.underway.trusts⟩
  | next ran _ first later =>
    have left := due.laterParts ran (first (Task.plainParts plain).1 due.firstPart)
    exact left.followsWhole (later (Task.plainParts plain).2)
  | broken _ failed first => exact (first (Task.plainParts plain).1 due.firstPart).unlessMatched failed
  | exhausted => exact ⟨rfl, due.underway.trusts⟩
  | branch _ decided first => exact (first (Task.plainParts plain).1 due.firstBranch).whenDecided decided
  | other ran _ first later =>
    have left := due.laterBranches ran (first (Task.plainParts plain).1 due.firstBranch)
    exact left.followsWhole (later (Task.plainParts plain).2)
  | present _ decided inner => exact (inner plain due.insideOptional).whenDecided decided
  | @absent s t b ran inner =>
    obtain ⟨course, trusts⟩ := (inner plain due.insideOptional).courseOfMismatch
    obtain ⟨underway, state⟩ := due.underway.afterRewind (due.insideOptional.runGrows ran) trusts
    show Arrives x.env x.valid ((x.walk around d (.body b) s.state.spot).elim _ _) _
    rw [course]
    exact ⟨rfl, congrArg State.spot state, underway.trusts⟩
  | many _ rounds => exact due.insideMany.followsWhole (rounds plain)
  | more ran moved _ first rounds =>
    exact (due.moreInSome ran (first plain due.onceInSome) moved).followsWhole (rounds plain)
  | @unmoved s t b ran still first =>
    have stood := (stoodStillIff (due.onceInSome.runGrows ran)).mp still
    show Arrives x.env x.valid ((x.walk around d (.body b) s.state.spot).elim _ _) _
    rw [(first plain due.onceInSome).courseOfMatch.1]
    show Arrives x.env x.valid (if _ then _ else _) _
    rw [if_pos ((x.env.courseStood _ _).mpr stood)]
    exact ⟨_, rfl, rfl⟩
  | @never s t b ran first =>
    obtain ⟨course, trusts⟩ := (first plain due.onceInSome).courseOfMismatch
    obtain ⟨underway, _⟩ := due.underway.afterRewind (due.onceInSome.runGrows ran) trusts
    show Arrives x.env x.valid ((x.walk around d (.body b) s.state.spot).elim _ _) _
    rw [course]
    exact ⟨rfl, underway.trusts⟩
  | stopped _ first => exact (first plain due.onceInSome).whenHalted _
  | spent => exact ⟨_, rfl, rfl⟩
  | again ran moved _ round later =>
    exact (due.nextRound ran (round plain due.insideRound) moved).followsWhole (later plain)
  | @stuck s t b fuel done ran still round =>
    have stood : t.state.spot.offset = s.state.spot.offset := (stoodStillIff (due.rejoinedGrows ran)).mp still
    show Arrives x.env x.valid ((x.walk around d (.body b) s.isolated.state.spot).elim _ _) _
    rw [(round plain due.insideRound).courseOfMatch.1]
    show Arrives x.env x.valid (if _ then _ else _) _
    rw [if_pos ((x.env.courseStood _ _).mpr stood)]
    exact ⟨_, rfl, rfl⟩
  | @enough s t b fuel done ran _ round =>
    obtain ⟨course, trusts⟩ := (round plain due.insideRound).courseOfMismatch
    obtain ⟨underway, state⟩ := due.underway.afterRewind (due.rejoinedGrows ran) trusts
    show Arrives x.env x.valid ((x.walk around d (.body b) s.isolated.state.spot).elim _ _) _
    rw [course]
    exact ⟨rfl, congrArg State.spot state, underway.trusts⟩
  | resumed _ on _ _ _ _ => simp [off] at on
  | givenUp _ on _ _ => simp [off] at on
  | @failed s t b fuel done error _ round =>
    show Arrives x.env x.valid ((x.walk around d (.body b) s.isolated.state.spot).elim _ _) _
    exact (round plain due.insideRound).whenHalted _

end Pursuit
end Session
end Packrat

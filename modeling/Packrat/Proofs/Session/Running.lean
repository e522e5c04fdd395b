import Packrat.Proofs.Rule
import Packrat.Proofs.Session.Task

/-! Runs as derivations. A run of a body or of rounds is made of the runs of what it starts, whatever
invoking a rule does. The combinators are followed here once; what a run does is then shown by
induction on its derivation. -/
namespace Packrat

def Task.Plain (invoked : String × String → Prop) : Task → Prop
  | .body b => b.swallows = false ∧ ∀ c ∈ b.calls, invoked c
  | .rounds b _ _ => b.swallows = false ∧ ∀ c ∈ b.calls, invoked c
  | .recover _ => False
  | .skip _ => False

theorem Task.plainParts {invoked : String × String → Prop} {b : Body} {rest : List Body}
    (plain : Body.swallowsAny (b :: rest) = false ∧ ∀ c ∈ Body.callsAll (b :: rest), invoked c) :
    (Task.body b).Plain invoked ∧ Body.swallowsAny rest = false ∧ ∀ c ∈ Body.callsAll rest, invoked c := by
  obtain ⟨strict, calls⟩ := plain
  simp only [Body.swallowsAny, Bool.or_eq_false_iff] at strict
  simp only [Body.callsAll, List.mem_append] at calls
  exact ⟨⟨strict.1, fun c member => calls c (.inl member)⟩, strict.2, fun c member => calls c (.inr member)⟩

namespace Session

/-- `Ran env call k s r`: from `s` the task `k` comes to the verdict and the session `r`. -/
inductive Ran (env : Setup) (call : String → String → Action) : Task → Session → Verdict × Session → Prop where
  | consume {s token goal} : Ran env call (.body (.consume token goal)) s (consume env token goal s)
  | notAhead {s token goal} : Ran env call (.body (.notAhead token goal)) s (notAhead env token goal s)
  | sameLine {s} : Ran env call (.body .sameLine) s (sameLine env s)
  | mismatch {s} : Ran env call (.body .mismatch) s (.mismatch, s)
  | raise {s error} : Ran env call (.body (.raise error)) s (.fatal error, s)
  | call {s name rule} : Ran env call (.body (.call name rule)) s (call name rule s)
  | parsed {s recorded b r} (inner : Ran env call (.body b) s r) :
      Ran env call (.body (.whenRecording recorded b)) s r
  | attempt {s b r} (inner : Ran env call (.body b) s r) : Ran env call (.body (.attempt b)) s (.ok, r.2)
  | nothing {s} : Ran env call (.body (.inOrder [])) s (.ok, s)
  | next {s t b rest r} (first : Ran env call (.body b) s (.ok, t))
      (later : Ran env call (.body (.inOrder rest)) t r) : Ran env call (.body (.inOrder (b :: rest))) s r
  | broken {s b rest r} (first : Ran env call (.body b) s r) (failed : r.1 ≠ .ok) :
      Ran env call (.body (.inOrder (b :: rest))) s r
  | exhausted {s} : Ran env call (.body (.firstOf [])) s (.mismatch, s)
  | branch {s b rest r} (first : Ran env call (.body b) s r) (decided : r.1 ≠ .mismatch) :
      Ran env call (.body (.firstOf (b :: rest))) s r
  | other {s t b rest r} (first : Ran env call (.body b) s (.mismatch, t))
      (later : Ran env call (.body (.firstOf rest)) (t.rewind s.mark) r) :
      Ran env call (.body (.firstOf (b :: rest))) s r
  | present {s b r} (inner : Ran env call (.body b) s r) (decided : r.1 ≠ .mismatch) :
      Ran env call (.body (.optional b)) s r
  | absent {s t b} (inner : Ran env call (.body b) s (.mismatch, t)) :
      Ran env call (.body (.optional b)) s (.ok, t.rewind s.mark)
  | many {s b r} (rounds : Ran env call (.rounds b (roundLimit env) 0) s r) : Ran env call (.body (.many b)) s r
  | more {s t b r} (first : Ran env call (.body b) s (.ok, t)) (moved : stoodStill s.mark t = false)
      (rounds : Ran env call (.rounds b (roundLimit env) 1) t r) : Ran env call (.body (.some b)) s r
  | unmoved {s t b} (first : Ran env call (.body b) s (.ok, t)) (still : stoodStill s.mark t = true) :
      Ran env call (.body (.some b)) s (.fatal (t.infiniteLoop s.mark 1), t)
  | never {s t b} (first : Ran env call (.body b) s (.mismatch, t)) :
      Ran env call (.body (.some b)) s (.mismatch, t.rewind s.mark)
  | stopped {s t b error} (first : Ran env call (.body b) s (.fatal error, t)) :
      Ran env call (.body (.some b)) s (.fatal error, t)
  | spent {s b done} : Ran env call (.rounds b 0 done) s (.fatal (s.infiniteLoop s.mark done), s)
  | again {s t b fuel done r} (round : Ran env call (.body b) s.isolated (.ok, t))
      (moved : stoodStill s.mark (s.rejoined t) = false)
      (later : Ran env call (.rounds b fuel (done + 1)) (s.rejoined t) r) :
      Ran env call (.rounds b (fuel + 1) done) s r
  | stuck {s t b fuel done} (round : Ran env call (.body b) s.isolated (.ok, t))
      (still : stoodStill s.mark (s.rejoined t) = true) :
      Ran env call (.rounds b (fuel + 1) done) s
        (.fatal ((s.rejoined t).infiniteLoop s.mark (done + 1)), s.rejoined t)
  | enough {s t b fuel done} (round : Ran env call (.body b) s.isolated (.mismatch, t))
      (off : (env.config.recover && s.state.offset < t.highWater) = false) :
      Ran env call (.rounds b (fuel + 1) done) s (.ok, (s.rejoined t).rewind s.mark)
  | resumed {s t u b fuel done r} (round : Ran env call (.body b) s.isolated (.mismatch, t))
      (on : (env.config.recover && s.state.offset < t.highWater) = true)
      (recovered : ((s.rejoined t).rewind s.mark).recover env t.furthest = (true, u))
      (later : Ran env call (.rounds b fuel (done + 1)) u r) : Ran env call (.rounds b (fuel + 1) done) s r
  | givenUp {s t u b fuel done} (round : Ran env call (.body b) s.isolated (.mismatch, t))
      (on : (env.config.recover && s.state.offset < t.highWater) = true)
      (refused : ((s.rejoined t).rewind s.mark).recover env t.furthest = (false, u)) :
      Ran env call (.rounds b (fuel + 1) done) s (.ok, u)
  | failed {s t b fuel done error} (round : Ran env call (.body b) s.isolated (.fatal error, t)) :
      Ran env call (.rounds b (fuel + 1) done) s (.fatal error, s.rejoined t)

variable {env : Setup} {call : String → String → Action} {b : Body} {s : Session} {r : Verdict × Session}

section
variable {bodies : List Body} (each : ∀ b ∈ bodies, ∀ s, Ran env call (.body b) s (exec env call b s))
include each

theorem inOrderRan (s : Session) :
    Ran env call (.body (.inOrder bodies)) s (inOrder (bodies.map (exec env call)) s) := by
  induction bodies generalizing s with
  | nil => exact .nothing
  | cons b rest ih =>
    rw [List.forall_mem_cons] at each
    have first := each.1 s
    simp only [List.map_cons, inOrder]
    cases ran : exec env call b s with
    | mk verdict t =>
      rw [ran] at first
      cases verdict with
      | ok => exact .next first (ih each.2 t)
      | mismatch => exact .broken first nofun
      | fatal error => exact .broken first nofun

theorem firstOfRan (s : Session) :
    Ran env call (.body (.firstOf bodies)) s (firstOf (bodies.map (exec env call)) s) := by
  induction bodies generalizing s with
  | nil => exact .exhausted
  | cons b rest ih =>
    rw [List.forall_mem_cons] at each
    have first := each.1 s
    simp only [List.map_cons, firstOf]
    cases ran : exec env call b s with
    | mk verdict t =>
      rw [ran] at first
      cases verdict with
      | ok => exact .branch first nofun
      | mismatch => exact .other first (ih each.2 _)
      | fatal error => exact .branch first nofun

end

section
variable (body : ∀ s, Ran env call (.body b) s (exec env call b s))
include body

theorem optionalRan (s : Session) : Ran env call (.body (.optional b)) s (optional (exec env call b) s) := by
  have inner := body s
  unfold optional
  cases ran : exec env call b s with
  | mk verdict t =>
    rw [ran] at inner
    cases verdict with
    | ok => exact .present inner nofun
    | mismatch => exact .absent inner
    | fatal error => exact .present inner nofun

theorem roundsRan (fuel done : Nat) (s : Session) :
    Ran env call (.rounds b fuel done) s (repeatFrom env (exec env call b) fuel done s) := by
  induction fuel generalizing done s with
  | zero => exact .spent
  | succ fuel ih =>
    have round := body s.isolated
    simp only [repeatFrom, roundAsIsolated]
    cases ran : exec env call b s.isolated with
    | mk verdict t =>
      rw [ran] at round
      cases verdict with
      | ok =>
        cases still : stoodStill s.mark (s.rejoined t) with
        | true =>
          simp only [still, if_true]
          exact .stuck round still
        | false =>
          simp only [still, Bool.false_eq_true, if_false]
          exact .again round still (ih (done + 1) _)
      | mismatch =>
        cases on : env.config.recover && decide (s.state.offset < t.highWater) with
        | false =>
          simp only [on, Bool.false_eq_true, if_false]
          exact .enough round on
        | true =>
          simp only [on, if_true]
          cases recovered : ((s.rejoined t).rewind s.mark).recover env t.furthest with
          | mk success u =>
            cases success with
            | true => exact .resumed round on recovered (ih (done + 1) u)
            | false => exact .givenUp round on recovered
      | fatal error => exact .failed round

theorem someRan (s : Session) : Ran env call (.body (.some b)) s (some env (exec env call b) s) := by
  have first := body s
  unfold some
  cases ran : exec env call b s with
  | mk verdict t =>
    rw [ran] at first
    cases verdict with
    | ok =>
      cases still : stoodStill s.mark t with
      | true =>
        simp only [still, if_true]
        exact .unmoved first still
      | false =>
        simp only [still, Bool.false_eq_true, if_false]
        exact .more first still (roundsRan body (roundLimit env) 1 t)
    | mismatch => exact .never first
    | fatal error => exact .stopped first

end

theorem execRan (env : Setup) (call : String → String → Action) (b : Body) (s : Session) :
    Ran env call (.body b) s (exec env call b s) := by
  induction b using Body.induction generalizing s with
  | consume token goal => exact .consume
  | inOrder parts ih =>
    simp only [exec, execAllAsMap]
    exact inOrderRan ih s
  | call name rule => exact .call
  | firstOf branches ih =>
    simp only [exec, execAllAsMap]
    exact firstOfRan ih s
  | many body ih => exact .many (roundsRan ih (roundLimit env) 0 s)
  | some body ih => exact someRan ih s
  | optional body ih => exact optionalRan ih s
  | notAhead token goal => exact .notAhead
  | sameLine => exact .sameLine
  | mismatch => exact .mismatch
  | raise error => exact .raise
  | whenRecording recorded parsed ih => exact .parsed (ih s)
  | attempt body ih => exact .attempt (ih s)

theorem repeatRan (env : Setup) (call : String → String → Action) (b : Body) (fuel done : Nat) (s : Session) :
    Ran env call (.rounds b fuel done) s (repeatFrom env (exec env call b) fuel done s) :=
  roundsRan (execRan env call b) fuel done s

def Gives (env : Setup) (call : String → String → Action) : Task → Session → Verdict × Session → Prop
  | .body b, s, r => exec env call b s = r
  | .rounds b fuel done, s, r => repeatFrom env (exec env call b) fuel done s = r
  | .recover _, _, _ => False
  | .skip _, _, _ => False

theorem Ran.givesResult {k : Task} (ran : Ran env call k s r) : Gives env call k s r := by
  induction ran with
  | next _ _ first later =>
    simp only [Gives, exec, execAllAsMap, List.map_cons, inOrder] at first later ⊢
    rw [first]
    exact later
  | @broken s b rest r _ failed first =>
    obtain ⟨verdict, t⟩ := r
    simp only [Gives, exec, execAllAsMap, List.map_cons, inOrder] at first ⊢
    rw [first]
    cases verdict with
    | ok => exact absurd rfl failed
    | mismatch => rfl
    | fatal error => rfl
  | @branch s b rest r _ decided first =>
    obtain ⟨verdict, t⟩ := r
    simp only [Gives, exec, execAllAsMap, List.map_cons, firstOf] at first ⊢
    rw [first]
    cases verdict with
    | ok => rfl
    | mismatch => exact absurd rfl decided
    | fatal error => rfl
  | other _ _ first later =>
    simp only [Gives, exec, execAllAsMap, List.map_cons, firstOf] at first later ⊢
    rw [first]
    exact later
  | @present s b r _ decided inner =>
    obtain ⟨verdict, t⟩ := r
    simp only [Gives, exec, optional] at inner ⊢
    rw [inner]
    cases verdict with
    | ok => rfl
    | mismatch => exact absurd rfl decided
    | fatal error => rfl
  | absent _ inner =>
    simp only [Gives, exec, optional] at inner ⊢
    rw [inner]
  | many _ rounds => exact rounds
  | more _ moved _ first rounds =>
    simp only [Gives, exec, some] at first rounds ⊢
    simp only [first, moved, Bool.false_eq_true, if_false]
    exact rounds
  | unmoved _ still first =>
    simp only [Gives, exec, some] at first ⊢
    simp only [first, still, if_true]
  | never _ first =>
    simp only [Gives, exec, some] at first ⊢
    simp only [first]
  | stopped _ first =>
    simp only [Gives, exec, some] at first ⊢
    simp only [first]
  | again _ moved _ round later =>
    simp only [Gives] at round later
    simp only [Gives, repeatFrom, roundAsIsolated, round, moved, Bool.false_eq_true, if_false]
    exact later
  | stuck _ still round =>
    simp only [Gives] at round
    simp only [Gives, repeatFrom, roundAsIsolated, round, still, if_true]
  | enough _ off round =>
    simp only [Gives] at round
    simp only [Gives, repeatFrom, roundAsIsolated, round, off, Bool.false_eq_true, if_false]
  | resumed _ on recovered _ round later =>
    simp only [Gives] at round later
    simp only [Gives, repeatFrom, roundAsIsolated, round, on, if_true, recovered]
    exact later
  | givenUp _ on refused round =>
    simp only [Gives] at round
    simp only [Gives, repeatFrom, roundAsIsolated, round, on, if_true, refused]
  | failed _ round =>
    simp only [Gives] at round
    simp only [Gives, repeatFrom, roundAsIsolated, round]
  | parsed _ inner => exact inner
  | attempt _ inner => exact congrArg (fun r : Verdict × Session => (Verdict.ok, r.2)) inner
  | _ => rfl

theorem Ran.execResult (ran : Ran env call (.body b) s r) : exec env call b s = r := ran.givesResult

end Session
end Packrat

import Packrat.Proofs.Position
import Packrat.Proofs.Rule

/-! What bodies come to. Combinators and rules are evaluated once for all; what matches, trails and errors are
made of, and how one reads and recovers, is up to the semantics. -/
namespace Packrat

inductive Result (F T E : Type) where
  | ok (found : F) (trail : T)
  | mismatch (trail : T)
  | fatal (error : E)
  | cut
  deriving DecidableEq, Repr

namespace Result

variable {F T E : Type}

def elim (o : Result F T E) (found : F → T → Result F T E) (failed : T → Result F T E) : Result F T E :=
  match o with
  | .ok m trail => found m trail
  | .mismatch trail => failed trail
  | .fatal error => .fatal error
  | .cut => .cut

def Halts : Result F T E → Prop
  | .ok _ _ => False
  | .mismatch _ => False
  | .fatal _ => True
  | .cut => True

theorem elimHalts {o : Result F T E} (h : o.Halts) (found : F → T → Result F T E)
    (failed : T → Result F T E) : o.elim found failed = o := by
  cases o with
  | ok _ _ => exact h.elim
  | mismatch _ => exact h.elim
  | fatal _ => rfl
  | cut => rfl

end Result

structure Glimpse (F T : Type) where
  name : String
  broken : Bool
  found : F
  trail : T

abbrev Eval (P F T E : Type) := P → Nat → Result F T E

def Exhausted (limit : Option Nat) (n : Nat) : Prop := ∃ most, limit = some most ∧ most ≤ n

instance (limit : Option Nat) (n : Nat) : Decidable (Exhausted limit n) :=
  match limit with
  | none => .isFalse (by simp [Exhausted])
  | some most => decidable_of_iff (most ≤ n) (by simp [Exhausted])

structure Semantics (P F T E : Type) where
  offset : P → Nat
  levels : Nat
  rounds : Nat
  here : P → F
  stop : F → P
  append : F → F → F
  repairs : F → Nat
  blank : T
  join : T → T → T
  since : P → T → T
  look : Goal → P → Option (Glimpse F T)
  missing : String → Goal → P → T
  stood : P → F → Bool
  mends : P → T → Bool
  mended : P → T → Option (F × T)
  closed : String → P → F → F
  closedTrail : String → P → T → T
  raised : ParseError → E
  looping : List (String × Nat) → F → Nat → E
  reentered : List (String × Nat) → String → P → E
  tooDeep : List (String × Nat) → String → P → E

namespace Semantics

variable {P F T E : Type} (x : Semantics P F T E)

def prepend (m : F) (trail : T) : Result F T E → Result F T E
  | .ok more later => .ok (x.append m more) (x.join trail later)
  | .mismatch later => .mismatch (x.join trail later)
  | .fatal error => .fatal error
  | .cut => .cut

def consume (token : String) (goal : Goal) : Eval P F T E := fun p _ =>
  match x.look goal p with
  | some next => if next.name = token then .ok next.found next.trail else .mismatch (x.missing token goal p)
  | none => .mismatch (x.missing token goal p)

def notAhead (token : String) (goal : Goal) : Eval P F T E := fun p _ =>
  match x.look goal p with
  | some next => if next.name = token then .mismatch x.blank else .ok (x.here p) x.blank
  | none => .ok (x.here p) x.blank

def sameLine : Eval P F T E := fun p _ =>
  match x.look defaultGoal p with
  | some next => if next.broken then .mismatch x.blank else .ok (x.here p) x.blank
  | none => .ok (x.here p) x.blank

def inOrder : List (Eval P F T E) → Eval P F T E
  | [], p, _ => .ok (x.here p) x.blank
  | first :: rest, p, n => (first p n).elim
      (fun m trail => x.prepend m trail (inOrder rest (x.stop m) (n + x.repairs m))) .mismatch

def firstOf : List (Eval P F T E) → Eval P F T E
  | [], _, _ => .mismatch x.blank
  | first :: rest, p, n => (first p n).elim .ok fun trail => x.prepend (x.here p) trail (firstOf rest p n)

def optional (body : Eval P F T E) : Eval P F T E := fun p n => (body p n).elim .ok (.ok (x.here p))

def mending (limit : Option Nat) (again : Eval P F T E) (p : P) (n : Nat) (trail : T) : Result F T E :=
  if x.mends p trail then
    if Exhausted limit n then .cut
    else
      match x.mended p trail with
      | some passed => x.prepend passed.1 (x.join (x.since p trail) passed.2)
          (again (x.stop passed.1) (n + x.repairs passed.1))
      | none => .ok (x.here p) (x.since p trail)
  else .ok (x.here p) (x.since p trail)

def repeated (limit : Option Nat) (stack : List (String × Nat)) (body : Eval P F T E) :
    Nat → Nat → Eval P F T E
  | 0, done, p, _ => .fatal (x.looping stack (x.here p) done)
  | fuel + 1, done, p, n => (body p n).elim
      (fun m trail =>
        if x.stood p m then .fatal (x.looping stack m (done + 1))
        else
          x.prepend m (x.since p trail)
            (repeated limit stack body fuel (done + 1) (x.stop m) (n + x.repairs m)))
      (x.mending limit (repeated limit stack body fuel (done + 1)) p n)

def some (limit : Option Nat) (stack : List (String × Nat)) (body : Eval P F T E) : Eval P F T E :=
  fun p n => (body p n).elim
    (fun m trail =>
      if x.stood p m then .fatal (x.looping stack m 1)
      else x.prepend m trail (x.repeated limit stack body x.rounds 1 (x.stop m) (n + x.repairs m)))
    .mismatch

def inRule (name : String) (p : P) (o : Result F T E) : Result F T E :=
  o.elim (fun m trail => .ok (x.closed name p m) (x.closedTrail name p trail))
    fun trail => .mismatch (x.closedTrail name p trail)

mutual

def eval (limit : Option Nat) (stack : List (String × Nat)) (call : String → String → Eval P F T E) :
    Body → Eval P F T E
  | .consume token goal => x.consume token goal
  | .inOrder parts => x.inOrder (evalAll limit stack call parts)
  | .call name rule => call name rule
  | .firstOf branches => x.firstOf (evalAll limit stack call branches)
  | .many body => x.repeated limit stack (eval limit stack call body) x.rounds 0
  | .some body => x.some limit stack (eval limit stack call body)
  | .optional body => x.optional (eval limit stack call body)
  | .notAhead token goal => x.notAhead token goal
  | .sameLine => x.sameLine
  | .mismatch => fun _ _ => .mismatch x.blank
  | .raise error => fun _ _ => .fatal (x.raised error)
  | .whenRecording _ parsed => eval limit stack call parsed
  -- a body that swallows errors keeps what a failed part did, so it has no meaning of this kind
  | .attempt _ => fun _ _ => .cut

def evalAll (limit : Option Nat) (stack : List (String × Nat)) (call : String → String → Eval P F T E) :
    List Body → List (Eval P F T E)
  | [] => []
  | b :: rest => eval limit stack call b :: evalAll limit stack call rest

end

theorem evalAllMaps (limit : Option Nat) (stack : List (String × Nat)) (call : String → String → Eval P F T E)
    (bodies : List Body) : x.evalAll limit stack call bodies = bodies.map (x.eval limit stack call) := by
  induction bodies with
  | nil => rfl
  | cons b rest ih => simp [evalAll, ih]

def entering (stack : List (String × Nat)) (name : String) (body : Eval P F T E) : Eval P F T E := fun p n =>
  if stack.contains (name, x.offset p) then .fatal (x.reentered stack name p)
  else if x.levels ≤ stack.length then .fatal (x.tooDeep stack name p)
  else x.inRule name p (body p n)

def guarded (limit : Option Nat) (rules : Rules) : Nat → List (String × Nat) → String → String → Eval P F T E
  | 0, stack, name, _ => x.entering stack name fun _ _ => .mismatch x.blank
  | depth + 1, stack, name, rule => x.entering stack name fun p =>
    x.eval limit ((name, x.offset p) :: stack) (guarded limit rules depth ((name, x.offset p) :: stack))
      (rules.body rule) p

def free (table : String → Body) : Nat → String → Eval P F T E
  | 0, _ => fun _ _ => .cut
  | height + 1, name => fun p n => x.inRule name p
      (x.eval none [(name, x.offset p)] (fun name _ => free table height name) (table name) p n)

end Semantics
end Packrat

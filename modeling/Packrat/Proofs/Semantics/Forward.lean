import Packrat.Proofs.Semantics

/-! Matches lead onward. Where the parts of a semantics lead from good places to good places further
on, so do all bodies and rules. -/
namespace Packrat
namespace Semantics

variable {P F T E : Type}

structure Lawful (x : Semantics P F T E) (good : P → Prop) (onward : P → F → Prop) : Prop where
  stopHere : ∀ p, x.stop (x.here p) = p
  here : ∀ {p}, good p → onward p (x.here p)
  append : ∀ {p m more}, onward p m → onward (x.stop m) more → onward p (x.append m more)
  look : ∀ {p goal next}, good p → x.look goal p = Option.some next → onward p next.found
  mended : ∀ {p trail passed}, good p → x.mended p trail = Option.some passed → onward p passed.1
  closed : ∀ {p m} name, onward p m → onward p (x.closed name p m)
  there : ∀ {p m}, onward p m → good (x.stop m)
  ahead : ∀ {p m}, onward p m → Ahead x.offset p (x.stop m)

def EndsAhead (onward : P → F → Prop) (p : P) (o : Result F T E) : Prop := ∀ m trail, o = .ok m trail → onward p m

def Forward (good : P → Prop) (onward : P → F → Prop) (f : Eval P F T E) : Prop :=
  ∀ p, good p → ∀ n, EndsAhead onward p (f p n)

section
variable {onward : P → F → Prop} {p : P} {o : Result F T E}

theorem endsAt {m : F} (h : onward p m) (trail : T) : EndsAhead onward p (.ok m trail : Result F T E) := by
  intro _ _ eq
  cases eq
  exact h

theorem endsNowhere (none : ∀ m trail, o ≠ .ok m trail) : EndsAhead onward p o :=
  fun m trail eq => absurd eq (none m trail)

theorem EndsAhead.elim {found : F → T → Result F T E} {failed : T → Result F T E}
    (ok : ∀ m trail, o = .ok m trail → EndsAhead onward p (found m trail))
    (no : ∀ trail, o = .mismatch trail → EndsAhead onward p (failed trail)) :
    EndsAhead onward p (o.elim found failed) := by
  cases o with
  | ok m trail => exact ok m trail rfl
  | mismatch trail => exact no trail rfl
  | fatal error => exact endsNowhere nofun
  | cut => exact endsNowhere nofun

end

namespace Lawful

variable {x : Semantics P F T E} {good : P → Prop} {onward : P → F → Prop} (lawful : x.Lawful good onward)
  {limit : Option Nat} {stack : List (String × Nat)}

include lawful

theorem endsBehind {p : P} {m : F} {o : Result F T E} (first : onward p m)
    (rest : EndsAhead onward (x.stop m) o) (trail : T) : EndsAhead onward p (x.prepend m trail o) := by
  cases o with
  | ok more later => exact endsAt (lawful.append first (rest more later rfl)) _
  | mismatch later => exact endsNowhere nofun
  | fatal error => exact endsNowhere nofun
  | cut => exact endsNowhere nofun

theorem forwardConsume (token : String) (goal : Goal) : Forward good onward (x.consume token goal) := by
  intro p stands n
  unfold consume
  cases seen : x.look goal p with
  | none => exact endsNowhere nofun
  | some next =>
    simp only
    split
    · exact endsAt (lawful.look stands seen) _
    · exact endsNowhere nofun

theorem forwardNotAhead (token : String) (goal : Goal) : Forward good onward (x.notAhead token goal) := by
  intro p stands n
  have here := lawful.here stands
  unfold notAhead
  cases x.look goal p with
  | none => exact endsAt here _
  | some next =>
    simp only
    split
    · exact endsNowhere nofun
    · exact endsAt here _

theorem forwardSameLine : Forward good onward x.sameLine := by
  intro p stands n
  have here := lawful.here stands
  unfold sameLine
  cases x.look defaultGoal p with
  | none => exact endsAt here _
  | some next =>
    simp only
    split
    · exact endsNowhere nofun
    · exact endsAt here _

theorem forwardInOrder {parts : List (Eval P F T E)} (each : ∀ f ∈ parts, Forward good onward f) :
    Forward good onward (x.inOrder parts) := by
  induction parts with
  | nil => exact fun p stands n => endsAt (lawful.here stands) _
  | cons first rest ih =>
    intro p stands n
    rw [List.forall_mem_cons] at each
    refine EndsAhead.elim (fun m trail got => ?_) (fun trail _ => endsNowhere nofun)
    have head := each.1 p stands n m trail got
    exact lawful.endsBehind head (ih each.2 (x.stop m) (lawful.there head) _) trail

theorem forwardFirstOf {branches : List (Eval P F T E)} (each : ∀ f ∈ branches, Forward good onward f) :
    Forward good onward (x.firstOf branches) := by
  induction branches with
  | nil => exact fun p stands n => endsNowhere nofun
  | cons first rest ih =>
    intro p stands n
    rw [List.forall_mem_cons] at each
    refine EndsAhead.elim (fun m trail got => got ▸ each.1 p stands n) (fun trail _ => ?_)
    refine lawful.endsBehind (lawful.here stands) ?_ trail
    rw [lawful.stopHere]
    exact ih each.2 p stands n

theorem forwardOptional {body : Eval P F T E} (forward : Forward good onward body) :
    Forward good onward (x.optional body) := fun p stands n =>
  EndsAhead.elim (fun _ _ got => got ▸ forward p stands n) (fun trail _ => endsAt (lawful.here stands) trail)

theorem forwardMending {again : Eval P F T E} (forward : Forward good onward again) {p : P} (stands : good p)
    (n : Nat) (trail : T) : EndsAhead onward p (x.mending limit again p n trail) := by
  have here := lawful.here stands
  unfold mending
  split
  · split
    · exact endsNowhere nofun
    · cases passed : x.mended p trail with
      | none => exact endsAt here _
      | some skipped =>
        have first := lawful.mended stands passed
        exact lawful.endsBehind first (forward (x.stop skipped.1) (lawful.there first) _) _
  · exact endsAt here _

theorem forwardRepeated {body : Eval P F T E} (forward : Forward good onward body) (fuel done : Nat) :
    Forward good onward (x.repeated limit stack body fuel done) := by
  induction fuel generalizing done with
  | zero => exact fun p stands n => endsNowhere nofun
  | succ fuel ih =>
    intro p stands n
    refine EndsAhead.elim (fun m trail got => ?_) (fun trail _ => ?_)
    · have first := forward p stands n m trail got
      split
      · exact endsNowhere nofun
      · exact lawful.endsBehind first (ih _ (x.stop m) (lawful.there first) _) _
    · exact lawful.forwardMending (ih (done + 1)) stands n trail

theorem forwardSome {body : Eval P F T E} (forward : Forward good onward body) :
    Forward good onward (x.some limit stack body) := by
  intro p stands n
  refine EndsAhead.elim (fun m trail got => ?_) (fun trail _ => endsNowhere nofun)
  have first := forward p stands n m trail got
  split
  · exact endsNowhere nofun
  · exact lawful.endsBehind first (lawful.forwardRepeated forward _ _ (x.stop m) (lawful.there first) _) _

theorem forwardInRule {p : P} {o : Result F T E} (name : String) (forward : EndsAhead onward p o) :
    EndsAhead onward p (x.inRule name p o) :=
  EndsAhead.elim (fun m trail got => endsAt (lawful.closed name (forward m trail got)) _)
    (fun _ _ => endsNowhere nofun)

theorem forwardEval {call : String → String → Eval P F T E}
    (calls : ∀ name rule, Forward good onward (call name rule)) (b : Body) :
    Forward good onward (x.eval limit stack call b) := by
  induction b using Body.induction with
  | consume token goal => exact lawful.forwardConsume token goal
  | inOrder parts ih =>
    simp only [eval, evalAllMaps]
    exact lawful.forwardInOrder (List.forall_mem_map.mpr ih)
  | call name rule => exact calls name rule
  | firstOf branches ih =>
    simp only [eval, evalAllMaps]
    exact lawful.forwardFirstOf (List.forall_mem_map.mpr ih)
  | many body ih => exact lawful.forwardRepeated ih _ _
  | some body ih => exact lawful.forwardSome ih
  | optional body ih => exact lawful.forwardOptional ih
  | notAhead token goal => exact lawful.forwardNotAhead token goal
  | sameLine => exact lawful.forwardSameLine
  | mismatch => exact fun p stands n => endsNowhere nofun
  | raise error => exact fun p stands n => endsNowhere nofun
  | whenRecording recorded parsed ih => exact ih
  | attempt body ih => exact fun p stands n => endsNowhere nofun

theorem forwardFree (table : String → Body) (height : Nat) (name : String) :
    Forward good onward (x.free table height name) := by
  induction height generalizing name with
  | zero => exact fun p stands n => endsNowhere nofun
  | succ height ih =>
    intro p stands n
    exact lawful.forwardInRule name (lawful.forwardEval (fun name _ => ih name) (table name) p stands n)

theorem forwardEntering {name : String} {body : Eval P F T E} (forward : Forward good onward body) :
    Forward good onward (x.entering stack name body) := by
  intro p stands n
  unfold entering
  split
  · exact endsNowhere nofun
  · split
    · exact endsNowhere nofun
    · exact lawful.forwardInRule name (forward p stands n)

theorem forwardGuarded (limit : Option Nat) (rules : Rules) (depth : Nat) (stack : List (String × Nat))
    (name rule : String) : Forward good onward (x.guarded limit rules depth stack name rule) := by
  induction depth generalizing stack name rule with
  | zero => exact lawful.forwardEntering fun p stands n => endsNowhere nofun
  | succ depth ih => exact lawful.forwardEntering fun p => lawful.forwardEval (ih _) (rules.body rule) p

end Lawful
end Semantics
end Packrat

import Packrat.Proofs.Semantics.Guard
import Packrat.Proofs.Spot

/-! Where a body leads from a spot, without recovery: a match adds nothing here, and of an error it is only told
whether it is that of the limit on nesting. -/
namespace Packrat

def ParseError.isLimit : ParseError → Bool
  | .recursionLimit .. => true
  | _ => false

abbrev Course := Result Spot Unit Bool

def Glance.glimpse : Glance → Option (Glimpse Spot Unit)
  | .token name broken next => some ⟨name, broken, next, ()⟩
  | .nothing => none

theorem Glance.tokenGlimpsed {g : Glance} {next : Glimpse Spot Unit} (seen : g.glimpse = some next) :
    ∃ name broken stop, g = .token name broken stop ∧ next = ⟨name, broken, stop, ()⟩ := by
  cases g with
  | token name broken stop => exact ⟨name, broken, stop, rfl, (Option.some.inj seen).symm⟩
  | nothing => exact nomatch seen

namespace Setup

def course (env : Setup) : Semantics Spot Spot Unit Bool where
  offset := Spot.offset
  levels := env.config.maxRuleDepth
  rounds := Session.roundLimit env
  here p := p
  stop q := q
  append _ more := more
  repairs _ := 0
  blank := ()
  join _ _ := ()
  since _ _ := ()
  look goal p := (env.look goal p).glimpse
  missing _ _ _ := ()
  stood p q := q.offset = p.offset
  mends _ _ := false
  mended _ _ := none
  closed _ _ q := q
  closedTrail _ _ _ := ()
  raised := ParseError.isLimit
  looping _ _ _ := false
  reentered _ _ _ := false
  tooDeep _ _ _ := true

variable (env : Setup)

theorem courseLawful : env.course.Lawful (fun _ => True) Spot.Leads where
  stopHere _ := rfl
  here _ := .refl _
  append first later := first.trans later
  look := by
    intro p goal next _ seen
    obtain ⟨name, broken, stop, found, rfl⟩ := Glance.tokenGlimpsed seen
    exact .inr (lookAhead found)
  mended _ none := nomatch none
  closed _ onward := onward
  there _ := trivial
  ahead onward := onward

theorem courseStood (p q : Spot) : env.course.stood p q ↔ q.offset = p.offset := decide_eq_true_iff

theorem coursePrepends (q : Spot) (o : Course) : env.course.prepend q () o = o := by
  cases o <;> rfl

theorem courseInRule (name : String) (p : Spot) (o : Course) : env.course.inRule name p o = o := by
  cases o <;> rfl

end Setup
end Packrat

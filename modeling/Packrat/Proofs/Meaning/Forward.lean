import Packrat.Proofs.Meaning
import Packrat.Proofs.Reading
import Packrat.Proofs.Semantics.Forward

/-! A body that matches ends where it started or further on, at a place of the source, and
further on if it took a token. -/
namespace Packrat

structure Match.Onward (env : Setup) (p : Place) (m : Match) : Prop where
  leads : p.Leads m.stop
  there : m.stop.Stands env
  further : m.tokens ≠ [] → p.offset < m.stop.offset

theorem Match.Onward.appendedMatch {env : Setup} {p : Place} {m more : Match} (first : m.Onward env p)
    (rest : more.Onward env m.stop) : (m.append more).Onward env p where
  leads := first.leads.trans rest.leads
  there := rest.there
  further := by
    intro some
    have ahead := first.leads.offsetLe
    have onward := rest.leads.offsetLe
    by_cases none : m.tokens = []
    · refine Nat.lt_of_le_of_lt ahead (rest.further fun none' => some ?_)
      rw [Match.append, none, none', List.append_nil]
    · exact Nat.lt_of_lt_of_le (first.further none) onward

theorem Match.emptyOnward {env : Setup} {p : Place} (stands : p.Stands env) : Match.Onward env p { stop := p } where
  leads := .refl p
  there := stands
  further := fun some => absurd rfl some

namespace Meaning

variable {env : Setup}

theorem takingOnward {p : Place} {t : Token} {next : Cursor} (there : next.Stands env.source)
    (further : p.offset < next.offset) : (taking t next).1.Onward env p :=
  ⟨.inr further, there, fun _ => further⟩

theorem skippedOnward (whole : NoPairs env.source) (fuel : Nat) {p : Place} (stands : p.Stands env) :
    (skipped env fuel p).1.Onward env p := by
  induction fuel generalizing p with
  | zero => exact Match.emptyOnward stands
  | succ fuel ih =>
    have moves := Lexer.readTokenMovesOn whole stands env.lexer defaultGoal p.prev
    unfold skipped Place.read
    cases found : env.lexer.readToken env.source p.cursor defaultGoal p.prev with
    | token t next =>
      rw [found] at moves
      have taken : (taking t next).1.Onward env p := takingOnward moves.1 moves.2.1
      simp only
      split
      · exact taken
      · exact taken.appendedMatch (ih taken.there)
    | ended cursor => exact Match.emptyOnward stands
    | unrecognized cursor c =>
      rw [found] at moves
      have taken : (taking (unrecognizedToken cursor c).1 (unrecognizedToken cursor c).2).1.Onward env p :=
        takingOnward moves.1 moves.2
      exact taken.appendedMatch (ih taken.there)

theorem recoveredOnward (whole : NoPairs env.source) {failure : Failure} {p : Place}
    (stands : p.Stands env) {passed : Match × Trail} (h : recovered env failure p = Option.some passed) :
    passed.1.Onward env p := by
  unfold recovered at h
  simp only at h
  split at h
  · contradiction
  · cases Option.some.inj h
    have onward := skippedOnward whole (env.source.length + 1) stands
    exact ⟨onward.leads, onward.there, onward.further⟩

end Meaning

theorem Scan.tokenOfGlimpse {found : Scan} {next : Glimpse Match Trail} (seen : found.glimpse = some next) :
    ∃ t cursor, found = .token t cursor ∧ next.found = (Meaning.taking t cursor).1 := by
  cases found with
  | token t cursor =>
    cases Option.some.inj seen
    exact ⟨t, cursor, rfl, rfl⟩
  | ended cursor => exact nomatch seen
  | unrecognized cursor c => exact nomatch seen

theorem Setup.meaningLawful (env : Setup) (whole : NoPairs env.source) :
    env.meaning.Lawful (Place.Stands env) (Match.Onward env) where
  stopHere _ := rfl
  here stands := Match.emptyOnward stands
  append first later := first.appendedMatch later
  look := by
    intro p goal next stands seen
    have moves := Lexer.readTokenMovesOn whole stands env.lexer goal p.prev
    obtain ⟨t, cursor, found, eq⟩ := Scan.tokenOfGlimpse seen
    rw [show env.lexer.readToken env.source p.cursor goal p.prev = _ from found] at moves
    rw [eq]
    exact Meaning.takingOnward moves.1 moves.2.1
  mended stands passed := Meaning.recoveredOnward whole stands passed
  closed _ onward := ⟨onward.leads, onward.there, onward.further⟩
  there onward := onward.there
  ahead onward := onward.leads

end Packrat

import Packrat.Proofs.Lexing.Pieces

/-! What the lexer answers. A reading passes trivia and then takes a token; a list of goals is answered by
readings one behind the other, and `tokenize` by readings in the default goal. -/
namespace Packrat

namespace Scan

def token? : Scan → Option Token
  | .token t _ => some t
  | .ended _ => none
  | .unrecognized _ _ => none

def stop? : Scan → Option Nat
  | .token _ _ => none
  | .ended _ => none
  | .unrecognized cursor _ => some cursor.offset

def stopOf (source : List Char) (scans : List Scan) : Nat := (scans.findSome? stop?).getD (byteLength source)

end Scan

namespace Lexer

variable {lx : Lexer} {source : List Char} {p q : Lexing}

def Stuck (lx : Lexer) (p : Lexing) : Prop := ∀ e ∈ lx.lexemes, ∀ n, ¬ e.Fits p.context p.rest n

theorem stuckEmpty (none : p.rest = []) : lx.Stuck p := by
  intro e _ n fits
  have := fits.positiveLength
  have := fits.withinRest
  rw [none, List.length_nil] at this
  omega

theorem stuckLost (lost : lx.longestMatch p.rest p.context = none) : lx.Stuck p := by
  have longest := lx.longestMatchLongest p.rest p.context
  rwa [lost] at longest

inductive Finishes (lx : Lexer) (p : Lexing) : Scan → Prop where
  | ended (none : p.rest = []) : Finishes lx p (.ended p.cursor)
  | unrecognized {c more} (left : p.rest = c :: more) (stuck : lx.Stuck p) :
      Finishes lx p (.unrecognized p.cursor c)
  | token {piece more} (wins : lx.Wins p.context p.rest piece more)
      (kept : piece.lexeme.definition.skip = false) : Finishes lx p (p.reading piece).scan

structure Trails (lx : Lexer) (p q : Lexing) : Prop where
  steps : lx.Steps p q
  readings : q.readings = p.readings
  goal : q.goal = p.goal
  prev : q.prev = p.prev

theorem Trails.refl (p : Lexing) : lx.Trails p p := ⟨.refl, rfl, rfl, rfl⟩

theorem Trails.pastTrivia {piece : Chunk} {more : List Char} (wins : lx.Wins p.context p.rest piece more)
    (skipped : piece.lexeme.definition.skip = true) (later : lx.Trails (p.passing piece more) q) : lx.Trails p q :=
  ⟨.head (.pass wins skipped) later.steps, later.readings, later.goal, later.prev⟩

theorem Finds.trailFinishes {goal : Goal} {prev : Option Kind} {rest : List Char} {cursor : Cursor} {broken : Bool}
    {found : Scan} (finds : lx.Finds goal prev rest cursor broken found) (p : Lexing) (rest' : p.rest = rest)
    (cursor' : p.cursor = cursor) (context : p.context = ⟨goal, prev, broken || cursor.offset == 0, cursor.depth⟩)
    (broken' : p.broken = broken) : ∃ q, lx.Trails p q ∧ lx.Finishes q found := by
  induction finds generalizing p with
  | ended =>
    subst cursor'
    exact ⟨p, .refl p, .ended rest'⟩
  | unrecognized lost =>
    subst cursor'
    exact ⟨p, .refl p, .unrecognized rest' (stuckLost (rest' ▸ context ▸ lost))⟩
  | @token c rest cursor broken e n won kept =>
    subst cursor' broken'
    have wins : lx.Wins p.context p.rest ⟨e, (c :: rest).take n⟩ ((c :: rest).drop n) := by
      rw [rest', context]
      exact .ofMatch won
    exact ⟨p, .refl p, .token wins kept⟩
  | @trivia c rest cursor broken e n found won skipped later ih =>
    have wins : lx.Wins p.context p.rest ⟨e, (c :: rest).take n⟩ ((c :: rest).drop n) := by
      rw [rest', context]
      exact .ofMatch won
    subst cursor' broken'
    have broken : (p.passing ⟨e, (c :: rest).take n⟩ ((c :: rest).drop n)).broken =
        (p.broken || containsTerminator ((c :: rest).take n)) := by
      simp [Lexing.broken, Lexing.passing]
    obtain ⟨goal', prev', _, _⟩ := Context.mk.inj context
    obtain ⟨q, trails, finishes⟩ := ih (p.passing ⟨e, (c :: rest).take n⟩ ((c :: rest).drop n)) rfl rfl
      (by rw [← broken, ← goal', ← prev']; rfl) broken
    exact ⟨q, trails.pastTrivia wins skipped, finishes⟩

theorem Passes.restAtOffset (passes : lx.Passes source p) : dropBytes? source p.cursor.offset = some p.rest := by
  have behind := Steps.keepBehind passes
  have whole : source = written p.pieces ++ p.rest := behind.rest
  have offset : p.cursor.offset = byteLength (written p.pieces) := behind.offset.trans (Nat.zero_add _)
  rw [whole, offset]
  exact dropBytesAppend _ _

theorem Passes.readTokenFinishes (passes : lx.Passes source p) (between : p.trivia = []) :
    ∃ q, lx.Trails p q ∧ lx.Finishes q (lx.readToken source p.cursor p.goal p.prev) := by
  have unbroken : p.broken = false := by simp [Lexing.broken, between]
  refine (readTokenFinds passes.restAtOffset).trailFinishes p rfl rfl ?_ unbroken
  rw [Lexing.context, unbroken]

theorem Passes.readingOf (passes : lx.Passes source p) {r : Reading} (member : r ∈ p.readings) :
    ∃ q more, lx.Passes source q ∧ q.reading r.piece = r ∧ r.piece.lexeme.definition.skip = false ∧
      lx.Wins q.context q.rest r.piece more := by
  obtain ⟨i, found⟩ := List.getElem?_of_mem member
  obtain ⟨q, more, first, _, _, same, kept, wins⟩ := Steps.readingAt passes rfl found
  exact ⟨q, more, first, same, kept, wins⟩

theorem Passes.piecesNonempty (passes : lx.Passes source p) : ∀ piece ∈ p.pieces, piece.text ≠ [] := by
  intro piece member
  obtain ⟨i, found⟩ := List.getElem?_of_mem member
  obtain ⟨_, _, _, _, _, _, _, wins⟩ := Steps.pieceAt passes rfl found
  exact wins.textNonempty

inductive Ends (lx : Lexer) (p : Lexing) : List Goal → List Scan → Prop where
  | answered (between : p.trivia = []) : Ends lx p [] []
  | ended {goals} (none : p.rest = []) : Ends lx p (p.goal :: goals) [.ended p.cursor]
  | unrecognized {c more goals} (left : p.rest = c :: more) (stuck : lx.Stuck p) :
      Ends lx p (p.goal :: goals) [.unrecognized p.cursor c]

theorem Passes.answersGoals (goals : List Goal) (passes : lx.Passes source p) (between : p.trivia = []) :
    ∃ q new left ending, lx.Steps p q ∧ q.readings = p.readings ++ new ∧ goals = new.map Reading.goal ++ left ∧
      lx.readGoals source goals p.cursor p.prev = new.map Reading.scan ++ ending ∧ lx.Ends q left ending := by
  induction goals generalizing p with
  | nil => exact ⟨p, [], [], [], .refl, (List.append_nil _).symm, rfl, rfl, .answered between⟩
  | cons goal goals ih =>
    have aimed : lx.Step p { p with goal := goal } := .aim between goal
    obtain ⟨q, trails, finishes⟩ := Passes.readTokenFinishes (passes.tail aimed) between
    have steps : lx.Steps p q := .head aimed trails.steps
    have done : q.readings = p.readings ++ [] := trails.readings.trans (List.append_nil _).symm
    obtain rfl : q.goal = goal := trails.goal
    simp only [readGoals]
    generalize lx.readToken source p.cursor q.goal p.prev = found at finishes
    cases finishes with
    | ended none => exact ⟨q, [], _, _, steps, done, rfl, rfl, .ended none⟩
    | unrecognized left stuck => exact ⟨q, [], _, _, steps, done, rfl, rfl, .unrecognized left stuck⟩
    | @token piece more wins kept =>
      have taken : lx.Step q (q.taking piece more) := .take wins kept
      obtain ⟨u, new, left, ending, later, readings, goals', answers, ends⟩ :=
        ih ((passes.trans steps).tail taken) rfl
      refine ⟨u, q.reading piece :: new, left, ending, (steps.tail taken).trans later, ?_, ?_, ?_, ends⟩
      · rw [readings, Lexing.taking, trails.readings, List.append_assoc]
        rfl
      · rw [goals']
        rfl
      · rw [List.map_cons, List.cons_append, ← answers]
        rfl

theorem Ends.withoutTokens {left : List Goal} {ending : List Scan} (ends : lx.Ends p left ending) :
    ending.filterMap Scan.token? = [] := by
  cases ends <;> rfl

theorem tokenizeFromAsGoals (lx : Lexer) (source : List Char) (fuel : Nat) (cursor : Cursor) (prev : Option Kind)
    (index : Nat) : lx.tokenizeFrom source fuel cursor prev index =
      (Session.renumber index
        ((lx.readGoals source (List.replicate fuel defaultGoal) cursor prev).filterMap Scan.token?),
      Scan.stopOf source (lx.readGoals source (List.replicate fuel defaultGoal) cursor prev)) := by
  induction fuel generalizing cursor prev index with
  | zero => rfl
  | succ fuel ih =>
    simp only [tokenizeFrom, List.replicate_succ, readGoals]
    cases lx.readToken source cursor defaultGoal prev with
    | token t next =>
      simp only [ih]
      exact congrArg (·, _) (Session.renumberAppend index [t] _).symm
    | ended _ => rfl
    | unrecognized stop _ => rfl

theorem tokenizeAsGoals (lx : Lexer) (source : List Char) :
    lx.tokenize source =
      (Session.renumber 0
        ((lx.readGoals source (List.replicate source.length defaultGoal) .first none).filterMap Scan.token?),
      Scan.stopOf source (lx.readGoals source (List.replicate source.length defaultGoal) .first none)) :=
  lx.tokenizeFromAsGoals source source.length .first none 0

theorem scanToken (readings : List Reading) :
    (readings.map Reading.scan).filterMap Scan.token? = readings.map Reading.token := by
  induction readings with
  | nil => rfl
  | cons r readings ih => exact congrArg (r.token :: ·) ih

theorem scanStop (source : List Char) (readings : List Reading) (ending : List Scan) :
    Scan.stopOf source (readings.map Reading.scan ++ ending) = Scan.stopOf source ending := by
  induction readings with
  | nil => rfl
  | cons r readings ih => exact ih

theorem Passes.atEnd (passes : lx.Passes source p) (none : p.rest = []) : p.cursor.offset = byteLength source := by
  have behind := Steps.keepBehind passes
  have whole : source = written p.pieces ++ p.rest := behind.rest
  rw [behind.offset, whole, none, List.append_nil]
  exact Nat.zero_add _

theorem Passes.tokenizesReadings {left : List Goal} {ending : List Scan} (passes : lx.Passes source p)
    (goals : List.replicate source.length defaultGoal = p.readings.map Reading.goal ++ left)
    (answers : lx.readGoals source (List.replicate source.length defaultGoal) .first none =
      p.readings.map Reading.scan ++ ending)
    (ends : lx.Ends p left ending) :
    lx.tokenize source = (Session.renumber 0 (p.readings.map Reading.token), p.cursor.offset) ∧ lx.Stuck p := by
  rw [tokenizeAsGoals, answers, List.filterMap_append, scanToken, scanStop, ends.withoutTokens, List.append_nil]
  cases ends with
  | answered between =>
    have room := Steps.useUpRest passes
    have count := congrArg List.length goals
    have none : p.rest = [] := by
      rw [List.length_replicate, List.length_append, List.length_map, List.length_nil] at count
      refine List.length_eq_zero_iff.mp ?_
      simp only [Lexing.start, Lexing.fresh, List.length_nil] at room
      omega
    exact ⟨congrArg _ (passes.atEnd none).symm, stuckEmpty none⟩
  | ended none => exact ⟨congrArg _ (passes.atEnd none).symm, stuckEmpty none⟩
  | unrecognized _ stuck => exact ⟨rfl, stuck⟩

theorem tokenizePasses (lx : Lexer) (source : List Char) : ∃ p, lx.Passes source p ∧ lx.Stuck p ∧
    (∀ r ∈ p.readings, r.goal = defaultGoal) ∧
    lx.tokenize source = (Session.renumber 0 (p.readings.map Reading.token), p.cursor.offset) := by
  have start : lx.Passes source (.start source) := .refl
  obtain ⟨p, new, left, ending, steps, readings, goals, answers, ends⟩ :=
    start.answersGoals (List.replicate source.length defaultGoal) rfl
  obtain rfl : p.readings = new := readings
  obtain ⟨tokens, stuck⟩ := Passes.tokenizesReadings steps goals answers ends
  refine ⟨p, steps, stuck, fun r member => ?_, tokens⟩
  have : r.goal ∈ List.replicate source.length defaultGoal := by
    rw [goals]
    exact List.mem_append_left _ (List.mem_map_of_mem member)
  exact List.eq_of_mem_replicate this

end Lexer
end Packrat

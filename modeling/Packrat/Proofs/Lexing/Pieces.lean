import Mathlib.Logic.Relation
import Packrat.Proofs.Lexing
import Packrat.Proofs.Lexing.Winner
import Packrat.Proofs.Lines

/-! The lexer at work, piece by piece. Each step passes a piece of trivia or takes a token; what has been passed
and taken is the text up to the cursor, and tells its position. -/
namespace Packrat

structure Chunk where
  lexeme : Lexeme
  text : List Char

structure Reading where
  goal : Goal
  trivia : List Chunk
  start : Cursor
  broken : Bool
  piece : Chunk

namespace Reading

def pieces (r : Reading) : List Chunk := r.trivia ++ [r.piece]

def stop (r : Reading) : Cursor := r.start.advance r.piece.text

def token (r : Reading) : Token := r.piece.lexeme.token r.piece.text r.start r.stop r.broken

def nesting (r : Reading) : Nesting := r.piece.lexeme.definition.nesting

def next (r : Reading) : Cursor := r.nesting.apply r.stop

def scan (r : Reading) : Scan := .token r.token r.next

end Reading

def written (pieces : List Chunk) : List Char := pieces.flatMap Chunk.text

structure Lexing where
  readings : List Reading
  goal : Goal
  prev : Option Kind
  trivia : List Chunk
  rest : List Char
  cursor : Cursor

namespace Lexing

def fresh (rest : List Char) (cursor : Cursor) (goal : Goal) (prev : Option Kind) : Lexing :=
  ⟨[], goal, prev, [], rest, cursor⟩

def start (source : List Char) : Lexing := fresh source .first defaultGoal none

def broken (p : Lexing) : Bool := p.trivia.any fun piece => containsTerminator piece.text

def context (p : Lexing) : Context := ⟨p.goal, p.prev, p.broken || p.cursor.offset == 0, p.cursor.depth⟩

def pieces (p : Lexing) : List Chunk := p.readings.flatMap Reading.pieces ++ p.trivia

def reading (p : Lexing) (piece : Chunk) : Reading := ⟨p.goal, p.trivia, p.cursor, p.broken, piece⟩

def passing (p : Lexing) (piece : Chunk) (more : List Char) : Lexing :=
  { p with trivia := p.trivia ++ [piece], rest := more, cursor := p.cursor.advance piece.text }

def taking (p : Lexing) (piece : Chunk) (more : List Char) : Lexing :=
  { p with
    readings := p.readings ++ [p.reading piece]
    prev := some piece.lexeme.kind
    trivia := []
    rest := more
    cursor := (p.reading piece).next }

end Lexing

namespace Lexer

structure Wins (lx : Lexer) (ctx : Context) (rest : List Char) (piece : Chunk) (more : List Char) : Prop where
  cut : piece.text ++ more = rest
  won : lx.longestMatch rest ctx = some (piece.lexeme, piece.text.length)

inductive Step (lx : Lexer) : Lexing → Lexing → Prop where
  | aim {p} (between : p.trivia = []) (goal : Goal) : Step lx p { p with goal := goal }
  | pass {p piece more} (wins : lx.Wins p.context p.rest piece more)
      (skipped : piece.lexeme.definition.skip = true) : Step lx p (p.passing piece more)
  | take {p piece more} (wins : lx.Wins p.context p.rest piece more)
      (kept : piece.lexeme.definition.skip = false) : Step lx p (p.taking piece more)

def Steps (lx : Lexer) : Lexing → Lexing → Prop := Relation.ReflTransGen lx.Step

def Passes (lx : Lexer) (source : List Char) : Lexing → Prop := lx.Steps (.start source)

variable {lx : Lexer} {o p q : Lexing} {piece : Chunk} {more : List Char}

theorem Wins.ofMatch {ctx : Context} {rest : List Char} {e : Lexeme} {n : Nat}
    (won : lx.longestMatch rest ctx = some (e, n)) : lx.Wins ctx rest ⟨e, rest.take n⟩ (rest.drop n) := by
  have longest := lx.longestMatchLongest rest ctx
  rw [won] at longest
  refine ⟨List.take_append_drop n rest, ?_⟩
  rw [won, List.length_take, Nat.min_eq_left longest.2.1.withinRest]

theorem Wins.fitsLongest {ctx : Context} {rest : List Char} (h : lx.Wins ctx rest piece more) :
    piece.lexeme ∈ lx.lexemes ∧ piece.lexeme.Fits ctx rest piece.text.length ∧
      ∀ e ∈ lx.lexemes, ∀ n, e.Fits ctx rest n → n ≤ piece.text.length := by
  have longest := lx.longestMatchLongest rest ctx
  rwa [h.won] at longest

theorem Wins.textNonempty {ctx : Context} {rest : List Char} (h : lx.Wins ctx rest piece more) : piece.text ≠ [] :=
  List.ne_nil_of_length_pos h.fitsLongest.2.1.positiveLength

end Lexer

theorem writtenAppend (pieces more : List Chunk) : written (pieces ++ more) = written pieces ++ written more :=
  List.flatMap_append

theorem writtenSingleton (piece : Chunk) : written [piece] = piece.text := List.append_nil _

theorem writtenAsFlatten (pieces : List Chunk) : written pieces = (pieces.map Chunk.text).flatten := rfl

theorem Cursor.advancePosition (c : Cursor) (text : List Char) :
    (c.advance text).position = LineCol.after text c.position := by
  rw [advanceAsPosition]
  rfl

theorem Nesting.applyPosition (e : Nesting) (c : Cursor) : (e.apply c).position = c.position := by
  cases e <;> rfl

theorem Lexeme.nestedDepth {e : Lexeme} {ctx : Context} (available : e.isAvailable ctx = true)
    (closes : e.definition.nesting = .closes) : 0 < ctx.depth := by
  simp only [isAvailable, closes, Bool.and_eq_true] at available
  have deep := available.1.1.2
  simpa [Nat.pos_iff_ne_zero] using deep

namespace Lexing

theorem passingPieces (p : Lexing) (piece : Chunk) (more : List Char) :
    (p.passing piece more).pieces = p.pieces ++ [piece] :=
  (List.append_assoc _ _ _).symm

theorem takingPieces (p : Lexing) (piece : Chunk) (more : List Char) :
    (p.taking piece more).pieces = p.pieces ++ [piece] := by
  simp [taking, pieces, reading, Reading.pieces]

structure Behind (o p : Lexing) : Prop where
  rest : o.rest = written p.pieces ++ p.rest
  offset : p.cursor.offset = o.cursor.offset + byteLength (written p.pieces)
  position : p.cursor.position = LineCol.afterEach (p.pieces.map Chunk.text) o.cursor.position
  depth : p.cursor.depth + p.readings.countP (·.nesting == .closes) =
    o.cursor.depth + p.readings.countP (·.nesting == .opens)

theorem behindFresh (rest : List Char) (cursor : Cursor) (goal : Goal) (prev : Option Kind) :
    (fresh rest cursor goal prev).Behind (fresh rest cursor goal prev) :=
  ⟨rfl, rfl, rfl, rfl⟩

theorem Behind.afterPiece {o p q : Lexing} {piece : Chunk} (h : o.Behind p) (cut : piece.text ++ q.rest = p.rest)
    (pieces : q.pieces = p.pieces ++ [piece])
    (offset : q.cursor.offset = (p.cursor.advance piece.text).offset)
    (position : q.cursor.position = (p.cursor.advance piece.text).position)
    (depth : q.cursor.depth + q.readings.countP (·.nesting == .closes) =
      o.cursor.depth + q.readings.countP (·.nesting == .opens)) : o.Behind q where
  rest := by rw [pieces, writtenAppend, writtenSingleton, List.append_assoc, cut, h.rest]
  offset := by
    rw [offset, Cursor.advanceOffset, h.offset, pieces, writtenAppend, writtenSingleton, byteLengthAppend,
      Nat.add_assoc]
  position := by
    rw [position, Cursor.advancePosition, h.position, pieces, List.map_append, LineCol.afterEachAppend]
    rfl
  depth := depth

end Lexing

namespace Lexer

variable {lx : Lexer} {o p q : Lexing} {piece : Chunk} {more : List Char}

theorem Step.keepsBehind (h : o.Behind p) (step : lx.Step p q) : o.Behind q := by
  cases step with
  | aim _ goal => exact ⟨h.rest, h.offset, h.position, h.depth⟩
  | @pass piece more wins _ =>
    refine h.afterPiece wins.cut (p.passingPieces piece more) rfl rfl ?_
    show (p.cursor.advance piece.text).depth + _ = _
    rw [Cursor.advanceDepth]
    exact h.depth
  | @take piece more wins _ =>
    refine h.afterPiece wins.cut (p.takingPieces piece more) (Nesting.applyOffset _ _) (Nesting.applyPosition _ _) ?_
    have before := h.depth
    have deep := Lexeme.nestedDepth wins.fitsLongest.2.1.available
    have same := p.cursor.advanceDepth piece.text
    have added : ∀ e : Nesting, (p.readings ++ [p.reading piece]).countP (·.nesting == e) =
        p.readings.countP (·.nesting == e) + if piece.lexeme.definition.nesting = e then 1 else 0 := by
      intro e
      simp [List.countP_append, List.countP_cons, Lexing.reading, Reading.nesting]
    show (piece.lexeme.definition.nesting.apply (p.cursor.advance piece.text)).depth + _ = _
    simp only [Lexing.taking, added]
    cases nesting : piece.lexeme.definition.nesting with
    | closes =>
      have : 0 < p.cursor.depth := deep nesting
      simp only [Nesting.apply, same, reduceCtorEq, if_true, if_false]
      omega
    | opens =>
      simp only [Nesting.apply, same, reduceCtorEq, if_true, if_false]
      omega
    | none => simpa [Nesting.apply, same] using before
    | continues => simpa [Nesting.apply, same] using before

theorem Steps.keepBehind {rest : List Char} {cursor : Cursor} {goal : Goal} {prev : Option Kind}
    (steps : lx.Steps (.fresh rest cursor goal prev) p) : (Lexing.fresh rest cursor goal prev).Behind p := by
  induction steps with
  | refl => exact Lexing.behindFresh rest cursor goal prev
  | tail _ step ih => exact step.keepsBehind ih

theorem Steps.triviaSkipped (steps : lx.Steps o p) (none : o.trivia = []) :
    ∀ piece ∈ p.trivia, piece.lexeme.definition.skip = true := by
  induction steps with
  | refl =>
    rw [none]
    exact fun _ member => nomatch member
  | tail _ step ih =>
    cases step with
    | aim _ goal => exact ih
    | pass wins skipped =>
      intro piece member
      rcases List.mem_append.mp member with old | new
      · exact ih piece old
      · exact List.mem_singleton.mp new ▸ skipped
    | take wins kept => exact fun _ member => nomatch member

theorem Steps.useUpRest (steps : lx.Steps p q) :
    q.readings.length + q.rest.length ≤ p.readings.length + p.rest.length := by
  induction steps with
  | refl => exact Nat.le_refl _
  | @tail q r _ step ih =>
    refine Nat.le_trans ?_ ih
    cases step with
    | aim _ goal => exact Nat.le_refl _
    | @pass piece more wins _ =>
      show q.readings.length + more.length ≤ _
      rw [← wins.cut, List.length_append]
      omega
    | @take piece more wins _ =>
      have some := List.length_pos_of_ne_nil wins.textNonempty
      show (q.readings ++ [q.reading piece]).length + more.length ≤ _
      rw [← wins.cut, List.length_append, List.length_append, List.length_singleton]
      omega

theorem Steps.entryAt {α : Type} (entries : Lexing → List α)
    (grows : ∀ {p q}, lx.Step p q → entries q = entries p ∨ ∃ x, entries q = entries p ++ [x])
    (steps : lx.Steps o p) (none : entries o = []) {i : Nat} {x : α} (found : (entries p)[i]? = some x) :
    ∃ q r, lx.Steps o q ∧ lx.Step q r ∧ lx.Steps r p ∧ entries q = (entries p).take i ∧ entries r = entries q ++
        [x] := by
  induction steps with
  | refl =>
    rw [none] at found
    exact nomatch found
  | @tail q r steps step ih =>
    have before : (entries q)[i]? = some x → (entries r).take i = (entries q).take i →
        ∃ q' r', lx.Steps o q' ∧ lx.Step q' r' ∧ lx.Steps r' r ∧ entries q' = (entries r).take i ∧
          entries r' = entries q' ++ [x] := by
      intro old same
      obtain ⟨q', r', first, step', later, taken, added⟩ := ih old
      exact ⟨q', r', first, step', later.tail step, taken.trans same.symm, added⟩
    rcases grows step with same | ⟨y, added⟩
    · exact before (same ▸ found) (congrArg _ same)
    · rw [added] at found
      by_cases old : i < (entries q).length
      · rw [List.getElem?_append_left old] at found
        refine before found ?_
        rw [added, List.take_append_of_le_length (Nat.le_of_lt old)]
      · have last : i = (entries q).length := by
          have := (List.getElem?_eq_some_iff.mp found).1
          rw [List.length_append, List.length_singleton] at this
          omega
        subst last
        rw [List.getElem?_concat_length] at found
        cases found
        refine ⟨q, r, steps, step, .refl, ?_, added⟩
        rw [added, List.take_left]

theorem Steps.pieceAt (steps : lx.Steps o p) (none : o.pieces = []) {i : Nat} (found : p.pieces[i]? = some piece) :
    ∃ q r more, lx.Steps o q ∧ lx.Step q r ∧ lx.Steps r p ∧ q.pieces = p.pieces.take i ∧
      lx.Wins q.context q.rest piece more := by
  have grows : ∀ {p q}, lx.Step p q → q.pieces = p.pieces ∨ ∃ x, q.pieces = p.pieces ++ [x] := by
    intro p q step
    cases step with
    | aim _ goal => exact .inl rfl
    | pass _ _ => exact .inr ⟨_, p.passingPieces _ _⟩
    | take _ _ => exact .inr ⟨_, p.takingPieces _ _⟩
  obtain ⟨q, r, first, step, later, taken, added⟩ := steps.entryAt Lexing.pieces grows none found
  have only : ∀ {x : Chunk}, r.pieces = q.pieces ++ [x] → x = piece := fun other =>
    List.singleton_inj.mp (List.append_cancel_left (other.symm.trans added))
  cases step with
  | aim _ goal => exact absurd added (by simp [Lexing.pieces])
  | pass wins skipped =>
    cases only (q.passingPieces _ _)
    exact ⟨q, _, _, first, .pass wins skipped, later, taken, wins⟩
  | take wins kept =>
    cases only (q.takingPieces _ _)
    exact ⟨q, _, _, first, .take wins kept, later, taken, wins⟩

theorem Steps.readingAt (steps : lx.Steps o p) (none : o.readings = []) {i : Nat} {r : Reading}
    (found : p.readings[i]? = some r) :
    ∃ q more, lx.Steps o q ∧ lx.Steps (q.taking r.piece more) p ∧ q.readings = p.readings.take i ∧
      q.reading r.piece = r ∧ r.piece.lexeme.definition.skip = false ∧ lx.Wins q.context q.rest r.piece more := by
  have grows : ∀ {p q}, lx.Step p q → q.readings = p.readings ∨ ∃ x, q.readings = p.readings ++ [x] := by
    intro p q step
    cases step with
    | aim _ goal => exact .inl rfl
    | pass _ _ => exact .inl rfl
    | take _ _ => exact .inr ⟨_, rfl⟩
  obtain ⟨q, _, first, step, later, taken, added⟩ := steps.entryAt Lexing.readings grows none found
  cases step with
  | aim _ goal => exact absurd added (by simp)
  | pass _ _ => exact absurd added (by simp [Lexing.passing])
  | @take piece more wins kept =>
    obtain rfl : q.reading piece = r := List.singleton_inj.mp (List.append_cancel_left added)
    exact ⟨q, more, first, later, taken, rfl, kept, wins⟩

end Lexer
end Packrat

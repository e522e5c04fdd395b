import Packrat.Proofs.Lexing.Chain
import Packrat.Proofs.Reachable
import Packrat.Proofs.Session.Growth

/-! Definitions for the start of a line. They are available where no part of a token stands in the line so far,
but for two kinds of lines that are overlooked. -/
namespace Packrat

namespace Lexeme

def anywhere (e : Lexeme) : Lexeme := { e with definition := { e.definition with lineStart := false } }

theorem isAvailableLineStart {e : Lexeme} (lineStart : e.definition.lineStart = true) (ctx : Context) :
    e.isAvailable ctx = true ↔ e.anywhere.isAvailable ctx = true ∧ ctx.atLineStart = true := by
  have goals : e.anywhere.definition.availableIn ctx.goal = e.definition.availableIn ctx.goal := rfl
  have nesting : e.anywhere.definition.nesting = e.definition.nesting := rfl
  have after : e.anywhere.onlyAfter = e.onlyAfter := rfl
  have notAfter : e.anywhere.notAfter = e.notAfter := rfl
  have free : e.anywhere.definition.lineStart = false := rfl
  simp only [isAvailable, goals, nesting, after, notAfter, free, lineStart, Bool.and_eq_true, Bool.not_true,
    Bool.false_or, Bool.not_false, Bool.true_or, and_true]
  constructor
  · rintro ⟨⟨⟨⟨goal, start⟩, nested⟩, behind⟩, unlike⟩
    exact ⟨⟨⟨⟨goal, nested⟩, behind⟩, unlike⟩, start⟩
  · rintro ⟨⟨⟨⟨goal, nested⟩, behind⟩, unlike⟩, start⟩
    exact ⟨⟨⟨⟨goal, start⟩, nested⟩, behind⟩, unlike⟩

end Lexeme

def lineBack (marks : List (Char × Bool)) : List (Char × Bool) :=
  marks.reverse.takeWhile fun m => !isTerminator m.1

theorem lineBackBroken {marks : List (Char × Bool)} (broken : ∃ m ∈ marks, isTerminator m.1 = true)
    (before : List (Char × Bool)) : lineBack (before ++ marks) = lineBack marks := by
  obtain ⟨m, member, ends⟩ := broken
  have short : marks.reverse.takeWhile (fun m => !isTerminator m.1) ≠ marks.reverse := by
    intro whole
    have unbroken := List.all_takeWhile (p := fun m : Char × Bool => !isTerminator m.1) (l := marks.reverse)
    rw [whole, List.all_eq_true] at unbroken
    simpa [ends] using unbroken m (List.mem_reverse.mpr member)
  have cut := List.takeWhile_prefix (l := marks.reverse) fun m : Char × Bool => !isTerminator m.1
  rw [lineBack, List.reverse_append, List.takeWhile_append, if_neg fun same => short (cut.eq_of_length same)]
  rfl

theorem lineBackUnbroken {marks : List (Char × Bool)} (unbroken : ∀ m ∈ marks, isTerminator m.1 = false)
    (before : List (Char × Bool)) : lineBack (before ++ marks) = marks.reverse ++ lineBack before := by
  rw [lineBack, List.reverse_append, List.takeWhile_append_of_pos]
  · rfl
  · intro m member
    rw [unbroken m (List.mem_reverse.mp member)]
    rfl

theorem lineBackToken (before : List (Char × Bool)) (c : Char) :
    (∀ m ∈ lineBack (before ++ [(c, true)]), m.2 = false) ↔ isTerminator c = true := by
  cases ends : isTerminator c <;> simp [lineBack, ends]

def marks (pieces : List Chunk) : List (Char × Bool) :=
  pieces.flatMap fun piece => piece.text.map (·, !piece.lexeme.definition.skip)

theorem marksAppend (pieces more : List Chunk) : marks (pieces ++ more) = marks pieces ++ marks more :=
  List.flatMap_append

namespace Lexing

def Clear (p : Lexing) : Prop := ∀ m ∈ lineBack (marks p.pieces), m.2 = false

instance (p : Lexing) : Decidable p.Clear := by
  unfold Clear; infer_instance

/- Trivia without a line terminator lead here from the start of the source, or from a token that ends with a
line terminator. -/
structure Overlooked (p : Lexing) : Prop where
  moved : p.pieces ≠ []
  unbroken : p.broken = false
  ends : ∀ r, p.readings.getLast? = some r → r.piece.text.getLast?.any isTerminator = true

end Lexing

namespace Lexer

variable {lx : Lexer} {source : List Char} {p : Lexing}

theorem Passes.offsetZeroIff (passes : lx.Passes source p) : p.cursor.offset = 0 ↔ p.pieces = [] := by
  have behind := (Steps.keepBehind passes).offset.trans (Nat.zero_add _)
  rw [behind]
  constructor
  · intro none
    cases pieces : p.pieces with
    | nil => rfl
    | cons piece rest =>
      have filled := passes.piecesNonempty piece (pieces ▸ List.mem_cons_self)
      have := byteLengthPositive filled
      rw [pieces, show written (piece :: rest) = piece.text ++ written rest from rfl, byteLengthAppend] at none
      omega
  · intro none
    rw [none]
    rfl

theorem Passes.triviaMarks (passes : lx.Passes source p) : ∀ m ∈ marks p.trivia, m.2 = false := by
  intro m member
  obtain ⟨piece, inside, char⟩ := List.mem_flatMap.mp member
  obtain ⟨c, _, rfl⟩ := List.mem_map.mp char
  simp [Steps.triviaSkipped passes rfl piece inside]

theorem brokenIff (p : Lexing) : p.broken = true ↔ ∃ m ∈ marks p.trivia, isTerminator m.1 = true := by
  simp only [Lexing.broken, containsTerminatorAsAny, List.any_eq_true, marks, List.mem_flatMap, List.mem_map]
  constructor
  · rintro ⟨piece, inside, c, member, ends⟩
    exact ⟨_, ⟨piece, inside, c, member, rfl⟩, ends⟩
  · rintro ⟨_, ⟨piece, inside, c, member, rfl⟩, ends⟩
    exact ⟨piece, inside, c, member, ends⟩

theorem Passes.clearBroken (passes : lx.Passes source p) (broken : p.broken = true) : p.Clear := by
  rw [Lexing.Clear, Lexing.pieces, marksAppend, lineBackBroken ((brokenIff p).mp broken)]
  intro m member
  exact passes.triviaMarks m (List.mem_reverse.mp (List.takeWhile_subset _ member))

theorem Passes.clearIffTokens (passes : lx.Passes source p) (unbroken : p.broken = false) :
    p.Clear ↔ ∀ m ∈ lineBack (marks (p.readings.flatMap Reading.pieces)), m.2 = false := by
  have whole : ∀ m ∈ marks p.trivia, isTerminator m.1 = false := by
    intro m member
    cases ends : isTerminator m.1 with
    | false => rfl
    | true => exact nomatch unbroken.symm.trans ((brokenIff p).mpr ⟨m, member, ends⟩)
  rw [Lexing.Clear, Lexing.pieces, marksAppend, lineBackUnbroken whole]
  constructor
  · exact fun clear m member => clear m (List.mem_append_right _ member)
  · intro clear m member
    rcases List.mem_append.mp member with trivia | earlier
    · exact passes.triviaMarks m (List.mem_reverse.mp trivia)
    · exact clear m earlier

theorem Passes.lastMark (passes : lx.Passes source p) {earlier : List Reading} {r : Reading}
    (last : p.readings = earlier ++ [r]) : ∃ before c, r.piece.text.getLast? = some c ∧
      marks (p.readings.flatMap Reading.pieces) = before ++ [(c, true)] := by
  have member : r ∈ p.readings := by
    rw [last]
    exact List.mem_append_right _ List.mem_cons_self
  obtain ⟨q, more, _, _, kept, wins⟩ := passes.readingOf member
  obtain ⟨text, c, same⟩ := (List.eq_nil_or_concat r.piece.text).resolve_left wins.textNonempty
  rw [List.concat_eq_append] at same
  refine ⟨marks (earlier.flatMap Reading.pieces) ++ marks r.trivia ++ text.map (·, true), c, ?_, ?_⟩
  · rw [same, List.getLast?_concat]
  · simp [last, marks, Reading.pieces, same, kept]

theorem Passes.clearIff (passes : lx.Passes source p) :
    p.Clear ↔ p.context.atLineStart = true ∨ p.Overlooked := by
  have atStart : p.context.atLineStart = true ↔ p.broken = true ∨ p.pieces = [] := by
    rw [← passes.offsetZeroIff]
    simp [Lexing.context]
  rw [atStart]
  cases broken : p.broken with
  | true => exact iff_of_true (passes.clearBroken broken) (.inl (.inl rfl))
  | false =>
    rw [passes.clearIffTokens broken]
    rcases List.eq_nil_or_concat p.readings with none | ⟨earlier, r, last⟩
    · rw [none]
      refine iff_of_true (fun _ member => absurd member List.not_mem_nil) ?_
      by_cases moved : p.pieces = []
      · exact .inl (.inr moved)
      · refine .inr ⟨moved, broken, fun r last => ?_⟩
        simp [none] at last
    · rw [List.concat_eq_append] at last
      obtain ⟨before, c, final, tokens⟩ := passes.lastMark last
      have newest : p.readings.getLast? = some r := by rw [last, List.getLast?_concat]
      have moved : p.pieces ≠ [] := by simp [Lexing.pieces, last, Reading.pieces]
      rw [tokens, lineBackToken]
      constructor
      · intro ends
        refine .inr ⟨moved, broken, fun r' newest' => ?_⟩
        cases newest.symm.trans newest'
        rw [final]
        exact ends
      · rintro ((broken' | none) | overlooked)
        · exact absurd broken' Bool.false_ne_true
        · exact absurd none moved
        · have ends := overlooked.ends r newest
          rwa [final] at ends

theorem Passes.atLineStartIff (passes : lx.Passes source p) :
    p.context.atLineStart = true ↔ p.Clear ∧ ¬ p.Overlooked := by
  rw [passes.clearIff]
  constructor
  · intro atStart
    refine ⟨.inl atStart, fun overlooked => ?_⟩
    have offset := passes.offsetZeroIff
    simp [Lexing.context, overlooked.unbroken, offset, overlooked.moved] at atStart
  · rintro ⟨atStart | overlooked, seen⟩
    · exact atStart
    · exact absurd overlooked seen

theorem lineStartsSeen (lx : Lexer) (source : List Char) : ∃ p, lx.Passes source p ∧ lx.Stuck p ∧
    lx.tokenize source = (Session.renumber 0 (p.readings.map Reading.token), p.cursor.offset) ∧
    ∀ q, lx.Passes source q → lx.Steps q p → ∀ e : Lexeme, e.definition.lineStart = true →
      (e.isAvailable q.context = true ↔ e.anywhere.isAvailable q.context = true ∧ q.Clear ∧ ¬ q.Overlooked) := by
  obtain ⟨p, passes, stuck, _, tokens⟩ := lx.tokenizePasses source
  refine ⟨p, passes, stuck, tokens, fun q passed _ e lineStart => ?_⟩
  rw [Lexeme.isAvailableLineStart lineStart, passed.atLineStartIff]

namespace Sample

def closing : List Definition :=
  [{ name := "Blank", shape := .literal " ", skip := true },
    { name := "Close", shape := .literal "-->", lineStart := true }]

def closer : Lexer := (Lexer.ofDefinitions closing).toOption.get (by decide +kernel)

def blanks : Lexeme := closer.lexemes.get ⟨0, by decide +kernel⟩

def closers : Lexeme := closer.lexemes.get ⟨1, by decide +kernel⟩

def indented : Lexing :=
  (Lexing.start " -->".toList).passing ⟨blanks, [' ']⟩ "-->".toList

def arrows : Lexer :=
  (Lexer.ofDefinitions (closing ++ [{ name := "Break", shape := .literal "\n", skip := true },
    { name := "a", shape := .literal "a" }])).toOption.get (by decide +kernel)

end Sample

theorem lineStartsSeenAtArrow : ∃ p q : Lexing, ∃ e : Lexeme, Sample.arrows.Passes "a\n -->".toList q ∧
    Sample.arrows.Steps q p ∧ q.readings.length = 1 ∧ e.definition.lineStart = true ∧
    e.isAvailable q.context = true ∧ e.anywhere.isAvailable q.context = true ∧ q.Clear ∧ ¬ q.Overlooked := by
  obtain ⟨p, passes, _, tokens, seen⟩ := lineStartsSeen Sample.arrows "a\n -->".toList
  have names : p.readings.map (·.piece.lexeme.definition.name) = ["a", "Close"] := by
    have read : (Sample.arrows.tokenize "a\n -->".toList).1.map Token.name = ["a", "Close"] := by decide +kernel
    rw [tokens, Session.mapRenumber fun _ _ => rfl, List.map_map] at read
    exact read
  obtain ⟨r, found, name⟩ : ∃ r, p.readings[1]? = some r ∧ r.piece.lexeme.definition.name = "Close" := by
    have second := congrArg (·[1]?) names
    simp only [List.getElem?_map] at second
    exact Option.map_eq_some_iff.mp second
  obtain ⟨q, more, first, later, taken, _, kept, wins⟩ := Steps.readingAt passes rfl found
  have lineStart : r.piece.lexeme.definition.lineStart = true := by
    have all : Sample.arrows.lexemes.all (fun e => e.definition.name != "Close" || e.definition.lineStart) = true := by
      decide +kernel
    simpa [name] using List.all_eq_true.mp all r.piece.lexeme wins.fitsLongest.1
  have onward : Sample.arrows.Steps q p := .head (.take wins kept) later
  have available := wins.fitsLongest.2.1.available
  obtain ⟨anywhere, clear, seen⟩ := (seen q first onward r.piece.lexeme lineStart).mp available
  refine ⟨p, q, r.piece.lexeme, first, onward, ?_, lineStart, available, anywhere, clear, seen⟩
  have two := congrArg List.length names
  rw [taken, List.length_take]
  simp only [List.length_map, List.length_cons, List.length_nil] at two
  omega

theorem lineStartMissedIndented :
    Lexer.ofDefinitions Sample.closing = .ok Sample.closer ∧ Sample.closer.Passes " -->".toList Sample.indented ∧
      Sample.closer.tokenize " -->".toList =
        (Session.renumber 0 (Sample.indented.readings.map Reading.token), Sample.indented.cursor.offset) ∧
      Sample.closers ∈ Sample.closer.lexemes ∧ Sample.closers.definition.lineStart = true ∧
      Sample.closers.anywhere.isAvailable Sample.indented.context = true ∧ Sample.indented.Clear ∧
      Sample.closers.isAvailable Sample.indented.context = false := by
  have wins : Sample.closer.Wins (Lexing.start " -->".toList).context " -->".toList
      ⟨Sample.blanks, [' ']⟩ "-->".toList := ⟨by decide +kernel, rfl⟩
  refine ⟨okOfToOption _, .single (.pass wins (by decide +kernel)), by decide +kernel, List.get_mem _ _, ?_⟩
  decide +kernel

end Lexer
end Packrat

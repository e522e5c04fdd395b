import Packrat.Proofs.Lexing.Chain

/-! The lexer parts the source. Whatever goals it is given, trivia and tokens lie one behind the other from
the start of the source to the cursor, each won by a definition that was available there; nothing is lost,
and nothing is read twice. -/
namespace Packrat

theorem sliceAppend (before text after : List Char) :
    slice? (before ++ (text ++ after)) (byteLength before) (byteLength before + byteLength text) = some text := by
  rw [slice?, if_pos (Nat.le_add_right _ _), dropBytesAppend, Option.bind_some, Nat.add_sub_cancel_left,
    splitBytesAppend]
  rfl

theorem Reading.rangeSlice {r : Reading} {source before after : List Char} (small : byteLength source ≤ maxOffset)
    (cut : source = before ++ (r.piece.text ++ after)) (offset : r.start.offset = byteLength before) :
    slice? source r.token.range.start r.token.range.stop = some r.piece.text := by
  have length : byteLength before + byteLength r.piece.text ≤ byteLength source := by
    rw [cut, byteLengthAppend, byteLengthAppend]
    omega
  have stop : r.stop.offset = byteLength before + byteLength r.piece.text := by
    rw [stop, Cursor.advanceOffset, offset]
  show slice? source (clampOffset r.start.offset) (clampOffset r.stop.offset) = _
  rw [offset, stop, clampOffsetWithin (by omega), clampOffsetWithin (by omega), cut]
  exact sliceAppend before r.piece.text after

namespace Lexer

structure Partitions (lx : Lexer) (source : List Char) (p : Lexing) : Prop where
  whole : written p.pieces ++ p.rest = source
  reached : p.cursor.offset = byteLength (written p.pieces)
  filled : ∀ piece ∈ p.pieces, piece.text ≠ []
  won : ∀ (i : Nat) piece, p.pieces[i]? = some piece → ∃ q r, lx.Passes source q ∧ lx.Step q r ∧ lx.Steps r p ∧
    q.pieces = p.pieces.take i ∧ piece.text <+: q.rest ∧ piece.lexeme ∈ lx.lexemes ∧
      piece.lexeme.Fits q.context q.rest piece.text.length
  skipped : ∀ piece ∈ p.readings.flatMap Reading.trivia ++ p.trivia, piece.lexeme.definition.skip = true
  kept : ∀ r ∈ p.readings, r.piece.lexeme.definition.skip = false
  tokens : ∀ r ∈ p.readings, r.token.text.toList = r.piece.text ∧
    slice? source r.token.range.start r.token.range.stop = some r.piece.text
  depth : p.cursor.depth + p.readings.countP (·.nesting == .closes) = p.readings.countP (·.nesting == .opens)
  nested : ∀ r ∈ p.readings, r.nesting = .closes → 0 < r.start.depth

variable {lx : Lexer} {source : List Char} {p : Lexing}

theorem Passes.partitionsSource (small : byteLength source ≤ maxOffset) (passes : lx.Passes source p) :
    lx.Partitions source p := by
  have behind := Steps.keepBehind passes
  exact {
    whole := behind.rest.symm
    reached := behind.offset.trans (Nat.zero_add _)
    filled := passes.piecesNonempty
    won := by
      intro i piece found
      obtain ⟨q, r, more, first, step, later, taken, wins⟩ := Steps.pieceAt passes rfl found
      exact ⟨q, r, first, step, later, taken, ⟨more, wins.cut⟩, wins.fitsLongest.1, wins.fitsLongest.2.1⟩
    skipped := by
      intro piece member
      rcases List.mem_append.mp member with read | last
      · obtain ⟨r, member, inside⟩ := List.mem_flatMap.mp read
        obtain ⟨q, _, first, same, _, _⟩ := passes.readingOf member
        have trivia : q.trivia = r.trivia := congrArg Reading.trivia same
        exact Steps.triviaSkipped first rfl piece (trivia ▸ inside)
      · exact Steps.triviaSkipped passes rfl piece last
    kept := by
      intro r member
      obtain ⟨_, _, _, _, kept, _⟩ := passes.readingOf member
      exact kept
    tokens := by
      intro r member
      obtain ⟨q, more, first, same, _, wins⟩ := passes.readingOf member
      have before := Steps.keepBehind first
      have start : q.cursor = r.start := congrArg Reading.start same
      refine ⟨String.toList_ofList, Reading.rangeSlice small (before.rest.trans (congrArg _ wins.cut.symm)) ?_⟩
      rw [← start]
      exact before.offset.trans (Nat.zero_add _)
    depth := behind.depth.trans (Nat.zero_add _)
    nested := by
      intro r member closes
      obtain ⟨q, more, _, same, _, wins⟩ := passes.readingOf member
      have start : q.cursor = r.start := congrArg Reading.start same
      rw [← start]
      exact Lexeme.nestedDepth wins.fitsLongest.2.1.available closes }

theorem sourcePartitioned (lx : Lexer) (source : List Char) (small : byteLength source ≤ maxOffset)
    (goals : List Goal) : ∃ p left ending, lx.Passes source p ∧ lx.Partitions source p ∧
      goals = p.readings.map Reading.goal ++ left ∧
      lx.readGoals source goals .first none = p.readings.map Reading.scan ++ ending ∧ lx.Ends p left ending ∧
      (goals = List.replicate source.length defaultGoal →
        lx.tokenize source = (Session.renumber 0 (p.readings.map Reading.token), p.cursor.offset) ∧ lx.Stuck p) := by
  have start : lx.Passes source (.start source) := .refl
  obtain ⟨p, new, left, ending, passes, readings, asked, answers, ends⟩ := start.answersGoals goals rfl
  obtain rfl : p.readings = new := readings
  refine ⟨p, left, ending, passes, Passes.partitionsSource small passes, asked, answers, ends, ?_⟩
  rintro rfl
  exact Passes.tokenizesReadings passes asked answers ends

namespace Sample

def template : List Definition :=
  [{ name := "Open", shape := .literal "$\x7b", nesting := .opens },
    { name := "Close", shape := .literal "\x7d", nesting := .closes },
    { name := "w", shape := .literal "w" }, { name := "Raw", shape := .literal "!", goals := some ["Text"] },
    { name := "Blank", shape := .literal " ", skip := true }]

def templates : Lexer := (Lexer.ofDefinitions template).toOption.get (by decide +kernel)

end Sample

theorem sourcePartitionedTemplate :
    byteLength "$\x7bw\x7d !!".toList ≤ maxOffset ∧ ∃ p ending,
      Sample.templates.Partitions "$\x7bw\x7d !!".toList p ∧
      Sample.templates.readGoals "$\x7bw\x7d !!".toList
        [defaultGoal, defaultGoal, defaultGoal, "Text", defaultGoal, defaultGoal] .first none =
          p.readings.map Reading.scan ++ ending ∧
      p.readings.map (·.token.name) = ["Open", "w", "Close", "Raw"] ∧ ending = [.unrecognized ⟨6, 1, 6, 0⟩ '!'] := by
  have small : byteLength "$\x7bw\x7d !!".toList ≤ maxOffset := by decide
  obtain ⟨p, left, ending, _, partitions, asked, answers, ends, _⟩ := sourcePartitioned Sample.templates _ small
    [defaultGoal, defaultGoal, defaultGoal, "Text", defaultGoal, defaultGoal]
  have names : p.readings.map (·.token.name) = ["Open", "w", "Close", "Raw"] := by
    have tokens := congrArg (fun scans => (scans.filterMap Scan.token?).map Token.name) answers
    simp only [List.filterMap_append, scanToken, ends.withoutTokens, List.append_nil, List.map_map] at tokens
    rw [show p.readings.map (·.token.name) = p.readings.map (Token.name ∘ Reading.token) from rfl, ← tokens]
    decide +kernel
  have last := congrArg List.getLast? answers
  rw [show List.getLast? (Sample.templates.readGoals _ _ _ _) = some (.unrecognized ⟨6, 1, 6, 0⟩ '!') by
    decide +kernel] at last
  refine ⟨small, p, ending, partitions, answers, names, ?_⟩
  cases ends with
  | answered _ =>
    have count := congrArg List.length asked
    have four := congrArg List.length names
    simp only [List.append_nil, List.length_map, List.length_cons, List.length_nil] at count four
    omega
  | ended _ => simp at last
  | unrecognized _ _ =>
    rw [List.getLast?_concat] at last
    rw [Option.some.inj last]

end Lexer
end Packrat

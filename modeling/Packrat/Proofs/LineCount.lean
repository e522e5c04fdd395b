import Packrat.Proofs.Lexing.Chain
import Packrat.Proofs.Reachable

/-! The lines and columns that tokens start at. They are those of the source, but that a piece ending between
a carriage return and the line feed behind it, be it trivia or a token, makes two lines of one. -/
namespace Packrat

theorem partingsZeroIff (texts : List (List Char)) :
    partings texts = 0 ↔ ∀ before text after, texts = before ++ text :: after → ¬ Parted text after.flatten := by
  induction texts with
  | nil => simp [partings]
  | cons text rest ih =>
    simp only [partings, Nat.add_eq_zero_iff, ih, ite_eq_right_iff]
    constructor
    · rintro ⟨whole, later⟩ before other after same
      cases before with
      | nil =>
        obtain ⟨rfl, rfl⟩ := List.cons.inj same
        exact fun parted => nomatch whole parted
      | cons first before =>
        obtain ⟨rfl, rfl⟩ := List.cons.inj same
        exact later before other after rfl
    · intro whole
      refine ⟨fun parted => absurd parted (whole [] text rest rfl), fun before other after same => ?_⟩
      exact whole (text :: before) other after (congrArg (text :: ·) same)

theorem Session.renumberTake (first i : Nat) (tokens : List Token) :
    renumber first (tokens.take i) = (renumber first tokens).take i := by
  refine List.ext_getElem? fun j => ?_
  simp only [renumber, List.getElem?_mapIdx, List.getElem?_take]
  split <;> rfl

namespace Lexer

structure ReadsAt (lx : Lexer) (source : List Char) (i : Nat) (t : Token) (q : Lexing) : Prop where
  passes : lx.Passes source q
  goal : q.goal = defaultGoal
  goals : ∀ r ∈ q.readings, r.goal = defaultGoal
  before : Session.renumber 0 (q.readings.map Reading.token) = (lx.tokenize source).1.take i
  here : ∃ piece more, lx.Wins q.context q.rest piece more ∧ piece.lexeme.definition.skip = false ∧
    t = { (q.reading piece).token with index := i }

variable {lx : Lexer} {source : List Char} {i : Nat} {t : Token}

theorem readsAt (found : (lx.tokenize source).1[i]? = some t) : ∃ q, lx.ReadsAt source i t q := by
  obtain ⟨p, passes, _, goals, tokens⟩ := lx.tokenizePasses source
  rw [tokens, Session.renumber, List.getElem?_mapIdx, List.getElem?_map, Option.map_map,
    Option.map_eq_some_iff] at found
  obtain ⟨r, entry, rfl⟩ := found
  obtain ⟨q, more, first, _, taken, same, kept, wins⟩ := Steps.readingAt passes rfl entry
  refine ⟨q, first, ?_, ?_, ?_, r.piece, more, wins, kept, ?_⟩
  · rw [← goals r (List.mem_of_getElem? entry), ← same]
    rfl
  · intro earlier member
    exact goals earlier (List.mem_of_mem_take (taken ▸ member))
  · rw [tokens, taken, List.map_take, Session.renumberTake]
  · rw [same]
    simp

theorem linesCounted (found : (lx.tokenize source).1[i]? = some t) : ∃ q, lx.ReadsAt source i t q ∧
    written q.pieces ++ q.rest = source ∧ t.range.start = clampOffset (byteLength (written q.pieces)) ∧
    t.start = (Cursor.first.advance (written q.pieces)).position.below (partings (q.pieces.map Chunk.text)) ∧
    (t.start = (Cursor.first.advance (written q.pieces)).position ↔
      ∀ before text after, q.pieces.map Chunk.text = before ++ text :: after → ¬ Parted text after.flatten) := by
  obtain ⟨q, reads⟩ := readsAt found
  have behind := Steps.keepBehind reads.passes
  have place : q.cursor.position =
      (Cursor.first.advance (written q.pieces)).position.below (partings (q.pieces.map Chunk.text)) := by
    rw [behind.position, LineCol.afterEachBelow, Cursor.advancePosition, writtenAsFlatten]
    rfl
  obtain ⟨piece, more, wins, kept, rfl⟩ := reads.here
  refine ⟨q, reads, behind.rest.symm, ?_, place, ?_⟩
  · exact congrArg clampOffset (behind.offset.trans (Nat.zero_add _))
  · show q.cursor.position = _ ↔ _
    rw [place, LineCol.belowSelfIff, partingsZeroIff]

namespace Sample

def commented : List Definition :=
  [{ name := "Blank", shape := .pattern "\\s+", skip := true },
    { name := "Comment", shape := .pattern "//.*", skip := true }, { name := "Name", shape := .literal "b" }]

def comments : Lexer := (Lexer.ofDefinitions commented).toOption.get (by decide +kernel)

end Sample

theorem linesCountedBehindComment : ∃ t q, Sample.comments.ReadsAt "// c\r\nb".toList 0 t q ∧ t.start = ⟨3, 0⟩ ∧
    t.start = (Cursor.first.advance (written q.pieces)).position.below (partings (q.pieces.map Chunk.text)) := by
  have found : ∃ t, (Sample.comments.tokenize "// c\r\nb".toList).1[0]? = some t ∧ t.start = ⟨3, 0⟩ := by
    have starts : (Sample.comments.tokenize "// c\r\nb".toList).1[0]?.map Token.start = some ⟨3, 0⟩ := by
      decide +kernel
    exact Option.map_eq_some_iff.mp starts
  obtain ⟨t, found, start⟩ := found
  obtain ⟨q, reads, _, _, counted, _⟩ := linesCounted found
  exact ⟨t, q, reads, start, counted⟩

theorem linesCountedDouble :
    ∃ lx, Lexer.ofDefinitions Sample.commented = .ok lx ∧ ∃ t ∈ (lx.tokenize "// c\r\nb".toList).1,
      t.start = ⟨3, 0⟩ ∧
      (Cursor.first.advance (TextRange.slice ⟨0, t.range.start⟩ "// c\r\nb".toList)).position = ⟨2, 0⟩ := by
  refine ⟨Sample.comments, okOfToOption _, ?_⟩
  · have some : (Sample.comments.tokenize "// c\r\nb".toList).1.any (fun t => t.start = ⟨3, 0⟩ ∧
        (Cursor.first.advance (TextRange.slice ⟨0, t.range.start⟩ "// c\r\nb".toList)).position = ⟨2, 0⟩) = true := by
      decide +kernel
    obtain ⟨t, member, start⟩ := List.any_eq_true.mp some
    exact ⟨t, member, of_decide_eq_true start⟩

end Lexer
end Packrat

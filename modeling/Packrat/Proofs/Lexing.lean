import Packrat.Proofs.Conclusion
import Packrat.Proofs.Spot

/-! The tokens of a source, one behind the other. Reading in the default goal leads from the start through
places no two of which lie at one offset, as `tokenize` does. -/
namespace Packrat

def charsLeft (source : List Char) (offset : Nat) : Nat := ((dropBytes? source offset).map List.length).getD 0

theorem charsLeftAtStart (source : List Char) : charsLeft source 0 = source.length := by
  have whole : dropBytes? source 0 = some source := dropBytesAppend [] source
  simp [charsLeft, whole]

theorem charsLeftWithin (source : List Char) (offset : Nat) : charsLeft source offset ≤ source.length := by
  cases left : dropBytes? source offset with
  | none => simp [charsLeft, left]
  | some rest =>
    obtain ⟨⟨before, _⟩, split, rfl⟩ := Option.map_eq_some_iff.mp left
    obtain ⟨whole, _⟩ := splitBytesParts split
    simp only [charsLeft, left, Option.map_some, Option.getD_some]
    rw [← whole, List.length_append]
    exact Nat.le_add_left _ _

namespace Lexer

inductive Finds (lx : Lexer) (goal : Goal) (prev : Option Kind) : List Char → Cursor → Bool → Scan → Prop where
  | ended {cursor broken} : Finds lx goal prev [] cursor broken (.ended cursor)
  | unrecognized {c rest cursor broken}
      (lost : lx.longestMatch (c :: rest) ⟨goal, prev, broken || cursor.offset == 0, cursor.depth⟩ = none) :
      Finds lx goal prev (c :: rest) cursor broken (.unrecognized cursor c)
  | token {c rest cursor broken e n}
      (won : lx.longestMatch (c :: rest) ⟨goal, prev, broken || cursor.offset == 0, cursor.depth⟩ = some (e, n))
      (kept : e.definition.skip = false) :
      Finds lx goal prev (c :: rest) cursor broken
        (.token (e.token ((c :: rest).take n) cursor (cursor.advance ((c :: rest).take n)) broken)
          (e.definition.nesting.apply (cursor.advance ((c :: rest).take n))))
  | trivia {c rest cursor broken e n found}
      (won : lx.longestMatch (c :: rest) ⟨goal, prev, broken || cursor.offset == 0, cursor.depth⟩ = some (e, n))
      (skipped : e.definition.skip = true)
      (later : Finds lx goal prev ((c :: rest).drop n) (cursor.advance ((c :: rest).take n))
        (broken || containsTerminator ((c :: rest).take n)) found) :
      Finds lx goal prev (c :: rest) cursor broken found

variable {lx : Lexer} {goal : Goal} {prev : Option Kind} {rest : List Char} {cursor : Cursor} {broken : Bool}
  {found : Scan}

theorem Finds.oneResult {other : Scan} (finds : lx.Finds goal prev rest cursor broken found)
    (again : lx.Finds goal prev rest cursor broken other) : found = other := by
  induction finds with
  | ended =>
    cases again
    rfl
  | unrecognized lost =>
    cases again with
    | unrecognized _ => rfl
    | token won _ => exact nomatch lost.symm.trans won
    | trivia won _ _ => exact nomatch lost.symm.trans won
  | token won kept =>
    cases again with
    | unrecognized lost => exact nomatch lost.symm.trans won
    | token won' _ =>
      cases won.symm.trans won'
      rfl
    | trivia won' skipped _ =>
      cases won.symm.trans won'
      exact nomatch kept.symm.trans skipped
  | trivia won skipped _ ih =>
    cases again with
    | unrecognized lost => exact nomatch lost.symm.trans won
    | token won' kept =>
      cases won.symm.trans won'
      exact nomatch kept.symm.trans skipped
    | trivia won' _ later =>
      cases won.symm.trans won'
      exact ih later

theorem readFromFinds (fuel : Nat) (room : rest.length ≤ fuel) :
    lx.Finds goal prev rest cursor broken (lx.readFrom goal prev fuel rest cursor broken) := by
  induction fuel generalizing rest cursor broken with
  | zero =>
    cases List.length_eq_zero_iff.mp (Nat.le_zero.mp room)
    exact .ended
  | succ fuel ih =>
    cases rest with
    | nil => exact .ended
    | cons c rest =>
      simp only [readFrom]
      cases won : lx.longestMatch (c :: rest) ⟨goal, prev, broken || cursor.offset == 0, cursor.depth⟩ with
      | none => exact .unrecognized won
      | some winner =>
        obtain ⟨e, n⟩ := winner
        have positive := longestMatchPos won
        simp only
        split
        · rename_i skipped
          refine .trivia won skipped (ih ?_)
          rw [List.length_drop]
          simp only [List.length_cons] at room ⊢
          omega
        · rename_i kept
          exact .token won (by simpa using kept)

theorem Finds.takesText (finds : lx.Finds goal prev rest cursor broken found) :
    (∀ t next, found = .token t next →
      ∃ text more, rest = text ++ more ∧ text ≠ [] ∧ next.offset = cursor.offset + byteLength text) ∧
    ∀ stop c, found = .unrecognized stop c →
      ∃ text more, rest = text ++ c :: more ∧ stop.offset = cursor.offset + byteLength text := by
  induction finds with
  | ended => exact ⟨nofun, nofun⟩
  | unrecognized _ =>
    refine ⟨nofun, fun stop c same => ?_⟩
    cases same
    exact ⟨[], _, rfl, rfl⟩
  | @token c rest cursor broken e n won _ =>
    refine ⟨fun t next same => ?_, nofun⟩
    cases same
    refine ⟨_, _, (List.take_append_drop n (c :: rest)).symm, longestMatchText won, ?_⟩
    rw [Nesting.applyOffset]
    exact cursor.advanceOffset _
  | @trivia c rest cursor broken e n found won _ _ ih =>
    have offset := cursor.advanceOffset ((c :: rest).take n)
    have cut := List.take_append_drop n (c :: rest)
    constructor
    · intro t next same
      obtain ⟨text, more, eq, _, moved⟩ := ih.1 t next same
      refine ⟨(c :: rest).take n ++ text, more, ?_, List.append_ne_nil_of_left_ne_nil (longestMatchText won) text, ?_⟩
      · rw [List.append_assoc, ← eq, cut]
      · rw [moved, offset, byteLengthAppend, Nat.add_assoc]
    · intro stop d same
      obtain ⟨text, more, eq, moved⟩ := ih.2 stop d same
      refine ⟨(c :: rest).take n ++ text, more, ?_, ?_⟩
      · rw [List.append_assoc, ← eq, cut]
      · rw [moved, offset, byteLengthAppend, Nat.add_assoc]

section
variable {source : List Char}

theorem readTokenFinds (left : dropBytes? source cursor.offset = some rest) :
    lx.Finds goal prev rest cursor false (lx.readToken source cursor goal prev) := by
  rw [readToken, left]
  exact readFromFinds _ (Nat.le_refl _)

theorem findsIff (left : dropBytes? source cursor.offset = some rest) :
    lx.Finds goal prev rest cursor false found ↔ found = lx.readToken source cursor goal prev :=
  ⟨fun finds => finds.oneResult (readTokenFinds left), fun same => same ▸ readTokenFinds left⟩

theorem charsLeftShrink {text more : List Char} {before : List Char} {offset : Nat}
    (whole : before ++ (text ++ more) = source) (taken : text ≠ [])
    (moved : offset = byteLength before + byteLength text) :
    charsLeft source offset < charsLeft source (byteLength before) := by
  have behind : dropBytes? source offset = some more := by
    rw [moved, ← byteLengthAppend, ← whole, ← List.append_assoc]
    exact dropBytesAppend _ _
  have here : dropBytes? source (byteLength before) = some (text ++ more) := whole ▸ dropBytesAppend _ _
  have := List.length_pos_of_ne_nil taken
  simp only [charsLeft, behind, here, Option.map_some, Option.getD_some, List.length_append]
  omega

theorem readTokenTakes {next : Cursor} {t : Token} (read : lx.readToken source cursor goal prev = .token t next) :
    charsLeft source next.offset < charsLeft source cursor.offset := by
  cases left : dropBytes? source cursor.offset with
  | none =>
    rw [readToken, left] at read
    cases read
  | some rest =>
    obtain ⟨text, more, rfl, taken, moved⟩ := (readTokenFinds left).takesText.1 t next read
    obtain ⟨⟨before, _⟩, split, rfl⟩ := Option.map_eq_some_iff.mp left
    obtain ⟨whole, length⟩ := splitBytesParts split
    rw [← length] at moved ⊢
    exact charsLeftShrink whole taken moved

theorem readTokenMisses {stop : Cursor} {c : Char}
    (read : lx.readToken source cursor goal prev = .unrecognized stop c) :
    charsLeft source (stop.offset + c.utf8Size) < charsLeft source cursor.offset := by
  cases left : dropBytes? source cursor.offset with
  | none =>
    rw [readToken, left] at read
    cases read
  | some rest =>
    obtain ⟨text, more, rfl, moved⟩ := (readTokenFinds left).takesText.2 stop c read
    obtain ⟨⟨before, _⟩, split, rfl⟩ := Option.map_eq_some_iff.mp left
    obtain ⟨whole, length⟩ := splitBytesParts split
    rw [← length] at moved ⊢
    have wider : before ++ ((text ++ [c]) ++ more) = source := by simpa using whole
    refine charsLeftShrink wider (by simp) ?_
    rw [moved, byteLengthAppend, Nat.add_assoc]
    rfl

end
end Lexer

namespace Place

def following (t : Token) (cursor : Cursor) : Place := ⟨cursor, some t.kind⟩

inductive Reads (env : Setup) : Place → List Token → Place → Prop where
  | nil {p} : Reads env p [] p
  | cons {p q t cursor tokens} (read : p.read env defaultGoal = .token t cursor)
      (rest : Reads env (following t cursor) tokens q) : Reads env p (t :: tokens) q

variable {env : Setup} {p q r : Place} {tokens more : List Token}

theorem readAhead {goal : Goal} {t : Token} {cursor : Cursor} (read : p.read env goal = .token t cursor) :
    p.offset < (following t cursor).offset := by
  have within := Lexer.readTokenWithin env.lexer env.source p.cursor goal p.prev
  rw [show env.lexer.readToken env.source p.cursor goal p.prev = .token t cursor from read] at within
  obtain ⟨first, behind, wide, _, _⟩ := within
  exact Nat.lt_of_le_of_lt behind wide

namespace Reads

theorem singleToken {t : Token} {cursor : Cursor} (read : p.read env defaultGoal = .token t cursor) :
    Reads env p [t] (following t cursor) := .cons read .nil

theorem thenReads (first : Reads env p tokens q) (later : Reads env q more r) : Reads env p (tokens ++ more) r := by
  induction first with
  | nil => exact later
  | cons read _ ih => exact .cons read (ih later)

theorem offsetLe (reads : Reads env p tokens q) : p.offset ≤ q.offset := by
  induction reads with
  | nil => exact Nat.le_refl _
  | cons read _ ih => exact Nat.le_trans (Nat.le_of_lt (readAhead read)) ih

theorem toOnePlace (first : Reads env p tokens q) (other : Reads env p more r) (same : q.offset = r.offset) :
    q = r := by
  induction first generalizing more with
  | nil =>
    cases other with
    | nil => rfl
    | cons read rest =>
      have := readAhead read
      have := rest.offsetLe
      omega
  | cons read rest ih =>
    cases other with
    | nil =>
      have := readAhead read
      have := rest.offsetLe
      omega
    | cons read' rest' =>
      obtain ⟨rfl, rfl⟩ := Scan.token.inj (read.symm.trans read')
      exact ih rest' same

theorem withinSource (reads : Reads env p tokens q) : tokens.length ≤ charsLeft env.source p.offset := by
  induction reads with
  | nil => exact Nat.zero_le _
  | cons read _ ih => exact Nat.lt_of_le_of_lt ih (Lexer.readTokenTakes read)

theorem tokenizeFrom {stop : Cursor} (reads : Reads env p tokens q) (ended : q.read env defaultGoal = .ended stop)
    {fuel : Nat} (room : tokens.length ≤ fuel) (index : Nat) :
    env.lexer.tokenizeFrom env.source fuel p.cursor p.prev index =
      (Session.renumber index tokens, byteLength env.source) := by
  induction reads generalizing fuel index with
  | @nil p =>
    cases fuel with
    | zero => rfl
    | succ fuel =>
      rw [Lexer.tokenizeFrom, show env.lexer.readToken env.source p.cursor defaultGoal p.prev = _ from ended]
      rfl
  | @cons p q t cursor tokens read rest ih =>
    cases fuel with
    | zero => exact absurd room (Nat.not_succ_le_zero _)
    | succ fuel =>
      have later := ih ended (Nat.le_of_succ_le_succ room) (index + 1)
      rw [Lexer.tokenizeFrom, show env.lexer.readToken env.source p.cursor defaultGoal p.prev = _ from read]
      simp only
      rw [show env.lexer.tokenizeFrom env.source fuel cursor (some t.kind) (index + 1) = _ from later]
      exact congrArg (·, byteLength env.source) (Session.renumberAppend index [t] tokens).symm

theorem tokenizeReadsAlike {stop : Cursor} (reads : Reads env .first tokens q)
    (ended : q.read env defaultGoal = .ended stop) :
    env.lexer.tokenize env.source = (Session.renumber 0 tokens, byteLength env.source) :=
  reads.tokenizeFrom ended (charsLeftAtStart env.source ▸ reads.withinSource) 0

end Reads

def OnTrack (env : Setup) (p : Place) : Prop := ∃ tokens, Reads env .first tokens p

theorem OnTrack.atFirst : OnTrack env .first := ⟨[], .nil⟩

theorem OnTrack.afterReads (h : OnTrack env p) (reads : Reads env p tokens q) : OnTrack env q := by
  obtain ⟨before, first⟩ := h
  exact ⟨_, first.thenReads reads⟩

theorem OnTrack.onePlace (hp : OnTrack env p) (hq : OnTrack env q) (same : p.offset = q.offset) : p = q := by
  obtain ⟨_, first⟩ := hp
  obtain ⟨_, other⟩ := hq
  exact first.toOnePlace other same

end Place
end Packrat

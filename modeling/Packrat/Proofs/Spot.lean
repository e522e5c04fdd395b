import Packrat.Proofs.Reading
import Packrat.Session

/-! Spots of a source: an offset with what decides the tokens from there on, without line and column. Reading
does not look at lines, so nothing is asked of the source here. -/
namespace Packrat

structure Spot where
  offset : Nat
  prev : Option Kind
  depth : Nat
  deriving DecidableEq, Repr

def Spot.first : Spot := ⟨0, none, 0⟩

def Spot.Leads (p q : Spot) : Prop := Ahead Spot.offset p q

def State.spot (s : State) : Spot := ⟨s.offset, s.prev, s.depth⟩

def MemoKey.spot (key : MemoKey) : Spot := ⟨key.offset, key.prev, key.depth⟩

inductive Glance where
  | token (name : String) (broken : Bool) (next : Spot)
  | nothing
  deriving DecidableEq, Repr

def Scan.glance : Scan → Glance
  | .token t next => .token t.name t.breakBefore ⟨next.offset, some t.kind, next.depth⟩
  | .ended _ => .nothing
  | .unrecognized _ _ => .nothing

theorem Nesting.applyOffset (e : Nesting) (c : Cursor) : (e.apply c).offset = c.offset := by
  cases e <;> rfl

theorem Nesting.applyDepth (e : Nesting) {c d : Cursor} (same : c.depth = d.depth) :
    (e.apply c).depth = (e.apply d).depth := by
  cases e <;> simp [Nesting.apply, same]

theorem Cursor.advanceDepth (c : Cursor) (text : List Char) : (c.advance text).depth = c.depth := by
  rw [advanceAsPosition]

def Scan.Within (bytes start : Nat) : Scan → Prop
  | .token t next => ∃ first, start ≤ first ∧ first < next.offset ∧ next.offset ≤ bytes ∧
      t.range = .ofOffsets first next.offset
  | .ended _ => True
  | .unrecognized cursor c => start ≤ cursor.offset ∧ cursor.offset + c.utf8Size ≤ bytes

namespace Lexer

theorem readFromGlance (lx : Lexer) (goal : Goal) (prev : Option Kind) (fuel : Nat) (rest : List Char)
    {c d : Cursor} (offset : c.offset = d.offset) (depth : c.depth = d.depth) (broken : Bool) :
    (lx.readFrom goal prev fuel rest c broken).glance = (lx.readFrom goal prev fuel rest d broken).glance := by
  induction fuel generalizing rest c d broken with
  | zero => rfl
  | succ fuel ih =>
    cases rest with
    | nil => rfl
    | cons x rest =>
      simp only [readFrom, offset, depth]
      cases lx.longestMatch (x :: rest) ⟨goal, prev, broken || d.offset == 0, d.depth⟩ with
      | none => rfl
      | some winner =>
        obtain ⟨e, n⟩ := winner
        have offset' : (c.advance ((x :: rest).take n)).offset = (d.advance ((x :: rest).take n)).offset := by
          rw [Cursor.advanceOffset, Cursor.advanceOffset, offset]
        have depth' : (c.advance ((x :: rest).take n)).depth = (d.advance ((x :: rest).take n)).depth := by
          rw [Cursor.advanceDepth, Cursor.advanceDepth, depth]
        simp only
        split
        · exact ih _ offset' depth' _
        · simp only [Scan.glance, Lexeme.token, Nesting.applyOffset, offset',
            e.definition.nesting.applyDepth depth']

theorem readTokenGlance (lx : Lexer) (source : List Char) {c d : Cursor} (offset : c.offset = d.offset)
    (depth : c.depth = d.depth) (goal : Goal) (prev : Option Kind) :
    (lx.readToken source c goal prev).glance = (lx.readToken source d goal prev).glance := by
  unfold readToken
  rw [offset]
  cases dropBytes? source d.offset with
  | none => rfl
  | some rest => exact readFromGlance lx goal prev rest.length rest offset depth false

theorem readFromWithin (lx : Lexer) (goal : Goal) (prev : Option Kind) (fuel : Nat) {rest : List Char}
    {cursor : Cursor} {broken : Bool} {start bytes : Nat} (behind : start ≤ cursor.offset)
    (fits : cursor.offset + byteLength rest ≤ bytes) :
    (lx.readFrom goal prev fuel rest cursor broken).Within bytes start := by
  induction fuel generalizing rest cursor broken with
  | zero => trivial
  | succ fuel ih =>
    cases rest with
    | nil => trivial
    | cons c rest =>
      simp only [readFrom]
      cases won : lx.longestMatch (c :: rest) ⟨goal, prev, broken || cursor.offset == 0, cursor.depth⟩ with
      | none =>
        simp only [byteLength] at fits
        exact ⟨behind, by omega⟩
      | some winner =>
        obtain ⟨e, n⟩ := winner
        have further := byteLengthPositive (longestMatchText won)
        have offset := cursor.advanceOffset ((c :: rest).take n)
        have cut : byteLength ((c :: rest).take n) + byteLength ((c :: rest).drop n) = byteLength (c :: rest) := by
          rw [← byteLengthAppend, List.take_append_drop]
        simp only
        split
        · exact ih (by omega) (by omega)
        · refine ⟨cursor.offset, behind, ?_, ?_, ?_⟩
          · rw [Nesting.applyOffset]
            omega
          · rw [Nesting.applyOffset]
            omega
          · rw [Nesting.applyOffset]
            rfl

theorem readTokenWithin (lx : Lexer) (source : List Char) (cursor : Cursor) (goal : Goal) (prev : Option Kind) :
    (lx.readToken source cursor goal prev).Within (byteLength source) cursor.offset := by
  unfold readToken
  cases cut : dropBytes? source cursor.offset with
  | none => trivial
  | some rest =>
    obtain ⟨parts, split, rfl⟩ := Option.map_eq_some_iff.mp cut
    obtain ⟨whole, length⟩ := splitBytesParts split
    refine readFromWithin lx goal prev _ (Nat.le_refl _) ?_
    rw [← whole, byteLengthAppend, length]

end Lexer

def Scan.ReadAt (env : Setup) (key : ScanKey) (found : Scan) : Prop :=
  ∃ cursor : Cursor, cursor.offset = key.offset ∧ cursor.depth = key.depth ∧
    found = env.lexer.readToken env.source cursor key.goal key.prev

def Setup.look (env : Setup) (goal : Goal) (p : Spot) : Glance :=
  (env.lexer.readToken env.source ⟨p.offset, 1, 0, p.depth⟩ goal p.prev).glance

theorem Scan.ReadAt.glanceIsLook {env : Setup} {key : ScanKey} {found : Scan} (h : found.ReadAt env key) :
    found.glance = env.look key.goal ⟨key.offset, key.prev, key.depth⟩ := by
  obtain ⟨cursor, offset, depth, rfl⟩ := h
  exact Lexer.readTokenGlance _ _ offset depth _ _

theorem Scan.ReadAt.isWithin {env : Setup} {key : ScanKey} {found : Scan} (h : found.ReadAt env key) :
    found.Within (byteLength env.source) key.offset := by
  obtain ⟨cursor, offset, _, rfl⟩ := h
  rw [← offset]
  exact Lexer.readTokenWithin _ _ _ _ _

theorem Setup.lookAhead {env : Setup} {goal : Goal} {p next : Spot} {name : String} {broken : Bool}
    (found : env.look goal p = .token name broken next) : p.offset < next.offset := by
  have within := Lexer.readTokenWithin env.lexer env.source ⟨p.offset, 1, 0, p.depth⟩ goal p.prev
  unfold look at found
  cases read : env.lexer.readToken env.source ⟨p.offset, 1, 0, p.depth⟩ goal p.prev with
  | token t cursor =>
    rw [read] at found within
    obtain ⟨first, behind, moved, _, _⟩ := within
    simp only [Scan.glance, Glance.token.injEq] at found
    obtain ⟨_, _, rfl⟩ := found
    exact Nat.lt_of_le_of_lt behind moved
  | ended cursor =>
    rw [read] at found
    cases found
  | unrecognized cursor c =>
    rw [read] at found
    cases found

theorem clampOffsetMono {m n : Nat} (le : m ≤ n) : clampOffset m ≤ clampOffset n := by
  unfold clampOffset
  omega

inductive Spaced : Nat → List TextRange → Nat → Prop where
  | nil {start stop} (le : start ≤ stop) : Spaced start [] stop
  | cons {start first last stop rest} (behind : start ≤ first) (some : first < last)
      (more : Spaced last rest stop) : Spaced start (.ofOffsets first last :: rest) stop

namespace Spaced

theorem startLeStop {start stop : Nat} {ranges : List TextRange} (h : Spaced start ranges stop) : start ≤ stop := by
  induction h with
  | nil le => exact le
  | cons behind some _ ih => omega

theorem thenSpaced {start middle stop : Nat} {ranges more : List TextRange} (first : Spaced start ranges middle)
    (later : Spaced middle more stop) : Spaced start (ranges ++ more) stop := by
  induction first with
  | nil le =>
    cases later with
    | nil le' => exact .nil (Nat.le_trans le le')
    | cons behind some more => exact .cons (Nat.le_trans le behind) some more
  | cons behind some _ ih => exact .cons behind some (ih later)

theorem startLtStop {start stop : Nat} {ranges : List TextRange} (h : Spaced start ranges stop) (some : ranges ≠ []) :
    start < stop := by
  cases h with
  | nil _ => exact absurd rfl some
  | cons behind wide more =>
    have := more.startLeStop
    omega

theorem startsBehind {start stop : Nat} {ranges : List TextRange} (h : Spaced start ranges stop) :
    ∀ r ∈ ranges, clampOffset start ≤ r.start := by
  induction h with
  | nil _ => exact fun _ member => nomatch member
  | @cons start first last stop rest behind some more ih =>
    intro r member
    rcases List.mem_cons.mp member with rfl | member
    · exact clampOffsetMono behind
    · exact Nat.le_trans (clampOffsetMono (by omega)) (ih r member)

theorem rangesApart {start stop : Nat} {ranges : List TextRange} (h : Spaced start ranges stop)
    (small : stop ≤ maxOffset) :
    (∀ r ∈ ranges, start ≤ r.start ∧ r.start < r.stop) ∧
      ranges.Pairwise fun r later => r.stop ≤ later.start := by
  induction h with
  | nil _ => exact ⟨fun _ member => (nomatch member), List.Pairwise.nil⟩
  | @cons start first last stop rest behind some more ih =>
    obtain ⟨each, ordered⟩ := ih small
    have ends := more.startLeStop
    have startEq : (TextRange.ofOffsets first last).start = first := clampOffsetWithin (by omega)
    have stopEq : (TextRange.ofOffsets first last).stop = last := clampOffsetWithin (by omega)
    refine ⟨fun r member => ?_, .cons (fun r member => ?_) ordered⟩
    · rcases List.mem_cons.mp member with rfl | member
      · rw [startEq, stopEq]
        exact ⟨behind, some⟩
      · have := (each r member).1
        exact ⟨by omega, (each r member).2⟩
    · rw [stopEq]
      exact (each r member).1

end Spaced

structure Covers (tokens : List Token) (p q : Spot) : Prop where
  spaced : Spaced p.offset (tokens.map Token.range) q.offset
  still : tokens = [] → q = p
  last : ∀ t, tokens.getLast? = some t → q.prev = some t.kind ∧ t.range.stop = clampOffset q.offset

namespace Covers

theorem refl (p : Spot) : Covers [] p p :=
  ⟨.nil (Nat.le_refl _), fun _ => rfl, fun _ none => nomatch none⟩

theorem trans {tokens more : List Token} {p q r : Spot} (pq : Covers tokens p q) (qr : Covers more q r) :
    Covers (tokens ++ more) p r := by
  refine ⟨?_, fun none => ?_, fun t last => ?_⟩
  · rw [List.map_append]
    exact pq.spaced.thenSpaced qr.spaced
  · obtain ⟨first, later⟩ := List.append_eq_nil_iff.mp none
    rw [qr.still later, pq.still first]
  · cases ending : more.getLast? with
    | none =>
      rw [List.getLast?_append, ending, Option.none_or] at last
      rw [qr.still (List.getLast?_eq_none_iff.mp ending)]
      exact pq.last t last
    | some u =>
      rw [List.getLast?_append, ending, Option.some_or] at last
      rw [← Option.some.inj last]
      exact qr.last u ending

theorem spotLeads {tokens : List Token} {p q : Spot} (h : Covers tokens p q) : p.Leads q := by
  cases tokens with
  | nil => exact .inl (h.still rfl)
  | cons t rest => exact .inr (h.spaced.startLtStop (List.cons_ne_nil _ _))

theorem standsStillIff {tokens : List Token} {p q : Spot} (h : Covers tokens p q) :
    q.offset = p.offset ↔ tokens = [] := by
  refine ⟨fun same => ?_, fun none => by rw [h.still none]⟩
  by_contra some
  have := h.spaced.startLtStop (fun none => some (List.map_eq_nil_iff.mp none))
  omega

theorem singleToken {t : Token} {first : Nat} {p q : Spot} (behind : p.offset ≤ first) (wide : first < q.offset)
    (range : t.range = .ofOffsets first q.offset) (prev : q.prev = some t.kind) : Covers [t] p q where
  spaced := by
    rw [List.map_singleton, range]
    exact .cons behind wide (.nil (Nat.le_refl _))
  still := fun none => nomatch none
  last := by
    intro u last
    have same : t = u := Option.some.inj last
    rw [← same, range]
    exact ⟨prev, rfl⟩

end Covers
end Packrat

import Packrat.Proofs.Lines

/-! The search for a byte with which a line may end. It spares a text whose characters only have to be added up,
and nothing depends on it: cursors advance as if each character were looked at. -/
namespace Packrat

def EndsLine (c : Char) : Prop := c = '\n' ∨ c = '\r' ∨ c = '\u2028' ∨ c = '\u2029'

instance (c : Char) : Decidable (EndsLine c) := by
  unfold EndsLine; infer_instance

theorem isTerminatorIff (c : Char) : isTerminator c = true ↔ EndsLine c := by
  simp only [isTerminator, EndsLine, Bool.or_eq_true, beq_iff_eq, or_assoc]

theorem containsTerminatorIff (text : List Char) : containsTerminator text = true ↔ ∃ c ∈ text, EndsLine c := by
  simp only [containsTerminatorAsAny, List.any_eq_true, isTerminatorIff]

theorem searchedByteByResidue (n : Nat) :
    (UInt8.ofNat n == 0x0A || UInt8.ofNat n == 0x0D || UInt8.ofNat n == 0xE2) =
      decide (n % 256 = 0x0A ∨ n % 256 = 0x0D ∨ n % 256 = 0xE2) := by
  have byte : ∀ b : UInt8, (UInt8.ofNat n == b) = decide (n % 256 = b.toNat) := by
    intro b
    rw [Bool.beq_eq_decide_eq, decide_eq_decide]
    exact UInt8.ofNat_eq_iff_mod_eq_toNat n b
  rw [byte, byte, byte, Bool.or_assoc, ← Bool.decide_or, ← Bool.decide_or]
  rfl

/- One of the bytes is the first of three for all of U+2000 to U+2FFF. The bytes behind the first one of a
character are from 0x80 to 0xBF, so none of the three is among them. -/
theorem mayBreakLineSingle (c : Char) :
    mayBreakLine [c] = true ↔ c = '\n' ∨ c = '\r' ∨ 0x2000 ≤ c.toNat ∧ c.toNat < 0x3000 := by
  have feed : c = '\n' ↔ c.toNat = 0x0A := Char.toNat_inj.symm
  have returned : c = '\r' ↔ c.toNat = 0x0D := Char.toNat_inj.symm
  have value : c.val.toNat = c.toNat := rfl
  simp only [mayBreakLine, utf8, List.flatMap_cons, List.flatMap_nil, List.append_nil, feed, returned,
    String.utf8EncodeChar, value]
  repeat' split
  all_goals
    simp only [List.any_cons, List.any_nil, searchedByteByResidue, Bool.or_false, Bool.or_eq_true, decide_eq_true_eq]
    omega

theorem mayBreakLineIff (text : List Char) :
    mayBreakLine text = true ↔ ∃ c ∈ text, c = '\n' ∨ c = '\r' ∨ 0x2000 ≤ c.toNat ∧ c.toNat < 0x3000 := by
  induction text with
  | nil => simp [mayBreakLine, utf8]
  | cons c rest ih =>
    rw [mayBreakLineCons, Bool.or_eq_true, mayBreakLineSingle, ih, List.exists_mem_cons_iff]

namespace Cursor

def behind (c : Cursor) (before : Option Char) (here : Char) : Cursor :=
  let moved := { c with offset := c.offset + (String.utf8EncodeChar here).length }
  if EndsLine here then
    if before = some '\r' ∧ here = '\n' then moved else { moved with line := c.line + 1, column := 0 }
  else { moved with column := c.column + 1 }

def counted (c : Cursor) : Option Char → List Char → Cursor
  | _, [] => c
  | before, here :: rest => (c.behind before here).counted (some here) rest

theorem behindAsPosition (c : Cursor) {before : Option Char} {here : Char}
    (apart : ¬ (before = some '\r' ∧ here = '\n')) :
    c.behind before here = ⟨c.offset + here.utf8Size, (c.position.past here).line, (c.position.past here).column,
      c.depth⟩ := by
  simp only [behind, LineCol.past, String.length_utf8EncodeChar, if_neg apart, isTerminatorIff]
  split <;> rfl

theorem countedAsPosition {text : List Char} {before : Option Char}
    (apart : ¬ (before = some '\r' ∧ text.head? = some '\n'))
    (c : Cursor) : c.counted before text = ⟨c.offset + byteLength text, (LineCol.after text c.position).line,
      (LineCol.after text c.position).column, c.depth⟩ := by
  induction text using LineCol.byLineEnds generalizing before c with
  | nil => rfl
  | pair rest ih =>
    have returned : c.behind before '\r' = ⟨c.offset + 1, c.line + 1, 0, c.depth⟩ := c.behindAsPosition (by simp)
    have fed : (c.behind before '\r').behind (some '\r') '\n' = ⟨c.offset + 1 + 1, c.line + 1, 0, c.depth⟩ := by
      rw [returned]
      rfl
    have length : byteLength ('\r' :: '\n' :: rest) = 1 + (1 + byteLength rest) := rfl
    show ((c.behind before '\r').behind (some '\r') '\n').counted (some '\n') rest = _
    rw [fed, ih (by simp), length, ← Nat.add_assoc, ← Nat.add_assoc]
    rfl
  | one here rest whole ih =>
    have apart' : ¬ (before = some '\r' ∧ here = '\n') := by simpa using apart
    have further : ¬ (some here = some '\r' ∧ rest.head? = some '\n') := whole
    show (c.behind before here).counted (some here) rest = _
    rw [LineCol.afterFirstChar whole, c.behindAsPosition apart', ih further, Nat.add_assoc]
    rfl

theorem advanceAdvanceIff (c : Cursor) (a b : List Char) :
    (c.advance a).advance b = c.advance (a ++ b) ↔ ¬ Parted a b := by
  have pieces : (c.advance a).advance b = ⟨c.offset + byteLength (a ++ b),
      (LineCol.after b (LineCol.after a c.position)).line, (LineCol.after b (LineCol.after a c.position)).column,
      c.depth⟩ := by
    rw [advanceAsPosition, advanceAsPosition, byteLengthAppend, Nat.add_assoc]
    rfl
  rw [pieces, advanceAsPosition, LineCol.afterInTurn]
  by_cases parted : Parted a b <;> simp [parted, LineCol.below]

theorem advanceExact (c : Cursor) (text : List Char) :
    c.advance text = c.counted none text ∧
    (mayBreakLine text = true ↔ ∃ t ∈ text, t = '\n' ∨ t = '\r' ∨ 0x2000 ≤ t.toNat ∧ t.toNat < 0x3000) ∧
    (containsTerminator text = true ↔ ∃ t ∈ text, EndsLine t) ∧
    ∀ more, (c.advance text).advance more = c.advance (text ++ more) ↔ ¬ Parted text more := by
  refine ⟨?_, mayBreakLineIff text, containsTerminatorIff text, c.advanceAdvanceIff text⟩
  rw [advanceAsPosition, countedAsPosition (by simp)]

example : first.advance "a\r\nb\nc\rd\u2028ef".toList = ⟨13, 5, 2, 0⟩ := by decide

end Cursor
end Packrat

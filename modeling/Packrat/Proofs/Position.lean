import Mathlib.Data.List.Infix
import Packrat.Token.Cursor

/-! Lines and columns belong to places of a source. Where no carriage return stands right
before a line feed, the line and column of a cursor depend on its offset alone, however the
text before it was cut into pieces. -/
namespace Packrat

def NoPairs (text : List Char) : Prop := ¬ ['\r', '\n'] <:+: text

instance (text : List Char) : Decidable (NoPairs text) := by
  unfold NoPairs; infer_instance

theorem NoPairs.withinPart {text part : List Char} (h : NoPairs text) (inside : part <:+: text) :
    NoPairs part := fun pair => h (pair.trans inside)

theorem byteLengthPositive {text : List Char} (h : text ≠ []) : 0 < byteLength text := by
  cases text with
  | nil => contradiction
  | cons c rest =>
    have := Char.utf8Size_pos c
    simp only [byteLength]
    omega

theorem prefixOfLength {a b restA restB : List Char} (same : a ++ restA = b ++ restB)
    (length : byteLength a = byteLength b) : a = b := by
  induction a generalizing b with
  | nil =>
    cases b with
    | nil => rfl
    | cons c rest =>
      have := byteLengthPositive (List.cons_ne_nil c rest)
      simp only [byteLength] at length this
      omega
  | cons c rest ih =>
    cases b with
    | nil =>
      have := byteLengthPositive (List.cons_ne_nil c rest)
      simp only [byteLength] at length this
      omega
    | cons d other =>
      simp only [List.cons_append, List.cons.injEq] at same
      obtain ⟨rfl, same⟩ := same
      simp only [byteLength, Nat.add_left_cancel_iff] at length
      rw [ih same length]

theorem splitBytesAppend (before rest : List Char) :
    splitBytes? (before ++ rest) (byteLength before) = some (before, rest) := by
  induction before with
  | nil => cases rest <;> rfl
  | cons c before ih =>
    have positive := Char.utf8Size_pos c
    obtain ⟨n, hn⟩ := Nat.exists_eq_add_of_lt positive
    have whole : c.utf8Size + byteLength before = n + byteLength before + 1 := by omega
    have left : n + byteLength before + 1 - c.utf8Size = byteLength before := by omega
    have fits : c.utf8Size ≤ n + byteLength before + 1 := by omega
    simp only [List.cons_append, byteLength, whole, splitBytes?, if_pos fits, left, ih,
      Option.map_some]

theorem dropBytesAppend (before rest : List Char) :
    dropBytes? (before ++ rest) (byteLength before) = some rest := by
  simp [dropBytes?, splitBytesAppend]

namespace LineCol

def past (p : LineCol) (c : Char) : LineCol :=
  if isTerminator c then ⟨p.line + 1, 0⟩ else ⟨p.line, p.column + 1⟩

theorem afterFold {text : List Char} (h : NoPairs text) (p : LineCol) :
    after text p = text.foldl past p := by
  induction text generalizing p with
  | nil => rfl
  | cons c rest ih =>
    have tail := ih (h.withinPart (List.suffix_cons c rest).isInfix)
    rw [after.eq_def]
    split
    · contradiction
    · rename_i more eq
      exact absurd ⟨[], more, by simp [eq]⟩ h
    · rename_i eq
      obtain ⟨rfl, rfl⟩ := List.cons.inj eq
      simp only [List.foldl_cons, past]
      split <;> exact tail _

theorem afterAppend {a b : List Char} (h : NoPairs (a ++ b)) (p : LineCol) :
    after (a ++ b) p = after b (after a p) := by
  have left := h.withinPart (List.prefix_append a b).isInfix
  have right := h.withinPart (List.suffix_append a b).isInfix
  rw [afterFold h, afterFold left, afterFold right, List.foldl_append]

end LineCol

theorem terminatorByte {c : Char} (h : isTerminator c = true) : mayBreakLine [c] = true := by
  simp only [isTerminator, Bool.or_eq_true, beq_iff_eq] at h
  rcases h with ((rfl | rfl) | rfl) | rfl <;> decide

theorem mayBreakLineCons (c : Char) (text : List Char) :
    mayBreakLine (c :: text) = (mayBreakLine [c] || mayBreakLine text) := by
  simp [mayBreakLine, utf8]

theorem LineCol.afterUnbroken {text : List Char} (h : mayBreakLine text = false) (p : LineCol) :
    after text p = ⟨p.line, p.column + text.length⟩ := by
  induction text generalizing p with
  | nil => rfl
  | cons c rest ih =>
    rw [mayBreakLineCons, Bool.or_eq_false_iff] at h
    have plain : isTerminator c = false := by
      cases t : isTerminator c with
      | false => rfl
      | true => exact absurd (terminatorByte t) (by simp [h.1])
    rw [after.eq_def]
    split
    · contradiction
    · rename_i eq
      obtain ⟨rfl, _⟩ := List.cons.inj eq
      exact absurd plain (by decide)
    · rename_i eq
      obtain ⟨rfl, rfl⟩ := List.cons.inj eq
      simp only [plain, Bool.false_eq_true, if_false, ih h.2, List.length_cons]
      rw [Nat.add_assoc, Nat.add_comm 1]

namespace Cursor

theorem advanceAsPosition (c : Cursor) (text : List Char) :
    c.advance text = ⟨c.offset + byteLength text, (LineCol.after text c.position).line,
      (LineCol.after text c.position).column, c.depth⟩ := by
  unfold advance
  split
  · rfl
  · rename_i unbroken
    rw [LineCol.afterUnbroken (by simpa using unbroken)]
    rfl

structure StandsAt (source before rest : List Char) (c : Cursor) : Prop where
  cut : before ++ rest = source
  offset : c.offset = byteLength before
  position : c.position = LineCol.after before .first

def Stands (source : List Char) (c : Cursor) : Prop := ∃ before rest, c.StandsAt source before rest

theorem firstStands (source : List Char) : first.Stands source :=
  ⟨[], source, rfl, rfl, rfl⟩

theorem Stands.atSamePlace {source : List Char} {c d : Cursor} (h : c.Stands source)
    (offset : d.offset = c.offset) (position : d.position = c.position) : d.Stands source := by
  obtain ⟨before, rest, here⟩ := h
  exact ⟨before, rest, here.cut, offset.trans here.offset, position.trans here.position⟩

theorem StandsAt.afterAdvance {source before text more : List Char} {c : Cursor} (whole : NoPairs source)
    (h : c.StandsAt source before (text ++ more)) :
    (c.advance text).StandsAt source (before ++ text) more := by
  have cut : (before ++ text) ++ more = source := by rw [List.append_assoc]; exact h.cut
  have part : NoPairs (before ++ text) := whole.withinPart ⟨[], more, cut⟩
  refine ⟨cut, ?_, ?_⟩
  · simp only [advanceAsPosition, h.offset, byteLengthAppend]
  · rw [LineCol.afterAppend part, ← h.position]
    rw [advanceAsPosition]
    rfl

theorem Stands.onePosition {source : List Char} {c d : Cursor} (hc : c.Stands source)
    (hd : d.Stands source) (same : c.offset = d.offset) : c.position = d.position := by
  obtain ⟨before, rest, hc⟩ := hc
  obtain ⟨other, rest', hd⟩ := hd
  have eq : before = other := by
    apply prefixOfLength (hc.cut.trans hd.cut.symm)
    rw [← hc.offset, ← hd.offset, same]
  rw [hc.position, hd.position, eq]

theorem Stands.offsetLe {source : List Char} {c : Cursor} (h : c.Stands source) :
    c.offset ≤ byteLength source := by
  obtain ⟨before, rest, h⟩ := h
  rw [h.offset, ← h.cut, byteLengthAppend]
  omega

end Cursor

def Ahead {P : Type} (offset : P → Nat) (p q : P) : Prop := q = p ∨ offset p < offset q

namespace Ahead

variable {P : Type} {offset : P → Nat} {p q r : P}

theorem refl (p : P) : Ahead offset p p := .inl rfl

theorem trans (pq : Ahead offset p q) (qr : Ahead offset q r) : Ahead offset p r := by
  rcases pq with rfl | pq
  · exact qr
  · rcases qr with rfl | qr
    · exact .inr pq
    · exact .inr (Nat.lt_trans pq qr)

theorem offsetLe (h : Ahead offset p q) : offset p ≤ offset q := by
  rcases h with rfl | h
  · exact Nat.le_refl _
  · exact Nat.le_of_lt h

theorem allEntered {around : List (String × P)} (inside : ∀ e ∈ around, Ahead offset e.2 p) (name : String)
    (onward : Ahead offset p q) : ∀ e ∈ (name, p) :: around, Ahead offset e.2 q := by
  intro e member
  rcases List.mem_cons.mp member with rfl | member
  · exact onward
  · exact (inside e member).trans onward

end Ahead
end Packrat

import Packrat.Lexer.Reading
import Packrat.Proofs.Position

/-! Reading moves on. A token that is read ends behind the cursor at which reading started,
in the source and at the line and column of its offset; so does the token made for a
character that no definition matches. -/
namespace Packrat

theorem Lexeme.matchLengthPositive {e : Lexeme} {rest : List Char} {n : Nat}
    (h : e.matchLength? rest = some n) : 0 < n := by
  unfold Lexeme.matchLength? at h
  split at h
  · contradiction
  · simp only at h
    split at h
    · contradiction
    · rename_i positive
      split at h
      · contradiction
      · split at h
        · contradiction
        · cases Option.some.inj h
          omega

namespace Lexer

theorem betterPos {ctx : Context} {rest : List Char} {best : Option (Lexeme × Nat)} {e : Lexeme}
    (before : ∀ r, best = some r → 0 < r.2) : ∀ r, better ctx rest best e = some r → 0 < r.2 := by
  intro r h
  unfold better at h
  split at h
  · split at h
    · exact before r h
    · rename_i found
      cases Option.some.inj h
      exact Lexeme.matchLengthPositive found
    · rename_i found
      split at h
      · cases Option.some.inj h
        exact Lexeme.matchLengthPositive found
      · exact before r h
  · exact before r h

theorem longestMatchPos {lx : Lexer} {rest : List Char} {ctx : Context} {e : Lexeme} {n : Nat}
    (h : lx.longestMatch rest ctx = some (e, n)) : 0 < n := by
  have all : ∀ (lexemes : List Lexeme) (best : Option (Lexeme × Nat)),
      (∀ r, best = some r → 0 < r.2) →
      ∀ r, lexemes.foldl (better ctx rest) best = some r → 0 < r.2 := by
    intro lexemes
    induction lexemes with
    | nil => exact fun _ before => before
    | cons e lexemes ih => exact fun best before => ih _ (betterPos before)
  exact all lx.lexemes none (by simp) (e, n) h

theorem longestMatchText {lx : Lexer} {c : Char} {rest : List Char} {ctx : Context} {e : Lexeme} {n : Nat}
    (won : lx.longestMatch (c :: rest) ctx = some (e, n)) : (c :: rest).take n ≠ [] := by
  have positive := longestMatchPos won
  simp only [ne_eq, List.take_eq_nil_iff]
  rintro (rfl | h) <;> first | omega | contradiction

end Lexer

def Scan.MovesOn (source : List Char) (start : Nat) : Scan → Prop
  | .token t next => next.Stands source ∧ start < next.offset ∧ t.index = 0
  | .ended _ => True
  | .unrecognized cursor c =>
    (cursor.advance [c]).Stands source ∧ start < (cursor.advance [c]).offset

theorem Nesting.applyStands {source : List Char} {c : Cursor} (h : c.Stands source) (e : Nesting) :
    (e.apply c).Stands source ∧ (e.apply c).offset = c.offset := by
  cases e <;> exact ⟨h.atSamePlace rfl rfl, rfl⟩

theorem Cursor.advanceOffset (c : Cursor) (text : List Char) :
    (c.advance text).offset = c.offset + byteLength text := by
  rw [advanceAsPosition]

namespace Lexer

theorem readFromMovesOn {lx : Lexer} {goal : Goal} {prev : Option Kind} {source before rest : List Char}
    (whole : NoPairs source) {fuel : Nat} {cursor : Cursor} {broken : Bool}
    (h : cursor.StandsAt source before rest) {start : Nat} (later : start ≤ cursor.offset) :
    (lx.readFrom goal prev fuel rest cursor broken).MovesOn source start := by
  induction fuel generalizing before rest cursor broken with
  | zero => trivial
  | succ fuel ih =>
    cases rest with
    | nil => trivial
    | cons c rest =>
      simp only [readFrom]
      cases won : lx.longestMatch (c :: rest) ⟨goal, prev, broken || cursor.offset == 0, cursor.depth⟩ with
      | none =>
        have one : cursor.StandsAt source before ([c] ++ rest) := h
        refine ⟨⟨_, _, one.afterAdvance whole⟩, ?_⟩
        have := byteLengthPositive (List.cons_ne_nil c [])
        rw [Cursor.advanceOffset]
        omega
      | some winner =>
        obtain ⟨e, n⟩ := winner
        have further := byteLengthPositive (longestMatchText won)
        rw [← List.take_append_drop n (c :: rest)] at h
        have next := h.afterAdvance whole
        have offset := cursor.advanceOffset ((c :: rest).take n)
        simp only
        split
        · exact ih next (by omega)
        · obtain ⟨stands, same⟩ := e.definition.nesting.applyStands ⟨_, _, next⟩
          exact ⟨stands, by omega, rfl⟩

theorem readTokenMovesOn {source : List Char} (whole : NoPairs source) {cursor : Cursor}
    (h : cursor.Stands source) (lx : Lexer) (goal : Goal) (prev : Option Kind) :
    (lx.readToken source cursor goal prev).MovesOn source cursor.offset := by
  obtain ⟨before, rest, here⟩ := h
  have found : dropBytes? source cursor.offset = some rest := by
    rw [← here.cut, here.offset]
    exact dropBytesAppend before rest
  simp only [readToken, found]
  exact readFromMovesOn whole here (Nat.le_refl _)

end Lexer
end Packrat

import Packrat.Proofs.Reading

/-! Which definition wins. A match ends inside the text that is left, and of the definitions that are
available and match there, one with the longest match wins; none wins only where none of them fits. -/
namespace Packrat

namespace Pattern.Program

theorem runFromWithin {p : Program} {pos n : Nat} {before : Option Char} {text : List Char} {threads : List Nat}
    {found : Option Nat} (inside : ∀ m, found = some m → m ≤ pos)
    (ends : p.runFrom pos before text threads found = some n) : n ≤ pos + text.length := by
  induction text generalizing pos before threads found with
  | nil =>
    unfold runFrom at ends
    extract_lets fresh waiting place settled at ends
    generalize p.advance _ settled = step at ends
    dsimp only at ends
    split at ends
    · exact Nat.le_of_eq (Option.some.inj ends).symm
    · exact inside n ends
  | cons c rest ih =>
    unfold runFrom at ends
    extract_lets fresh waiting place settled at ends
    generalize p.advance _ settled = step at ends
    obtain ⟨accepted, going⟩ := step
    dsimp only at ends
    generalize now : (if accepted then some pos else found) = reached at ends
    have inside' : ∀ m, reached = some m → m ≤ pos := by
      intro m eq
      cases accepted with
      | true => exact Nat.le_of_eq (Option.some.inj (now.trans eq)).symm
      | false => exact inside m (now.trans eq)
    rw [List.length_cons]
    split at ends
    · have := inside' n ends
      omega
    · have := ih (fun m eq => Nat.le_succ_of_le (inside' m eq)) ends
      omega

end Pattern.Program

theorem Pattern.patternLengthWithin {p : Pattern} {text : List Char} {n : Nat} (h : p.matchLength? text = some n) :
    n ≤ text.length := by
  have ends : p.program.runFrom 0 none text [] none = some n := h
  have := Program.runFromWithin (by simp) ends
  omega

namespace Lexeme

theorem rawLengthWithin {e : Lexeme} {rest : List Char} {n : Nat} (h : e.rawLength? rest = some n) :
    n ≤ rest.length := by
  unfold rawLength? at h
  cases shape : e.matcher with
  | literal text =>
    simp only [shape] at h
    split at h
    · rename_i starts
      cases h
      exact (List.isPrefixOf_iff_prefix.mp starts).length_le
    · exact nomatch h
  | pattern p =>
    simp only [shape] at h
    exact Pattern.patternLengthWithin h

theorem matchLengthWithin {e : Lexeme} {rest : List Char} {n : Nat} (h : e.matchLength? rest = some n) :
    n ≤ rest.length := by
  unfold matchLength? at h
  cases raw : e.rawLength? rest with
  | none =>
    rw [raw] at h
    exact nomatch h
  | some m =>
    simp only [raw] at h
    split at h
    · exact nomatch h
    · split at h
      · exact nomatch h
      · split at h
        · exact nomatch h
        · cases h
          exact rawLengthWithin raw

structure Fits (e : Lexeme) (ctx : Context) (rest : List Char) (n : Nat) : Prop where
  available : e.isAvailable ctx = true
  matched : e.matchLength? rest = some n

namespace Fits

variable {e : Lexeme} {ctx : Context} {rest : List Char} {n : Nat}

theorem positiveLength (h : e.Fits ctx rest n) : 0 < n := matchLengthPositive h.matched

theorem withinRest (h : e.Fits ctx rest n) : n ≤ rest.length := matchLengthWithin h.matched

end Fits
end Lexeme

def Longest (lexemes : List Lexeme) (ctx : Context) (rest : List Char) : Option (Lexeme × Nat) → Prop
  | none => ∀ e ∈ lexemes, ∀ n, ¬ e.Fits ctx rest n
  | some (e, n) => e ∈ lexemes ∧ e.Fits ctx rest n ∧ ∀ o ∈ lexemes, ∀ m, o.Fits ctx rest m → m ≤ n

namespace Longest

variable {lexemes : List Lexeme} {e b : Lexeme} {m n : Nat} {best : Option (Lexeme × Nat)} {ctx : Context}
  {rest : List Char}

theorem despiteUnfit (before : Longest lexemes ctx rest best) (unfit : ∀ n, ¬ e.Fits ctx rest n) :
    Longest (lexemes ++ [e]) ctx rest best := by
  cases best with
  | none =>
    intro o member n
    rcases List.mem_append.mp member with old | new
    · exact before o old n
    · exact List.mem_singleton.mp new ▸ unfit n
  | some winner =>
    obtain ⟨member, fits, longest⟩ := before
    refine ⟨List.mem_append_left _ member, fits, fun o member m other => ?_⟩
    rcases List.mem_append.mp member with old | new
    · exact longest o old m other
    · exact absurd other (List.mem_singleton.mp new ▸ unfit m)

theorem whenReplaced (fits : e.Fits ctx rest n)
    (longest : ∀ o ∈ lexemes, ∀ m, o.Fits ctx rest m → m ≤ n) :
    Longest (lexemes ++ [e]) ctx rest (some (e, n)) := by
  refine ⟨List.mem_append_right _ List.mem_cons_self, fits, fun o member m other => ?_⟩
  rcases List.mem_append.mp member with old | new
  · exact longest o old m other
  · cases List.mem_singleton.mp new
    exact Nat.le_of_eq (Option.some.inj (other.matched.symm.trans fits.matched))

theorem whenKept (before : Longest lexemes ctx rest (some (b, m))) (fits : e.Fits ctx rest n) (le : n ≤ m) :
    Longest (lexemes ++ [e]) ctx rest (some (b, m)) := by
  obtain ⟨member, best, longest⟩ := before
  refine ⟨List.mem_append_left _ member, best, fun o member k other => ?_⟩
  rcases List.mem_append.mp member with old | new
  · exact longest o old k other
  · cases List.mem_singleton.mp new
    exact Option.some.inj (other.matched.symm.trans fits.matched) ▸ le

theorem ofBetter (before : Longest lexemes ctx rest best) (e : Lexeme) :
    Longest (lexemes ++ [e]) ctx rest (Lexer.better ctx rest best e) := by
  unfold Lexer.better
  by_cases available : e.isAvailable ctx = true
  · rw [if_pos available]
    cases matched : e.matchLength? rest with
    | none => exact before.despiteUnfit fun n fits => nomatch matched.symm.trans fits.matched
    | some n =>
      have fits : e.Fits ctx rest n := ⟨available, matched⟩
      cases best with
      | none => exact .whenReplaced fits fun o member m other => absurd other (before o member m)
      | some winner =>
        obtain ⟨b, m⟩ := winner
        simp only [Bool.or_eq_true, decide_eq_true_eq, Bool.and_eq_true, beq_iff_eq]
        split
        · rename_i wins
          have le : m ≤ n := by omega
          exact .whenReplaced fits fun o member k other => Nat.le_trans (before.2.2 o member k other) le
        · rename_i loses
          exact before.whenKept fits (by omega)
  · rw [if_neg available]
    exact before.despiteUnfit fun n fits => available fits.available

end Longest

theorem Lexer.longestMatchLongest (lx : Lexer) (rest : List Char) (ctx : Context) :
    Longest lx.lexemes ctx rest (lx.longestMatch rest ctx) := by
  unfold longestMatch
  induction lx.lexemes using List.reverseRecOn with
  | nil => exact fun _ member => nomatch member
  | append_singleton lexemes e ih =>
    rw [List.foldl_append]
    exact ih.ofBetter e

end Packrat

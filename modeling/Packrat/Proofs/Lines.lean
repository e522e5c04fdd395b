import Packrat.Proofs.Position

/-! Lines and columns of a text that is counted piece by piece. Columns come out as in one pass; a line
more is counted for each piece that ends between a carriage return and the line feed behind it. -/
namespace Packrat

theorem containsTerminatorAsAny (text : List Char) : containsTerminator text = text.any isTerminator := by
  unfold containsTerminator
  cases broken : text.any isTerminator with
  | false => exact Bool.and_false _
  | true =>
    obtain ⟨c, member, ends⟩ := List.any_eq_true.mp broken
    obtain ⟨before, after, rfl⟩ := List.append_of_mem member
    have byte := terminatorByte ends
    have : mayBreakLine (before ++ c :: after) = true := by
      simp only [mayBreakLine, utf8, List.flatMap_append, List.flatMap_cons, List.any_append, Bool.or_eq_true] at byte ⊢
      simp only [List.flatMap_nil, List.any_nil, Bool.false_eq_true, or_false] at byte
      exact .inr (.inl byte)
    rw [this]
    rfl

def Parted (a b : List Char) : Prop := a.getLast? = some '\r' ∧ b.head? = some '\n'

instance (a b : List Char) : Decidable (Parted a b) := by
  unfold Parted; infer_instance

theorem Parted.splitsPair {c : Char} {b : List Char} (parted : Parted [c] b) : c = '\r' ∧ ∃ more, b = '\n' :: more :=
  ⟨Option.some.inj parted.1, List.head?_eq_some_iff.mp parted.2⟩

theorem partedAppend {c : Char} {rest : List Char} (some : rest ≠ []) (b : List Char) :
    Parted [c] (rest ++ b) ↔ Parted [c] rest := by
  simp [Parted, List.head?_append_of_ne_nil rest some]

def partings : List (List Char) → Nat
  | [] => 0
  | text :: rest => (if Parted text rest.flatten then 1 else 0) + partings rest

namespace LineCol

def below (p : LineCol) (lines : Nat) : LineCol := ⟨p.line + lines, p.column⟩

theorem belowInTurn (p : LineCol) (k l : Nat) : (p.below k).below l = p.below (k + l) := by
  simp only [below, Nat.add_assoc]

theorem belowSelfIff (p : LineCol) (k : Nat) : p.below k = p ↔ k = 0 := by
  obtain ⟨line, column⟩ := p
  simp [below]

theorem afterFirstChar {c : Char} {rest : List Char} (whole : ¬ Parted [c] rest) (p : LineCol) :
    after (c :: rest) p = after rest (p.past c) := by
  rw [after.eq_def]
  split
  · contradiction
  · rename_i more eq
    obtain ⟨rfl, rfl⟩ := List.cons.inj eq
    exact absurd ⟨rfl, rfl⟩ whole
  · rename_i eq
    obtain ⟨rfl, rfl⟩ := List.cons.inj eq
    simp only [past]
    split <;> rfl

theorem byLineEnds {motive : List Char → Prop} (nil : motive [])
    (pair : ∀ rest, motive rest → motive ('\r' :: '\n' :: rest))
    (one : ∀ c rest, ¬ Parted [c] rest → motive rest → motive (c :: rest)) (text : List Char) : motive text := by
  induction text using List.twoStepInduction with
  | nil => exact nil
  | singleton c => exact one c [] (by simp [Parted]) nil
  | cons_cons c d rest ih ih' =>
    by_cases parted : Parted [c] (d :: rest)
    · obtain rfl : c = '\r' := Option.some.inj parted.1
      obtain rfl : d = '\n' := Option.some.inj parted.2
      exact pair rest ih
    · exact one c (d :: rest) parted (ih' d)

theorem afterBelow (text : List Char) (p : LineCol) (lines : Nat) :
    after text (p.below lines) = (after text p).below lines := by
  have next : ∀ c, (p : LineCol) → (p.below lines).past c = (p.past c).below lines := by
    intro c p
    simp only [past, below]
    split <;> simp [Nat.add_right_comm]
  induction text using byLineEnds generalizing p with
  | nil => rfl
  | pair rest ih =>
    have line : (⟨(p.below lines).line + 1, 0⟩ : LineCol) = (⟨p.line + 1, 0⟩ : LineCol).below lines := by
      simp [below, Nat.add_right_comm]
    show after rest ⟨(p.below lines).line + 1, 0⟩ = (after rest ⟨p.line + 1, 0⟩).below lines
    rw [line, ih]
  | one c rest whole ih => rw [afterFirstChar whole, afterFirstChar whole, next, ih]

theorem partedBehindChar {c : Char} {rest b : List Char} (some : rest ≠ []) :
    Parted (c :: rest) b ↔ Parted rest b := by
  obtain ⟨d, more, rfl⟩ := List.exists_cons_of_ne_nil some
  simp [Parted]

theorem partedPair (rest b : List Char) : Parted ('\r' :: '\n' :: rest) b ↔ Parted rest b := by
  cases rest <;> simp [Parted]

theorem afterInTurn (a b : List Char) (p : LineCol) :
    after b (after a p) = (after (a ++ b) p).below (if Parted a b then 1 else 0) := by
  induction a using byLineEnds generalizing p with
  | nil => rfl
  | pair rest ih =>
    simp only [partedPair]
    exact ih ⟨p.line + 1, 0⟩
  | one c rest whole ih =>
    rw [afterFirstChar whole, ih]
    by_cases none : rest = []
    · subst none
      by_cases parted : Parted [c] b
      · obtain ⟨rfl, more, rfl⟩ := parted.splitsPair
        rw [if_pos parted]
        exact afterBelow more ⟨p.line + 1, 0⟩ 1
      · rw [if_neg parted]
        exact (afterFirstChar parted p).symm
    · have whole' : ¬ Parted [c] (rest ++ b) := (partedAppend none b).not.mpr whole
      simp only [partedBehindChar none]
      rw [List.cons_append, afterFirstChar whole']

def afterEach (texts : List (List Char)) (p : LineCol) : LineCol := texts.foldl (fun q text => after text q) p

theorem afterEachAppend (texts more : List (List Char)) (p : LineCol) :
    afterEach (texts ++ more) p = afterEach more (afterEach texts p) := List.foldl_append

theorem afterEachBelow (texts : List (List Char)) (p : LineCol) :
    afterEach texts p = (after texts.flatten p).below (partings texts) := by
  induction texts generalizing p with
  | nil => rfl
  | cons text rest ih =>
    show afterEach rest (after text p) = _
    rw [ih, afterInTurn, belowInTurn]
    rfl

end LineCol
end Packrat

import Mathlib.Order.Bounds.Defs
import Mathlib.Order.MinMax
import Packrat.Error.Hint

/-! The distance of two texts. Row by row the table holds the distances of their beginnings, and the last cell
is the least number of characters to put in, take out or replace that makes the second text of the first. -/
namespace Packrat

inductive Edit : List Char → List Char → Prop where
  | insert (before after : List Char) (c : Char) : Edit (before ++ after) (before ++ c :: after)
  | delete (before after : List Char) (c : Char) : Edit (before ++ c :: after) (before ++ after)
  | substitute (before after : List Char) (c d : Char) : Edit (before ++ c :: after) (before ++ d :: after)

inductive Edits : Nat → List Char → List Char → Prop where
  | none (text : List Char) : Edits 0 text text
  | next {n : Nat} {text edited target : List Char} (first : Edit text edited) (rest : Edits n edited target) :
      Edits (n + 1) text target

namespace Edit

theorem behindChar {a b : List Char} (edit : Edit a b) (x : Char) : Edit (x :: a) (x :: b) := by
  cases edit with
  | insert before after c => exact .insert (x :: before) after c
  | delete before after c => exact .delete (x :: before) after c
  | substitute before after c d => exact .substitute (x :: before) after c d

theorem reversedTexts {a b : List Char} (edit : Edit a b) : Edit a.reverse b.reverse := by
  cases edit with
  | insert before after c => simpa using Edit.insert after.reverse before.reverse c
  | delete before after c => simpa using Edit.delete after.reverse before.reverse c
  | substitute before after c d => simpa using Edit.substitute after.reverse before.reverse c d

end Edit

namespace Edits

theorem underMap {f : List Char → List Char} (each : ∀ {a b}, Edit a b → Edit (f a) (f b)) {n : Nat} {a b : List Char}
    (edits : Edits n a b) : Edits n (f a) (f b) := by
  induction edits with
  | none text => exact .none (f text)
  | next first _ ih => exact .next (each first) ih

theorem behindChar {n : Nat} {a b : List Char} (edits : Edits n a b) (x : Char) : Edits n (x :: a) (x :: b) :=
  edits.underMap (·.behindChar x)

theorem reverseIff {n : Nat} {a b : List Char} : Edits n a.reverse b.reverse ↔ Edits n a b := by
  constructor
  · intro edits
    simpa using edits.underMap Edit.reversedTexts
  · exact underMap Edit.reversedTexts

end Edits

def fewestEdits : List Char → List Char → Nat
  | [], b => b.length
  | a, [] => a.length
  | x :: a, y :: b =>
    min (min (fewestEdits a (y :: b) + 1) (fewestEdits (x :: a) b + 1)) (fewestEdits a b + if x = y then 0 else 1)

@[simp] theorem fewestEditsFromEmpty (b : List Char) : fewestEdits [] b = b.length := by
  rw [fewestEdits]

@[simp] theorem fewestEditsToEmpty (a : List Char) : fewestEdits a [] = a.length := by
  cases a <;> simp [fewestEdits]

theorem fewestEditsCons (x y : Char) (a b : List Char) : fewestEdits (x :: a) (y :: b) =
    min (min (fewestEdits a (y :: b) + 1) (fewestEdits (x :: a) b + 1))
      (fewestEdits a b + if x = y then 0 else 1) := by
  rw [fewestEdits]

theorem fewestEditsToItself (a : List Char) : fewestEdits a a = 0 := by
  induction a with
  | nil => simp
  | cons x a ih => simp [fewestEditsCons, ih]

theorem editsAtFewest (a b : List Char) : Edits (fewestEdits a b) a b := by
  induction a, b using fewestEdits.induct with
  | case1 b =>
    rw [fewestEditsFromEmpty]
    induction b with
    | nil => exact .none []
    | cons y b ih => exact .next (.insert [] [] y) (Edits.behindChar ih y)
  | case2 a some =>
    rw [fewestEditsToEmpty]
    clear some
    induction a with
    | nil => exact .none []
    | cons x a ih => exact .next (.delete [] a x) ih
  | case3 x a y b shorter longer both =>
    have deleted : Edits (fewestEdits a (y :: b) + 1) (x :: a) (y :: b) := .next (.delete [] a x) shorter
    have inserted : Edits (fewestEdits (x :: a) b + 1) (x :: a) (y :: b) :=
      .next (.insert [] (x :: a) y) (longer.behindChar y)
    have kept : Edits (fewestEdits a b + if x = y then 0 else 1) (x :: a) (y :: b) := by
      split
      · rename_i same
        exact same ▸ both.behindChar x
      · exact .next (.substitute [] a x y) (both.behindChar y)
    rw [fewestEditsCons]
    exact min_rec' (Edits · (x :: a) (y :: b)) (min_rec' (Edits · (x :: a) (y :: b)) deleted inserted) kept

def Near (a a' : List Char) : Prop := ∀ b, fewestEdits a b ≤ fewestEdits a' b + 1

theorem fewestEditsInsert (a b : List Char) (y : Char) : fewestEdits a (y :: b) ≤ fewestEdits a b + 1 := by
  cases a with
  | nil => simp
  | cons x a =>
    rw [fewestEditsCons]
    omega

namespace Near

theorem firstDeleted (a : List Char) (x : Char) : Near (x :: a) a := by
  intro b
  cases b with
  | nil => simp
  | cons y b =>
    rw [fewestEditsCons]
    omega

theorem firstInserted (a : List Char) (x : Char) : Near a (x :: a) := by
  intro b
  induction b with
  | nil =>
    simp only [fewestEditsToEmpty, List.length_cons]
    omega
  | cons y b ih =>
    have further := fewestEditsInsert a b y
    rw [fewestEditsCons]
    omega

theorem firstSubstituted (a : List Char) (x x' : Char) : Near (x :: a) (x' :: a) := by
  intro b
  induction b with
  | nil => simp
  | cons y b ih =>
    rw [fewestEditsCons, fewestEditsCons]
    split <;> omega

theorem behindChar {a a' : List Char} (near : Near a a') (x : Char) : Near (x :: a) (x :: a') := by
  intro b
  induction b with
  | nil =>
    have lengths := near []
    simp only [fewestEditsToEmpty, List.length_cons] at lengths ⊢
    omega
  | cons y b ih =>
    have whole := near (y :: b)
    have rest := near b
    rw [fewestEditsCons, fewestEditsCons]
    omega

theorem behindText {a a' : List Char} (near : Near a a') (before : List Char) : Near (before ++ a) (before ++ a') := by
  induction before with
  | nil => exact near
  | cons x before ih => exact ih.behindChar x

end Near

theorem Edit.isNear {a a' : List Char} (edit : Edit a a') : Near a a' := by
  cases edit with
  | insert before after c => exact (Near.firstInserted after c).behindText before
  | delete before after c => exact (Near.firstDeleted after c).behindText before
  | substitute before after c d => exact (Near.firstSubstituted after c d).behindText before

theorem Edits.fewestAtMost {n : Nat} {a b : List Char} (edits : Edits n a b) : fewestEdits a b ≤ n := by
  induction edits with
  | none text => exact Nat.le_of_eq (fewestEditsToItself text)
  | @next n _ _ target first _ ih =>
    have near := first.isNear target
    omega

theorem fewestEditsIsLeast (a b : List Char) : IsLeast {n | Edits n a b} (fewestEdits a b) :=
  ⟨editsAtFewest a b, fun _ edits => edits.fewestAtMost⟩

namespace EditRows

def Holds {width : Nat} (row : Vector Nat (width + 1)) (passed target : List Char) (column : Nat) : Prop :=
  ∀ j (inside : j < width + 1), j ≤ column → row[j] = fewestEdits passed (target.take j).reverse

theorem firstRowHolds (target : List Char) : Holds (first target.length).above [] target target.length := by
  intro j inside short
  simp [first, short]

/- Nothing is asked of `under` behind the column: what is left there is written over before it is read. -/
theorem fillHolds {width : Nat} {a : Char} {passed before rest target : List Char} {column : Nat}
    {rows : EditRows width} (fits : column + rest.length = width) (cut : before ++ rest = target)
    (length : before.length = column) (above : Holds rows.above passed target width)
    (under : Holds rows.under (a :: passed) target column) :
    Holds (fill a rest column fits rows).under (a :: passed) target width := by
  induction rest generalizing before column rows with
  | nil =>
    obtain rfl : column = width := fits
    exact under
  | cons b rest ih =>
    have cut' : (before ++ [b]) ++ rest = target := by rw [← List.append_cons, cut]
    have length' : (before ++ [b]).length = column + 1 := by rw [List.length_append, length, List.length_singleton]
    have here : target.take column = before := cut ▸ List.take_left' length
    have further : target.take (column + 1) = before ++ [b] := cut' ▸ List.take_left' length'
    have inside : column + 1 < width + 1 := by simp only [List.length_cons] at fits; omega
    refine ih _ cut' length' above ?_
    intro j short filled
    rw [Vector.getElem_set]
    split
    · rename_i same
      subst same
      rw [above (column + 1) inside (by omega), under column (by omega) le_rfl, above column (by omega) (by omega),
        further, here, List.reverse_concat, fewestEditsCons]
    · exact under j short (by omega)

theorem passHolds {passed target : List Char} {rows : EditRows target.length} (a : Char)
    (above : Holds rows.above passed target target.length) :
    Holds (pass target passed.length a rows).above (a :: passed) target target.length := by
  refine fillHolds (Nat.zero_add _) (List.nil_append target) rfl above ?_
  intro j inside none
  obtain rfl : j = 0 := by omega
  simp

theorem passAllHolds {passed target : List Char} {rows : EditRows target.length} (source : List Char)
    (above : Holds rows.above passed target target.length) :
    Holds (passAll target source passed.length rows).above (source.reverse ++ passed) target target.length := by
  induction source generalizing passed rows with
  | nil => exact above
  | cons a rest ih => simpa [passAll] using ih (passHolds a above)

end EditRows

theorem editDistanceOfReversed (source target : List Char) :
    editDistance source target = fewestEdits source.reverse target.reverse := by
  have last := EditRows.passAllHolds source (EditRows.firstRowHolds target) target.length (Nat.lt_succ_self _) le_rfl
  simpa [editDistance] using last

theorem editDistanceLeast (source target : List Char) :
    IsLeast {n | Edits n source target} (editDistance source target) := by
  have least := fewestEditsIsLeast source.reverse target.reverse
  simp only [Edits.reverseIff] at least
  rwa [editDistanceOfReversed]

example : editDistance "kitten".toList "sitting".toList = 3 := by decide

end Packrat

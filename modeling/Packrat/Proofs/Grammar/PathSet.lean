import Packrat.Grammar.Path

/-! Sets of paths, seen through their members. -/
namespace Packrat

theorem Symbol.symbolsOrderedEqual {a b : Symbol} (same : a.order b = .eq) : a = b := by
  cases a <;> cases b <;> simp_all [Symbol.order]

theorem Path.pathsOrderedEqual {p q : Path} (same : p.order q = .eq) : p = q := by
  induction p generalizing q with
  | nil =>
    cases q with
    | nil => rfl
    | cons b q => simp [Path.order] at same
  | cons a p ih =>
    cases q with
    | nil => simp [Path.order] at same
    | cons b q =>
      unfold Path.order at same
      split at same
      · rename_i symbols
        rw [Symbol.symbolsOrderedEqual symbols, ih same]
      · rename_i decided
        exact absurd same decided

namespace PathSet

theorem memPlace {x p : Path} {rest : PathSet → PathSet} (more : Path → Prop)
    (members : ∀ {paths}, x ∈ rest paths ↔ more x ∨ x ∈ paths) (paths : PathSet) :
    x ∈ place p rest paths ↔ x = p ∨ more x ∨ x ∈ paths := by
  induction paths with
  | nil => simp [place, members]
  | cons q paths ih =>
    unfold place
    split
    · simp [members]
    · rename_i same
      rw [Path.pathsOrderedEqual same]
      grind
    · grind

@[simp] theorem memInsert {x p : Path} {paths : PathSet} : x ∈ insert p paths ↔ x = p ∨ x ∈ paths := by
  rw [insert, memPlace (fun _ => False) (by simp) paths, false_or]

@[simp] theorem memUnion {x : Path} {a b : PathSet} : x ∈ union a b ↔ x ∈ a ∨ x ∈ b := by
  induction a generalizing b with
  | nil => simp [union]
  | cons p a ih =>
    rw [union, memPlace (· ∈ a) ih b]
    simp [or_assoc]

@[simp] theorem memAppend {x : Path} {a b : PathSet} : x ∈ append a b ↔ ∃ p ∈ a, ∃ q ∈ b, x = p ++ q := by
  unfold append
  induction a with
  | nil => simp
  | cons p a ih =>
    rw [List.foldr_cons, memUnion, ih]
    simp [eq_comm]

theorem memConcats {x p : Path} {b acc : PathSet} {k : Nat} :
    x ∈ b.foldr (fun q acc => insert (p.concat q k) acc) acc ↔ (∃ q ∈ b, x = (p ++ q).take k) ∨ x ∈ acc := by
  induction b with
  | nil => simp
  | cons q b ih =>
    rw [List.foldr_cons, memInsert, ih]
    simp [Path.concat, or_assoc]

@[simp] theorem memProduct {x : Path} {a b : PathSet} {k : Nat} :
    x ∈ product a b k ↔ ∃ p ∈ a, k ≤ p.length ∧ x = p ∨ p.length < k ∧ ∃ q ∈ b, x = (p ++ q).take k := by
  unfold product
  induction a with
  | nil => simp
  | cons p a ih =>
    rw [List.foldr_cons]
    split
    · rename_i full
      simp [ih, full, Nat.not_lt.mpr full]
    · rename_i short
      rw [memConcats, ih]
      simp [short, Nat.lt_of_not_le short]

theorem nilMemProduct {a b : PathSet} {k : Nat} (positive : 0 < k) : [] ∈ product a b k ↔ [] ∈ a ∧ [] ∈ b := by
  rw [memProduct]
  constructor
  · rintro ⟨p, member, ⟨full, rfl⟩ | ⟨_, q, member', eq⟩⟩
    · exact absurd (Nat.le_zero.mp full) (Nat.ne_of_gt positive)
    · have := congrArg List.length eq.symm
      simp only [List.length_take, List.length_append, List.length_nil] at this
      obtain ⟨rfl, rfl⟩ : p = [] ∧ q = [] := by
        constructor <;> refine List.eq_nil_of_length_eq_zero ?_ <;> omega
      exact ⟨member, member'⟩
  · rintro ⟨member, member'⟩
    exact ⟨[], member, .inr ⟨positive, [], member', by simp⟩⟩

def close (once : PathSet) (k : Nat) : Nat → PathSet → PathSet
  | 0, acc => acc
  | rounds + 1, acc =>
    let next := union (product acc once k) acc
    if next = acc then acc else close once k rounds next

theorem subsetClose {x : Path} {once acc : PathSet} {k : Nat} (rounds : Nat) (member : x ∈ acc) :
    x ∈ close once k rounds acc := by
  induction rounds generalizing acc with
  | zero => exact member
  | succ rounds ih =>
    simp only [close]
    split
    · exact member
    · exact ih (by simp [member])

theorem nilMemClose {once acc : PathSet} {k : Nat} (positive : 0 < k) (rounds : Nat) :
    [] ∈ close once k rounds acc ↔ [] ∈ acc := by
  induction rounds generalizing acc with
  | zero => rfl
  | succ rounds ih =>
    simp only [close]
    split
    · rfl
    · rw [ih, memUnion, nilMemProduct positive]
      exact ⟨fun either => either.elim And.left id, .inr⟩

end PathSet
end Packrat

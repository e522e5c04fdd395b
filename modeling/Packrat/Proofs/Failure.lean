import Packrat.Failure

/-! Laws of the furthest failure. Joining failures is associative, so what a stretch of a run
recorded can be joined as a whole, and a path can be put below another before or after. -/
namespace Packrat

theorem addNamesNil (names : List String) : addNames names [] = names := rfl

theorem addNamesCons (names : List String) (name : String) (more : List String) :
    addNames names (name :: more) =
      addNames (if names.contains name then names else names ++ [name]) more := rfl

theorem addNamesAppend (names more others : List String) :
    addNames names (more ++ others) = addNames (addNames names more) others := by
  simp [addNames, List.foldl_append]

theorem memAddNames {names more : List String} {name : String} :
    name ∈ addNames names more ↔ name ∈ names ∨ name ∈ more := by
  induction more generalizing names with
  | nil => simp [addNamesNil]
  | cons head more ih =>
    rw [addNamesCons, ih]
    split
    · rename_i present
      simp only [List.contains_iff_mem] at present
      constructor
      · rintro (h | h)
        · exact .inl h
        · exact .inr (List.mem_cons_of_mem _ h)
      · rintro (h | h)
        · exact .inl h
        · rcases List.mem_cons.mp h with rfl | h
          · exact .inl present
          · exact .inr h
    · rw [List.mem_append, List.mem_singleton, List.mem_cons]
      exact or_assoc

theorem addNamesAssoc (names more others : List String) :
    addNames (addNames names more) others = addNames names (addNames more others) := by
  induction others generalizing more with
  | nil => rfl
  | cons name others ih =>
    rw [addNamesCons, addNamesCons]
    by_cases inner : more.contains name
    · have outer : (addNames names more).contains name := by
        simp only [List.contains_iff_mem] at inner ⊢
        exact memAddNames.mpr (.inr inner)
      rw [if_pos inner, if_pos outer]
      exact ih more
    · rw [if_neg inner, ← ih, addNamesAppend]
      rfl

namespace Failure

theorem mergeEmpty (f : Failure) : f.merge {} = f := rfl

theorem emptyMerge {f : Failure} (h : f.offset = none → f = {}) : ({} : Failure).merge f = f := by
  unfold merge
  split
  · rename_i none
    exact (h none).symm
  · rfl

section
variable {f g : Failure} {i j : Nat}

theorem mergeNowhere (gOff : g.offset = none) : f.merge g = f := by simp [merge, gOff]

theorem nowhereMerge (fOff : f.offset = none) (gOff : g.offset = some j) : f.merge g = g := by
  simp [merge, fOff, gOff]

theorem mergeBefore (fOff : f.offset = some i) (gOff : g.offset = some j) (before : j < i) : f.merge g = f := by
  simp [merge, fOff, gOff, before]

theorem mergeSame (fOff : f.offset = some i) (gOff : g.offset = some i) :
    f.merge g = { f with expected := addNames f.expected g.expected } := by simp [merge, fOff, gOff]

theorem mergeBeyond (fOff : f.offset = some i) (gOff : g.offset = some j) (beyond : i < j) : f.merge g = g := by
  simp [merge, fOff, gOff, Nat.lt_asymm beyond, Nat.ne_of_gt beyond]

theorem mergeOffset (fOff : f.offset = some i) (gOff : g.offset = some j) :
    (f.merge g).offset = some (max i j) := by
  rcases Nat.lt_trichotomy j i with before | rfl | beyond
  · rw [mergeBefore fOff gOff before, fOff, Nat.max_eq_left (Nat.le_of_lt before)]
  · rw [mergeSame fOff gOff, Nat.max_self]
    exact fOff
  · rw [mergeBeyond fOff gOff beyond, gOff, Nat.max_eq_right (Nat.le_of_lt beyond)]

end

theorem mergeAssoc (f g h : Failure) : (f.merge g).merge h = f.merge (g.merge h) := by
  cases hOff : h.offset with
  | none => rw [mergeNowhere hOff, mergeNowhere hOff]
  | some k =>
    cases gOff : g.offset with
    | none => rw [mergeNowhere gOff, nowhereMerge gOff hOff]
    | some j =>
      have later := mergeOffset gOff hOff
      cases fOff : f.offset with
      | none => rw [nowhereMerge fOff gOff, nowhereMerge fOff later]
      | some i =>
        rcases Nat.lt_trichotomy j i with before | rfl | beyond
        · rw [mergeBefore fOff gOff before]
          rcases Nat.lt_or_ge j k with further | back
          · rw [mergeBeyond gOff hOff further]
          · rw [Nat.max_eq_left back] at later
            rw [mergeBefore fOff later before, mergeBefore fOff hOff (Nat.lt_of_le_of_lt back before)]
        · have joined := mergeOffset fOff gOff
          rw [Nat.max_self] at joined
          rcases Nat.lt_trichotomy k j with before | rfl | beyond
          · rw [mergeBefore joined hOff before, mergeBefore gOff hOff before]
          · rw [mergeSame joined hOff, mergeSame fOff gOff, mergeSame gOff hOff]
            simp only [merge, fOff, gOff, Nat.lt_irrefl, if_false, if_true, addNamesAssoc]
          · rw [mergeBeyond joined hOff beyond, mergeBeyond gOff hOff beyond, mergeBeyond fOff hOff beyond]
        · rw [mergeBeyond fOff gOff beyond, mergeBeyond fOff later (Nat.lt_of_lt_of_le beyond (Nat.le_max_left _ _))]

theorem rootedAtOffset (f : Failure) (stack : List String) :
    (f.rootedAt stack).offset = f.offset := by
  unfold rootedAt
  split <;> rfl

theorem rootedAtNil (f : Failure) : f.rootedAt [] = f := by
  unfold rootedAt
  split <;> rfl

theorem rootedAtRootedAt (f : Failure) (inner outer : List String) :
    (f.rootedAt inner).rootedAt outer = f.rootedAt (outer ++ inner) := by
  cases off : f.offset <;> simp [rootedAt, off]

theorem rootedAtMerge (f g : Failure) (stack : List String) :
    (f.merge g).rootedAt stack = (f.rootedAt stack).merge (g.rootedAt stack) := by
  have fRooted := rootedAtOffset f stack
  have gRooted := rootedAtOffset g stack
  cases gOff : g.offset with
  | none => rw [mergeNowhere gOff, mergeNowhere (gRooted.trans gOff)]
  | some j =>
    rw [gOff] at gRooted
    cases fOff : f.offset with
    | none => rw [nowhereMerge fOff gOff, nowhereMerge (fRooted.trans fOff) gRooted]
    | some i =>
      rw [fOff] at fRooted
      rcases Nat.lt_trichotomy j i with before | rfl | beyond
      · rw [mergeBefore fOff gOff before, mergeBefore fRooted gRooted before]
      · rw [mergeSame fOff gOff, mergeSame fRooted gRooted]
        simp [rootedAt, fOff, gOff]
      · rw [mergeBeyond fOff gOff beyond, mergeBeyond fRooted gRooted beyond]

def Proper (f : Failure) : Prop := f.offset = none → f = {}

theorem emptyProper : Proper {} := fun _ => rfl

theorem Proper.mergeProper {f : Failure} (hf : f.Proper) (g : Failure) : (f.merge g).Proper := by
  intro none
  cases gOff : g.offset with
  | none =>
    rw [mergeNowhere gOff] at none ⊢
    exact hf none
  | some j =>
    cases fOff : f.offset with
    | none =>
      rw [nowhereMerge fOff gOff, gOff] at none
      cases none
    | some i =>
      rw [mergeOffset fOff gOff] at none
      cases none

theorem Proper.rootedAt {f : Failure} (hf : f.Proper) (stack : List String) :
    (f.rootedAt stack).Proper := by
  intro none
  rw [rootedAtOffset] at none
  unfold Failure.rootedAt
  rw [if_neg (by simp [none])]
  exact hf none

theorem Proper.relativeTo {f : Failure} (hf : f.Proper) (stack : List String) :
    (f.rootedAt stack).relativeTo stack.length = f := by
  cases off : f.offset with
  | none =>
    rw [hf off]
    simp [Failure.rootedAt, Failure.relativeTo]
  | some i =>
    unfold Failure.rootedAt Failure.relativeTo
    rw [if_pos (by simp [off])]
    simp

theorem Proper.relativeProper {f : Failure} (hf : f.Proper) (depth : Nat) : (f.relativeTo depth).Proper := by
  intro none
  rw [hf none, Failure.relativeTo]
  exact congrArg (fun path => ({ path := path } : Failure)) List.drop_nil

theorem expectingAsMerge (f : Failure) (name : String) (scan : Scan) (stack : List String) :
    f.expecting name scan stack = f.merge ((({} : Failure).expecting name scan []).rootedAt stack) := by
  simp [expecting, merge, rootedAt]

theorem expectingProper (name : String) (scan : Scan) (stack : List String) :
    (({} : Failure).expecting name scan stack).Proper := by
  intro none
  simp [expecting, merge] at none

end Failure
end Packrat

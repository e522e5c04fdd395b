import Packrat.Text.Position

/-! Cutting a text at byte offsets. A cut inside a character, or beyond the end, gives
nothing. -/
namespace Packrat

def byteLength : List Char → Nat
  | [] => 0
  | c :: rest => c.utf8Size + byteLength rest

theorem byteLengthAppend (a b : List Char) : byteLength (a ++ b) = byteLength a + byteLength b := by
  induction a with
  | nil => simp [byteLength]
  | cons c rest ih => simp [byteLength, ih, Nat.add_assoc]

def splitBytes? : List Char → Nat → Option (List Char × List Char)
  | text, 0 => some ([], text)
  | [], _ + 1 => none
  | c :: rest, n + 1 =>
    if c.utf8Size ≤ n + 1 then
      (splitBytes? rest (n + 1 - c.utf8Size)).map fun r => (c :: r.1, r.2)
    else none

theorem splitBytesParts {text before after : List Char} {n : Nat}
    (h : splitBytes? text n = some (before, after)) :
    before ++ after = text ∧ byteLength before = n := by
  induction text generalizing n before with
  | nil =>
    cases n with
    | zero => simp [splitBytes?] at h; simp [h, byteLength]
    | succ n => simp [splitBytes?] at h
  | cons c rest ih =>
    cases n with
    | zero => simp [splitBytes?] at h; obtain ⟨rfl, rfl⟩ := h; simp [byteLength]
    | succ n =>
      simp only [splitBytes?] at h
      split at h
      · simp only [Option.map_eq_some_iff, Prod.mk.injEq] at h
        obtain ⟨r, found, rfl, rfl⟩ := h
        have inner := ih found
        refine ⟨by simp [inner.1], ?_⟩
        simp only [byteLength, inner.2]
        omega
      · simp at h

def dropBytes? (text : List Char) (n : Nat) : Option (List Char) :=
  (splitBytes? text n).map (·.2)

def slice? (text : List Char) (start stop : Nat) : Option (List Char) :=
  if start ≤ stop then
    (dropBytes? text start).bind fun rest => (splitBytes? rest (stop - start)).map (·.1)
  else none

def TextRange.slice (r : TextRange) (text : List Char) : List Char :=
  (slice? text r.start r.stop).getD []

def excerpt? (text : List Char) (span : TextRange) (n : Nat) :
    Option (List Char × List Char × List Char) := do
  let middle ← slice? text span.start span.stop
  let (before, _) ← splitBytes? text span.start
  let after ← dropBytes? text span.stop
  pure (before.drop (before.length - n), middle, after.take n)

end Packrat

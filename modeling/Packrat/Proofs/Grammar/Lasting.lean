import Packrat.Proofs.Grammar.Asked

/-! Levels that are kept stay as they are: while a level is made only shallower ones are written. So what was
dropped from a level can still be told when the search is over. -/
namespace Packrat

namespace Findings

def Lasts (f g : Findings) : Prop := ∀ key e, f.levelCache.lookup key = some e → g.levelCache.lookup key = some e

structure Adds (depth : Nat) (f g : Findings) : Prop where
  lasts : f.Lasts g
  deeper : ∀ key : String × Nat, depth < key.2 → g.levelCache.lookup key = f.levelCache.lookup key

variable {depth : Nat} {f g h : Findings}

theorem Lasts.trans (first : f.Lasts g) (later : g.Lasts h) : f.Lasts h :=
  fun key e kept => later key e (first key e kept)

theorem lastsSame (same : g.levelCache = f.levelCache) : f.Lasts g := by
  intro key e kept
  rwa [same]

theorem addsSame (same : g.levelCache = f.levelCache) : f.Adds depth g := ⟨lastsSame same, fun _ _ => by rw [same]⟩

theorem Adds.trans (first : f.Adds depth g) (later : g.Adds depth h) : f.Adds depth h :=
  ⟨first.lasts.trans later.lasts, fun key deeper => (later.deeper key deeper).trans (first.deeper key deeper)⟩

theorem Adds.upTo {more : Nat} (adds : f.Adds depth g) (le : depth ≤ more) : f.Adds more g :=
  ⟨adds.lasts, fun key deeper => adds.deeper key (by omega)⟩

theorem addsKept {rule : String} {e : Expansion} (free : ∀ e', f.levelCache.lookup (rule, depth) = some e' → e' = e)
    (wrote : g.levelCache = Analyzer.putEntry (rule, depth) e f.levelCache) : f.Adds depth g where
  lasts key e' kept := by
    rw [wrote, Analyzer.lookupPutEntry]
    split
    · rename_i same
      subst same
      rw [free e' kept]
    · exact kept
  deeper key deeper := by
    rw [wrote, Analyzer.lookupPutEntry, if_neg]
    rintro rfl
    exact Nat.lt_irrefl _ deeper

end Findings

namespace Analyzer

def Deposits {α : Type} (a : Analyzer) (depth : Nat) (query : Query α) : Prop :=
  ∀ f value g, query f = .ok value g → f.Levelled a → g.Levelled a ∧ f.Adds depth g

section
variable {a : Analyzer} {α β : Type} {depth : Nat}

theorem depositsPure (value : α) : a.Deposits depth (pure value) := by
  intro f v g ran levelled
  cases ran
  exact ⟨levelled, Findings.addsSame rfl⟩

theorem depositsBind {x : Query α} {next : α → Query β} (first : a.Deposits depth x)
    (later : ∀ v, a.Deposits depth (next v)) : a.Deposits depth (x >>= next) := by
  intro f w h ran levelled
  obtain ⟨v, g, ran, ran'⟩ := bindOk ran
  obtain ⟨levelled, adds⟩ := first f v g ran levelled
  obtain ⟨levelled, adds'⟩ := later v g w h ran' levelled
  exact ⟨levelled, adds.trans adds'⟩

theorem depositsTick : a.Deposits depth a.tick := by
  intro f u g ran levelled
  exact ⟨(givesTick f u g ran levelled).2.1, Findings.addsSame (tickOk ran).2⟩

theorem depositsStructural (depth : Nat) (n : Node) : a.Deposits depth (a.structural n) := by
  induction n using Node.induction with
  | consume token => exact depositsBind depositsTick fun _ => depositsPure _
  | call rule => exact depositsBind depositsTick fun _ => depositsPure _
  | inOrder parts rule ih =>
    refine depositsBind depositsTick fun _ => ?_
    generalize (⟨[[]], false⟩ : Expansion) = acc
    induction parts generalizing acc with
    | nil => exact depositsPure acc
    | cons n rest later =>
      rw [List.forall_mem_cons] at ih
      exact depositsBind ih.1 fun _ => later ih.2 _
  | firstOf branches ih =>
    refine depositsBind depositsTick fun _ => ?_
    generalize ({} : Expansion) = acc
    induction branches generalizing acc with
    | nil => exact depositsPure acc
    | cons n rest later =>
      rw [List.forall_mem_cons] at ih
      exact depositsBind ih.1 fun _ => later ih.2 _
  | optional body ih => exact depositsBind depositsTick fun _ => depositsBind ih fun _ => depositsPure _
  | many body ih => exact depositsBind depositsTick fun _ => depositsBind ih fun _ => depositsPure _
  | some body ih => exact depositsBind depositsTick fun _ => ih

theorem depositsSubstitute {level : String → Query Expansion} (each : ∀ name, a.Deposits depth (level name))
    (base : Expansion) : a.Deposits depth (a.substitute level base) := by
  have path : ∀ p acc, a.Deposits depth (a.substitutePath level p acc) := by
    intro p
    induction p with
    | nil => exact fun acc => depositsPure acc
    | cons symbol p ih =>
      intro acc
      cases symbol with
      | token name => exact ih _
      | rule name => exact depositsBind (each name) fun _ => ih _
  unfold substitute
  generalize (⟨[], base.truncated⟩ : Expansion) = out
  induction base.paths generalizing out with
  | nil => exact depositsPure out
  | cons p rest ih =>
    refine depositsBind (path p _) fun e => ?_
    dsimp only
    split
    · exact depositsPure _
    · exact ih _

end

theorem foldlNone {α β : Type} {step : Option α → β → Option α} {near : β → Prop}
    (keeps : ∀ best entry, step best entry = none → best = none ∧ ¬ near entry) {entries : List β} {best : Option α}
    (nothing : entries.foldl step best = none) : best = none ∧ ∀ entry ∈ entries, ¬ near entry := by
  induction entries generalizing best with
  | nil => exact ⟨nothing, List.forall_mem_nil _⟩
  | cons entry rest ih =>
    obtain ⟨first, later⟩ := ih nothing
    obtain ⟨before, other⟩ := keeps best entry first
    exact ⟨before, List.forall_mem_cons.mpr ⟨other, later⟩⟩

section
variable {a : Analyzer} {f g : Findings} {rule : String}

theorem nearestLevelNone {depth : Nat} (far : nearestLevel rule depth f = none) {shallower : Nat}
    (less : shallower < depth) : f.levelCache.lookup (rule, shallower) = none := by
  have passed : ∀ entry ∈ f.levelCache, ¬ (entry.1.1 = rule ∧ entry.1.2 < depth) := by
    refine (foldlNone (fun best entry nothing => ?_) far).2
    split at nothing
    · split at nothing
      · split at nothing <;> cases nothing
      · cases nothing
    · rename_i other
      exact ⟨nothing, other⟩
  cases found : f.levelCache.lookup (rule, shallower) with
  | none => rfl
  | some e =>
    obtain ⟨before, after, eq, _⟩ := List.lookup_eq_some_iff.mp found
    exact absurd ⟨rfl, less⟩ (passed ((rule, shallower), e) (by simp [eq]))

theorem baseAdds {body : Node} {depth : Nat} {base : Nat × Expansion} (positive : 0 < depth)
    (miss : f.levelCache.lookup (rule, depth) = none) (ran : a.baseLevel rule body depth f = .ok base g)
    (levelled : f.Levelled a) :
    f.Adds 1 g ∧ (base.1 = depth → g.levelCache.lookup (rule, depth) = some base.2) := by
  obtain ⟨_, _, got, ran⟩ := bindOk ran
  cases got
  cases near : nearestLevel rule depth f with
  | some base =>
    rw [near] at ran
    cases ran
    exact ⟨Findings.addsSame rfl, fun same => absurd same (Nat.ne_of_lt (nearestLevelMem near).1)⟩
  | none =>
    rw [near] at ran
    obtain ⟨e, f', made, ran⟩ := bindOk ran
    obtain ⟨_, _, kept, ran⟩ := bindOk ran
    cases kept
    cases ran
    have adds := (depositsStructural 0 body f e f' made levelled).2
    have free : f'.levelCache.lookup (rule, 1) = none := by
      rw [adds.deeper _ Nat.one_pos]
      rcases Nat.eq_or_lt_of_le positive with rfl | deep
      · exact miss
      · exact nearestLevelNone near deep
    refine ⟨(adds.upTo (Nat.zero_le _)).trans (Findings.addsKept (by simp [free]) rfl), fun same => ?_⟩
    simp only [← same, lookupPutEntry, if_true]

theorem withinAdds (bound : Nat) {depth : Nat} (positive : 0 < depth) (enough : depth ≤ bound) {e : Expansion}
    (ran : a.levelWithin bound rule depth f = .ok e g) (levelled : f.Levelled a) :
    f.Adds depth g ∧ (e.truncated = true → g.levelCache.lookup (rule, depth) = some e) := by
  induction bound generalizing rule depth e f g with
  | zero => exact absurd (Nat.lt_of_lt_of_le positive enough) (Nat.lt_irrefl 0)
  | succ bound ih =>
    rw [levelWithin] at ran
    obtain ⟨_, _, got, ran⟩ := bindOk ran
    cases got
    cases found : f.levelCache.lookup (rule, depth) with
    | some hit =>
      rw [found] at ran
      cases ran
      exact ⟨Findings.addsSame rfl, fun _ => found⟩
    | none =>
      rw [found] at ran
      obtain ⟨_, _, counted, ran⟩ := bindOk ran
      cases counted
      obtain ⟨_, f', ticked, ran⟩ := bindOk ran
      have same : f'.levelCache = f.levelCache := (tickOk ticked).2
      have levelled : f'.Levelled a := by
        unfold Findings.Levelled
        rw [same]
        exact levelled
      rw [← same] at found
      cases known : a.grammar.rule? rule with
      | none =>
        rw [known] at ran
        cases ran
        exact ⟨Findings.addsSame same, by simp⟩
      | some body =>
        rw [known] at ran
        obtain ⟨⟨level, base⟩, g', based, ran⟩ := bindOk ran
        obtain ⟨adds, own⟩ := baseAdds positive found based levelled
        obtain ⟨_, levelled, some, before, _⟩ := givesBase known positive _ _ _ based levelled
        -- at its end a level is written under a key that is free, or holds it
        have ends : ∀ {h : Findings} {e' : Expansion}, f'.Adds depth h →
            (∀ kept, h.levelCache.lookup (rule, depth) = Option.some kept → kept = e') →
            (do keepLevel rule depth e'; pure e' : Query Expansion) h = .ok e g →
            f.Adds depth g ∧ (e.truncated = true → g.levelCache.lookup (rule, depth) = Option.some e) := by
          intro h e' adds free ran
          cases ran
          refine ⟨((Findings.addsSame same).trans adds).trans (Findings.addsKept free rfl), fun _ => ?_⟩
          simp only [lookupPutEntry, if_true]
        dsimp only at ran own some before
        split at ran
        · rename_i here
          refine ends (adds.upTo positive) (fun kept found => ?_) ran
          exact Option.some.inj (found.symm.trans (own here))
        · rename_i shallower
          obtain ⟨e', h, filled, ran⟩ := bindOk ran
          have each : ∀ name, a.Deposits (depth - level) (a.levelWithin bound name (depth - level)) :=
            fun name f v g ran levelled => ⟨(givesWithin bound name (by omega) (by omega) f v g ran levelled).2.1,
              (ih (by omega) (by omega) ran levelled).1⟩
          obtain ⟨_, adds'⟩ := depositsSubstitute each base g' e' h filled levelled
          refine ends ((adds.upTo positive).trans (adds'.upTo (Nat.sub_le _ _))) (fun kept found' => ?_) ran
          rw [adds'.deeper _ (by dsimp only; omega), adds.deeper _ (by dsimp only; omega), found] at found'
          cases found'

theorem levelAdds {depth : Nat} {e : Expansion} (ran : a.level rule depth f = .ok e g) (levelled : f.Levelled a) :
    g.Levelled a ∧ f.Lasts g ∧ (e.truncated = true → g.levelCache.lookup (rule, max depth 1) = some e) := by
  have positive : 0 < max depth 1 := Nat.lt_of_lt_of_le Nat.one_pos (Nat.le_max_right _ _)
  obtain ⟨adds, kept⟩ := withinAdds _ positive (Nat.le_refl _) ran levelled
  exact ⟨(givesWithin _ rule positive (Nat.le_refl _) f e g ran levelled).2.1, adds.lasts, kept⟩

theorem inLevelsLasts (count : Nat) {depth : Nat} {truncated : Bool} {answer : Option Bool}
    (ran : a.recursionInLevels rule count depth truncated f = .ok answer g) (levelled : f.Levelled a) :
    f.Lasts g ∧ (answer = none → truncated = true ∨
      ∃ key e, g.levelCache.lookup key = some e ∧ e.truncated = true) := by
  induction count generalizing depth truncated f with
  | zero =>
    cases ran
    refine ⟨Findings.lastsSame rfl, fun unknown => .inl ?_⟩
    cases truncated with
    | true => rfl
    | false => cases unknown
  | succ count ih =>
    obtain ⟨e, f', levels, ran⟩ := bindOk ran
    obtain ⟨levelled, lasts, kept⟩ := levelAdds levels levelled
    split at ran
    · cases ran
      exact ⟨lasts, nofun⟩
    · obtain ⟨lasts', seen⟩ := ih ran levelled
      refine ⟨lasts.trans lasts', fun unknown => ?_⟩
      rcases seen unknown with either | later
      · rcases Bool.or_eq_true_iff.mp either with before | here
        · exact .inl before
        · exact .inr ⟨_, e, lasts' _ e (kept here), here⟩
      · exact .inr later

end

end Analyzer
end Packrat

import Packrat.Proofs.Grammar.Expanding
import Packrat.Proofs.Grammar.Level

/-! Expansion level by level gives the levels of the grammar, as far as no paths were dropped, and
finds left recursion where a rule is some steps away from itself. -/
namespace Packrat

structure Expansion.Fits (e : Expansion) (described : Path → Prop) : Prop where
  sound : ∀ p ∈ e.paths, described p
  complete : e.truncated = false → ∀ p, described p → p ∈ e.paths

namespace Expansion.Fits

variable {e : Expansion} {described other : Path → Prop}

theorem congr (fits : e.Fits described) (same : ∀ p, described p ↔ other p) : e.Fits other :=
  ⟨fun p inside => (same p).mp (fits.sound p inside), fun all p told => fits.complete all p ((same p).mpr told)⟩

theorem withFlag {paths : PathSet} {truncated : Bool} (fits : Fits ⟨paths, truncated⟩ described) (truncated' : Bool)
    (all : truncated' = false → truncated = false) : Fits ⟨paths, truncated'⟩ described :=
  ⟨fits.sound, fun none => fits.complete (all none)⟩

theorem whenCapped (fits : e.Fits described) (limit : Nat) : (Analyzer.capped limit e).Fits described := by
  refine ⟨fun p inside => fits.sound p (List.mem_of_mem_take inside), fun all p told => ?_⟩
  simp only [Analyzer.capped, Bool.or_eq_false_iff, decide_eq_false_iff_not, Nat.not_lt] at all ⊢
  rw [List.take_of_length_le all.2]
  exact fits.complete all.1 p told

end Expansion.Fits

def Findings.Levelled (a : Analyzer) (f : Findings) : Prop :=
  ∀ rule depth e, ((rule, depth), e) ∈ f.levelCache → 0 < depth ∧ e.Fits (a.grammar.Level depth rule)

namespace Analyzer

def Gives {α : Type} (a : Analyzer) (query : Query α) (result : α → Prop) : Prop :=
  ∀ f value g, query f = .ok value g → f.Levelled a → g.desk = f.desk ∧ g.Levelled a ∧ result value

section
variable {a : Analyzer} {α β : Type}

theorem givesPure {result : α → Prop} {value : α} (good : result value) : a.Gives (pure value) result := by
  intro f v g ran levelled
  cases ran
  exact ⟨rfl, levelled, good⟩

theorem givesBind {x : Query α} {next : α → Query β} {first : α → Prop} {result : β → Prop}
    (gives : a.Gives x first) (later : ∀ v, first v → a.Gives (next v) result) : a.Gives (x >>= next) result := by
  intro f w h ran levelled
  obtain ⟨v, g, ran, ran'⟩ := bindOk ran
  obtain ⟨desk, levelled, good⟩ := gives f v g ran levelled
  obtain ⟨desk', levelled, good⟩ := later v good g w h ran' levelled
  exact ⟨desk'.trans desk, levelled, good⟩

theorem givesTick : a.Gives a.tick fun _ => True := by
  intro f u g ran levelled
  obtain ⟨desk, levels⟩ := tickOk ran
  refine ⟨desk, ?_, trivial⟩
  unfold Findings.Levelled
  rw [levels]
  exact levelled

theorem givesAfterTick {query : Query α} {result : α → Prop} (gives : a.Gives query result) :
    a.Gives (a.tick >>= fun _ => query) result := givesBind givesTick fun _ _ => gives

theorem Gives.weakerResult {query : Query α} {result other : α → Prop} (gives : a.Gives query result)
    (weaker : ∀ v, result v → other v) : a.Gives query other := by
  intro f v g ran levelled
  obtain ⟨desk, levelled, good⟩ := gives f v g ran levelled
  exact ⟨desk, levelled, weaker v good⟩

end

section
variable {a : Analyzer}

theorem fitsAppend {acc tail : Expansion} {first later : Path → Prop} (fits : acc.Fits first)
    (fits' : tail.Fits later) :
    Expansion.Fits ⟨PathSet.append acc.paths tail.paths, acc.truncated || tail.truncated⟩ (Path.Then first later) := by
  constructor
  · intro p inside
    obtain ⟨u, member, v, member', rfl⟩ := PathSet.memAppend.mp inside
    exact ⟨u, v, fits.sound u member, fits'.sound v member', rfl⟩
  · rintro all p ⟨u, v, told, told', rfl⟩
    rw [Bool.or_eq_false_iff] at all
    exact PathSet.memAppend.mpr ⟨u, fits.complete all.1 u told, v, fits'.complete all.2 v told', rfl⟩

theorem fitsUnion {acc other : Expansion} {first later : Path → Prop} (fits : acc.Fits first)
    (fits' : other.Fits later) :
    Expansion.Fits ⟨PathSet.union acc.paths other.paths, acc.truncated || other.truncated⟩ fun p => first p ∨
        later p := by
  constructor
  · intro p inside
    exact (PathSet.memUnion.mp inside).imp (fits.sound p) (fits'.sound p)
  · intro all p told
    rw [Bool.or_eq_false_iff] at all
    exact PathSet.memUnion.mpr (told.imp (fits.complete all.1 p) (fits'.complete all.2 p))

theorem fitsInsert {e : Expansion} {described : Path → Prop} (fits : e.Fits described) :
    Expansion.Fits ⟨PathSet.insert [] e.paths, e.truncated⟩ fun p => p = [] ∨ described p := by
  constructor
  · exact fun p inside => (PathSet.memInsert.mp inside).imp id (fits.sound p)
  · exact fun all p told => PathSet.memInsert.mpr (told.imp id (fits.complete all p))

theorem fitsSingle (p : Path) (truncated : Bool) : Expansion.Fits ⟨[p], truncated⟩ (· = p) :=
  ⟨fun _ inside => List.mem_singleton.mp inside, fun _ _ told => List.mem_singleton.mpr told⟩

theorem givesParts {parts : List Node} (each : ∀ n ∈ parts, a.Gives (a.structural n) (·.Fits n.Spells))
    (rule : Option String) {acc : Expansion} {before : Path → Prop} (fits : acc.Fits before) :
    a.Gives (a.structuralParts parts acc) (·.Fits (Path.Then before (Node.inOrder parts rule).Spells)) := by
  induction parts generalizing acc before with
  | nil =>
    refine givesPure (fits.congr fun p => (Path.thenEmpty p).symm.trans (Path.thenCongr (fun _ => ?_) p))
    exact Node.spellsOfNothing.symm
  | cons n rest ih =>
    unfold structuralParts
    refine givesBind (each n List.mem_cons_self) fun tail fits' => ?_
    refine (ih (fun n member => each n (List.mem_cons_of_mem _ member))
      ((fitsAppend fits fits').whenCapped _)).weakerResult
      fun e fits => fits.congr fun p => (Path.thenAssoc p).trans (Path.thenCongr (fun _ => ?_) p)
    exact Node.spellsOfNext.symm

theorem givesBranches {branches : List Node} (each : ∀ n ∈ branches, a.Gives (a.structural n) (·.Fits n.Spells))
    {acc : Expansion} {before : Path → Prop} (fits : acc.Fits before) :
    a.Gives (a.structuralBranches branches acc) (·.Fits fun p => before p ∨ (Node.firstOf branches).Spells p) := by
  induction branches generalizing acc before with
  | nil => exact givesPure (fits.congr fun p => by simp [Node.spellsOfFirstOf])
  | cons n rest ih =>
    unfold structuralBranches
    refine givesBind (each n List.mem_cons_self) fun other fits' => ?_
    refine (ih (fun n member => each n (List.mem_cons_of_mem _ member))
      ((fitsUnion fits fits').whenCapped _)).weakerResult
      fun e fits => fits.congr fun p => ?_
    simp [Node.spellsOfFirstOf, or_assoc]

theorem givesStructural (n : Node) : a.Gives (a.structural n) (·.Fits n.Spells) := by
  induction n using Node.induction with
  | consume token => exact givesAfterTick (givesPure ((fitsSingle _ false).congr fun _ => Node.spellsOfConsume.symm))
  | inOrder parts rule ih =>
    refine givesAfterTick ((givesParts ih rule (fitsSingle [] false)).weakerResult fun e fits => fits.congr fun p => ?_)
    exact Path.emptyThen p
  | firstOf branches ih =>
    have none : Expansion.Fits {} fun _ => False :=
      ⟨fun p inside => absurd inside List.not_mem_nil, fun _ _ => False.elim⟩
    refine givesAfterTick ((givesBranches ih none).weakerResult fun e fits => fits.congr fun p => ?_)
    simp
  | optional body ih =>
    refine givesAfterTick (givesBind ih fun e fits => givesPure (((fitsInsert fits).whenCapped _).congr fun p => ?_))
    exact Node.spellsOfOptional.symm
  | many body ih =>
    refine givesAfterTick (givesBind ih fun e fits => givesPure (((fitsInsert fits).whenCapped _).congr fun p => ?_))
    exact Node.spellsOfMany.symm
  | some body ih => exact givesAfterTick (ih.weakerResult fun e fits => fits.congr fun p => Node.spellsOfSome.symm)
  | call rule => exact givesAfterTick (givesPure ((fitsSingle _ false).congr fun _ => Node.spellsOfCall.symm))

end

section
variable {a : Analyzer} {level : String → Query Expansion} {described : String → Path → Prop}
  (each : ∀ name, a.Gives (level name) (·.Fits (described name)))
include each

theorem givesPath (p : Path) {acc : Expansion} {before : Path → Prop} (fits : acc.Fits before) :
    a.Gives (a.substitutePath level p acc) fun e =>
      e.Fits (Path.Then before (Path.Fills described p)) ∧ (e.truncated = false → acc.truncated = false) := by
  induction p generalizing acc before with
  | nil =>
    refine givesPure ⟨fits.congr fun q => (Path.thenEmpty q).symm.trans (Path.thenCongr (fun _ => ?_) q), id⟩
    exact Path.Fills.fillsNil.symm
  | cons symbol p ih =>
    cases symbol with
    | token name =>
      have fits := (fitsAppend fits (fitsSingle [.token name] false)).withFlag acc.truncated fun none => by
        rw [none, Bool.or_false]
      refine (ih (fits.whenCapped _)).weakerResult fun e found => ⟨found.1.congr fun q => ?_, fun all => ?_⟩
      · exact (Path.thenAssoc q).trans (Path.thenCongr (fun _ => Path.Fills.fillsToken.symm) q)
      · exact (Bool.or_eq_false_iff.mp (found.2 all)).1
    | rule name =>
      refine givesBind (each name) fun tail fits' => ?_
      refine (ih ((fitsAppend fits fits').whenCapped _)).weakerResult fun e found =>
        ⟨found.1.congr fun q => ?_, fun all => ?_⟩
      · exact (Path.thenAssoc q).trans (Path.thenCongr (fun _ => Path.Fills.fillsRule.symm) q)
      · exact (Bool.or_eq_false_iff.mp (Bool.or_eq_false_iff.mp (found.2 all)).1).1

theorem givesAll (paths : List Path) {out : Expansion} {before : Path → Prop} (fits : out.Fits before) :
    a.Gives (a.substituteAll level paths out) fun e =>
      e.Fits (fun q => before q ∨ ∃ p ∈ paths, Path.Fills described p q) ∧
        (e.truncated = false → out.truncated = false) := by
  induction paths generalizing out before with
  | nil => exact givesPure ⟨fits.congr fun q => by simp, id⟩
  | cons p rest ih =>
    refine givesBind (givesPath each p (fitsSingle [] out.truncated)) fun e found => ?_
    obtain ⟨fits', all⟩ := found
    have joined := ((fitsUnion (fits'.congr Path.emptyThen) fits).withFlag e.truncated fun none => by
      rw [none, all none, Bool.or_false]).whenCapped a.config.maxPaths
    dsimp only
    split
    · rename_i excess
      have dropped : (capped a.config.maxPaths ⟨PathSet.union e.paths out.paths, e.truncated⟩).truncated = true := by
        simp [capped, excess]
      refine givesPure ⟨⟨fun q inside => ?_, fun none => absurd (dropped.symm.trans none) (by simp)⟩,
        fun none => absurd (dropped.symm.trans none) (by simp)⟩
      rcases joined.sound q inside with fills | old
      · exact .inr ⟨p, List.mem_cons_self, fills⟩
      · exact .inl old
    · refine (ih joined).weakerResult fun e' found => ⟨found.1.congr fun q => ?_, fun none => ?_⟩
      · simp only [List.mem_cons, exists_eq_or_imp]
        grind
      · exact all (Bool.or_eq_false_iff.mp (found.2 none)).1

theorem givesSubstitute {base : Expansion} {before : Path → Prop} (fits : base.Fits before) :
    a.Gives (a.substitute level base) (·.Fits fun q => ∃ p, before p ∧ Path.Fills described p q) := by
  have none : Expansion.Fits ⟨[], base.truncated⟩ fun _ => False :=
    ⟨fun p inside => absurd inside List.not_mem_nil, fun _ _ => False.elim⟩
  refine (givesAll each base.paths none).weakerResult fun e found => ⟨fun q inside => ?_, fun all q told => ?_⟩
  · obtain ⟨p, member, fills⟩ := (found.1.sound q inside).resolve_left id
    exact ⟨p, fits.sound p member, fills⟩
  · obtain ⟨p, told, fills⟩ := told
    exact found.1.complete all q (.inr ⟨p, fits.complete (found.2 all) p told, fills⟩)

end

theorem memPutEntry {κ ν : Type} [DecidableEq κ] {key : κ} {value : ν} {entries : List (κ × ν)} {entry : κ × ν}
    (member : entry ∈ putEntry key value entries) : entry = (key, value) ∨ entry ∈ entries := by
  induction entries with
  | nil => exact .inl (List.mem_singleton.mp member)
  | cons e rest ih =>
    unfold putEntry at member
    split at member
    · rename_i same
      subst same
      exact (List.mem_cons.mp member).imp id (List.mem_cons_of_mem _)
    · rcases List.mem_cons.mp member with rfl | later
      · exact .inr List.mem_cons_self
      · exact (ih later).imp id (List.mem_cons_of_mem _)

section
variable {a : Analyzer}

theorem givesGet : a.Gives get fun f => f.Levelled a := by
  intro f v g ran levelled
  cases ran
  exact ⟨rfl, levelled, levelled⟩

theorem givesKeep {rule : String} {depth : Nat} {e : Expansion} (positive : 0 < depth)
    (fits : e.Fits (a.grammar.Level depth rule)) : a.Gives (keepLevel rule depth e) fun _ => True := by
  intro f v g ran levelled
  cases ran
  refine ⟨rfl, fun rule' depth' e' member => ?_, trivial⟩
  rcases memPutEntry member with new | old
  · cases new
    exact ⟨positive, fits⟩
  · exact levelled rule' depth' e' old

theorem nearestLevelMem {rule : String} {depth : Nat} {f : Findings} {base : Nat × Expansion}
    (found : nearestLevel rule depth f = some base) : base.1 < depth ∧ ((rule, base.1), base.2) ∈ f.levelCache := by
  refine List.foldlRecOn (motive := fun best : Option (Nat × Expansion) => ∀ base, best = some base →
    base.1 < depth ∧ ((rule, base.1), base.2) ∈ f.levelCache) f.levelCache _ (by simp) ?_ base found
  intro best before entry inside base
  obtain ⟨⟨name, level⟩, e⟩ := entry
  dsimp only
  split
  · rename_i near
    obtain ⟨rfl, less⟩ := near
    have here : some (level, e) = some base → base.1 < depth ∧ ((name, base.1), base.2) ∈ f.levelCache := by
      intro eq
      cases eq
      exact ⟨less, inside⟩
    split
    · split
      · exact here
      · exact before base
    · exact here
  · exact before base

theorem givesBase {rule : String} {body : Node} {depth : Nat} (known : a.grammar.rule? rule = some body)
    (positive : 0 < depth) :
    a.Gives (a.baseLevel rule body depth) fun base =>
      0 < base.1 ∧ base.1 ≤ depth ∧ base.2.Fits (a.grammar.Level base.1 rule) := by
  refine givesBind givesGet fun f levelled => ?_
  split
  · rename_i base found
    obtain ⟨less, member⟩ := nearestLevelMem found
    obtain ⟨positive, fits⟩ := levelled _ _ _ member
    exact givesPure ⟨positive, Nat.le_of_lt less, fits⟩
  · refine givesBind (givesStructural body) fun e fits => ?_
    have fits : e.Fits (a.grammar.Level 1 rule) := fits.congr fun p => (Grammar.levelOne known).symm
    exact givesBind (givesKeep Nat.one_pos fits) fun _ _ => givesPure ⟨Nat.one_pos, positive, fits⟩

theorem givesWithin (bound : Nat) (rule : String) {depth : Nat} (positive : 0 < depth) (enough : depth ≤ bound) :
    a.Gives (a.levelWithin bound rule depth) (·.Fits (a.grammar.Level depth rule)) := by
  induction bound generalizing rule depth with
  | zero => exact absurd (Nat.lt_of_lt_of_le positive enough) (Nat.lt_irrefl 0)
  | succ bound ih =>
    intro f v g ran levelled
    rw [levelWithin] at ran
    obtain ⟨_, _, got, ran⟩ := bindOk ran
    cases got
    cases found : f.levelCache.lookup (rule, depth) with
    | some hit =>
      rw [found] at ran
      cases ran
      obtain ⟨before, after, eq, _⟩ := List.lookup_eq_some_iff.mp found
      exact ⟨rfl, levelled, (levelled rule depth _ (by simp [eq])).2⟩
    | none =>
      rw [found] at ran
      obtain ⟨_, _, counted, ran⟩ := bindOk ran
      cases counted
      have afterTick : ∀ query : Query Expansion, a.Gives query (·.Fits (a.grammar.Level depth rule)) →
          (a.tick >>= fun _ => query) { f with levelMisses := f.levelMisses + 1 } = .ok v g →
          g.desk = f.desk ∧ g.Levelled a ∧ v.Fits (a.grammar.Level depth rule) :=
        fun query gives ran =>
          givesAfterTick gives { f with levelMisses := f.levelMisses + 1 } v g ran levelled
      refine afterTick _ ?_ ran
      split
      · rename_i unknown
        exact givesPure ((fitsSingle _ false).congr fun p => (Grammar.levelUnknown unknown depth).symm)
      · rename_i body known
        refine givesBind (givesBase known positive) fun base found => ?_
        obtain ⟨level, base⟩ := base
        obtain ⟨some, before, fits⟩ := found
        have kept : ∀ e : Expansion, e.Fits (a.grammar.Level depth rule) →
            a.Gives (do keepLevel rule depth e; pure e) (·.Fits (a.grammar.Level depth rule)) :=
          fun e fits => givesBind (givesKeep positive fits) fun _ _ => givesPure fits
        dsimp only
        split
        · rename_i same
          exact kept base (same ▸ fits)
        · have split : level + (depth - level) = depth := by omega
          refine givesBind (givesSubstitute (fun name => ih name (by omega) (by omega)) fits) fun e fits =>
            kept e (fits.congr fun p => ?_)
          rw [← Grammar.levelAdd, split]

theorem givesLevel (rule : String) {depth : Nat} (positive : 0 < depth) :
    a.Gives (a.level rule depth) (·.Fits (a.grammar.Level depth rule)) := by
  unfold level
  rw [Nat.max_eq_left positive]
  exact givesWithin depth rule positive (Nat.le_refl _)

theorem givesLevelOfNode (node : Node) (depth : Nat) : a.Gives (a.levelOfNode node depth) fun _ => True := by
  refine givesBind (givesStructural node) fun base fits => ?_
  split
  · exact givesPure trivial
  · rename_i deep
    exact (givesSubstitute (fun name => givesLevel name (by omega)) fits).weakerResult fun _ _ => trivial

theorem startsWithRuleIff {rule : String} {p : Path} :
    a.startsWithRule rule p = true ↔ p.Fronts a.nullable.contains rule := by
  induction p with
  | nil => simp [startsWithRule, Path.Fronts]
  | cons symbol p ih =>
    cases symbol with
    | token name => simp [startsWithRule, Path.Fronts]
    | rule name =>
      unfold startsWithRule Path.Fronts
      rw [← ih, isNullable]
      grind

theorem givesInLevels (rule : String) (count : Nat) {depth : Nat} (positive : 0 < depth) (truncated : Bool) :
    a.Gives (a.recursionInLevels rule count depth truncated) fun answer =>
      (answer = some true → ∃ d < depth + count, depth ≤ d ∧
        ∃ p, a.grammar.Level d rule p ∧ p.Fronts a.nullable.contains rule) ∧
      (answer = some false → truncated = false ∧ ∀ d < depth + count, depth ≤ d →
        ∀ p, a.grammar.Level d rule p → ¬ p.Fronts a.nullable.contains rule) := by
  induction count generalizing depth truncated with
  | zero =>
    refine givesPure ⟨fun found => ?_, fun found => ⟨?_, fun d less more => by omega⟩⟩
    · split at found <;> simp at found
    · split at found
      · exact nomatch found
      · rename_i none
        simpa using none
  | succ count ih =>
    refine givesBind (givesLevel rule positive) fun e fits => ?_
    split
    · rename_i seen
      obtain ⟨p, inside, starts⟩ := List.any_eq_true.mp seen
      refine givesPure ⟨fun _ => ⟨depth, by omega, Nat.le_refl _, p, fits.sound p inside, ?_⟩, fun found => ?_⟩
      · exact startsWithRuleIff.mp starts
      · simp at found
    · rename_i unseen
      refine (ih (Nat.succ_pos depth) _).weakerResult fun answer found => ⟨fun yes => ?_, fun no => ?_⟩
      · obtain ⟨d, less, more, level⟩ := found.1 yes
        exact ⟨d, by omega, by omega, level⟩
      · obtain ⟨none, later⟩ := found.2 no
        rw [Bool.or_eq_false_iff] at none
        refine ⟨none.1, fun d less more p level fronts => ?_⟩
        rcases Nat.eq_or_lt_of_le more with rfl | beyond
        · have inside := fits.complete none.2 p level
          exact unseen (List.any_eq_true.mpr ⟨p, inside, startsWithRuleIff.mpr fronts⟩)
        · exact later d (by omega) beyond p level fronts

theorem givesByLevel {rule : String} {body : Node} (exact : a.nullable = a.grammar.nullable)
    (distinct : a.grammar.Distinct) (deep : 0 < a.config.maxDepth) (known : a.grammar.rule? rule = some body) :
    a.Gives (a.recursionByLevel rule) fun answer =>
      (answer = some true → ∃ n < a.config.maxDepth, a.grammar.Walk (n + 1) rule rule) ∧
      (answer = some false → a.grammar.Branched → ∀ n < a.config.maxDepth, ¬ a.grammar.Walk (n + 1) rule rule) := by
  unfold recursionByLevel
  rw [Nat.max_eq_left deep]
  refine (givesInLevels rule a.config.maxDepth Nat.one_pos false).weakerResult fun answer found => ?_
  rw [exact] at found
  refine ⟨fun yes => ?_, fun no branched n less walk => ?_⟩
  · obtain ⟨d, less, more, p, level, fronts⟩ := found.1 yes
    obtain ⟨n, rfl⟩ : ∃ n, d = n + 1 := ⟨d - 1, by omega⟩
    exact ⟨n, by omega, Grammar.walkOfLevel known level fronts⟩
  · obtain ⟨p, level, fronts⟩ := Grammar.levelOfWalk distinct branched walk
    exact (found.2 no).2 (n + 1) (by omega) (by omega) p level fronts

end

section
variable {a : Analyzer} (inTime : a.InTime)
include inTime

theorem endsStructural (n : Node) : Ends (a.structural n) := by
  induction n using Node.induction with
  | inOrder parts rule ih =>
    refine endsBind (endsTick inTime) fun _ => ?_
    generalize (⟨[[]], false⟩ : Expansion) = acc
    induction parts generalizing acc with
    | nil => exact endsPure acc
    | cons n rest later =>
      rw [List.forall_mem_cons] at ih
      exact endsBind ih.1 fun _ => later ih.2 _
  | firstOf branches ih =>
    refine endsBind (endsTick inTime) fun _ => ?_
    generalize ({} : Expansion) = acc
    induction branches generalizing acc with
    | nil => exact endsPure acc
    | cons n rest later =>
      rw [List.forall_mem_cons] at ih
      exact endsBind ih.1 fun _ => later ih.2 _
  | consume token => exact endsBind (endsTick inTime) fun _ => endsPure _
  | call rule => exact endsBind (endsTick inTime) fun _ => endsPure _
  | optional body ih => exact endsBind (endsTick inTime) fun _ => endsBind ih fun _ => endsPure _
  | many body ih => exact endsBind (endsTick inTime) fun _ => endsBind ih fun _ => endsPure _
  | some body ih => exact endsBind (endsTick inTime) fun _ => ih

omit inTime in
theorem endsSubstitute {level : String → Query Expansion} (each : ∀ name, Ends (level name)) (base : Expansion) :
    Ends (a.substitute level base) := by
  have path : ∀ p acc, Ends (a.substitutePath level p acc) := by
    intro p
    induction p with
    | nil => exact fun acc => endsPure acc
    | cons symbol p ih =>
      intro acc
      cases symbol with
      | token name => exact ih _
      | rule name => exact endsBind (each name) fun _ => ih _
  unfold substitute
  generalize (⟨[], base.truncated⟩ : Expansion) = out
  induction base.paths generalizing out with
  | nil => exact endsPure out
  | cons p rest ih =>
    refine endsBind (path p _) fun e => ?_
    dsimp only
    split
    · exact endsPure _
    · exact ih _

theorem endsWithin (bound : Nat) (rule : String) (depth : Nat) : Ends (a.levelWithin bound rule depth) := by
  induction bound generalizing rule depth with
  | zero => exact endsPure _
  | succ bound ih =>
    rw [levelWithin]
    refine endsBind (fun f => ⟨f, f, rfl⟩) fun f => ?_
    split
    · exact fun _ => ⟨_, _, rfl⟩
    · refine endsBind (fun _ => ⟨_, _, rfl⟩) fun _ => endsBind (endsTick inTime) fun _ => ?_
      split
      · exact endsPure _
      · refine endsBind (endsBind (fun f => ⟨f, f, rfl⟩) fun f => ?_) fun base => ?_
        · split
          · exact endsPure _
          · exact endsBind (endsStructural inTime _) fun _ => endsBind (fun _ => ⟨_, _, rfl⟩) fun _ => endsPure _
        · have kept : ∀ e : Expansion, Ends (do keepLevel rule depth e; pure e) :=
            fun e => endsBind (fun _ => ⟨_, _, rfl⟩) fun _ => endsPure _
          dsimp only
          split
          · exact kept _
          · exact endsBind (endsSubstitute (fun name => ih name _) _) kept

theorem endsByLevel (rule : String) : Ends (a.recursionByLevel rule) := by
  have all : ∀ count depth truncated, Ends (a.recursionInLevels rule count depth truncated) := by
    intro count
    induction count with
    | zero => exact fun _ _ => endsPure _
    | succ count ih =>
      intro depth truncated
      refine endsBind (endsWithin inTime _ _ _) fun e => ?_
      split
      · exact endsPure _
      · exact ih _ _
  exact all _ _ _

end

end Analyzer
end Packrat

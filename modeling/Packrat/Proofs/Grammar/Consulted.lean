import Packrat.Proofs.Grammar.Asked

/-! Analyzers whose time may have run out before. A query that is stopped leaves behind what it has found
so far. All of that is true of the grammar, so what a later query is answered does not depend on where the
earlier ones were stopped. -/
namespace Packrat

namespace Analyzer

def Small (a : Analyzer) (e : Expansion) : Prop := e.paths.length ≤ max 1 a.config.maxPaths

structure Reliable (a : Analyzer) (f : Findings) : Prop where
  faithful : f.desk.Faithful a
  levelled : f.Levelled a
  small : ∀ entry ∈ f.levelCache, a.Small entry.2

structure Ensures {α : Type} (a : Analyzer) (query : Query α) (result : α → Prop) : Prop where
  answered : ∀ {f value g}, query f = .ok value g → a.Reliable f → a.Reliable g ∧ result value
  stopped : ∀ {f late g}, query f = .error late g → a.Reliable f → a.Reliable g

section
variable {a : Analyzer} {α β : Type} {f g : Findings}

theorem Reliable.congr (kept : a.Reliable f) (depths : g.depthCache = f.depthCache)
    (levels : g.levelCache = f.levelCache) :
    a.Reliable g where
  faithful := by
    unfold Desk.Faithful Desk.Keeps Findings.desk
    rw [depths]
    exact kept.faithful
  levelled := by
    unfold Findings.Levelled
    rw [levels]
    exact kept.levelled
  small := by
    rw [levels]
    exact kept.small

theorem bindError {x : Query α} {next : α → Query β} {late : Timeout} (ran : (x >>= next) f = .error late g) :
    x f = .error late g ∨ ∃ v h, x f = .ok v h ∧ next v h = .error late g := by
  simp only [bind, EStateM.bind] at ran
  split at ran
  · exact .inr ⟨_, _, ‹_›, ran⟩
  · rename_i stopped
    cases ran
    exact .inl stopped

theorem ensuresPure {result : α → Prop} {value : α} (good : result value) : a.Ensures (pure value) result where
  answered ran kept := by
    cases ran
    exact ⟨kept, good⟩
  stopped ran := nomatch ran

theorem ensuresBind {x : Query α} {next : α → Query β} {first : α → Prop} {result : β → Prop}
    (ensures : a.Ensures x first) (later : ∀ v, first v → a.Ensures (next v) result) :
    a.Ensures (x >>= next) result where
  answered ran kept := by
    obtain ⟨v, h, ran, ran'⟩ := bindOk ran
    obtain ⟨kept, good⟩ := ensures.answered ran kept
    exact (later v good).answered ran' kept
  stopped ran kept := by
    rcases bindError ran with ran | ⟨v, h, ran, ran'⟩
    · exact ensures.stopped ran kept
    · obtain ⟨kept, good⟩ := ensures.answered ran kept
      exact (later v good).stopped ran' kept

theorem Ensures.weakerResult {query : Query α} {result other : α → Prop} (ensures : a.Ensures query result)
    (weaker : ∀ v, result v → other v) : a.Ensures query other where
  answered ran kept := (ensures.answered ran kept).imp id (weaker _)
  stopped := ensures.stopped

theorem Ensures.alsoGives {query : Query α} {result other : α → Prop} (ensures : a.Ensures query result)
    (gives : a.Gives query other) : a.Ensures query fun v => result v ∧ other v where
  answered {f value g} ran kept :=
    ⟨(ensures.answered ran kept).1, (ensures.answered ran kept).2, (gives f value g ran kept.levelled).2.2⟩
  stopped := ensures.stopped

theorem ensuresModify {change : Findings → Findings}
    (same : ∀ f, (change f).depthCache = f.depthCache ∧ (change f).levelCache = f.levelCache) :
    a.Ensures (modify change) fun _ => True where
  answered ran kept := by
    cases ran
    exact ⟨kept.congr (same _).1 (same _).2, trivial⟩
  stopped ran := nomatch ran

theorem ensuresGet : a.Ensures get a.Reliable where
  answered ran kept := by
    cases ran
    exact ⟨kept, kept⟩
  stopped ran := nomatch ran

theorem ensuresTick : a.Ensures a.tick fun _ => True where
  answered ran kept := by
    unfold tick at ran
    dsimp only at ran
    split at ran
    · cases ran
    · cases ran
      exact ⟨kept.congr rfl rfl, trivial⟩
  stopped ran kept := by
    unfold tick at ran
    dsimp only at ran
    split at ran
    · cases ran
      exact kept.congr rfl rfl
    · cases ran

theorem ensuresAfterTick {query : Query α} {result : α → Prop} (ensures : a.Ensures query result) :
    a.Ensures (a.tick >>= fun _ => query) result := ensuresBind ensuresTick fun _ _ => ensures

end

section
variable {a : Analyzer} {rulePaths : String → Nat → Bool → Query PathSet}

theorem ensuresClosure (once : PathSet) (k rounds : Nat) (acc : PathSet) :
    a.Ensures (a.closure once k rounds acc) fun _ => True := by
  induction rounds generalizing acc with
  | zero => exact ensuresPure trivial
  | succ rounds ih =>
    refine ensuresAfterTick ?_
    dsimp only
    split
    · exact ensuresPure trivial
    · exact ih _

theorem ensuresNode (calls : ∀ rule k leading, a.Ensures (rulePaths rule k leading) fun _ => True) (n : Node) (k : Nat)
    (leading : Bool) : a.Ensures (a.nodePaths rulePaths n k leading) fun _ => True := by
  induction n using Node.induction generalizing k leading with
  | consume token => exact ensuresPure trivial
  | inOrder parts rule ih =>
    unfold nodePaths
    generalize ([[]] : PathSet) = acc
    induction parts generalizing acc with
    | nil => exact ensuresPure trivial
    | cons n rest later =>
      rw [List.forall_mem_cons] at ih
      unfold partsPaths
      split
      · exact ensuresPure trivial
      · exact ensuresBind (ih.1 _ _) fun _ _ => later ih.2 _
  | firstOf branches ih =>
    unfold nodePaths
    generalize ([] : PathSet) = acc
    induction branches generalizing acc with
    | nil => exact ensuresPure trivial
    | cons n rest later =>
      rw [List.forall_mem_cons] at ih
      unfold branchesPaths
      exact ensuresBind (ih.1 _ _) fun _ _ => later ih.2 _
  | optional body ih => exact ensuresBind (ih _ _) fun _ _ => ensuresPure trivial
  | many body ih =>
    exact ensuresBind (ih _ _) fun _ _ => ensuresBind (ensuresClosure _ _ _ _) fun _ _ => ensuresPure trivial
  | some body ih => exact ensuresBind (ih _ _) fun _ _ => ensuresClosure _ _ _ _
  | call rule => exact calls rule k leading

end

section
variable {a : Analyzer}

theorem ensuresRule (budget : Nat) (rule : String) (k : Nat) (leading : Bool) :
    a.Ensures (a.rulePaths budget rule k leading) fun _ => True := by
  induction budget using Nat.strongRecOn generalizing rule k leading with
  | ind budget ih =>
    constructor
    · intro f paths g ran kept
      obtain ⟨expands, levels⟩ := followsRule a budget rule k leading f paths g ran
      exact ⟨⟨(expands.keepsFaithful kept.faithful).1, by rw [Findings.Levelled, levels]; exact kept.levelled,
        by rw [levels]; exact kept.small⟩, trivial⟩
    · intro f late g ran kept
      rw [rulePaths] at ran
      rcases bindError ran with ran | ⟨_, f', ticked, ran⟩
      · exact ensuresTick.stopped ran kept
      replace kept := (ensuresTick.answered ticked kept).1
      rcases bindError ran with ran | ⟨_, _, got, ran⟩
      · cases ran
      cases got
      split at ran
      · unfold cutOff at ran
        dsimp only at ran
        split at ran <;> cases ran
      cases known : a.grammar.rule? rule with
      | none =>
        rw [known] at ran
        cases ran
      | some body =>
        cases budget with
        | zero =>
          simp only [known] at ran
          cases ran
        | succ budget =>
          simp only [known] at ran
          cases found : f'.depthCache.lookup ⟨rule, k, budget + 1⟩ with
          | some hit =>
            simp only [found] at ran
            cases ran
          | none =>
            simp only [found] at ran
            rcases bindError ran with ran | ⟨_, _, counted, ran⟩
            · cases ran
            cases counted
            rcases bindError ran with ran | ⟨_, _, _, ran⟩
            · unfold expandBody withStack at ran
              dsimp only at ran
              split at ran
              · cases ran
              · rename_i stopped
                cases ran
                have inner := ensuresNode (ih budget (Nat.lt_succ_self budget)) body k true
                exact (inner.stopped stopped (kept.congr rfl rfl)).congr rfl rfl
            · unfold keepUncut at ran
              split at ran <;> cases ran

theorem ensuresExpand (rule : String) (k depth : Nat) : a.Ensures (a.expand rule k depth) fun _ => True :=
  ensuresBind (ensuresModify fun _ => ⟨rfl, rfl⟩) fun _ _ => ensuresRule depth rule k true

theorem ensuresFirstOfNode (n : Node) : a.Ensures (a.firstOfNode n) fun _ => True :=
  ensuresBind (ensuresModify fun _ => ⟨rfl, rfl⟩) fun _ _ => ensuresNode (ensuresRule _) n _ _

theorem ensuresByDepth (rule : String) : a.Ensures (a.recursionByDepth rule) fun _ => True :=
  ensuresBind (ensuresModify fun _ => ⟨rfl, rfl⟩) fun _ _ => ensuresBind (ensuresExpand _ _ _) fun _ _ =>
    ensuresBind ensuresGet fun _ _ => ensuresPure trivial

end

section
variable {a : Analyzer}

theorem smallOne (p : Path) (truncated : Bool) : a.Small ⟨[p], truncated⟩ := Nat.le_max_left _ _

theorem smallCapped (e : Expansion) : a.Small (capped a.config.maxPaths e) :=
  Nat.le_trans (List.length_take_le _ _) (Nat.le_max_right _ _)

theorem ensuresStructural (n : Node) : a.Ensures (a.structural n) a.Small := by
  induction n using Node.induction with
  | consume token => exact ensuresAfterTick (ensuresPure (smallOne _ _))
  | call rule => exact ensuresAfterTick (ensuresPure (smallOne _ _))
  | inOrder parts rule ih =>
    refine ensuresAfterTick ?_
    have small : a.Small ⟨[[]], false⟩ := smallOne _ _
    generalize (⟨[[]], false⟩ : Expansion) = acc at small ⊢
    induction parts generalizing acc with
    | nil => exact ensuresPure small
    | cons n rest later =>
      rw [List.forall_mem_cons] at ih
      exact ensuresBind ih.1 fun _ _ => later ih.2 _ (smallCapped _)
  | firstOf branches ih =>
    refine ensuresAfterTick ?_
    have small : a.Small {} := Nat.zero_le _
    generalize ({} : Expansion) = acc at small ⊢
    induction branches generalizing acc with
    | nil => exact ensuresPure small
    | cons n rest later =>
      rw [List.forall_mem_cons] at ih
      exact ensuresBind ih.1 fun _ _ => later ih.2 _ (smallCapped _)
  | optional body ih => exact ensuresAfterTick (ensuresBind ih fun _ _ => ensuresPure (smallCapped _))
  | many body ih => exact ensuresAfterTick (ensuresBind ih fun _ _ => ensuresPure (smallCapped _))
  | some body ih => exact ensuresAfterTick ih

theorem ensuresSubstitute {level : String → Query Expansion} (each : ∀ name, a.Ensures (level name) fun _ => True)
    (base : Expansion) : a.Ensures (a.substitute level base) a.Small := by
  have path : ∀ p acc, a.Ensures (a.substitutePath level p acc) fun _ => True := by
    intro p
    induction p with
    | nil => exact fun acc => ensuresPure trivial
    | cons symbol p ih =>
      intro acc
      cases symbol with
      | token name => exact ih _
      | rule name => exact ensuresBind (each name) fun _ _ => ih _
  unfold substitute
  have small : a.Small ⟨[], base.truncated⟩ := Nat.zero_le _
  generalize (⟨[], base.truncated⟩ : Expansion) = out at small ⊢
  induction base.paths generalizing out with
  | nil => exact ensuresPure small
  | cons p rest ih =>
    refine ensuresBind (path p _) fun e _ => ?_
    dsimp only
    split
    · exact ensuresPure (smallCapped _)
    · exact ih _ (smallCapped _)

theorem ensuresKeep {rule : String} {depth : Nat} {e : Expansion} (positive : 0 < depth) (small : a.Small e)
    (fits : e.Fits (a.grammar.Level depth rule)) : a.Ensures (keepLevel rule depth e) fun _ => True where
  answered {f value g} ran kept := by
    obtain ⟨desk, levelled, _⟩ := givesKeep positive fits f value g ran kept.levelled
    refine ⟨⟨desk ▸ kept.faithful, levelled, fun entry member => ?_⟩, trivial⟩
    cases ran
    rcases memPutEntry member with rfl | old
    · exact small
    · exact kept.small entry old
  stopped ran := nomatch ran

theorem ensuresBase {rule : String} {body : Node} (known : a.grammar.rule? rule = some body) (depth : Nat) :
    a.Ensures (a.baseLevel rule body depth) fun base => a.Small base.2 := by
  refine ensuresBind ensuresGet fun f kept => ?_
  split
  · rename_i base found
    exact ensuresPure (kept.small _ (nearestLevelMem found).2)
  · refine ensuresBind ((ensuresStructural body).alsoGives (givesStructural body)) fun e made => ?_
    have fits : e.Fits (a.grammar.Level 1 rule) := made.2.congr fun p => (Grammar.levelOne known).symm
    exact ensuresBind (ensuresKeep Nat.one_pos made.1 fits) fun _ _ => ensuresPure made.1

theorem ensuresWithin (bound : Nat) (rule : String) {depth : Nat} (positive : 0 < depth) (enough : depth ≤ bound) :
    a.Ensures (a.levelWithin bound rule depth) a.Small := by
  induction bound generalizing rule depth with
  | zero => exact absurd (Nat.lt_of_lt_of_le positive enough) (Nat.lt_irrefl 0)
  | succ bound ih =>
    rw [levelWithin]
    refine ensuresBind ensuresGet fun f kept => ?_
    have counted : ∀ {g : Findings}, g.depthCache = f.depthCache → g.levelCache = f.levelCache →
        a.Ensures (set g) fun _ => True := fun depths levels => by
      constructor
      · intro _ _ _ ran _
        cases ran
        exact ⟨kept.congr depths levels, trivial⟩
      · intro _ _ _ ran
        cases ran
    split
    · rename_i hit found
      obtain ⟨before, after, eq, _⟩ := List.lookup_eq_some_iff.mp found
      exact ensuresBind (counted rfl rfl) fun _ _ => ensuresPure (kept.small ((rule, depth), hit) (by simp [eq]))
    · refine ensuresBind (counted rfl rfl) fun _ _ => ensuresAfterTick ?_
      split
      · exact ensuresPure (smallOne _ _)
      · rename_i body known
        refine ensuresBind ((ensuresBase known depth).alsoGives (givesBase known positive)) fun base made => ?_
        obtain ⟨level, base⟩ := base
        obtain ⟨small, some, before, fits⟩ := made
        have ends : ∀ e : Expansion, a.Small e ∧ e.Fits (a.grammar.Level depth rule) →
            a.Ensures (do keepLevel rule depth e; pure e) a.Small :=
          fun e made => ensuresBind (ensuresKeep positive made.1 made.2) fun _ _ => ensuresPure made.1
        dsimp only
        split
        · rename_i same
          exact ends base ⟨small, same ▸ fits⟩
        · have split : level + (depth - level) = depth := by omega
          have each : ∀ name, a.Gives (a.levelWithin bound name (depth - level)) _ :=
            fun name => givesWithin bound name (by omega) (by omega)
          have made := (ensuresSubstitute (fun name => (ih name (by omega) (by omega)).weakerResult fun _ _ =>
            trivial) base).alsoGives
            (givesSubstitute each fits)
          refine ensuresBind made fun e made => ends e ⟨made.1, made.2.congr fun p => ?_⟩
          rw [← Grammar.levelAdd, split]

theorem ensuresLevel (rule : String) (depth : Nat) : a.Ensures (a.level rule depth) a.Small :=
  ensuresWithin _ rule (Nat.lt_of_lt_of_le Nat.one_pos (Nat.le_max_right _ _)) (Nat.le_refl _)

theorem ensuresLevelOfNode (node : Node) (depth : Nat) : a.Ensures (a.levelOfNode node depth) a.Small := by
  refine ensuresBind (ensuresStructural node) fun base small => ?_
  split
  · exact ensuresPure small
  · exact ensuresSubstitute (fun name => (ensuresLevel name _).weakerResult fun _ _ => trivial) base

theorem ensuresByLevel (rule : String) : a.Ensures (a.recursionByLevel rule) fun _ => True := by
  have all : ∀ count depth truncated, a.Ensures (a.recursionInLevels rule count depth truncated) fun _ => True := by
    intro count
    induction count with
    | zero => exact fun _ _ => ensuresPure trivial
    | succ count ih =>
      intro depth truncated
      refine ensuresBind (ensuresLevel rule depth) fun e _ => ?_
      split
      · exact ensuresPure trivial
      · exact ih _ _
  exact all _ _ _

end

end Analyzer

def Question.after (a : Analyzer) (f : Findings) : Question → Findings
  | .expand rule k depth => (a.expand rule k depth).after f
  | .firstOf node => (a.firstOfNode node).after f
  | .byDepth rule => (a.recursionByDepth rule).after f
  | .level rule depth => (a.level rule depth).after f
  | .levelOfNode node depth => (a.levelOfNode node depth).after f
  | .byLevel rule => (a.recursionByLevel rule).after f

inductive Analyzer.Consulted (a : Analyzer) : Findings → Prop where
  | fresh : Consulted a {}
  | again {f} (before : Consulted a f) (question : Question) : Consulted a (question.after a f)

namespace Analyzer

variable {a : Analyzer} {f : Findings}

theorem Ensures.reliableAfter {α : Type} {query : Query α} {result : α → Prop} (ensures : a.Ensures query result)
    (kept : a.Reliable f) : a.Reliable (query.after f) := by
  unfold Query.after
  split
  · rename_i ran
    exact (ensures.answered ran kept).1
  · rename_i ran
    exact ensures.stopped ran kept

theorem Consulted.isReliable (consulted : a.Consulted f) : a.Reliable f := by
  induction consulted with
  | fresh =>
    exact ⟨fun _ _ found => (nomatch found), fun _ _ _ member => (nomatch member), fun _ member => nomatch member⟩
  | again before question ih =>
    cases question with
    | expand rule k depth => exact (ensuresExpand rule k depth).reliableAfter ih
    | firstOf node => exact (ensuresFirstOfNode node).reliableAfter ih
    | byDepth rule => exact (ensuresByDepth rule).reliableAfter ih
    | level rule depth => exact (ensuresLevel rule depth).reliableAfter ih
    | levelOfNode node depth => exact (ensuresLevelOfNode node depth).reliableAfter ih
    | byLevel rule => exact (ensuresByLevel rule).reliableAfter ih

end Analyzer
end Packrat

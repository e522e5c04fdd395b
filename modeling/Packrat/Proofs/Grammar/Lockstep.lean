import Packrat.Proofs.Grammar.Asked
import Packrat.Proofs.Grammar.Recording

/-! What was asked before and depth-first answers. Two searches that differ in what was kept before go in step
until one of them takes a kept set where the other is cut off below. -/
namespace Packrat

structure Stage where
  budget : Nat
  piece : Piece
  k : Nat
  leading : Bool
  desk : Desk

namespace Analyzer

inductive Turns (a : Analyzer) : Stage → Stage → Prop where
  | opened {budget rule k leading d body} (fresh : leading = true → rule ∉ d.stack)
      (known : a.grammar.rule? rule = Option.some body) (miss : d.cache.lookup ⟨rule, k, budget + 1⟩ = none) :
      Turns a ⟨budget + 1, .rule rule, k, leading, d⟩ ⟨budget, .node body, k, true, d.opened rule leading⟩
  | call {budget rule k leading d} : Turns a ⟨budget, .node (.call rule), k, leading, d⟩
    ⟨budget, .rule rule, k, leading, d⟩
  | inOrder {budget parts rule k leading d} :
      Turns a ⟨budget, .node (.inOrder parts rule), k, leading, d⟩ ⟨budget, .parts parts [[]], k, leading, d⟩
  | firstOf {budget branches k leading d} :
      Turns a ⟨budget, .node (.firstOf branches), k, leading, d⟩ ⟨budget, .branches branches [], k, leading, d⟩
  | optional {budget body k leading d} :
      Turns a ⟨budget, .node (.optional body), k, leading, d⟩ ⟨budget, .node body, k, leading, d⟩
  | many {budget body k leading d} :
      Turns a ⟨budget, .node (.many body), k, leading, d⟩ ⟨budget, .node body, k, leading, d⟩
  | some {budget body k leading d} :
      Turns a ⟨budget, .node (.some body), k, leading, d⟩ ⟨budget, .node body, k, leading, d⟩
  | part {budget n rest k leading d acc shortest} (short : shortestBelow k acc = Option.some shortest) :
      Turns a ⟨budget, .parts (n :: rest) acc, k, leading, d⟩
        ⟨budget, .node n, k - shortest, leading && shortest == 0, d⟩
  | next {budget n rest k leading d acc shortest tail e} (short : shortestBelow k acc = Option.some shortest)
      (first : a.Expands budget (.node n) (k - shortest) (leading && shortest == 0) d tail e) :
      Turns a ⟨budget, .parts (n :: rest) acc, k, leading, d⟩
        ⟨budget, .parts rest (PathSet.product acc tail k), k, leading, e⟩
  | branch {budget n rest k leading d acc} :
      Turns a ⟨budget, .branches (n :: rest) acc, k, leading, d⟩ ⟨budget, .node n, k, leading, d⟩
  | other {budget n rest k leading d acc other e} (first : a.Expands budget (.node n) k leading d other e) :
      Turns a ⟨budget, .branches (n :: rest) acc, k, leading, d⟩
        ⟨budget, .branches rest (PathSet.union acc other), k, leading, e⟩

def HidesCut (a : Analyzer) (kept : DepthKey → Prop) (start : Stage) : Prop :=
  ∃ budget rule k leading d paths e, Relation.ReflTransGen a.Turns start ⟨budget, .rule rule, k, leading, d⟩ ∧
    (leading = true → rule ∉ d.stack) ∧ kept ⟨rule, k, budget⟩ ∧
    a.Expands budget (.rule rule) k leading d paths e ∧ d.cuts < e.cuts

theorem HidesCut.beforeTurn {a : Analyzer} {kept : DepthKey → Prop} {start next : Stage} (turns : a.Turns start next)
    (hides : a.HidesCut kept next) : a.HidesCut kept start := by
  obtain ⟨budget, rule, k, leading, d, paths, e, comes, found⟩ := hides
  exact ⟨budget, rule, k, leading, d, paths, e, .head turns comes, found⟩

theorem HidesCut.cacheNonempty {a : Analyzer} {f : Findings} {start : Stage} (hides : a.HidesCut f.desk.Keeps start) :
    f.depthCache ≠ [] := by
  obtain ⟨_, _, _, _, _, _, _, _, _, ⟨_, found⟩, _⟩ := hides
  intro nothing
  simp [Findings.desk, nothing] at found

theorem Expands.restoresStack {a : Analyzer} {budget : Nat} {piece : Piece} {k : Nat} {leading : Bool} {d e : Desk}
    {paths : PathSet} (expands : a.Expands budget piece k leading d paths e) :
    e.stack = d.stack ∧ d.cuts ≤ e.cuts ∧ (e.cuts = d.cuts → e.cycles = d.cycles) := by
  induction expands with
  | cut again => exact ⟨rfl, Nat.le_succ _, fun uncut => absurd uncut (Nat.succ_ne_self _)⟩
  | @opened budget rule k leading d body paths e fresh known miss inner ih =>
    obtain ⟨stack, more, cycles⟩ := ih
    refine ⟨?_, more, cycles⟩
    cases leading with
    | false => rfl
    | true =>
      show e.stack.dropLast = d.stack
      rw [stack, Desk.opened, if_pos rfl, List.dropLast_concat]
  | part short first later ihFirst ihLater =>
    obtain ⟨stack, more, cycles⟩ := ihFirst
    obtain ⟨stack', more', cycles'⟩ := ihLater
    exact ⟨stack'.trans stack, Nat.le_trans more more', fun uncut => (cycles' (by omega)).trans (cycles (by omega))⟩
  | branch first later ihFirst ihLater =>
    obtain ⟨stack, more, cycles⟩ := ihFirst
    obtain ⟨stack', more', cycles'⟩ := ihLater
    exact ⟨stack'.trans stack, Nat.le_trans more more', fun uncut => (cycles' (by omega)).trans (cycles (by omega))⟩
  | call inner ih => exact ih
  | inOrder inner ih => exact ih
  | firstOf inner ih => exact ih
  | optional inner ih => exact ih
  | many inner ih => exact ih
  | some inner ih => exact ih
  | _ => exact ⟨rfl, Nat.le_refl _, fun _ => rfl⟩

end Analyzer

namespace Desk

structure Alike (a : Analyzer) (kept : DepthKey → Prop) (d d' : Desk) : Prop where
  stack : d'.stack = d.stack
  faithful : d.Faithful a
  faithful' : d'.Faithful a
  more : ∀ key, d.Keeps key → d'.Keeps key
  before : ∀ key, d'.Keeps key → d.Keeps key ∨ kept key

variable {a : Analyzer} {kept : DepthKey → Prop} {d d' e e' : Desk}

theorem Alike.whenOpened (alike : Alike a kept d d') (rule : String) (leading : Bool) :
    Alike a kept (d.opened rule leading) (d'.opened rule leading) := by
  obtain ⟨stack, faithful, faithful', more, before⟩ := alike
  refine ⟨?_, faithful, faithful', more, before⟩
  simp only [Desk.opened, stack]

structure InStep (a : Analyzer) (kept : DepthKey → Prop) (d e d' e' : Desk) : Prop extends Alike a kept e e' where
  cuts : e'.cuts + d.cuts = e.cuts + d'.cuts
  cycles : d'.cycles = d.cycles → e'.cycles = e.cycles

theorem InStep.refl (alike : Alike a kept d d') : InStep a kept d d d' d' := ⟨alike, Nat.add_comm _ _, id⟩

theorem InStep.trans {f f' : Desk} (first : InStep a kept d e d' e') (later : InStep a kept e f e' f') :
    InStep a kept d f d' f' :=
  ⟨later.toAlike, by have := first.cuts; have := later.cuts; omega, fun same => later.cycles (first.cycles same)⟩

theorem InStep.cutOff (alike : Alike a kept d d') (rule : String) :
    InStep a kept d (d.cutOff rule) d' (d'.cutOff rule) := by
  obtain ⟨stack, faithful, faithful', more, before⟩ := alike
  refine ⟨⟨stack, faithful, faithful', more, before⟩, by simp only [Desk.cutOff]; omega, fun same => ?_⟩
  simp only [Desk.cutOff, stack, same]

theorem InStep.afterClosing {rule : String} {key : DepthKey} {leading : Bool} {paths : PathSet}
    (outer : d'.stack = d.stack) (inner : InStep a kept (d.opened rule leading) e (d'.opened rule leading) e')
    (faithful : (d.closed key leading paths e).Faithful a) (faithful' : (d'.closed key leading paths e').Faithful a) :
    InStep a kept d (d.closed key leading paths e) d' (d'.closed key leading paths e') := by
  have cuts : e'.cuts + d.cuts = e.cuts + d'.cuts := inner.cuts
  refine ⟨⟨?_, faithful, faithful', fun other keeps => ?_, fun other keeps => ?_⟩, cuts, inner.cycles⟩
  · simp only [Desk.closed, inner.stack, outer]
  · rw [closedKeeps] at keeps ⊢
    exact keeps.imp (fun own => ⟨by omega, own.2⟩) (inner.more other)
  · rw [closedKeeps] at keeps ⊢
    rcases keeps with own | keeps
    · exact .inl (.inl ⟨by omega, own.2⟩)
    · exact (inner.before other keeps).imp_left .inr

end Desk

namespace Analyzer

variable {a : Analyzer} {kept : DepthKey → Prop}

theorem Alike.whenTaken {budget k : Nat} {rule : String} {leading : Bool} {d d' e : Desk} {paths paths' : PathSet}
    (alike : Desk.Alike a kept d d') (expands : a.Expands budget (.rule rule) k leading d paths e)
    (uncut : e.cuts = d.cuts) (found : d'.cache.lookup ⟨rule, k, budget⟩ = some paths') :
    paths' = paths ∧ Desk.InStep a kept d e d' d' := by
  obtain ⟨stack, faithful, faithful', more, before⟩ := alike
  obtain ⟨after, _, whole⟩ := expands.keepsFaithful faithful
  obtain ⟨same, keeps⟩ := whole uncut
  obtain ⟨same', keeps'⟩ := faithful' _ _ found
  obtain ⟨stack', _, cycles⟩ := expands.restoresStack
  refine ⟨same'.trans same.symm, ⟨stack.trans stack'.symm, after, faithful', fun key kept => ?_, fun key kept' => ?_⟩,
    by omega, fun same => same.trans (cycles uncut).symm⟩
  · rcases (keeps key).mp kept with old | inside
    · exact more key old
    · exact keeps' key inside
  · exact (before key kept').imp_left fun old => (keeps key).mpr (.inl old)

theorem Expands.inStep {budget k : Nat} {piece : Piece} {leading : Bool} {d d' e e' : Desk} {paths paths' : PathSet}
    (expands : a.Expands budget piece k leading d paths e) (expands' : a.Expands budget piece k leading d' paths' e')
    (clear : ¬ a.HidesCut kept ⟨budget, piece, k, leading, d⟩) (alike : Desk.Alike a kept d d') :
    paths' = paths ∧ Desk.InStep a kept d e d' e' := by
  induction expands generalizing d' paths' e' with
  | @cut budget rule k d again =>
    have again' : rule ∈ d'.stack := alike.stack ▸ again
    cases expands' with
    | cut _ => exact ⟨rfl, .cutOff alike rule⟩
    | stand fresh _ => exact absurd again' (fresh rfl)
    | hit fresh _ _ => exact absurd again' (fresh rfl)
    | opened fresh _ _ _ => exact absurd again' (fresh rfl)
  | @stand budget rule k leading d fresh shut =>
    cases expands' with
    | cut again => exact absurd (alike.stack ▸ again) (fresh rfl)
    | stand _ _ => exact ⟨rfl, .refl alike⟩
    | hit _ known _ => simp [known] at shut
    | opened _ known _ _ => simp [known] at shut
  | @hit budget rule k leading d body paths fresh known found =>
    cases expands' with
    | cut again => exact absurd (alike.stack ▸ again) (fresh rfl)
    | stand _ shut => simp [known] at shut
    | hit _ _ found' => exact Alike.whenTaken alike (.hit fresh known found) rfl found'
    | opened _ _ miss _ =>
      obtain ⟨_, found'⟩ := alike.more _ ⟨_, found⟩
      exact nomatch miss.symm.trans found'
  | @opened budget rule k leading d body paths e fresh known miss inner ih =>
    have expands := Expands.opened fresh known miss inner
    cases expands' with
    | cut again => exact absurd (alike.stack ▸ again) (fresh rfl)
    | stand _ shut => simp [known] at shut
    | hit _ _ found' =>
      have was : kept ⟨rule, k, budget + 1⟩ := by
        refine (alike.before _ ⟨_, found'⟩).resolve_left ?_
        rintro ⟨_, found⟩
        exact nomatch miss.symm.trans found
      -- the other search has the set, so it is not cut off here
      have uncut : e.cuts = d.cuts := by
        have more : d.cuts ≤ e.cuts := expands.restoresStack.2.1
        by_contra differs
        exact clear ⟨_, _, _, _, _, _, _, .refl, fresh, was, expands, Nat.lt_of_le_of_ne more (Ne.symm differs)⟩
      exact Alike.whenTaken alike expands uncut found'
    | @opened _ _ _ _ _ body' _ _ _ known' miss' inner' =>
      cases known.symm.trans known'
      obtain ⟨rfl, inStep⟩ := ih inner' (fun hides => clear (hides.beforeTurn (.opened fresh known miss)))
        (alike.whenOpened rule leading)
      refine ⟨rfl, .afterClosing alike.stack inStep (expands.keepsFaithful alike.faithful).1 ?_⟩
      exact ((Expands.opened (fun leads => alike.stack ▸ fresh leads) known miss' inner').keepsFaithful
        alike.faithful').1
  | consume =>
    cases expands'
    exact ⟨rfl, .refl alike⟩
  | call inner ih =>
    cases expands' with
    | call inner' => exact ih inner' (fun hides => clear (hides.beforeTurn .call)) alike
  | inOrder inner ih =>
    cases expands' with
    | inOrder inner' => exact ih inner' (fun hides => clear (hides.beforeTurn .inOrder)) alike
  | firstOf inner ih =>
    cases expands' with
    | firstOf inner' => exact ih inner' (fun hides => clear (hides.beforeTurn .firstOf)) alike
  | optional inner ih =>
    cases expands' with
    | optional inner' =>
      obtain ⟨rfl, inStep⟩ := ih inner' (fun hides => clear (hides.beforeTurn .optional)) alike
      exact ⟨rfl, inStep⟩
  | many inner ih =>
    cases expands' with
    | many inner' =>
      obtain ⟨rfl, inStep⟩ := ih inner' (fun hides => clear (hides.beforeTurn .many)) alike
      exact ⟨rfl, inStep⟩
  | some inner ih =>
    cases expands' with
    | some inner' =>
      obtain ⟨rfl, inStep⟩ := ih inner' (fun hides => clear (hides.beforeTurn .some)) alike
      exact ⟨rfl, inStep⟩
  | noParts =>
    cases expands'
    exact ⟨rfl, .refl alike⟩
  | full long =>
    cases expands' with
    | full _ => exact ⟨rfl, .refl alike⟩
    | part short _ _ => exact nomatch long.symm.trans short
  | part short first later ihFirst ihLater =>
    cases expands' with
    | full long => exact nomatch long.symm.trans short
    | part short' first' later' =>
      cases short.symm.trans short'
      obtain ⟨rfl, inStep⟩ := ihFirst first' (fun hides => clear (hides.beforeTurn (.part short))) alike
      obtain ⟨rfl, inStep'⟩ := ihLater later' (fun hides => clear (hides.beforeTurn (.next short first))) inStep.toAlike
      exact ⟨rfl, inStep.trans inStep'⟩
  | noBranches =>
    cases expands'
    exact ⟨rfl, .refl alike⟩
  | branch first later ihFirst ihLater =>
    cases expands' with
    | branch first' later' =>
      obtain ⟨rfl, inStep⟩ := ihFirst first' (fun hides => clear (hides.beforeTurn .branch)) alike
      obtain ⟨rfl, inStep'⟩ := ihLater later' (fun hides => clear (hides.beforeTurn (.other first))) inStep.toAlike
      exact ⟨rfl, inStep.trans inStep'⟩

structure Steady (a : Analyzer) (s : Stage) : Prop where
  faithful : s.desk.Faithful a
  linked : s.desk.Linked a.grammar s.leading (s.piece.leading a.grammar.nullable.contains)
  positive : 0 < s.k

section
variable (exact : a.nullable = a.grammar.nullable) (distinct : a.grammar.Distinct)
include exact distinct

theorem Turns.keepSteady {s t : Stage} (turns : a.Turns s t) (steady : a.Steady s) : a.Steady t := by
  obtain ⟨faithful, linked, positive⟩ := steady
  cases turns with
  | opened fresh known miss => exact ⟨faithful, linked.whenOpened known, positive⟩
  | call => exact ⟨faithful, linked, positive⟩
  | inOrder => exact ⟨faithful, linked.partsOf, positive⟩
  | firstOf => exact ⟨faithful, linked, positive⟩
  | optional => exact ⟨faithful, linked, positive⟩
  | many => exact ⟨faithful, linked, positive⟩
  | some => exact ⟨faithful, linked, positive⟩
  | part short => exact ⟨faithful, linked.firstPart short, Nat.sub_pos_of_lt (shortestBelowFound short).1⟩
  | next short first =>
    have half := first.halfwayParts exact distinct faithful (Nat.le_refl _) short linked
    exact ⟨half.faithful, half.behind, positive⟩
  | branch => exact ⟨faithful, linked.firstBranch, positive⟩
  | other first =>
    have half := first.halfwayBranches exact distinct faithful (Nat.le_refl _) positive linked
    exact ⟨half.faithful, half.behind, positive⟩

theorem Steady.alongTurns {s t : Stage} (steady : a.Steady s) (comes : Relation.ReflTransGen a.Turns s t) :
    a.Steady t := by
  induction comes with
  | refl => exact steady
  | tail _ turns ih => exact turns.keepSteady exact distinct ih

theorem HidesCut.leftRecursive {start : Stage} (hides : a.HidesCut kept start) (steady : a.Steady start) :
    ∃ rule, a.grammar.LeftRecursive rule := by
  obtain ⟨budget, rule, k, leading, d, paths, e, comes, _, _, expands, cut⟩ := hides
  obtain ⟨faithful, linked, positive⟩ := steady.alongTurns exact distinct comes
  obtain ⟨finds, _⟩ := expands.findsWhileLinked exact distinct positive faithful linked (Nat.le_refl _)
  obtain ⟨c, _, closes⟩ := finds.cut cut
  obtain ⟨n, _, walk⟩ := closes.walkAroundCycle
  exact ⟨c.head, Grammar.transGenIffWalk.mpr ⟨n, walk⟩⟩

end

section
variable {f : Findings} (inTime : a.InTime) (asked : a.Asked f)
include asked

theorem Asked.alikeFresh (cycles : List Cycle) : Desk.Alike a f.desk.Keeps {} (f.desk.cleared cycles) where
  stack := rfl
  faithful := fun _ _ found => nomatch found
  faithful' := asked.faithfulAndLevelled.1
  more := fun _ keeps => nomatch keeps
  before := fun _ => .inr

include inTime

theorem Asked.sameExpansion {rule : String} {k depth : Nat}
    (clear : ¬ a.HidesCut f.desk.Keeps ⟨depth, .rule rule, k, true, {}⟩) :
    ∃ paths, (a.expand rule k depth).answer {} = Option.some paths ∧ (a.expand rule k depth).answer f =
        Option.some paths := by
  obtain ⟨paths, g, ran⟩ := endsExpand inTime rule k depth {}
  obtain ⟨paths', g', ran'⟩ := endsExpand inTime rule k depth f
  obtain ⟨rfl, _⟩ := (expandOk ran).1.inStep (expandOk ran').1 clear (asked.alikeFresh f.cycles)
  exact ⟨_, Query.answerWhenOk ran, Query.answerWhenOk ran'⟩

theorem Asked.sameRecursion {rule : String}
    (clear : ¬ a.HidesCut f.desk.Keeps ⟨a.config.maxDepth, .rule rule, a.config.firstK, true, {}⟩) :
    ∃ found, (a.recursionByDepth rule).answer {} = Option.some found ∧
      (a.recursionByDepth rule).answer f = Option.some found := by
  obtain ⟨found, g, ran⟩ := endsByDepth inTime rule {}
  obtain ⟨found', g', ran'⟩ := endsByDepth inTime rule f
  obtain ⟨rfl, _, _, expands⟩ := byDepthOk ran
  obtain ⟨rfl, _, _, expands'⟩ := byDepthOk ran'
  obtain ⟨_, inStep⟩ := expands.inStep expands' clear (asked.alikeFresh [])
  have cycles : g'.cycles = g.cycles := inStep.cycles rfl
  rw [cycles] at ran'
  exact ⟨_, Query.answerWhenOk ran, Query.answerWhenOk ran'⟩

end

theorem historyFree (rules : Rules) (name entry : String) (tokens : List Definition) (config : AnalyzerConfig)
    {clock : Nat → Nat} (made : a = .ofGrammar (Grammar.collect rules name entry tokens).1 config clock)
    (inTime : a.InTime) {f : Findings} (asked : a.Asked f) (rule : String) {k : Nat} (positive : 0 < k) (depth : Nat) :
    (¬ a.HidesCut f.desk.Keeps ⟨depth, .rule rule, k, true, {}⟩ →
      ∃ paths, (a.expand rule k depth).answer {} = Option.some paths ∧
        (a.expand rule k depth).answer f = Option.some paths) ∧
    (¬ a.HidesCut f.desk.Keeps ⟨a.config.maxDepth, .rule rule, a.config.firstK, true, {}⟩ →
      ∃ found, (a.recursionByDepth rule).answer {} = Option.some found ∧
        (a.recursionByDepth rule).answer f = Option.some found) ∧
    (a.HidesCut f.desk.Keeps ⟨depth, .rule rule, k, true, {}⟩ → ∃ other, a.grammar.LeftRecursive other) := by
  refine ⟨asked.sameExpansion inTime, asked.sameRecursion inTime, fun hides => ?_⟩
  subst made
  have steady : Steady (.ofGrammar (Grammar.collect rules name entry tokens).1 config clock)
      ⟨depth, .rule rule, k, true, {}⟩ :=
    ⟨fun _ _ found => (nomatch found), ⟨List.isChain_nil, fun _ _ top => nomatch top⟩, positive⟩
  exact hides.leftRecursive rfl (Grammar.collectDistinct rules name entry tokens) steady

namespace Sample

def chained : Rules :=
  [("E", .firstOf [.inOrder [.call "E" "E", .consume "b" defaultGoal], .consume "a" defaultGoal])]

def chainAnalyzer : Analyzer := .ofGrammar (Grammar.collect chained "E" "E" []).1 {} fun _ => 0

def twisted : Rules := [("A", .call "B" "B"), ("B", .call "C" "C"), ("C", .call "B" "B")]

def twistAnalyzer : Analyzer := .ofGrammar (Grammar.collect twisted "A" "A" []).1 { maxDepth := 2 } fun _ => 0

def twistAsked : Findings := (twistAnalyzer.expand "A" 3 2).after {}

end Sample

theorem historyFreeOnChain :
    (Sample.chainAnalyzer.recursionByDepth "E").answer ((Sample.chainAnalyzer.expand "E" 3 6).after {}) =
      Option.some (Option.some ⟨["E", "E"]⟩) := by
  have first : (Sample.chainAnalyzer.expand "E" 3 6).answer {} = Option.some [[.token "a"]] := by decide +kernel
  have fresh : (Sample.chainAnalyzer.recursionByDepth "E").answer {} = Option.some (Option.some ⟨["E", "E"]⟩) := by
    decide +kernel
  have inTime : Sample.chainAnalyzer.InTime := fun _ => Nat.zero_le _
  have asked := Asked.fresh.again (.expand "E" 3 6) ⟨_, Query.answerSomeIff.mp first⟩
  have nothing : ((Sample.chainAnalyzer.expand "E" 3 6).after {}).depthCache = [] :=
    List.isEmpty_iff.mp (by decide +kernel)
  have same := (historyFree (a := Sample.chainAnalyzer) Sample.chained "E" "E" [] {} rfl inTime asked "E" (k := 3)
    (by decide) 6).2.1
  obtain ⟨found, was, is⟩ := same fun hides => hides.cacheNonempty nothing
  rw [fresh] at was
  cases was
  exact is

theorem historyShowsTwisted :
    Sample.twistAnalyzer.InTime ∧ Sample.twistAnalyzer.Asked Sample.twistAsked ∧
      (Sample.twistAnalyzer.recursionByDepth "C").answer {} = Option.some (Option.some ⟨["C", "B", "C"]⟩) ∧
      (Sample.twistAnalyzer.recursionByDepth "C").answer Sample.twistAsked = Option.some none ∧
      (Sample.twistAnalyzer.expand "C" 3 2).answer {} = Option.some [] ∧
      (Sample.twistAnalyzer.expand "C" 3 2).answer Sample.twistAsked = Option.some [[.rule "C"]] := by
  have first : (Sample.twistAnalyzer.expand "A" 3 2).answer {} = Option.some [[.rule "C"]] := by decide +kernel
  refine ⟨fun _ => Nat.zero_le _, Asked.fresh.again (.expand "A" 3 2) ⟨_, Query.answerSomeIff.mp first⟩, ?_⟩
  decide +kernel

end Analyzer
end Packrat

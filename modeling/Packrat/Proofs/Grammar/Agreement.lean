import Packrat.Proofs.Grammar.Acceptance
import Packrat.Proofs.Grammar.Asked
import Packrat.Proofs.Grammar.Recording

/-! The two searches for left recursion. They differ for three reasons only: a choice without branches, a
depth-first search cut off at another rule, and a set kept of a rule on the cycle. -/
namespace Packrat
namespace Desk

def Clears (g : Grammar) (target : String) (full : Nat) (d : Desk) : Prop :=
  ∀ key, d.Keeps key → key.k = full → (∃ n, g.Walk (n + 1) target key.rule) →
    ∀ m ≤ key.budget, ¬ g.Walk m key.rule target

theorem Clears.afterClosing {g : Grammar} {target : String} {full : Nat} {outer d : Desk} {key : DepthKey}
    {leading : Bool} {paths : PathSet} (clears : d.Clears g target full)
    (own : key.k = full → ∀ m ≤ key.budget, ¬ g.Walk m key.rule target) :
    (outer.closed key leading paths d).Clears g target full := by
  intro other kept long comes
  rcases (closedKeeps other).mp kept with ⟨_, rfl⟩ | kept
  · exact own long
  · exact clears other kept long comes

end Desk

namespace Analyzer

section
variable {a : Analyzer} (exact : a.nullable = a.grammar.nullable) (distinct : a.grammar.Distinct)
include exact distinct

theorem Expands.emptyPathKept {budget k : Nat} {n : Node} {leading : Bool} {d e : Desk} {paths : PathSet}
    (expands : a.Expands budget (.node n) k leading d paths e) (uncut : e.cuts = d.cuts) (positive : 0 < k)
    (faithful : d.Faithful a) (vanishes : n.isNullable a.grammar.nullable.contains) : [] ∈ paths := by
  obtain ⟨_, _, whole⟩ := expands.keepsFaithful faithful
  have calls : ∀ rule k, 0 < k → ([] ∈ (Whole.ofRule a budget rule k).paths ↔ a.grammar.nullable.contains rule) :=
    fun rule k positive => by simpa using Whole.nilMemOfRule exact distinct budget rule positive
  rw [(whole uncut).1]
  exact (Whole.nilMemOfNode calls n positive).mpr vanishes

theorem Expands.uncutAvoidsTarget {target : String} {full budget k : Nat} {piece : Piece} {leading : Bool} {d e : Desk}
    {paths : PathSet} (expands : a.Expands budget piece k leading d paths e) (uncut : e.cuts = d.cuts)
    (positive : 0 < k) (faithful : d.Faithful a)
    (linked : d.Linked a.grammar leading (piece.leading a.grammar.nullable.contains))
    (clears : d.Clears a.grammar target full) (place : k < full ∨ k = full ∧ leading = true ∧ target ∈ d.stack) :
    e.Clears a.grammar target full ∧
      (k = full → ∀ x ∈ piece.leading a.grammar.nullable.contains, ∀ m ≤ budget, ¬ a.grammar.Walk m x target) := by
  induction expands with
  | cut again => exact absurd uncut (Nat.succ_ne_self _)
  | @stand budget rule k leading d fresh shut =>
    refine ⟨clears, fun long x inside m le walk => ?_⟩
    obtain ⟨_, leads, below⟩ := place.resolve_left (by omega)
    obtain rfl : x = rule := List.mem_singleton.mp inside
    cases m with
    | zero =>
      cases walk
      exact fresh leads below
    | succ m =>
      obtain ⟨next, leads, _⟩ := walk
      obtain ⟨body, known⟩ := leads.fromDefined
      rcases shut with unknown | rfl
      · cases unknown.symm.trans known
      · exact absurd le (Nat.not_succ_le_zero m)
  | @hit budget rule k leading d body paths fresh known found =>
    refine ⟨clears, fun long x inside => ?_⟩
    obtain ⟨_, rfl, below⟩ := place.resolve_left (by omega)
    obtain rfl : x = rule := List.mem_singleton.mp inside
    exact clears _ ⟨_, found⟩ long (linked.walkFromBelow below)
  | @opened budget rule k leading d body paths e fresh known miss inner ih =>
    have place' : k < full ∨ k = full ∧ true = true ∧ target ∈ (d.opened rule leading).stack := by
      refine place.imp_right fun here => ⟨here.1, rfl, ?_⟩
      simp [Desk.opened, here.2.1, here.2.2]
    obtain ⟨clears, inside⟩ := ih uncut positive faithful (linked.whenOpened known) clears place'
    have own : k = full → ∀ m ≤ budget + 1, ¬ a.grammar.Walk m rule target := by
      intro long m le walk
      obtain ⟨_, leads, below⟩ := place.resolve_left (by omega)
      cases m with
      | zero =>
        cases walk
        exact fresh leads below
      | succ m =>
        obtain ⟨next, leads, walk⟩ := walk
        rw [Grammar.Leads, Grammar.startsOfBody known] at leads
        exact inside long next leads m (by omega) walk
    refine ⟨clears.afterClosing own, fun long x member => ?_⟩
    obtain rfl : x = rule := List.mem_singleton.mp member
    exact own long
  | consume => exact ⟨clears, fun _ x inside => absurd inside List.not_mem_nil⟩
  | call inner ih => exact ih uncut positive faithful linked clears place
  | inOrder inner ih =>
    obtain ⟨clears, inside⟩ := ih uncut positive faithful linked.partsOf clears place
    exact ⟨clears, fun long x member => inside long x (by simpa [Piece.leading, Node.leading] using member)⟩
  | firstOf inner ih => exact ih uncut positive faithful linked clears place
  | optional inner ih => exact ih uncut positive faithful linked clears place
  | many inner ih => exact ih uncut positive faithful linked clears place
  | some inner ih => exact ih uncut positive faithful linked clears place
  | noParts =>
    refine ⟨clears, fun _ x inside => ?_⟩
    simp [Piece.leading, Node.leadingParts] at inside
  | full long =>
    refine ⟨clears, fun _ x inside => ?_⟩
    simp [Piece.leading, emptyAbsentWhenLong positive long] at inside
  | @part budget n rest k leading d acc shortest tail e paths f short first later ihFirst ihLater =>
    have below := (shortestBelowFound short).1
    have more := (first.keepsFaithful faithful).2.1
    have more' := (later.keepsFaithful (first.keepsFaithful faithful).1).2.1
    have left : 0 < k - shortest := by omega
    have half := first.halfwayParts exact distinct faithful (Nat.le_refl _) short linked
    have place' : k - shortest < full ∨
        k - shortest = full ∧ (leading && shortest == 0) = true ∧ target ∈ d.stack := by
      rcases place with small | ⟨long, leads, inside⟩
      · exact .inl (by omega)
      · rcases Nat.eq_zero_or_pos shortest with rfl | some
        · exact .inr ⟨long, by simp [leads], inside⟩
        · exact .inl (by omega)
    obtain ⟨clears, here⟩ := ihFirst (by omega) left faithful half.before clears place'
    obtain ⟨clears, beyond⟩ := ihLater (by omega) positive half.faithful half.behind clears
      (half.finds.stack ▸ place)
    refine ⟨clears, fun long x inside => ?_⟩
    by_cases empty : [] ∈ acc
    · have none := (shortestZeroIff short).mpr empty
      simp only [Piece.leading, empty, if_true, Node.leadingParts, List.mem_append] at inside
      rcases inside with own | rest
      · exact here (by omega) x own
      · split at rest
        · rename_i gone
          have empty' := first.emptyPathKept exact distinct (by omega) left faithful gone
          refine beyond long x ?_
          simpa [Piece.leading, (PathSet.nilMemProduct positive).mpr ⟨empty, empty'⟩] using rest
        · exact absurd rest List.not_mem_nil
    · simp [Piece.leading, empty] at inside
  | noBranches => exact ⟨clears, fun _ x inside => absurd inside List.not_mem_nil⟩
  | @branch budget n rest k leading d acc other e paths f first later ihFirst ihLater =>
    have more := (first.keepsFaithful faithful).2.1
    have more' := (later.keepsFaithful (first.keepsFaithful faithful).1).2.1
    have half := first.halfwayBranches exact distinct faithful (Nat.le_refl _) positive linked
    obtain ⟨clears, here⟩ := ihFirst (by omega) positive faithful half.before clears place
    obtain ⟨clears, beyond⟩ := ihLater (by omega) positive half.faithful half.behind clears
      (half.finds.stack ▸ place)
    exact ⟨clears, fun long x inside => (List.mem_append.mp inside).elim (here long x) (beyond long x)⟩

end

def Distracted (a : Analyzer) (f : Findings) (rule : String) : Prop :=
  ∃ c ∈ ((a.recursionByDepth rule).after f).cycles, c.head ≠ rule

def Shadowed (a : Analyzer) (f : Findings) (rule : String) : Prop :=
  ∃ key, f.desk.Keeps key ∧ key.k = a.config.firstK ∧ (∃ n, a.grammar.Walk (n + 1) rule key.rule) ∧
    ∃ m ≤ key.budget, a.grammar.Walk m key.rule rule

def Truncates (a : Analyzer) (rule : String) : Prop :=
  ∃ f depth e, a.Asked f ∧ (a.level rule depth).answer f = Option.some e ∧ e.truncated = true

section
variable {a : Analyzer} (exact : a.nullable = a.grammar.nullable) (distinct : a.grammar.Distinct)
  (long : 0 < a.config.firstK) {f g : Findings} {rule : String} {found : Option Cycle} (faithful : f.desk.Faithful a)
  (ran : a.recursionByDepth rule f = .ok found g)
include exact distinct long faithful ran

theorem byDepthFinds : found.isSome → ∃ n < a.config.maxDepth, a.grammar.Walk (n + 1) rule rule := by
  obtain ⟨rfl, _, _, expands⟩ := byDepthOk ran
  obtain ⟨finds, _⟩ := expands.findsWhileLinked exact distinct long faithful (linkedCleared _ _ _ _ _)
    (Nat.le_of_eq (Nat.zero_add _))
  intro some
  obtain ⟨c, hit⟩ := Option.isSome_iff_exists.mp some
  have head : c.head = rule := by simpa using List.find?_some hit
  have closes := (finds.found c (List.mem_of_find?_eq_some hit)).resolve_left (fun old => nomatch old)
  exact head ▸ closes.walkAroundCycle

theorem byDepthMisses (deep : 0 < a.config.maxDepth) (missed : found = none)
    (recursive : ∃ n < a.config.maxDepth, a.grammar.Walk (n + 1) rule rule) :
    (∃ c ∈ g.cycles, c.head ≠ rule) ∨ a.Shadowed f rule := by
  obtain ⟨n, less, walk⟩ := recursive
  obtain ⟨same, _, paths, expands⟩ := byDepthOk ran
  obtain ⟨finds, _⟩ := expands.findsWhileLinked exact distinct long faithful (linkedCleared _ _ _ _ _)
    (Nat.le_of_eq (Nat.zero_add _))
  by_contra neither
  rw [not_or] at neither
  obtain ⟨alone, clear⟩ := neither
  have none : ∀ c, c ∉ g.cycles := by
    intro c member
    have other := List.find?_eq_none.mp (same.symm.trans missed) c member
    exact alone ⟨c, member, by simpa using other⟩
  have uncut : g.desk.cuts = (f.desk.cleared []).cuts := by
    refine Nat.le_antisymm (Nat.le_of_not_lt fun cut => ?_) finds.more
    obtain ⟨c, member, _⟩ := finds.cut cut
    exact none c member
  have clears : (f.desk.cleared []).Clears a.grammar rule a.config.firstK :=
    fun key kept full comes m le back => clear ⟨key, kept, full, comes, m, le, back⟩
  obtain ⟨depth, eq⟩ : ∃ depth, a.config.maxDepth = depth + 1 := ⟨a.config.maxDepth - 1, by omega⟩
  obtain ⟨next, leads, back⟩ := walk
  obtain ⟨body, known⟩ := leads.fromDefined
  rw [eq] at expands less
  generalize g.desk = e at expands uncut
  cases expands with
  | cut again => exact nomatch again
  | stand _ shut => simp [known] at shut
  | hit _ _ kept =>
    exact clears _ ⟨_, kept⟩ rfl ⟨n, next, leads, back⟩ (n + 1) less ⟨next, leads, back⟩
  | @opened _ _ _ _ _ body' _ _ _ known' _ inner =>
    cases known.symm.trans known'
    have linked : (f.desk.cleared []).Linked a.grammar true [rule] := linkedCleared _ _ _ _ _
    have away := (inner.uncutAvoidsTarget exact distinct uncut long faithful (linked.whenOpened known) clears
      (.inr ⟨rfl, rfl, by simp [Desk.opened]⟩)).2 rfl
    rw [Grammar.Leads, Grammar.startsOfBody known] at leads
    exact away next leads n (Nat.le_of_lt_succ less) back

end
end Analyzer

namespace Conflict

def Concerns (a : Analyzer) (rule : String) (choice : Nat) (branches : List Node) (x : Finding) : Prop :=
  x ∈ emptyPaths a rule choice branches ∨ x.kind = .identicalBranches ∨ x.kind = .prefixConflict

theorem emptyPathsKind {a : Analyzer} {rule : String} {choice : Nat} {branches : List Node} {x : Finding}
    (member : x ∈ emptyPaths a rule choice branches) : x.kind = .emptyPath := by
  obtain ⟨_, _, rfl⟩ := List.mem_map.mp member
  rfl

theorem betweenKind {rule : String} {choice k i j : Nat} {a b : Start} {x : Finding}
    (told : between rule choice k i j a b = some x) : x.kind = .identicalBranches ∨ x.kind = .prefixConflict := by
  unfold between at told
  split at told
  · cases told
    exact .inl rfl
  · obtain ⟨_, _, rfl⟩ := Option.map_eq_some_iff.mp told
    exact .inr rfl

theorem memAgainstLater {rule : String} {choice k i j : Nat} {a : Start} {later : List Start} {x : Finding}
    (member : x ∈ againstLater rule choice k i a j later) :
    ∃ n b, later[n]? = some b ∧ between rule choice k i (j + n) a b = some x := by
  induction later generalizing j with
  | nil => exact nomatch member
  | cons b rest ih =>
    rcases List.mem_append.mp member with here | rest
    · exact ⟨0, b, rfl, Option.mem_toList.mp here⟩
    · obtain ⟨n, b, there, told⟩ := ih rest
      exact ⟨n + 1, b, there, by rwa [Nat.add_comm n 1, ← Nat.add_assoc]⟩

theorem memBetweenAll {rule : String} {choice k i : Nat} {starts : List Start} {x : Finding}
    (member : x ∈ betweenAll rule choice k i starts) : ∃ m n a b, m < n ∧ starts[m]? = some a ∧ starts[n]? = some b ∧
      between rule choice k (i + m) (i + n) a b = some x := by
  induction starts generalizing i with
  | nil => exact nomatch member
  | cons a rest ih =>
    rcases List.mem_append.mp member with here | rest
    · obtain ⟨n, b, there, told⟩ := memAgainstLater here
      exact ⟨0, n + 1, a, b, Nat.succ_pos n, rfl, there, by rwa [Nat.add_zero, Nat.add_comm n 1, ← Nat.add_assoc]⟩
    · obtain ⟨m, n, a, b, less, here, there, told⟩ := ih rest
      refine ⟨m + 1, n + 1, a, b, Nat.succ_lt_succ less, here, there, ?_⟩
      rwa [Nat.add_comm m 1, Nat.add_comm n 1, ← Nat.add_assoc, ← Nat.add_assoc]

theorem betweenAllKind {rule : String} {choice k i : Nat} {starts : List Start} {x : Finding}
    (member : x ∈ betweenAll rule choice k i starts) : x.kind = .identicalBranches ∨ x.kind = .prefixConflict := by
  obtain ⟨_, _, _, _, _, _, _, told⟩ := memBetweenAll member
  exact betweenKind told

section
variable {a : Analyzer} {f g : Findings} {found : List Finding}

theorem checkChoiceConcerns {rule : String} {choice : Nat} {branches : List Node}
    (ran : checkChoice a rule choice branches f = .ok found g) : ∀ x ∈ found, Concerns a rule choice branches x := by
  unfold checkChoice at ran
  split at ran
  · cases ran
    exact fun _ member => nomatch member
  · obtain ⟨starts, _, _, ran⟩ := Analyzer.bindOk ran
    cases ran
    exact List.forall_mem_append.mpr ⟨fun _ => .inl, fun _ both => .inr (betweenAllKind both)⟩

theorem checkRuleConcerns {recursive : List String} {rule : String} {choices : List (List Node × Nat)}
    (ran : checkRule a recursive rule choices f = .ok found g) :
    ∀ x ∈ found, ∃ c ∈ choices, Concerns a rule c.2 c.1 x := by
  induction choices generalizing f found with
  | nil =>
    cases ran
    exact fun _ member => nomatch member
  | cons e rest ih =>
    have rest : ∀ {here h}, (∀ x ∈ here, Concerns a rule e.2 e.1 x) →
        (checkRule a recursive rule rest >>= fun more => pure (here ++ more)) h = .ok found g →
        ∀ x ∈ found, ∃ c ∈ e :: rest, Concerns a rule c.2 c.1 x := by
      intro here h first ran
      obtain ⟨more, _, later, ran⟩ := Analyzer.bindOk ran
      cases ran
      refine List.forall_mem_append.mpr ⟨fun x member => ⟨e, List.mem_cons_self, first x member⟩, fun x member => ?_⟩
      obtain ⟨c, inside, concerns⟩ := ih later x member
      exact ⟨c, List.mem_cons_of_mem _ inside, concerns⟩
    unfold checkRule at ran
    dsimp only at ran
    split at ran
    · obtain ⟨_, _, _, ran⟩ := Analyzer.bindOk ran
      obtain ⟨_, _, skipped, ran⟩ := Analyzer.bindOk ran
      cases skipped
      exact rest (List.forall_mem_nil _) ran
    · obtain ⟨here, _, first, ran⟩ := Analyzer.bindOk ran
      exact rest (checkChoiceConcerns first) ran

theorem checkRulesConcerns {recursive : List String} {rules : List (String × Node)}
    (ran : checkRules a recursive rules f = .ok found g) :
    ∀ x ∈ found, ∃ r ∈ rules, ∃ c ∈ r.2.choices.zipIdx, Concerns a r.1 c.2 c.1 x := by
  induction rules generalizing f found with
  | nil =>
    cases ran
    exact fun _ member => nomatch member
  | cons e rest ih =>
    obtain ⟨here, _, first, ran⟩ := Analyzer.bindOk ran
    obtain ⟨more, _, later, ran⟩ := Analyzer.bindOk ran
    cases ran
    refine List.forall_mem_append.mpr ⟨fun x member => ⟨e, List.mem_cons_self, checkRuleConcerns first x member⟩,
      fun x member => ?_⟩
    obtain ⟨r, inside, concerns⟩ := ih later x member
    exact ⟨r, List.mem_cons_of_mem _ inside, concerns⟩

end
end Conflict

namespace Analyzer

def Differs (a : Analyzer) (f : Findings) (rule : String) : Prop :=
  ∃ found answer g h, a.recursionByDepth rule f = .ok found g ∧
    a.recursionByLevel rule g = .ok (Option.some answer) h ∧ answer ≠ found.isSome

end Analyzer

namespace Validation

theorem recursionsDiffer {a : Analyzer} {rules : List String} {found : List (String × Cycle)} {f g : Findings}
    {x : Finding} (asked : a.Asked f) (ran : recursions a rules found f = .ok (.error x) g) :
    x.kind = .disagreement ∧ ∃ rule ∈ rules, ∃ f, a.Asked f ∧ a.Differs f rule := by
  induction rules generalizing found f with
  | nil => cases ran
  | cons rule rest ih =>
    obtain ⟨byDepth, f', ranDepth, ran⟩ := Analyzer.bindOk ran
    obtain ⟨byLevel, f'', ranLevel, ran⟩ := Analyzer.bindOk ran
    have asked' := (asked.again (.byDepth rule) ⟨_, ranDepth⟩).again (.byLevel rule) ⟨_, ranLevel⟩
    have onward : (x.kind = .disagreement ∧ ∃ rule ∈ rest, ∃ f, a.Asked f ∧ a.Differs f rule) →
        x.kind = .disagreement ∧ ∃ r ∈ rule :: rest, ∃ f, a.Asked f ∧ a.Differs f r :=
      fun ⟨kind, r, member, later⟩ => ⟨kind, r, List.mem_cons_of_mem _ member, later⟩
    split at ran
    · rename_i answer
      split at ran
      · rename_i differs
        have kind : x.kind = .disagreement := by
          cases ran
          rfl
        exact ⟨kind, rule, List.mem_cons_self, f, asked, byDepth, answer, f', f'', ranDepth, ranLevel,
          by simpa using differs⟩
      · exact onward (ih asked' ran)
    · exact onward (ih asked' ran)

inductive Origin (a : Analyzer) (x : Finding) : Prop where
  | undefined (kind : x.kind = .undefinedToken)
  | late (kind : x.kind = .tooComplex)
  | cycle (kind : x.kind = .leftRecursion)
  | differing (kind : x.kind = .disagreement)
      (differs : ∃ rule ∈ a.grammar.rules.map Prod.fst, ∃ f, a.Asked f ∧ a.Differs f rule)
  | conflict {cycles : List (String × Cycle)} {conflicts : List Finding} {f g : Findings}
      (searched : recursions a (a.grammar.rules.map (·.1)) [] {} = .ok (.ok cycles) f)
      (checked : Conflict.detect a (cycles.flatMap (·.2.rules)) f = .ok conflicts g) (told : x ∈ conflicts)

theorem validateOrigin {g : Grammar} {config : AnalyzerConfig} {clock : Nat → Nat} {x : Finding}
    (reported : x ∈ (validate g config clock).1.findings) : Origin (.ofGrammar g config clock) x := by
  obtain ⟨found, finds, eq⟩ := validateFinds g config clock
  rw [eq] at reported
  rcases List.mem_append.mp (memDistinct reported) with undefined | found
  · unfold undefinedTokens at undefined
    split at undefined
    · exact absurd undefined List.not_mem_nil
    · obtain ⟨_, _, inside⟩ := List.mem_flatMap.mp undefined
      obtain ⟨_, _, rfl⟩ := List.mem_map.mp inside
      exact .undefined rfl
  · cases finds with
    | late t =>
      cases List.mem_singleton.mp found
      exact .late rfl
    | differing searched =>
      cases List.mem_singleton.mp found
      obtain ⟨kind, differs⟩ := recursionsDiffer .fresh searched
      exact .differing kind differs
    | searched searched checked =>
      rcases List.mem_append.mp found with cycle | conflict
      · obtain ⟨_, _, rfl⟩ := List.mem_map.mp cycle
        exact .cycle rfl
      · exact .conflict searched checked conflict

theorem validateDiffer {g : Grammar} {config : AnalyzerConfig} {clock : Nat → Nat} {x : Finding}
    (reported : x ∈ (validate g config clock).1.findings) (disagrees : x.kind = .disagreement) :
    ∃ rule ∈ g.rules.map Prod.fst, ∃ f, (Analyzer.ofGrammar g config clock).Asked f ∧
      (Analyzer.ofGrammar g config clock).Differs f rule := by
  cases validateOrigin reported with
  | undefined kind => exact nomatch disagrees.symm.trans kind
  | late kind => exact nomatch disagrees.symm.trans kind
  | cycle kind => exact nomatch disagrees.symm.trans kind
  | differing _ differs => exact differs
  | conflict _ checked told =>
    obtain ⟨_, _, _, _, concerns⟩ := Conflict.checkRulesConcerns checked x told
    rcases concerns with empty | identical | early
    · exact nomatch disagrees.symm.trans (Conflict.emptyPathsKind empty)
    · exact nomatch disagrees.symm.trans identical
    · exact nomatch disagrees.symm.trans early

theorem validateEmpty {g : Grammar} {config : AnalyzerConfig} {clock : Nat → Nat} {x : Finding}
    (reported : x ∈ (validate g config clock).1.findings) (empty : x.kind = .emptyPath) :
    ∃ r ∈ g.rules, ∃ n branches i branch, r.2.choices[n]? = some branches ∧ branches[i]? = some branch ∧
      i + 1 < branches.length ∧ branch.isNullable g.nullable.contains ∧
      x.rule = r.1 ∧ x.choice = some n ∧ x.branches = [i] := by
  cases validateOrigin reported with
  | undefined kind => exact nomatch empty.symm.trans kind
  | late kind => exact nomatch empty.symm.trans kind
  | cycle kind => exact nomatch empty.symm.trans kind
  | differing kind _ => exact nomatch empty.symm.trans kind
  | conflict _ checked told =>
    obtain ⟨r, held, c, choice, concerns⟩ := Conflict.checkRulesConcerns checked x told
    rcases concerns with told | identical | early
    · obtain ⟨⟨branch, i⟩, member, rfl⟩ := List.mem_map.mp told
      obtain ⟨member, vanishes⟩ := List.mem_filter.mp member
      have inside := List.mem_zipIdx_iff_getElem?.mp member
      obtain ⟨less, _⟩ := List.getElem?_eq_some_iff.mp inside
      rw [List.length_dropLast] at less
      rw [List.getElem?_dropLast, if_pos less] at inside
      exact ⟨r, held, c.2, c.1, i, branch, List.mem_zipIdx_iff_getElem?.mp choice, inside, by omega, vanishes, rfl,
        rfl, rfl⟩
    · exact nomatch empty.symm.trans identical
    · exact nomatch empty.symm.trans early

end Validation

namespace Analyzer

theorem inLevelsUnknown {a : Analyzer} {rule : String} (count : Nat) {depth : Nat} {truncated : Bool} {f g : Findings}
    (asked : a.Asked f) (ran : a.recursionInLevels rule count depth truncated f = .ok none g) :
    truncated = true ∨ a.Truncates rule := by
  induction count generalizing depth truncated f with
  | zero =>
    cases truncated with
    | true => exact .inl rfl
    | false => cases ran
  | succ count ih =>
    obtain ⟨e, f', level, ran⟩ := bindOk ran
    split at ran
    · cases ran
    · rcases ih (asked.again (.level rule depth) ⟨e, level⟩) ran with either | later
      · rcases Bool.or_eq_true_iff.mp either with before | here
        · exact .inl before
        · exact .inr ⟨f, depth, e, asked, Query.answerWhenOk level, here⟩
      · exact .inr later

structure Compared (a : Analyzer) (f : Findings) (rule : String) (found : Option Cycle) (answer : Option Bool) :
    Prop where
  reported : found.isSome → ∃ n < a.config.maxDepth, a.grammar.Walk (n + 1) rule rule
  affirmed : answer = Option.some true → ∃ n < a.config.maxDepth, a.grammar.Walk (n + 1) rule rule
  denied : found.isSome → answer = Option.some false → ¬ a.grammar.Branched
  missed : found = none → answer = Option.some true → a.Distracted f rule ∨ a.Shadowed f rule
  unknown : answer = none → a.Truncates rule

theorem Asked.strategiesCompared {a : Analyzer} (exact : a.nullable = a.grammar.nullable)
    (distinct : a.grammar.Distinct)
    (long : 0 < a.config.firstK) (deep : 0 < a.config.maxDepth) {f g h : Findings} (asked : a.Asked f) {rule : String}
    (recorded : rule ∈ a.grammar.rules.map Prod.fst) {found : Option Cycle} {answer : Option Bool}
    (ranDepth : a.recursionByDepth rule f = .ok found g) (ranLevel : a.recursionByLevel rule g = .ok answer h) :
    a.Compared f rule found answer := by
  obtain ⟨⟨_, body⟩, member, rfl⟩ := List.mem_map.mp recorded
  have known := distinct.ruleFound member
  have faithful := asked.faithfulAndLevelled.1
  have asked' := asked.again (.byDepth _) ⟨_, ranDepth⟩
  obtain ⟨_, _, yes, no⟩ := givesByLevel exact distinct deep known g answer h ranLevel asked'.faithfulAndLevelled.2
  have finds := byDepthFinds exact distinct long faithful ranDepth
  refine ⟨finds, yes, fun some unseen branched => ?_, fun missed seen => ?_, ?_⟩
  · obtain ⟨n, less, walk⟩ := finds some
    exact no unseen branched n less walk
  · unfold Distracted
    rw [Query.afterWhenOk ranDepth]
    exact byDepthMisses exact distinct long faithful ranDepth deep missed (yes seen)
  · rintro rfl
    exact (inLevelsUnknown _ asked' ranLevel).resolve_left Bool.false_ne_true

theorem strategiesAgree (rules : Rules) (name entry : String) (tokens : List Definition) (config : AnalyzerConfig)
    {a : Analyzer} {clock : Nat → Nat} (made : a = .ofGrammar (Grammar.collect rules name entry tokens).1 config clock)
    (inTime : a.InTime) :
    (∀ f, a.Asked f → ∀ rule ∈ a.grammar.rules.map Prod.fst, ∃ found answer,
      (a.recursionByDepth rule).answer f = Option.some found ∧
      (a.recursionByLevel rule).answer ((a.recursionByDepth rule).after f) = Option.some answer ∧
      a.Compared f rule found answer) ∧
    ∀ x ∈ (Validation.validate (Grammar.collect rules name entry tokens).1 config clock).1.findings,
      x.kind = .disagreement → ∃ rule ∈ a.grammar.rules.map Prod.fst, ∃ f, a.Asked f ∧
        (¬ a.grammar.Branched ∨ a.Distracted f rule ∨ a.Shadowed f rule) := by
  subst made
  have distinct := Grammar.collectDistinct rules name entry tokens
  have one : ∀ n, 0 < max n 1 := fun n => Nat.lt_of_lt_of_le Nat.one_pos (Nat.le_max_right n 1)
  refine ⟨fun f asked rule recorded => ?_, fun x reported disagrees => ?_⟩
  · obtain ⟨found, g, ranDepth⟩ := endsByDepth inTime rule f
    obtain ⟨answer, h, ranLevel⟩ := endsByLevel inTime rule g
    have compared := asked.strategiesCompared rfl distinct (one _) (one _) recorded ranDepth ranLevel
    refine ⟨found, answer, Query.answerWhenOk ranDepth, ?_, compared⟩
    rw [Query.afterWhenOk ranDepth]
    exact Query.answerWhenOk ranLevel
  · obtain ⟨rule, recorded, f, asked, found, answer, g, h, ranDepth, ranLevel, differs⟩ :=
      Validation.validateDiffer reported disagrees
    have compared := asked.strategiesCompared rfl distinct (one _) (one _) recorded ranDepth ranLevel
    refine ⟨rule, recorded, f, asked, ?_⟩
    cases found with
    | none =>
      have seen : answer = true := by simpa using differs
      exact .inr (compared.missed rfl (congrArg _ seen))
    | some c =>
      have unseen : answer = false := by simpa using differs
      exact .inl (compared.denied rfl (congrArg _ unseen))

namespace Sample

def looped : Rules :=
  [("Q", .call "A" "A"),
    ("A", .firstOf [.inOrder [.call "N" "N", .call "Q" "Q"], .inOrder []]),
    ("N", .call "A" "A")]

def loopAnalyzer : Analyzer := .ofGrammar (Grammar.collect looped "Q" "Q" []).1 {} fun _ => 0

end Sample

theorem strategiesAgreeOnLoop : Sample.loopAnalyzer.Distracted {} "Q" := by
  have inTime : Sample.loopAnalyzer.InTime := fun _ => Nat.zero_le _
  have unseen : (Sample.loopAnalyzer.recursionByDepth "Q").answer {} = Option.some none := by decide +kernel
  have seen : (Sample.loopAnalyzer.recursionByLevel "Q").answer
      ((Sample.loopAnalyzer.recursionByDepth "Q").after {}) = Option.some (Option.some true) := by decide +kernel
  obtain ⟨found, answer, byDepth, byLevel, compared⟩ :=
    (strategiesAgree Sample.looped "Q" "Q" [] {} (a := Sample.loopAnalyzer) rfl inTime).1 {} .fresh "Q"
      (by decide +kernel)
  rw [unseen] at byDepth
  rw [seen] at byLevel
  cases byDepth
  cases byLevel
  refine (compared.missed rfl rfl).resolve_right ?_
  rintro ⟨_, ⟨_, kept⟩, _⟩
  exact nomatch kept

theorem strategiesDifferDistracted :
    Sample.loopAnalyzer.InTime ∧
      (Sample.loopAnalyzer.recursionByDepth "Q").answer {} = Option.some none ∧
      (Sample.loopAnalyzer.recursionByLevel "Q").answer ((Sample.loopAnalyzer.recursionByDepth "Q").after {}) =
        Option.some (Option.some true) ∧
      (((Sample.loopAnalyzer.recursionByLevel "Q").after
        ((Sample.loopAnalyzer.recursionByDepth "Q").after {})).levelCache.all fun e => !e.2.truncated) ∧
      (Validation.validate (Grammar.collect Sample.looped "Q" "Q" []).1 {} fun _ => 0).1.findings.map
        (fun x => (x.kind, x.rule)) = [(.disagreement, "Q")] := by
  refine ⟨fun _ => Nat.zero_le _, ?_⟩
  decide +kernel

end Analyzer
end Packrat

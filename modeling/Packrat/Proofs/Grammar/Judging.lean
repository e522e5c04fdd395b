import Packrat.Grammar.Validation
import Packrat.Proofs.Grammar.Consulted
import Packrat.Proofs.Grammar.Lasting
import Packrat.Proofs.Grammar.Reaching
import Packrat.Proofs.Grammar.Unfolding

/-! What the choices of a grammar are judged on. One from which a rule on a reported cycle can be reached is
passed over; the sets of the others are complete. -/
namespace Packrat

namespace Node

theorem nodesTrans {n m : Node} (inside : m ∈ n.nodes) : ∀ x ∈ m.nodes, x ∈ n.nodes := by
  have below : ∀ {nodes : List Node}, (∀ n ∈ nodes, m ∈ n.nodes → ∀ x ∈ m.nodes, x ∈ n.nodes) → m ∈ nodesAll nodes →
      ∀ x ∈ m.nodes, x ∈ nodesAll nodes := by
    intro nodes ih inside x member
    obtain ⟨n, here, inside⟩ := memNodesAll.mp inside
    exact memNodesAll.mpr ⟨n, here, ih n here inside x member⟩
  have step : ∀ {nodes : List Node} {top : Node}, (m ∈ nodes → ∀ x ∈ m.nodes, x ∈ nodes) → top.nodes = top :: nodes →
      m ∈ top :: nodes → ∀ x ∈ m.nodes, x ∈ top :: nodes := by
    intro nodes top ih all inside x member
    rcases List.mem_cons.mp inside with rfl | deeper
    · exact all ▸ member
    · exact List.mem_cons_of_mem _ (ih deeper x member)
  induction n using Node.induction with
  | consume token =>
    rw [List.mem_singleton.mp inside]
    exact fun _ => id
  | call rule =>
    rw [List.mem_singleton.mp inside]
    exact fun _ => id
  | inOrder parts rule ih => exact step (below ih) rfl inside
  | firstOf branches ih => exact step (below ih) rfl inside
  | optional body ih => exact step ih rfl inside
  | many body ih => exact step ih rfl inside
  | some body ih => exact step ih rfl inside

theorem Branched.insideChoice {n : Node} (branched : n.Branched) {branches : List Node}
    (member : branches ∈ n.choices) :
    ∀ b ∈ branches, b.Branched := by
  have inside : Node.firstOf branches ∈ n.nodes := by
    obtain ⟨m, inside, found⟩ := List.mem_filterMap.mp member
    split at found
    · cases found
      exact inside
    · cases found
  exact (branched.ofFewerNodes (nodesTrans inside)).insideBranches.2

end Node

namespace Analyzer

theorem bindRan {α β : Type} {x : Query α} {next : α → Query β} {f g h : Findings} {v : α} {w : β}
    (first : x f = .ok v g) (later : next v g = .ok w h) : (x >>= next) f = .ok w h := by
  simp only [bind, EStateM.bind, first, later]

section
variable {a : Analyzer} (inTime : a.InTime)
include inTime

theorem endsFirstOfNode (n : Node) : Ends (a.firstOfNode n) :=
  endsBind (fun _ => ⟨_, _, rfl⟩) fun _ => endsNode inTime (endsRule inTime _) n _ _

theorem endsLevelOfNode (n : Node) (depth : Nat) : Ends (a.levelOfNode n depth) := by
  refine endsBind (endsStructural inTime n) fun base => ?_
  split
  · exact endsPure _
  · exact endsSubstitute (fun name => endsWithin inTime _ name _) base

end

section
variable {a : Analyzer} (exact : a.nullable = a.grammar.nullable) (distinct : a.grammar.Distinct)
  (long : 0 < a.config.firstK)
include exact distinct long

theorem byDepthMember {rule : String} {f g : Findings} {c : Cycle} (faithful : f.desk.Faithful a)
    (ran : a.recursionByDepth rule f = .ok (some c) g) : rule ∈ c.rules := by
  obtain ⟨found, _, paths, expands⟩ := byDepthOk ran
  obtain ⟨finds, _⟩ := expands.findsWhileLinked exact distinct long faithful (linkedCleared _ _ _ _ _)
    (Nat.le_of_eq (Nat.zero_add _))
  have closes := (finds.found c (List.mem_of_find?_eq_some found.symm)).resolve_left List.not_mem_nil
  have head : c.head = rule := by simpa using List.find?_some found.symm
  obtain ⟨rules⟩ := c
  match rules with
  | [] => exact absurd closes.long (by simp)
  | first :: rest =>
    rw [← head]
    exact List.mem_cons_self

theorem firstOfNodeComplete (branched : a.grammar.Branched) {n : Node} (branched' : n.Branched)
    (clear : ∀ rule, a.grammar.ReachedFrom n rule → ∀ m < a.config.maxDepth, ¬ a.grammar.Walk (m + 1) rule rule)
    {f g : Findings} (faithful : f.desk.Faithful a) {paths : PathSet} (ran : a.firstOfNode n f = .ok paths g) :
    g.cuts = f.cuts ∧ PathSet.Holds a.config.firstK paths (a.grammar.Unfolds (a.config.maxDepth - 1) n) := by
  have expands := (firstOfNodeOk ran).1
  have confined : a.Confined (a.grammar.ReachedFrom n) (a.config.maxDepth - 1)
      ⟨a.config.maxDepth - 1, .node n, a.config.firstK, false, f.desk.cleared f.cycles⟩ :=
    ⟨Nat.le_of_eq (Nat.zero_add _), fun r called => ⟨r, called, .refl⟩⟩
  have uncut : g.cuts = f.cuts := by
    refine expands.acyclicUncut (fun _ _ reached refers => reached.throughReference refers) exact distinct
      ⟨faithful, linkedCleared _ _ _ _ _, long⟩ confined fun rule reached m less => ?_
    exact clear rule reached m (by omega)
  refine ⟨uncut, ?_⟩
  obtain ⟨_, _, whole⟩ := expands.keepsFaithful faithful
  rw [(whole uncut).1]
  exact Whole.holdsNode (fun rule k positive => Whole.holdsRule exact distinct branched _ rule positive)
    (Grammar.unfoldsCall branched _) n branched' long

end

end Analyzer

namespace Validation

theorem recursionsComplete {a : Analyzer} (exact : a.nullable = a.grammar.nullable) (distinct : a.grammar.Distinct)
    (branched : a.grammar.Branched) (long : 0 < a.config.firstK) (deep : 0 < a.config.maxDepth) {rules : List String}
    {found all : List (String × Cycle)} {f g : Findings} (reliable : a.Reliable f)
    (ran : recursions a rules found f = .ok (.ok all) g) :
    a.Reliable g ∧ f.Lasts g ∧ (∀ r ∈ found, r ∈ all) ∧
      ((∀ entry ∈ g.levelCache, entry.2.truncated = false) → ∀ rule ∈ rules, ∀ body, a.grammar.rule? rule = some body →
        (∃ c, (rule, c) ∈ all ∧ rule ∈ c.rules) ∨ ∀ n < a.config.maxDepth, ¬ a.grammar.Walk (n + 1) rule rule) := by
  induction rules generalizing found f with
  | nil =>
    cases ran
    exact ⟨reliable, Findings.lastsSame rfl, fun _ => id, fun _ _ member => nomatch member⟩
  | cons rule rest ih =>
    obtain ⟨byDepth, f', ranDepth, ran⟩ := Analyzer.bindOk ran
    obtain ⟨byLevel, f'', ranLevel, ran⟩ := Analyzer.bindOk ran
    have faithful := reliable.faithful
    have reliable' := ((Analyzer.ensuresByDepth rule).answered ranDepth reliable).1
    have reliable'' := ((Analyzer.ensuresByLevel rule).answered ranLevel reliable').1
    have lasts : f.Lasts f' := Findings.lastsSame (Analyzer.byDepthOk ranDepth).2.1
    obtain ⟨lasts', unknown⟩ := Analyzer.inLevelsLasts _ ranLevel reliable'.levelled
    have later : recursions a rest (found ++ (byDepth.map (rule, ·)).toList) f'' = .ok (.ok all) g ∧
        (byLevel = some true → byDepth.isSome) := by
      split at ran
      · rename_i answer
        split at ran
        · cases ran
        · rename_i same
          refine ⟨ran, fun yes => ?_⟩
          cases yes
          simpa [Option.isSome_iff_ne_none] using same
      · exact ⟨ran, nofun⟩
    obtain ⟨later, agrees⟩ := later
    obtain ⟨reliable, lasts'', more, each⟩ := ih reliable'' later
    rw [List.forall_mem_append] at more
    refine ⟨reliable, (lasts.trans lasts').trans lasts'', more.1, fun whole =>
      List.forall_mem_cons.mpr ⟨?_, each whole⟩⟩
    intro body known
    obtain ⟨_, _, _, no⟩ := Analyzer.givesByLevel exact distinct deep known f' byLevel f'' ranLevel reliable'.levelled
    match byLevel with
    | some false => exact .inr (no rfl branched)
    | none =>
      rcases unknown rfl with never | ⟨key, e, kept, truncated⟩
      · exact nomatch never
      · obtain ⟨before, after, eq, _⟩ := List.lookup_eq_some_iff.mp (lasts'' key e kept)
        have := whole (key, e) (by simp [eq])
        exact absurd (truncated.symm.trans this) (by simp)
    | some true =>
      obtain ⟨c, rfl⟩ := Option.isSome_iff_exists.mp (agrees rfl)
      exact .inl ⟨c, more.2 _ (by simp), Analyzer.byDepthMember exact distinct long faithful ranDepth⟩

end Validation

namespace Grammar

def numberedChoices (g : Grammar) : List (String × List Node × Nat) :=
  g.rules.flatMap fun r => r.2.choices.zipIdx.map (r.1, ·)

def Entangled (g : Grammar) (cycles : List Cycle) (branches : List Node) : Prop :=
  ∃ n ∈ branches, ∃ c ∈ cycles, ∃ rule ∈ c.rules, g.ReachedFrom n rule

theorem entangledIff {g : Grammar} {found : List (String × Cycle)} {branches : List Node} :
    g.Entangled (found.map (·.2)) branches ↔ ∃ n ∈ branches, ∃ rule ∈ found.flatMap (·.2.rules),
        g.ReachedFrom n rule := by
  constructor
  · rintro ⟨n, member, _, told, rule, on, reached⟩
    obtain ⟨c, inside, rfl⟩ := List.mem_map.mp told
    exact ⟨n, member, rule, List.mem_flatMap.mpr ⟨c, inside, on⟩, reached⟩
  · rintro ⟨n, member, rule, on, reached⟩
    obtain ⟨c, inside, on⟩ := List.mem_flatMap.mp on
    exact ⟨n, member, c.2, List.mem_map_of_mem inside, rule, on, reached⟩

end Grammar

namespace Conflict

def Start.Complete (a : Analyzer) (branch : Node) (s : Start) : Prop :=
  ∀ p, p ∈ s.first ↔ Path.Firsts a.config.firstK (a.grammar.Unfolds (a.config.maxDepth - 1) branch) p

inductive Judges (a : Analyzer) (cycles : List Cycle) :
    List (String × List Node × Nat) → Findings → List Finding → Findings → Prop where
  | done {f} : Judges a cycles [] f [] f
  | skipped {rule branches choice rest f g found} (entangled : a.grammar.Entangled cycles branches)
      (later : Judges a cycles rest ((noteSkipped rule choice).after f) found g) :
      Judges a cycles ((rule, branches, choice) :: rest) f found g
  | lone {rule branches choice rest f g found} (clear : ¬ a.grammar.Entangled cycles branches)
      (few : branches.length < 2) (later : Judges a cycles rest f found g) :
      Judges a cycles ((rule, branches, choice) :: rest) f found g
  | judged {rule branches choice rest f g h starts found} (clear : ¬ a.grammar.Entangled cycles branches)
      (many : 2 ≤ branches.length) (ran : branches.mapM (startOf a) f = .ok starts g) (uncut : g.cuts = f.cuts)
      (complete : List.Forall₂ (Start.Complete a) branches starts) (later : Judges a cycles rest g found h) :
      Judges a cycles ((rule, branches, choice) :: rest) f
        (emptyPaths a rule choice branches ++ betweenAll rule choice a.config.firstK 0 starts ++ found) h

theorem Judges.appendedChoices {a : Analyzer} {cycles : List Cycle} {choices others : List (String × List Node × Nat)}
    {f g h : Findings} {found more : List Finding} (first : Judges a cycles choices f found g)
    (later : Judges a cycles others g more h) : Judges a cycles (choices ++ others) f (found ++ more) h := by
  induction first with
  | done => exact later
  | skipped entangled _ ih => exact .skipped entangled (ih later)
  | lone clear few _ ih => exact .lone clear few (ih later)
  | judged clear many ran uncut complete _ ih =>
    rw [List.append_assoc]
    exact .judged clear many ran uncut complete (ih later)

section
variable {a : Analyzer} (inTime : a.InTime)
include inTime

theorem endsStarts (branches : List Node) : Analyzer.Ends (branches.mapM (startOf a)) := by
  induction branches with
  | nil => exact Analyzer.endsPure _
  | cons n rest ih =>
    have first : Analyzer.Ends (startOf a n) := Analyzer.endsBind (Analyzer.endsFirstOfNode inTime n) fun _ =>
      Analyzer.endsBind (Analyzer.endsLevelOfNode inTime n _) fun _ => Analyzer.endsPure _
    rw [List.mapM_cons]
    exact Analyzer.endsBind first fun _ => Analyzer.endsBind ih fun _ => Analyzer.endsPure _

theorem endsRule (recursive : List String) (rule : String) (choices : List (List Node × Nat)) :
    Analyzer.Ends (checkRule a recursive rule choices) := by
  induction choices with
  | nil => exact Analyzer.endsPure _
  | cons c rest ih =>
    have later : ∀ here : List Finding, Analyzer.Ends
      (do let more ← checkRule a recursive rule rest; pure (here ++ more)) :=
      fun here => Analyzer.endsBind ih fun _ => Analyzer.endsPure _
    unfold checkRule
    dsimp only
    split
    · exact Analyzer.endsBind (fun _ => ⟨_, _, rfl⟩) fun _ => Analyzer.endsBind (Analyzer.endsPure _) later
    · refine Analyzer.endsBind ?_ later
      unfold checkChoice
      split
      · exact Analyzer.endsPure _
      · exact Analyzer.endsBind (endsStarts inTime _) fun _ => Analyzer.endsPure _

theorem endsDetect (skipped : List String) : Analyzer.Ends (detect a skipped) := by
  unfold detect
  induction a.grammar.rules with
  | nil => exact Analyzer.endsPure _
  | cons r rest ih =>
    exact Analyzer.endsBind (endsRule inTime _ _ _) fun _ => Analyzer.endsBind ih fun _ => Analyzer.endsPure _

end

section
variable {a : Analyzer} {cycles : List Cycle} (exact : a.nullable = a.grammar.nullable) (distinct : a.grammar.Distinct)
  (branched : a.grammar.Branched) (long : 0 < a.config.firstK)
  (reported : ∀ rule n, n < a.config.maxDepth → a.grammar.Walk (n + 1) rule rule → ∃ c ∈ cycles, rule ∈ c.rules)
include exact distinct branched long reported

theorem startComplete {f g : Findings} (reliable : a.Reliable f) {n : Node} (branched' : n.Branched)
    (clear : ∀ c ∈ cycles, ∀ rule ∈ c.rules, ¬ a.grammar.ReachedFrom n rule) {s : Start}
    (ran : startOf a n f = .ok s g) : a.Reliable g ∧ g.cuts = f.cuts ∧ s.Complete a n := by
  obtain ⟨first, f', expanded, ran⟩ := Analyzer.bindOk ran
  obtain ⟨e, _, levelled, ran⟩ := Analyzer.bindOk ran
  cases ran
  have reliable' := ((Analyzer.ensuresFirstOfNode n).answered expanded reliable).1
  have desk := (Analyzer.givesLevelOfNode n _ _ _ _ levelled reliable'.levelled).1
  have acyclic : ∀ rule, a.grammar.ReachedFrom n rule →
      ∀ m < a.config.maxDepth, ¬ a.grammar.Walk (m + 1) rule rule := by
    intro rule reached m less walk
    obtain ⟨c, inside, on⟩ := reported rule m less walk
    exact clear c inside rule on reached
  obtain ⟨uncut, holds⟩ :=
    Analyzer.firstOfNodeComplete exact distinct long branched branched' acyclic reliable.faithful expanded
  have cuts : g.cuts = f'.cuts := congrArg Desk.cuts desk
  exact ⟨((Analyzer.ensuresLevelOfNode n _).answered levelled reliable').1, cuts.trans uncut, holds⟩

theorem startsComplete {f g : Findings} (reliable : a.Reliable f) {branches : List Node}
    (each : ∀ n ∈ branches, n.Branched)
    (clear : ∀ n ∈ branches, ∀ c ∈ cycles, ∀ rule ∈ c.rules, ¬ a.grammar.ReachedFrom n rule) {starts : List Start}
    (ran : branches.mapM (startOf a) f = .ok starts g) :
    a.Reliable g ∧ g.cuts = f.cuts ∧ List.Forall₂ (Start.Complete a) branches starts := by
  induction branches generalizing f starts with
  | nil =>
    cases ran
    exact ⟨reliable, rfl, .nil⟩
  | cons n rest ih =>
    rw [List.forall_mem_cons] at each clear
    rw [List.mapM_cons] at ran
    obtain ⟨s, f', first, ran⟩ := Analyzer.bindOk ran
    obtain ⟨later, _, started, ran⟩ := Analyzer.bindOk ran
    cases ran
    obtain ⟨reliable, uncut, complete⟩ := startComplete exact distinct branched long reported reliable each.1 clear.1
      first
    obtain ⟨reliable, uncut', complete'⟩ := ih reliable each.2 clear.2 started
    exact ⟨reliable, uncut'.trans uncut, .cons complete complete'⟩

variable {recursive : List String}
  (decided : ∀ branches : List Node, branches.any (refersTo recursive) ↔ a.grammar.Entangled cycles branches)
include decided

theorem judgesRule {f g : Findings} (reliable : a.Reliable f) (rule : String) {choices : List (List Node × Nat)}
    (each : ∀ c ∈ choices, ∀ n ∈ c.1, n.Branched) {found : List Finding}
    (ran : checkRule a recursive rule choices f = .ok found g) :
    a.Reliable g ∧ Judges a cycles (choices.map (rule, ·)) f found g := by
  induction choices generalizing f found with
  | nil =>
    cases ran
    exact ⟨reliable, .done⟩
  | cons c rest ih =>
    obtain ⟨branches, choice⟩ := c
    rw [List.forall_mem_cons] at each
    unfold checkRule at ran
    dsimp only at ran
    split at ran
    · rename_i skips
      obtain ⟨_, _, noted, ran⟩ := Analyzer.bindOk ran
      obtain ⟨_, _, skipped, ran⟩ := Analyzer.bindOk ran
      cases noted
      cases skipped
      obtain ⟨more, _, later, ran⟩ := Analyzer.bindOk ran
      cases ran
      have noted : a.Reliable ((noteSkipped rule choice).after f) := reliable.congr rfl rfl
      obtain ⟨reliable, judges⟩ := ih noted each.2 later
      exact ⟨reliable, .skipped ((decided branches).mp skips) judges⟩
    · rename_i keeps
      have clear := mt (decided branches).mpr keeps
      obtain ⟨here, f', checked, ran⟩ := Analyzer.bindOk ran
      obtain ⟨more, _, later, ran⟩ := Analyzer.bindOk ran
      cases ran
      unfold checkChoice at checked
      split at checked
      · rename_i few
        cases checked
        obtain ⟨reliable, judges⟩ := ih reliable each.2 later
        exact ⟨reliable, .lone clear few judges⟩
      · rename_i many
        obtain ⟨starts, _, started, checked⟩ := Analyzer.bindOk checked
        cases checked
        obtain ⟨reliable, uncut, complete⟩ := startsComplete exact distinct branched long reported reliable each.1
          (fun n member c inside r on reached => clear ⟨n, member, c, inside, r, on, reached⟩) started
        obtain ⟨reliable, judges⟩ := ih reliable each.2 later
        exact ⟨reliable, .judged clear (Nat.le_of_not_lt many) started uncut complete judges⟩

theorem judgesRules {f g : Findings} (reliable : a.Reliable f) {rules : List (String × Node)}
    (each : ∀ r ∈ rules, r.2.Branched) {found : List Finding} (ran : checkRules a recursive rules f = .ok found g) :
    Judges a cycles (rules.flatMap fun r => r.2.choices.zipIdx.map (r.1, ·)) f found g := by
  induction rules generalizing f found with
  | nil =>
    cases ran
    exact .done
  | cons r rest ih =>
    rw [List.forall_mem_cons] at each
    obtain ⟨here, f', first, ran⟩ := Analyzer.bindOk ran
    obtain ⟨more, _, later, ran⟩ := Analyzer.bindOk ran
    cases ran
    obtain ⟨reliable, judges⟩ := judgesRule exact distinct branched long reported decided reliable r.1
      (fun c member => each.1.insideChoice (List.fst_mem_of_mem_zipIdx member)) first
    exact judges.appendedChoices (ih reliable each.2 later)

end

end Conflict

namespace Validation

theorem judgedComplete (g : Grammar) (config : AnalyzerConfig) {a : Analyzer} {clock : Nat → Nat}
    (made : a = .ofGrammar g config clock) (distinct : g.Distinct) (branched : g.Branched)
    {found : List (String × Cycle)} {f : Findings}
    (searched : recursions a (g.rules.map (·.1)) [] {} = .ok (.ok found) f)
    (held : ∀ entry ∈ f.levelCache, entry.2.truncated = false) :
    (a.InTime → ∃ conflicts h, Conflict.detect a (found.flatMap (·.2.rules)) f = .ok conflicts h) ∧
      ∀ conflicts h, Conflict.detect a (found.flatMap (·.2.rules)) f = .ok conflicts h →
        (validate g config clock).1.findings =
          Finding.distinct (undefinedTokens g ++ (found.map (fun r => recursive r.1 r.2) ++ conflicts)) ∧
        Conflict.Judges a (found.map (·.2)) g.numberedChoices f conflicts h := by
  subst made
  have one : ∀ n, 0 < max n 1 := fun n => Nat.lt_of_lt_of_le Nat.one_pos (Nat.le_max_right n 1)
  obtain ⟨reliable, _, _, complete⟩ := recursionsComplete rfl distinct branched (one _) (one _)
    Analyzer.Consulted.fresh.isReliable searched
  have reported : ∀ rule n, n < (Analyzer.ofGrammar g config clock).config.maxDepth → g.Walk (n + 1) rule rule →
      ∃ c ∈ found.map (·.2), rule ∈ c.rules := by
    intro rule n less walk
    obtain ⟨body, known⟩ : ∃ body, g.rule? rule = some body := by
      obtain ⟨next, leads, _⟩ := walk
      exact leads.fromDefined
    rcases complete held rule (List.mem_map_of_mem (Grammar.ruleListed known)) body known with ⟨c, member, on⟩ | none
    · exact ⟨c, List.mem_map_of_mem member, on⟩
    · exact absurd walk (none n less)
  refine ⟨fun inTime => Conflict.endsDetect inTime _ f, fun conflicts h ran => ⟨?_, ?_⟩⟩
  · have analyzed : analyze (.ofGrammar g config clock) {} =
        .ok (found.map (fun r => recursive r.1 r.2) ++ conflicts) h :=
      Analyzer.bindRan searched (Analyzer.bindRan ran rfl)
    simp only [validate, analyzed]
  · exact Conflict.judgesRules (a := .ofGrammar g config clock) rfl distinct branched (one _) reported
      (fun branches => (Conflict.refersToReachingIff distinct).trans Grammar.entangledIff.symm) reliable
      (fun r member => branched r.1 r.2 (distinct.ruleFound member)) ran

namespace Sample

def partly : Grammar where
  entry := "S"
  rules := [("S", .firstOf [.inOrder [.consume "a", .call "A"] none, .inOrder [.consume "b", .call "L"] none]),
    ("A", .firstOf [.inOrder [.consume "c", .call "A"] none, .consume "d"]),
    ("L", .firstOf [.inOrder [.call "L", .consume "x"] none, .consume "y"])]

def partlyAnalyzer : Analyzer := .ofGrammar partly {} fun _ => 0

def partlySearched : Findings := (recursions partlyAnalyzer (partly.rules.map (·.1)) []).after {}

theorem partlyBranched : partly.Branched := by
  intro rule body known
  have member := Grammar.ruleListed known
  simp only [partly, List.mem_cons, List.not_mem_nil, or_false, Prod.mk.injEq] at member
  obtain ⟨_, rfl⟩ | ⟨_, rfl⟩ | ⟨_, rfl⟩ := member <;> simp [Node.Branched, Node.choices, Node.nodes, Node.nodesAll]

end Sample

theorem judgedCompleteInPart :
    (recursions Sample.partlyAnalyzer (Sample.partly.rules.map (·.1)) []).answer {} = some (.ok [("L", ⟨["L", "L"]⟩)]) ∧
      (Sample.partlySearched.levelCache.all fun entry => !entry.2.truncated) ∧
      ∃ conflicts h, (validate Sample.partly {} fun _ => 0).1.findings =
          Finding.distinct (recursive "L" ⟨["L", "L"]⟩ :: conflicts) ∧
        Conflict.Judges Sample.partlyAnalyzer [⟨["L", "L"]⟩] Sample.partly.numberedChoices Sample.partlySearched
          conflicts h := by
  have searched : (recursions Sample.partlyAnalyzer (Sample.partly.rules.map (·.1)) []).answer {} =
      some (.ok [("L", ⟨["L", "L"]⟩)]) := by decide +kernel
  have held : Sample.partlySearched.levelCache.all fun entry => !entry.2.truncated := by decide +kernel
  have distinct : Sample.partly.Distinct := by unfold Grammar.Distinct; decide
  obtain ⟨ends, judged⟩ := judgedComplete Sample.partly {}
    (a := Sample.partlyAnalyzer) rfl distinct Sample.partlyBranched
    (Query.answerSomeIff.mp searched) fun entry kept => by simpa using List.all_eq_true.mp held entry kept
  obtain ⟨conflicts, h, ran⟩ := ends fun _ => Nat.zero_le _
  exact ⟨searched, held, conflicts, h, judged conflicts h ran⟩

end Validation
end Packrat

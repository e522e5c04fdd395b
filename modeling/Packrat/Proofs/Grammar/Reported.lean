import Packrat.Proofs.Grammar.Agreement
import Packrat.Proofs.Grammar.Consulted
import Packrat.Proofs.Grammar.Unfolding

/-! What is reported as left recursion is there, after any questions and whether or not they were answered
in time. Each rule of a reported cycle has the next one at the front of its body, with nothing before it
that has to take a token. -/
namespace Packrat
namespace Grammar

inductive Heads (g : Grammar) (rule : String) : Node → Prop where
  | call : Heads g rule (.call rule)
  | inOrder {before n after name} (vanish : ∀ m ∈ before, g.Derives m []) (inside : Heads g rule n) :
      Heads g rule (.inOrder (before ++ n :: after) name)
  | firstOf {branches n} (member : n ∈ branches) (inside : Heads g rule n) : Heads g rule (.firstOf branches)
  | optional {body} (inside : Heads g rule body) : Heads g rule (.optional body)
  | many {body} (inside : Heads g rule body) : Heads g rule (.many body)
  | some {body} (inside : Heads g rule body) : Heads g rule (.some body)

structure Recurs (g : Grammar) (rule : String) (rules : List String) : Prop where
  starts : rules.head? = Option.some rule
  ends : rules.getLast? = Option.some rule
  long : 2 ≤ rules.length
  steps : ∀ i r next, rules[i]? = Option.some r → rules[i + 1]? = Option.some next →
    ∃ body, g.rule? r = Option.some body ∧ g.Heads next body

section
variable {g : Grammar} (distinct : g.Distinct)
include distinct

theorem derivesNothing {n : Node} (vanishes : n.isNullable g.nullable.contains) : g.Derives n [] :=
  derivesEmpty (fun rule found => (memNullable distinct).mp (by simpa using found)) n vanishes

theorem headsOfLeading {rule : String} {n : Node} (inside : rule ∈ n.leading g.nullable.contains) :
    g.Heads rule n := by
  induction n using Node.induction with
  | consume token => exact absurd inside List.not_mem_nil
  | inOrder parts name ih =>
    rw [Node.leading] at inside
    obtain ⟨before, n, after, rfl, vanish, inside⟩ : ∃ before n after, parts = before ++ n :: after ∧
        (∀ m ∈ before, g.Derives m []) ∧ rule ∈ n.leading g.nullable.contains := by
      clear ih
      induction parts with
      | nil => exact absurd inside List.not_mem_nil
      | cons first rest ih =>
        rw [Node.leadingParts] at inside
        rcases List.mem_append.mp inside with here | later
        · exact ⟨[], first, rest, rfl, fun _ member => absurd member List.not_mem_nil, here⟩
        · split at later
          · rename_i vanishes
            obtain ⟨before, n, after, rfl, vanish, inside⟩ := ih later
            exact ⟨first :: before, n, after, rfl,
              List.forall_mem_cons.mpr ⟨derivesNothing distinct vanishes, vanish⟩, inside⟩
          · exact absurd later List.not_mem_nil
    exact .inOrder vanish (ih n (by simp) inside)
  | firstOf branches ih =>
    obtain ⟨n, member, inside⟩ := Node.memLeadingAny.mp inside
    exact .firstOf member (ih n member inside)
  | optional body ih => exact .optional (ih inside)
  | many body ih => exact .many (ih inside)
  | some body ih => exact .some (ih inside)
  | call name =>
    cases List.mem_singleton.mp inside
    exact .call

theorem Leads.headsNext {rule next : String} (leads : g.Leads rule next) :
    ∃ body, g.rule? rule = Option.some body ∧ g.Heads next body := by
  obtain ⟨body, known⟩ := leads.fromDefined
  refine ⟨body, known, headsOfLeading distinct ?_⟩
  rwa [Leads, startsOfBody known] at leads

theorem recursOfChain {rule : String} {rules : List String} (chain : rules.IsChain g.Leads)
    (starts : rules.head? = Option.some rule) (ends : rules.getLast? = Option.some rule) (long : 2 ≤ rules.length) :
    g.Recurs rule rules := by
  refine ⟨starts, ends, long, fun i r next here there => ?_⟩
  obtain ⟨less, rfl⟩ := List.getElem?_eq_some_iff.mp here
  obtain ⟨less', rfl⟩ := List.getElem?_eq_some_iff.mp there
  exact (List.isChain_iff_getElem.mp chain i less').headsNext distinct

end

theorem chainOfWalk {g : Grammar} {n : Nat} {first last : String} (walk : g.Walk n first last) :
    ∃ rules, (first :: rules).IsChain g.Leads ∧ (first :: rules).getLast? = Option.some last ∧ rules.length = n := by
  induction n generalizing first with
  | zero =>
    cases walk
    exact ⟨[], List.isChain_singleton _, rfl, rfl⟩
  | succ n ih =>
    obtain ⟨next, leads, walk⟩ := walk
    obtain ⟨rules, chain, ends, length⟩ := ih walk
    refine ⟨next :: rules, List.isChain_cons_cons.mpr ⟨leads, chain⟩, ?_, congrArg Nat.succ length⟩
    rw [List.getLast?_cons_cons]
    exact ends

theorem recursOfWalk {g : Grammar} (distinct : g.Distinct) {n : Nat} {rule : String}
    (walk : g.Walk (n + 1) rule rule) : ∃ rules, g.Recurs rule rules := by
  obtain ⟨rules, chain, ends, length⟩ := chainOfWalk walk
  exact ⟨rule :: rules, recursOfChain distinct chain rfl ends (by simp [length])⟩

end Grammar

namespace Analyzer

section
variable {a : Analyzer} (exact : a.nullable = a.grammar.nullable) (distinct : a.grammar.Distinct)
include exact distinct

theorem byDepthCloses (long : 0 < a.config.firstK) {f g : Findings} (faithful : f.desk.Faithful a) {rule : String}
    {c : Cycle} (ran : a.recursionByDepth rule f = .ok (Option.some c) g) :
    a.grammar.Closes a.config.maxDepth c ∧ c.head = rule := by
  obtain ⟨hit, _, _, expands⟩ := byDepthOk ran
  obtain ⟨finds, _⟩ :=
    expands.findsWhileLinked exact distinct long faithful (linkedCleared _ _ _ _ _) (Nat.le_of_eq (Nat.zero_add _))
  refine ⟨(finds.found c (List.mem_of_find?_eq_some hit.symm)).resolve_left fun old => (nomatch old), ?_⟩
  simpa using List.find?_some hit.symm

end

theorem reportsReal (g : Grammar) (config : AnalyzerConfig) {a : Analyzer} {clock : Nat → Nat}
    (made : a = .ofGrammar g config clock) (distinct : g.Distinct) {f : Findings} (consulted : a.Consulted f)
    (rule : String) :
    (∀ c h, a.recursionByDepth rule f = .ok (Option.some c) h → g.Recurs rule c.rules) ∧
      ∀ h, a.recursionByLevel rule f = .ok (Option.some true) h → (∃ body, g.rule? rule = Option.some body) →
        ∃ rules, g.Recurs rule rules := by
  subst made
  have one : ∀ n, 0 < max n 1 := fun n => Nat.lt_of_lt_of_le Nat.one_pos (Nat.le_max_right n 1)
  have kept := consulted.isReliable
  constructor
  · intro c h ran
    obtain ⟨closes, rfl⟩ := byDepthCloses rfl distinct (one _) kept.faithful ran
    have first : c.rules.head? = Option.some c.head := by
      obtain ⟨r, rest, rules⟩ := List.exists_cons_of_length_pos (Nat.lt_of_lt_of_le Nat.two_pos closes.long)
      simp [Cycle.head, rules]
    exact Grammar.recursOfChain distinct closes.chain first (closes.back.trans first) closes.long
  · rintro h ran ⟨body, known⟩
    obtain ⟨_, _, affirmed, _⟩ :=
      ((ensuresByLevel rule).alsoGives (givesByLevel rfl distinct (one _) known)).answered ran kept
    obtain ⟨n, _, walk⟩ := affirmed rfl
    exact Grammar.recursOfWalk distinct walk

namespace Sample

def hidden : Grammar where
  entry := "A"
  rules := [("A", .firstOf [.inOrder [.call "Opt", .call "B", .consume "x"] none, .call "Z"]),
    ("B", .inOrder [.call "A", .consume "b"] none),
    ("Opt", .optional (.consume "o"))]

def hurried : Analyzer :=
  .ofGrammar hidden { maxPaths := 2 } fun n => if n = 1 then 11 * Duration.perSecond else 0

def cutShort : Findings := (Question.expand "A" 3 6).after hurried {}

end Sample

theorem reportsRealHidden :
    (Sample.hurried.expand "A" 3 6).answer {} = none ∧
      Sample.hidden.Recurs "A" ["A", "B", "A"] ∧
      (Sample.hurried.level "A" 2).answer Sample.cutShort =
        Option.some ⟨[[.token "o", .rule "A", .token "b", .token "x"], [.rule "A", .token "b", .token "x"]], true⟩ ∧
      (Sample.hurried.recursionByLevel "A").answer Sample.cutShort = Option.some (Option.some true) ∧
      ∃ rules, Sample.hidden.Recurs "A" rules := by
  have late : (Sample.hurried.expand "A" 3 6).answer {} = none := by decide +kernel
  have found : (Sample.hurried.recursionByDepth "A").answer Sample.cutShort =
      Option.some (Option.some ⟨["A", "B", "A"]⟩) := by decide +kernel
  have dropped : (Sample.hurried.level "A" 2).answer Sample.cutShort =
      Option.some ⟨[[.token "o", .rule "A", .token "b", .token "x"], [.rule "A", .token "b", .token "x"]], true⟩ := by
    decide +kernel
  have affirmed : (Sample.hurried.recursionByLevel "A").answer Sample.cutShort = Option.some (Option.some true) := by
    decide +kernel
  have distinct : Sample.hidden.Distinct := by unfold Grammar.Distinct; decide
  have consulted : Sample.hurried.Consulted Sample.cutShort := .again .fresh _
  obtain ⟨byDepth, byLevel⟩ :=
    reportsReal Sample.hidden { maxPaths := 2 } (a := Sample.hurried) rfl distinct consulted "A"
  exact ⟨late, byDepth _ _ (Query.answerSomeIff.mp found), dropped, affirmed,
    byLevel _ (Query.answerSomeIff.mp affirmed) ⟨_, rfl⟩⟩

namespace Sample

def dangling : Grammar where
  entry := "S"
  rules := [("S", .call "T")]

end Sample

theorem undefinedNameReported :
    Sample.dangling.Distinct ∧
      ((Analyzer.ofGrammar Sample.dangling {} fun _ => 0).recursionByDepth "T").answer {} = Option.some none ∧
      ((Analyzer.ofGrammar Sample.dangling {} fun _ => 0).recursionByLevel "T").answer {} =
        Option.some (Option.some true) ∧
      ¬ ∃ rules, Sample.dangling.Recurs "T" rules := by
  refine ⟨by unfold Grammar.Distinct; decide, by decide +kernel, by decide +kernel, ?_⟩
  rintro ⟨rules, starts, _, long, steps⟩
  rw [List.head?_eq_getElem?] at starts
  obtain ⟨_, known, _⟩ := steps 0 "T" rules[1] starts (List.getElem?_eq_getElem long)
  exact nomatch known

end Analyzer
end Packrat

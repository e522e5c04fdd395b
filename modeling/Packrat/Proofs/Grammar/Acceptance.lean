import Packrat.Grammar.Validation
import Packrat.Proofs.Grammar.FirstCut
import Packrat.Proofs.Grammar.Levelling

/-! A grammar that is accepted is not left-recursive, if the search may go as deep as there are rules.
Every rule has been searched, and none of them was the first that its own search met again. -/
namespace Packrat
namespace Analyzer

structure Kept (a : Analyzer) (f : Findings) : Prop where
  faithful : f.desk.Faithful a
  settles : a.Settles a.config.firstK f.desk
  levelled : f.Levelled a

theorem keptFresh (a : Analyzer) : a.Kept {} where
  faithful key paths found := by simp [Findings.desk] at found
  settles key kept := by simp [Findings.desk, Desk.Keeps] at kept
  levelled rule depth e member := by simp at member

theorem Kept.byLevel {a : Analyzer} {rule : String} {f g : Findings} {answer : Option Bool} (kept : a.Kept f)
    (ran : a.recursionByLevel rule f = .ok answer g) : a.Kept g := by
  obtain ⟨desk, levelled, _⟩ := givesInLevels rule _ Nat.one_pos false f answer g ran kept.levelled
  exact ⟨desk ▸ kept.faithful, desk ▸ kept.settles, levelled⟩

theorem Kept.poisedWhenCleared {a : Analyzer} {f : Findings} (kept : a.Kept f) (rule : String) :
    a.Poised a.config.maxDepth a.config.firstK a.config.maxDepth [rule] (f.desk.cleared []) where
  faithful := kept.faithful
  settles := kept.settles
  linked := ⟨List.isChain_nil, fun _ _ top => nomatch top⟩
  known _ inside := nomatch inside
  nodup := List.nodup_nil
  room := Nat.zero_add _

section
variable {a : Analyzer} (exact : a.nullable = a.grammar.nullable) (distinct : a.grammar.Distinct)
  (long : 0 < a.config.firstK) (enough : a.grammar.rules.length ≤ a.config.maxDepth)
include exact distinct long enough

theorem Kept.byDepth {rule : String} {f g : Findings} {found : Option Cycle} (kept : a.Kept f)
    (ran : a.recursionByDepth rule f = .ok found g) :
    a.Kept g ∧ ∃ met, a.grammar.Meets [] [rule] met ∧ (met = some rule → found ≠ none) := by
  obtain ⟨rfl, levels, paths, expands⟩ := byDepthOk ran
  obtain ⟨settles, met, meets, told⟩ := expands.tellsFirstMet exact distinct enough long rfl
    (kept.poisedWhenCleared rule)
  refine ⟨⟨(expands.keepsFaithful kept.faithful).1, settles, ?_⟩, met, meets, fun here none => ?_⟩
  · unfold Findings.Levelled
    rw [levels]
    exact kept.levelled
  · obtain ⟨_, c, member, head⟩ := told.cut rule here
    have other := List.find?_eq_none.mp none c member
    simp [head] at other

theorem recursionsNone {rules : List String} {found : List (String × Cycle)} {f g : Findings} (kept : a.Kept f)
    (ran : Validation.recursions a rules found f = .ok (.ok []) g) :
    found = [] ∧ ∀ rule ∈ rules, ∃ met, a.grammar.Meets [] [rule] met ∧ met ≠ some rule := by
  induction rules generalizing found f with
  | nil =>
    cases ran
    exact ⟨rfl, fun _ member => nomatch member⟩
  | cons rule rest ih =>
    obtain ⟨byDepth, f', ranDepth, ran⟩ := bindOk ran
    obtain ⟨byLevel, f'', ranLevel, ran⟩ := bindOk ran
    obtain ⟨kept, met, meets, seen⟩ := kept.byDepth exact distinct long enough ranDepth
    have kept := kept.byLevel ranLevel
    have later : Validation.recursions a rest (found ++ (byDepth.map (rule, ·)).toList) f'' = .ok (.ok []) g := by
      split at ran
      · split at ran
        · cases ran
        · exact ran
      · exact ran
    obtain ⟨empty, each⟩ := ih kept later
    obtain ⟨rfl, unfound⟩ := List.append_eq_nil_iff.mp empty
    have unfound : byDepth = none := by simpa using unfound
    exact ⟨rfl, List.forall_mem_cons.mpr ⟨⟨met, meets, fun here => seen here unfound⟩, each⟩⟩

end

end Analyzer

namespace Grammar

theorem acyclicOfMeets {g : Grammar}
    (each : ∀ rule ∈ g.rules.map Prod.fst, ∃ met, g.Meets [] [rule] met ∧ met ≠ some rule) (rule : String) :
    ¬ g.LeftRecursive rule := by
  intro recursive
  obtain ⟨n, walk⟩ := transGenIffWalk.mp recursive
  have searched : ∀ name other, g.Leads name other → ∃ met, g.Meets [] [name] met ∧ met ≠ some name := by
    intro name other leads
    obtain ⟨body, known⟩ := leads.fromDefined
    exact each name (List.mem_map_of_mem (ruleListed known))
  obtain ⟨met, meets, _⟩ : ∃ met, g.Meets [] [rule] met ∧ met ≠ some rule := by
    obtain ⟨next, leads, _⟩ := walk
    exact searched rule next leads
  cases met with
  | none => exact meets.noWalkToItself n walk
  | some other =>
    have own := meets.onStackOrOwnCycle.resolve_left List.not_mem_nil
    obtain ⟨next, leads⟩ : ∃ next, g.Leads other next := by
      unfold Leads
      cases starts : g.starts other with
      | nil =>
        have nothing : g.Meets [] [other] none := .past List.not_mem_nil (by rw [starts]; exact .done) .done
        exact nomatch own.atMostOne nothing
      | cons next rest => exact ⟨next, List.mem_cons_self⟩
    obtain ⟨met, meets, differs⟩ := searched other next leads
    exact differs (meets.atMostOne own)

end Grammar

namespace Validation

theorem memDistinct {findings : List Finding} {x : Finding} (member : x ∈ Finding.distinct findings) :
    x ∈ findings := by
  refine List.foldlRecOn (motive := fun kept : List Finding => ∀ x ∈ kept, x ∈ findings) findings _
    (List.forall_mem_nil _) (fun kept before y inside => ?_) x member
  split
  · exact before
  · exact List.forall_mem_append.mpr ⟨before, List.forall_mem_singleton.mpr inside⟩

theorem distinctNil {findings : List Finding} (none : Finding.distinct findings = []) : findings = [] := by
  cases findings with
  | nil => rfl
  | cons x rest =>
    refine absurd none (List.foldlRecOn (motive := (· ≠ [])) rest _ (List.cons_ne_nil x []) fun kept before y _ => ?_)
    split
    · exact before
    · simp

inductive Finds (a : Analyzer) : List Finding → Prop
  | late (t : Timeout) : Finds a [tooComplex a.grammar.entry t]
  | differing {x : Finding} {f : Findings} :
    recursions a (a.grammar.rules.map (·.1)) [] {} = .ok (.error x) f → Finds a [x]
  | searched {cycles : List (String × Cycle)} {conflicts : List Finding} {f g : Findings} :
    recursions a (a.grammar.rules.map (·.1)) [] {} = .ok (.ok cycles) f →
    Conflict.detect a (cycles.flatMap (·.2.rules)) f = .ok conflicts g →
    Finds a (cycles.map (fun r => recursive r.1 r.2) ++ conflicts)

theorem validateFinds (g : Grammar) (config : AnalyzerConfig) (clock : Nat → Nat) :
    ∃ found, Finds (Analyzer.ofGrammar g config clock) found ∧
      (validate g config clock).1.findings = Finding.distinct (undefinedTokens g ++ found) := by
  cases ran : analyze (Analyzer.ofGrammar g config clock) {} with
  | error t f => exact ⟨_, .late t, by simp only [validate, ran]; rfl⟩
  | ok found f =>
    refine ⟨found, ?_, by simp only [validate, ran]⟩
    obtain ⟨result, f', searched, rest⟩ := Analyzer.bindOk ran
    cases result with
    | error x =>
      cases rest
      exact .differing searched
    | ok cycles =>
      obtain ⟨conflicts, _, checked, ended⟩ := Analyzer.bindOk rest
      cases ended
      exact .searched searched checked

theorem acceptsRecursions {g : Grammar} {config : AnalyzerConfig} {clock : Nat → Nat}
    (accepted : (validate g config clock).1.accepts) :
    ∃ f, recursions (Analyzer.ofGrammar g config clock) (g.rules.map (·.1)) [] {} = .ok (.ok []) f := by
  obtain ⟨found, finds, eq⟩ := validateFinds g config clock
  have none := distinctNil (eq.symm.trans (List.isEmpty_iff.mp accepted))
  have none := (List.append_eq_nil_iff.mp none).2
  cases finds with
  | late t => exact absurd none (List.cons_ne_nil _ _)
  | differing => exact absurd none (List.cons_ne_nil _ _)
  | @searched _ _ f _ searched =>
    rw [List.map_eq_nil_iff.mp (List.append_eq_nil_iff.mp none).1] at searched
    exact ⟨f, searched⟩

theorem acceptedAcyclic {g : Grammar} {config : AnalyzerConfig} {clock : Nat → Nat} (distinct : g.Distinct)
    (enough : g.rules.length ≤ config.maxDepth) (accepted : (validate g config clock).1.accepts) (rule : String) :
    ¬ g.LeftRecursive rule := by
  obtain ⟨f, ran⟩ := acceptsRecursions accepted
  have long : 0 < (Analyzer.ofGrammar g config clock).config.firstK :=
    Nat.lt_of_lt_of_le Nat.one_pos (Nat.le_max_right _ _)
  have deep : g.rules.length ≤ (Analyzer.ofGrammar g config clock).config.maxDepth :=
    Nat.le_trans enough (Nat.le_max_left _ _)
  have searched := Analyzer.recursionsNone (a := Analyzer.ofGrammar g config clock) rfl distinct long deep
    (Analyzer.keptFresh _) ran
  exact Grammar.acyclicOfMeets searched.2 rule

end Validation
end Packrat

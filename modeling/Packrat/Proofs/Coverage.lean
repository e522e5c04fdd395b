import Packrat.Proofs.Grammar.Asked
import Packrat.Proofs.LeftRecursion

/-! First-K sets and parses. Where no rule is left-recursive, the paths of a rule tell how every invocation of
it begins that matches, whatever the analyzer was asked before. -/
namespace Packrat

namespace Session

variable {env : Setup} {g : Grammar} {rules : Rules} {entry : String × String}

theorem Reached.derivesWhatIsTaken (describes : g.Describes rules entry) {origin d : Nat} {task : Task}
    {first s t : Session} (sound : first.Sound env) (start : Nested env g rules entry task first) {c : String × String}
    (reached : Reached env rules origin task first d (.body (.call c.1 c.2)) s)
    (ran : invoke env rules d c.1 c.2 s = (.ok, t)) (whole : s.Unrecovered env t) :
    g.Derives (.call c.1) (s.between t) := by
  have nested := reached.keepsNested describes sound start
  have reaches : rules.Reaches entry c := (nested.among.resolve_left nofun).calls c List.mem_cons_self
  have conforms := conformsInvoke describes d reaches s reached (reached.keepsSound sound) nested.knows
  rw [ran] at conforms
  exact Grammar.yieldsSingle.mp (conforms.made rfl whole)

end Session

namespace Parser

theorem firstSetsCover {rules : Rules} {name entry : String} (plain : rules.Plain) (agree : rules.NamesAgree name entry)
    {tokens : List Definition} {a : Analyzer} {config : AnalyzerConfig} {clock : Nat → Nat}
    (made : a = .ofGrammar (Grammar.collect rules name entry tokens).1 config clock)
    (acyclic : ∀ rule, ¬ a.grammar.LeftRecursive rule)
    {source : String} {definitions : List Definition} {p : Parser} (reachable : Reachable source definitions p)
    {d : Nat} {c : String × String} {s t : Session}
    (reached : Session.Reached p.setup rules p.config.maxRuleDepth (.body (.call name entry)) p.session.reset d
      (.body (.call c.1 c.2)) s)
    (ran : Session.invoke p.setup rules d c.1 c.2 s = (.ok, t))
    (unrecovered : p.config.recover = false ∨ t.recoveries = s.recoveries)
    {f : Findings} (asked : a.Asked f) {k : Nat} (positive : 0 < k) (depth : Nat) :
    (∀ paths g, a.expand c.1 k depth f = .ok paths g → ∃ path ∈ paths, Path.Begins k (s.between t) path) ∧
      (a.InTime → ∃ paths g, a.expand c.1 k depth f = .ok paths g) := by
  subst made
  refine ⟨fun paths g expanded => ?_, fun inTime => Analyzer.endsExpand inTime c.1 k depth f⟩
  have describes := Grammar.collectDescribes plain agree tokens
  have distinct := Grammar.collectDistinct rules name entry tokens
  have sound := Session.soundReset reachable.sourceAndSound.2
  have start := Session.nestedReset p.setup (Grammar.collect rules name entry tokens).1 rules name entry p.session
  have derives := reached.derivesWhatIsTaken describes sound start ran unrecovered
  rw [asked.expandWhole rfl distinct acyclic positive expanded]
  exact Whole.coversRule depth c.1 positive derives

namespace Sample

def groupsAnalyzer : Analyzer := .ofGrammar (Grammar.collect grouped "E" "E" definitions).1 {} fun _ => 0

def inGroup : Session :=
  Session.opened groups.setup "E" groups.session.reset (groups.session.reset.asked groups.setup "E")

def behindSign : Session :=
  (Session.exec groups.setup (Session.invoke groups.setup grouped 999) (.call "N" "N") inGroup).2

end Sample

theorem firstSetsCoverGroup :
    ∃ t, Session.invoke Sample.groups.setup Sample.grouped 999 "T" "T" Sample.behindSign = (.ok, t) ∧
      Sample.behindSign.between t = ["S", "c", "a", "b"] ∧
      ∃ paths g, Sample.groupsAnalyzer.expand "T" 3 6 {} = .ok paths g ∧
        ∃ path ∈ paths, Path.Begins 3 ["S", "c", "a", "b"] path := by
  have plain : Sample.grouped.Plain := by unfold Rules.Plain; decide
  have agree : Sample.grouped.NamesAgree "E" "E" := Rules.namesAgreeOf (by decide) "E"
  have accepted : (Validation.validate (Grammar.collect Sample.grouped "E" "E" Sample.definitions).1 {}
      fun _ => 0).1.accepts := by decide +kernel
  have acyclic := Validation.acceptedAcyclic (Grammar.collectDistinct Sample.grouped "E" "E" Sample.definitions)
    (by decide +kernel) accepted
  have reachable : Reachable ";cab" Sample.definitions Sample.groups := .new (Parser.ofDefinitionsOfOption _)
  have body : Sample.grouped.body "E" = .inOrder [.call "N" "N", .call "T" "T"] := by
    simp [Rules.body, Sample.grouped]
  have limit : Sample.groups.config.maxRuleDepth = 1000 := by decide +kernel
  have entered : Session.Reached Sample.groups.setup Sample.grouped 1000 (.body (.call "E" "E"))
      Sample.groups.session.reset 999 (.body (Sample.grouped.body "E")) Sample.inGroup :=
    .enter .start ⟨by decide +kernel, by decide +kernel⟩ (Option.isNone_iff_eq_none.mp (by decide +kernel))
  have reached : Session.Reached Sample.groups.setup Sample.grouped 1000 (.body (.call "E" "E"))
      Sample.groups.session.reset 999 (.body (.call "T" "T")) Sample.behindSign :=
    .within (.within (body ▸ entered) (.next (Prod.ext (by decide +kernel) rfl))) .first
  have settled : ∀ r : Verdict × Session, r.1 = .ok → r = (.ok, r.2) := fun r ok => Prod.ext ok rfl
  have matched := settled (Session.invoke Sample.groups.setup Sample.grouped 999 "T" "T" Sample.behindSign)
    (by decide +kernel)
  have taken : Sample.behindSign.between
      (Session.invoke Sample.groups.setup Sample.grouped 999 "T" "T" Sample.behindSign).2 = ["S", "c", "a", "b"] := by
    decide +kernel
  obtain ⟨covers, ends⟩ := firstSetsCover plain agree (a := Sample.groupsAnalyzer) rfl acyclic reachable
    (c := ("T", "T")) (limit ▸ reached) matched (.inl (by decide +kernel)) .fresh (k := 3) (by decide) 6
  obtain ⟨paths, g, ran⟩ := ends fun _ => Nat.zero_le _
  exact ⟨_, matched, taken, paths, g, ran, taken ▸ covers paths g ran⟩

end Parser
end Packrat

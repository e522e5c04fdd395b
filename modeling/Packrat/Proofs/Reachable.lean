import Packrat.Proofs.Conclusion

/-! The parsers that can be met: made from a source and definitions, configured, used, and
looked at in the middle of being used. All of them are settled, and the rules that are open in
them were entered at places that lead to where they are. -/
namespace Packrat

inductive Parser.Reachable (source : String) (definitions : List Definition) : Parser → Prop where
  | new {p} (made : Parser.ofDefinitions source definitions = .ok p) : Reachable source definitions p
  | configured {p} (before : Reachable source definitions p) (config : ParserConfig) :
      Reachable source definitions (p.withConfig config)
  | adjusted {p} (before : Reachable source definitions p) (f : ParserConfig → ParserConfig) :
      Reachable source definitions (p.mapConfig f)
  | parsed {p} (before : Reachable source definitions p) (rules : Rules) (name rule : String) :
      Reachable source definitions (p.parse rules name rule).2
  | ran {p} (before : Reachable source definitions p) (rules : Rules) (body : Body) :
      Reachable source definitions (p.run rules body).2
  | parsing {p t} (before : Reachable source definitions p) (rules : Rules) (name rule : String)
      (passes : Session.Passes p.setup rules p.config.maxRuleDepth (.body (.call name rule)) p.session.reset t) :
      Reachable source definitions { p with session := t }
  | running {p t} (before : Reachable source definitions p) (rules : Rules) (body : Body)
      (passes : Session.Passes p.setup rules p.config.maxRuleDepth (.body body) p.session t) :
      Reachable source definitions { p with session := t }
  | validated {p} (before : Reachable source definitions p) (rules : Rules) (name rule : String)
      (clock : Nat → Nat) : Reachable source definitions (p.validate rules name rule clock).2
  | logTaken {p} (before : Reachable source definitions p) : Reachable source definitions p.takeLog.2

namespace Session

structure Durable (source : List Char) (holds : Setup → Session → Prop) : Prop where
  new : ∀ lexer, holds ⟨source, lexer, {}⟩ { memo := .ofCapacity ({} : ParserConfig).maxMemo }
  reset : ∀ {env s}, holds env s → holds env s.reset
  passes : ∀ {env rules depth task s t}, holds env s → Passes env rules depth task s t → holds env t
  finished : ∀ {env s}, holds env s → holds env (finish env s).2
  told : ∀ {env s}, holds env s → ∀ stats log, holds env { s with stats := stats, log := log }
  configured : ∀ {env s}, holds env s → ∀ config, holds { env with config := config } s
  resized : ∀ {env s}, holds env s → ∀ capacity, holds env { s with memo := s.memo.resize capacity }

variable {env : Setup}

def Placed (s : Session) : Prop :=
  ∃ around : List (String × Place), s.ruleStack = (around.map fun e => (e.1, e.2.offset)) ∧
    ∀ e ∈ around, e.2.Leads s.place

theorem Placed.afterExtension {s t : Session} (h : s.Placed) (onward : s.Extends t) : t.Placed := by
  obtain ⟨around, stack, inside⟩ := h
  exact ⟨around, onward.stack.trans stack, fun e member => (inside e member).trans onward.ahead.placeLeads⟩

theorem Reached.keepsPlaced (whole : NoPairs env.source) {rules : Rules} {depth d : Nat} {task k : Task}
    {s t : Session} (reached : Reached env rules depth task s d k t) (h : s.Settled env) (placed : s.Placed) :
    t.Placed := by
  induction reached with
  | start => exact placed
  | within before starts ih =>
    exact ih.afterExtension (starts.settledAndExtends whole (keepsInvoke whole rules _) (before.keepsSettled whole h)).2
  | @enter d name rule u _ _ _ ih =>
    obtain ⟨around, stack, inside⟩ := ih
    refine ⟨(name, u.place) :: around, ?_, ?_⟩
    · exact (openedRuleStack env name u _).trans (congrArg _ stack)
    · rw [openedPlace]
      exact Ahead.allEntered inside name (.refl _)

theorem Passes.keepsPlaced (whole : NoPairs env.source) {rules : Rules} {depth : Nat} {task : Task}
    {s t : Session} (passes : Passes env rules depth task s t) (h : s.Settled env) (placed : s.Placed) :
    t.Placed := by
  obtain ⟨d, k, u, reached, rfl | rfl⟩ := passes
  · exact reached.keepsPlaced whole h placed
  · have onward := (keepsFinishing whole reached (reached.keepsSettled whole h)).2
    exact (reached.keepsPlaced whole h placed).afterExtension onward

theorem placedReset (s : Session) : s.reset.Placed := ⟨[], rfl, fun _ member => nomatch member⟩

theorem Settled.whenConfigured {s : Session} (h : s.Settled env) (config : ParserConfig) :
    s.Settled { env with config := config } :=
  ⟨h.stands, h.index, h.active, h.scans, h.memo⟩

theorem Settled.whenFinished {s : Session} (h : s.Settled env) : (finish env s).2.Settled env := by
  obtain ⟨scans, scan, known⟩ := h.afterScan defaultGoal
  obtain ⟨root, furthest, tokens, left, _, index⟩ := finishSession env s
  rw [left, scan]
  exact ⟨h.stands, index h.index, h.active, known, h.memo⟩

theorem Placed.whenFinished {s : Session} (placed : s.Placed) : (finish env s).2.Placed := by
  obtain ⟨found, scans, scan⟩ := scanChangesScans env defaultGoal s
  obtain ⟨root, furthest, tokens, left, _⟩ := finishSession env s
  rw [left, scan]
  exact placed

theorem settledDurable {source : List Char} (whole : NoPairs source) :
    Durable source fun env s => env.source = source ∧ s.Settled env ∧ s.Placed where
  new := fun lexer => ⟨rfl, ⟨Cursor.firstStands _, Nat.le_refl _, rfl, fun _ _ _ _ member => (nomatch member),
    fun _ member => (nomatch member)⟩, [], rfl, fun _ member => nomatch member⟩
  reset := fun ⟨text, settled, _⟩ => ⟨text, settledReset settled.scans, placedReset _⟩
  passes := by
    rintro env rules depth task s t ⟨rfl, settled, placed⟩ passes
    exact ⟨rfl, passes.keepsSettled whole settled, passes.keepsPlaced whole settled placed⟩
  finished := fun ⟨text, settled, placed⟩ => ⟨text, settled.whenFinished, placed.whenFinished⟩
  told := fun ⟨text, settled, placed⟩ _ _ =>
    ⟨text, ⟨settled.stands, settled.index, settled.active, settled.scans, settled.memo⟩, placed⟩
  configured := fun ⟨text, settled, placed⟩ config => ⟨text, settled.whenConfigured config, placed⟩
  resized := fun ⟨text, settled, placed⟩ _ =>
    ⟨text, ⟨settled.stands, settled.index, settled.active, settled.scans,
      fun e member => settled.memo e (List.mem_of_mem_take member)⟩, placed⟩

end Session

theorem okOfToOption {ε α : Type} {made : Except ε α} (accepted : made.toOption.isSome) :
    made = .ok (made.toOption.get accepted) := by
  cases made with
  | error e => exact nomatch accepted
  | ok p => rfl

theorem Parser.ofDefinitionsOfOption {source : String} {definitions : List Definition}
    (accepted : (Parser.ofDefinitions source definitions).toOption.isSome) :
    Parser.ofDefinitions source definitions =
      .ok ((Parser.ofDefinitions source definitions).toOption.get accepted) :=
  okOfToOption accepted

theorem Parser.ofDefinitionsMade {source : String} {definitions : List Definition} {p : Parser}
    (made : Parser.ofDefinitions source definitions = .ok p) :
    ∃ lexer, p = ⟨⟨source.toList, lexer, {}⟩, { memo := .ofCapacity ({} : ParserConfig).maxMemo }⟩ := by
  unfold Parser.ofDefinitions at made
  cases read : Lexer.ofDefinitions definitions with
  | error e =>
    rw [read] at made
    exact nomatch made
  | ok lexer =>
    rw [read] at made
    exact ⟨lexer, (Except.ok.inj made).symm⟩

namespace Session.Durable

variable {source : List Char} {holds : Setup → Session → Prop} (durable : Durable source holds)
include durable

theorem afterRun {env : Setup} {s : Session} (here : holds env s) (rules : Rules) (depth : Nat) (b : Body) :
    holds env (exec env (invoke env rules depth) b s).2 :=
  durable.passes here ⟨depth, .body b, s, .start, .inr rfl⟩

theorem afterParse {env : Setup} {s : Session} (here : holds env s) (rules : Rules) (name rule : String) :
    holds env (s.parseRule env rules name rule).2 := by
  have invoked : holds env (invoke env rules env.config.maxRuleDepth name rule s.reset).2 :=
    durable.afterRun (durable.reset here) rules env.config.maxRuleDepth (.call name rule)
  obtain ⟨t, stats, log, eq, rfl | rfl⟩ := parseRuleSession env rules name rule s
  · rw [eq]
    exact durable.told invoked stats log
  · rw [eq]
    exact durable.told (durable.finished invoked) stats log

end Session.Durable

namespace Parser.Reachable

variable {source : String} {definitions : List Definition} {p : Parser}

theorem durableHolds {holds : Setup → Session → Prop} (durable : Session.Durable source.toList holds)
    (reachable : Reachable source definitions p) : holds p.setup p.session := by
  induction reachable with
  | new made =>
    obtain ⟨lexer, rfl⟩ := Parser.ofDefinitionsMade made
    exact durable.new lexer
  | configured _ config ih => exact durable.configured (durable.resized ih _) config
  | adjusted _ f ih => exact durable.configured ih _
  | parsed _ rules name rule ih => exact durable.afterParse ih rules name rule
  | ran _ rules body ih => exact durable.afterRun ih rules _ body
  | parsing _ rules name rule passes ih => exact durable.passes (durable.reset ih) passes
  | running _ rules body passes ih => exact durable.passes ih passes
  | @validated p _ rules name rule clock ih => exact durable.told ih p.session.stats _
  | @logTaken p _ ih => exact durable.told ih p.session.stats []

theorem settledAndPlaced (whole : NoPairs source.toList) (reachable : Reachable source definitions p) :
    p.setup.source = source.toList ∧ p.session.Settled p.setup ∧ p.session.Placed :=
  reachable.durableHolds (Session.settledDurable whole)

end Parser.Reachable

end Packrat

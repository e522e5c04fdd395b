import Packrat.Proofs.LeftRecursion
import Packrat.Proofs.Session.Entering

/-! Left recursion is caught where it happens. A rule is refused exactly where it is open at this offset, and
the error names the rules through which it has come back to itself. -/
namespace Packrat

namespace Session

variable {env : Setup} {s : Session}

theorem finishRuleStack (env : Setup) (s : Session) : (finish env s).2.ruleStack = s.ruleStack := by
  obtain ⟨found, scans, scan⟩ := scanChangesScans env defaultGoal s
  obtain ⟨root, furthest, tokens, left, _⟩ := finishSession env s
  rw [left, scan]

theorem Sound.parsedStack (h : s.Sound env) (rules : Rules) (name rule : String) :
    (s.parseRule env rules name rule).2.ruleStack = [] := by
  obtain ⟨_, _, grows⟩ := (soundReset h).runGrows rules env.config.maxRuleDepth (.call name rule)
  have nothing : (invoke env rules env.config.maxRuleDepth name rule s.reset).2.ruleStack = [] := grows.stack
  obtain ⟨t, stats, log, eq, rfl | rfl⟩ := parseRuleSession env rules name rule s
  · rw [eq]
    exact nothing
  · rw [eq]
    exact (finishRuleStack env _).trans nothing

theorem subruleRefuses {name : String} {body : Action} (h : s.Sound env)
    (quiet : ∀ error, (body (opened env name s (s.asked env name))).1 = .fatal error → error.isLeftRecursion = false) :
    (∃ error, (subrule env name body s).1 = .fatal error ∧ error.isLeftRecursion) ↔ s.here name ∈ s.ruleStack := by
  rw [← h.active, ← List.contains_iff_mem]
  constructor
  · rintro ⟨error, fatal, blamed⟩
    rcases subruleFatal fatal with ⟨isOpen, _⟩ | rfl | ⟨_, _, ran⟩
    · exact isOpen
    · exact nomatch blamed
    · rw [quiet error ran] at blamed
      exact nomatch blamed
  · intro isOpen
    exact ⟨s.leftRecursion name, by rw [subruleOpen body isOpen], rfl⟩

end Session

inductive Parser.Inside (source : String) (definitions : List Definition) : Callers → Parser → Prop where
  | new {p} (made : Parser.ofDefinitions source definitions = .ok p) : Inside source definitions [] p
  | configured {callers p} (before : Inside source definitions callers p) (config : ParserConfig) :
      Inside source definitions callers (p.withConfig config)
  | adjusted {callers p} (before : Inside source definitions callers p) (f : ParserConfig → ParserConfig) :
      Inside source definitions callers (p.mapConfig f)
  | parsed {callers p} (before : Inside source definitions callers p) (rules : Rules) (name rule : String) :
      Inside source definitions [] (p.parse rules name rule).2
  | ran {callers p} (before : Inside source definitions callers p) (rules : Rules) (body : Body) :
      Inside source definitions callers (p.run rules body).2
  | parsing {callers more p t} (before : Inside source definitions callers p) (rules : Rules) (name rule : String)
      (inside : Session.PassesIn p.setup rules p.config.maxRuleDepth (.body (.call name rule)) p.session.reset more t) :
      Inside source definitions more { p with session := t }
  | running {callers more p t} (before : Inside source definitions callers p) (rules : Rules) (body : Body)
      (inside : Session.PassesIn p.setup rules p.config.maxRuleDepth (.body body) p.session more t) :
      Inside source definitions (more ++ callers) { p with session := t }
  | validated {callers p} (before : Inside source definitions callers p) (rules : Rules) (name rule : String)
      (clock : Nat → Nat) : Inside source definitions callers (p.validate rules name rule clock).2
  | logTaken {callers p} (before : Inside source definitions callers p) :
      Inside source definitions callers p.takeLog.2

namespace Parser

variable {source : String} {definitions : List Definition} {callers : Callers} {p : Parser}

theorem Inside.isReachable (inside : Inside source definitions callers p) : Reachable source definitions p := by
  induction inside with
  | new made => exact .new made
  | configured _ config ih => exact .configured ih config
  | adjusted _ f ih => exact .adjusted ih f
  | parsed _ rules name rule ih => exact .parsed ih rules name rule
  | ran _ rules body ih => exact .ran ih rules body
  | parsing _ rules name rule inside ih => exact .parsing ih rules name rule inside.isPassed
  | running _ rules body inside ih => exact .running ih rules body inside.isPassed
  | validated _ rules name rule clock ih => exact .validated ih rules name rule clock
  | logTaken _ ih => exact .logTaken ih

theorem Reachable.insideCallers (reachable : Reachable source definitions p) :
    ∃ callers, Inside source definitions callers p := by
  induction reachable with
  | new made => exact ⟨[], .new made⟩
  | configured _ config ih =>
    obtain ⟨callers, inside⟩ := ih
    exact ⟨callers, .configured inside config⟩
  | adjusted _ f ih =>
    obtain ⟨callers, inside⟩ := ih
    exact ⟨callers, .adjusted inside f⟩
  | parsed _ rules name rule ih =>
    obtain ⟨callers, inside⟩ := ih
    exact ⟨[], .parsed inside rules name rule⟩
  | ran _ rules body ih =>
    obtain ⟨callers, inside⟩ := ih
    exact ⟨callers, .ran inside rules body⟩
  | parsing _ rules name rule passes ih =>
    obtain ⟨callers, inside⟩ := ih
    obtain ⟨more, further⟩ := passes.insideCallers
    exact ⟨more, .parsing inside rules name rule further⟩
  | running _ rules body passes ih =>
    obtain ⟨callers, inside⟩ := ih
    obtain ⟨more, further⟩ := passes.insideCallers
    exact ⟨more ++ callers, .running inside rules body further⟩
  | validated _ rules name rule clock ih =>
    obtain ⟨callers, inside⟩ := ih
    exact ⟨callers, .validated inside rules name rule clock⟩
  | logTaken _ ih =>
    obtain ⟨callers, inside⟩ := ih
    exact ⟨callers, .logTaken inside⟩

theorem Inside.ledByCallers (inside : Inside source definitions callers p) : Session.Led callers p.session := by
  induction inside with
  | new made =>
    obtain ⟨lexer, rfl⟩ := Parser.ofDefinitionsMade made
    rfl
  | configured _ config ih => exact ih.afterOnward rfl (.sameTokens rfl rfl)
  | adjusted _ f ih => exact ih
  | parsed before rules name rule ih => exact before.isReachable.sourceAndSound.2.parsedStack rules name rule
  | ran before rules body ih =>
    obtain ⟨_, _, grows⟩ := before.isReachable.sourceAndSound.2.runGrows rules _ body
    exact ih.afterOnward grows.stack ⟨_, grows.toTakes⟩
  | @parsing _ more p _ before rules name rule inside ih =>
    have fresh : Session.Led [] p.session.reset := rfl
    have led := inside.ledByCallers (Session.soundReset before.isReachable.sourceAndSound.2) fresh
    rwa [List.append_nil] at led
  | running before rules body inside ih => exact inside.ledByCallers before.isReachable.sourceAndSound.2 ih
  | validated _ rules name rule clock ih => exact ih.afterOnward rfl (.sameTokens rfl rfl)
  | logTaken _ ih => exact ih.afterOnward rfl (.sameTokens rfl rfl)

theorem reentryCaught (reachable : Reachable source definitions p) :
    (p.session.active = p.session.ruleStack ∧ p.session.ruleStack.Nodup) ∧
    (∀ name body,
      (∀ error, (body (p.session.opened p.setup name (p.session.asked p.setup name))).1 = .fatal error →
        error.isLeftRecursion = false) →
      ((∃ error, (Session.subrule p.setup name body p.session).1 = .fatal error ∧ error.isLeftRecursion) ↔
        (name, p.session.state.offset) ∈ p.session.ruleStack)) ∧
    (∃ callers, Inside source definitions callers p) ∧
    (∀ callers, Inside source definitions callers p →
      p.session.ruleStack = callers.map (fun e => (e.1, e.2.state.offset)) ∧
      ∀ name, (name, p.session.state.offset) ∈ p.session.ruleStack →
        ∃ inner first outer, callers = inner ++ (name, first) :: outer ∧
          (∀ body, Session.subrule p.setup name body p.session =
            (.fatal (.leftRecursion (.point p.session.state.offset) p.session.state.position name
              (name :: (inner.map Prod.fst).reverse ++ [name])), p.session)) ∧
          ∀ e ∈ inner ++ [(name, first)],
            e.2.state.offset = p.session.state.offset ∧ e.2.taken = p.session.taken) ∧
    (∀ rules body error, (p.run rules body).1 = .fatal error → error.isLeftRecursion →
      Session.Raised p.setup rules p.config.maxRuleDepth (.body body) p.session error) ∧
    (∀ rules name rule error, (p.parse rules name rule).1 = .error error → error.isLeftRecursion →
      Session.Raised p.setup rules p.config.maxRuleDepth (.body (.call name rule)) p.session.reset error) := by
  obtain ⟨_, sound⟩ := reachable.sourceAndSound
  obtain ⟨callers, inside⟩ := reachable.insideCallers
  refine ⟨⟨sound.active, inside.ledByCallers.stackNodup⟩, fun name body quiet => Session.subruleRefuses sound quiet,
    ⟨callers, inside⟩, fun callers inside => ⟨inside.ledByCallers.stackOfCallers, fun name isOpen => ?_⟩,
    fun rules body error fatal blamed => Session.raisedExec fatal blamed, ?_⟩
  · have led := inside.ledByCallers
    obtain ⟨inner, first, outer, rfl, same⟩ := led.callerAtOffset isOpen
    refine ⟨inner, first, outer, rfl, fun body => ?_, led.standsStill same⟩
    rw [← led.leftRecursionOfCallers same]
    apply Session.subruleOpen
    rw [List.contains_iff_mem, sound.active]
    exact isOpen
  · intro rules name rule error failed blamed
    obtain ⟨stats, eq⟩ := Session.parseRuleConcludes p.setup rules name rule p.session
    rw [show (p.parse rules name rule).1 = _ from eq] at failed
    cases ended : Session.concluded p.setup
        (Session.invoke p.setup rules p.setup.config.maxRuleDepth name rule p.session.reset) with
    | ok output =>
      rw [ended] at failed
      exact nomatch failed
    | error e =>
      rw [ended] at failed
      cases failed
      exact Session.raisedExec (b := .call name rule) (Session.concludedIsLeftRecursion ended blamed) blamed

namespace Sample

def returning : Rules :=
  [("L", .inOrder [.consume "c" defaultGoal, .call "M" "M"]), ("M", .call "K" "K"), ("K", .call "M" "M")]

def inL : Session := parser.session.reset.opened parser.setup "L" (parser.session.reset.asked parser.setup "L")

def beforeM : Session := (Session.consume parser.setup "c" defaultGoal inL).2

def inM : Session := beforeM.opened parser.setup "M" (beforeM.asked parser.setup "M")

def inK : Session := inM.opened parser.setup "K" (inM.asked parser.setup "K")

def atM : Parser := ⟨parser.setup, inK⟩

theorem insideReturning :
    Inside "ca;b" Sample.definitions [("K", inM), ("M", beforeM), ("L", parser.session.reset)] atM := by
  have sample : Inside "ca;b" Sample.definitions [] parser := (Inside.new (Parser.ofDefinitionsOfOption _)).configured _
  have enters : ∀ {name : String} {s : Session},
      (!s.active.contains (s.here name) && s.ruleStack.length < 1000) = true → s.Enters parser.setup name := by
    intro name s fits
    rw [Bool.and_eq_true, Bool.not_eq_true', decide_eq_true_eq] at fits
    exact ⟨Bool.eq_false_iff.mp fits.1, fits.2⟩
  have entry : Session.Inside parser.setup returning 1000 (.body (.call "L" "L")) parser.session.reset [] 1000
      (.body (.call "L" "L")) parser.session.reset := .start
  have bodyL := entry.enter (enters (by decide +kernel)) (Option.isNone_iff_eq_none.mp (by decide +kernel))
  have first : Session.exec parser.setup (Session.invoke parser.setup returning 999) (.consume "c" defaultGoal) inL =
      (.ok, beforeM) := Prod.ext (by decide +kernel) rfl
  have callM := (bodyL.within (.next first)).within .first
  have bodyM := callM.enter (enters (by decide +kernel)) (Option.isNone_iff_eq_none.mp (by decide +kernel))
  have callK : Session.Inside parser.setup returning 1000 (.body (.call "L" "L")) parser.session.reset
      [("M", beforeM), ("L", parser.session.reset)] 998 (.body (.call "K" "K")) inM := bodyM
  have bodyK := callK.enter (enters (by decide +kernel)) (Option.isNone_iff_eq_none.mp (by decide +kernel))
  exact .parsing sample returning "L" "L" ⟨_, _, _, bodyK, .inl rfl⟩

end Sample

theorem reentryCaughtReturning :
    Reachable "ca;b" Sample.definitions Sample.atM ∧
      (∀ body, Session.subrule Sample.atM.setup "M" body Sample.atM.session =
        (.fatal (.leftRecursion (.point 1) ⟨1, 1⟩ "M" ["M", "K", "M"]), Sample.atM.session)) ∧
      Sample.beforeM.taken = Sample.atM.session.taken ∧
      ∃ error, (Sample.parser.parse Sample.returning "L" "L").1 = .error error ∧ error.isLeftRecursion ∧
        Session.Raised Sample.parser.setup Sample.returning 1000 (.body (.call "L" "L")) Sample.parser.session.reset
          error := by
  have inside := Sample.insideReturning
  have sample : Reachable "ca;b" Sample.definitions Sample.parser :=
    (Reachable.new (Parser.ofDefinitionsOfOption _)).configured _
  obtain ⟨_, _, _, told, _, _⟩ := reentryCaught inside.isReachable
  obtain ⟨_, _, _, _, _, parsed⟩ := reentryCaught sample
  obtain ⟨inner, first, outer, split, refused, still⟩ := (told _ inside).2 "M" (by decide +kernel)
  obtain ⟨rfl, rfl⟩ : inner = [("K", Sample.inM)] ∧ first = Sample.beforeM := by
    rcases inner with _ | ⟨e, _ | ⟨e', _ | ⟨e'', more⟩⟩⟩ <;>
      simp only [List.nil_append, List.cons_append, List.cons.injEq, Prod.mk.injEq] at split
    · exact absurd split.1.1 (by decide)
    · exact ⟨by rw [← split.1], split.2.1.2.symm⟩
    · exact absurd split.2.2.1.1 (by decide)
    · exact absurd split.2.2.2 (by simp)
  refine ⟨inside.isReachable, fun body => (refused body).trans ?_, (still ("M", Sample.beforeM) (by simp)).2, ?_⟩
  · have offset : Sample.atM.session.state.offset = 1 := by decide +kernel
    have position : Sample.atM.session.state.position = ⟨1, 1⟩ := by decide +kernel
    rw [offset, position]
    rfl
  · have told : (Sample.parser.parse Sample.returning "L" "L").1.map (fun _ => ()) =
        .error (.leftRecursion (.point 1) ⟨1, 1⟩ "M" ["M", "K", "M"]) := by decide +kernel
    cases result : (Sample.parser.parse Sample.returning "L" "L").1 with
    | ok output =>
      rw [result] at told
      cases told
    | error error =>
      rw [result] at told
      cases told
      exact ⟨_, rfl, rfl, parsed _ _ _ _ result rfl⟩

end Parser
end Packrat

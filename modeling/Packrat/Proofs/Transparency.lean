import Packrat.Proofs.Reachable
import Packrat.Proofs.Session.Caching

/-! The cache does not show. A parse with it and a parse without it return the same, unless the rules nest too
deep; recovered errors are the same but for the path of open rules in them. -/
namespace Packrat

namespace Session

variable {env : Setup} {rules : Rules} {name rule : String} {s : Session} {f : ParseError → ParseError}

def entryMeans (env : Setup) (rules : Rules) (name rule : String) : Outcome :=
  env.meaning.guarded (Option.some env.config.maxErrors) rules env.config.maxRuleDepth [] name rule Place.first 0

theorem entryMeansCaching (env : Setup) (on : Bool) (rules : Rules) (name rule : String) :
    entryMeans (env.caching on) rules name rule = entryMeans env rules name rule := by
  unfold entryMeans
  rw [env.meaningCaching]
  rfl

theorem resultCaching (env : Setup) (on : Bool) (o : Outcome) : o.result (env.caching on) f = o.result env f := by
  cases o <;> rfl

theorem parseReturns (whole : NoPairs env.source) (known : ScansTrue env s.scans) {o : Outcome}
    {valid : MemoKey → Memo → Prop}
    (realized : s.reset.Realized env ⟨seeing f, valid⟩ o
      (invoke env rules env.config.maxRuleDepth name rule s.reset)) :
    (s.parseRule env rules name rule).1.map (Output.seen f) = o.result env f := by
  obtain ⟨settled, onward⟩ := keepsInvoke whole rules env.config.maxRuleDepth name rule _ (settledReset known)
  rw [parseRuleSeen]
  refine realized.concludesWithOutcome settled onward fun failed => ?_
  generalize env.config.maxRuleDepth = depth at failed ⊢
  have ran : invoke env rules depth name rule s.reset =
      (.mismatch, (invoke env rules depth name rule s.reset).2) := by rw [← failed]
  cases depth <;> exact subruleStill ran

theorem directRealized (whole : NoPairs env.source) (strict : rules.Strict) (known : ScansTrue env s.scans)
    (off : env.config.memoize = false)
    (never : NeverRefuses env rules env.config.maxRuleDepth (.body (.call name rule)) s.reset)
    (see : Recovery → Recovery) :
    s.reset.Realized env ⟨see, fun _ _ => True⟩ (entryMeans env rules name rule)
      (invoke env rules env.config.maxRuleDepth name rule s.reset) := by
  rcases simulatesEntry whole strict (directAccounts off never see) trivial (readyReset known _) .start
    with ⟨_, none⟩ | realized
  · exact none.elim
  · exact realized

theorem cachedReturns (whole : NoPairs env.source) (strict : rules.Strict) (known : ScansTrue env s.scans)
    {table : String → Body} {noted : MemoKey → List String → Prop}
    (denote : rules.Denote (rules.Invokes name rule) table)
    (noting : ∀ {n t}, Runs env rules env.config.maxRuleDepth (.body (.call name rule)) s.reset n t →
      noted (MemoKey.of n t.state) t.path)
    (alike : ∀ {n t memo path o},
      Answers env rules env.config.maxRuleDepth (.body (.call name rule)) s.reset n t memo →
      noted (MemoKey.of n t.state) path → memo.Records env (seeing f) path o →
      SeenAlike env (seeing f) path t.path o) :
    (entryMeans env rules name rule = .cut ∨
      ∃ span position rule' depth,
        entryMeans env rules name rule = .fatal (.recursionLimit span position rule' depth)) ∨
    (s.parseRule env rules name rule).1.map (Output.seen f) = (entryMeans env rules name rule).result env f := by
  rcases simulatesEntry whole strict (cachedAccounts whole denote noting alike) (.inl rfl)
    (readyReset known _) .start with ⟨_, height, excused⟩ | realized
  · rcases excused with ⟨_, cut⟩ | ⟨_, _, _, deep⟩ | ⟨e, member, _⟩
    · exact .inl (.inl cut)
    · exact .inl (.inr ⟨_, _, _, _, deep⟩)
    · exact nomatch member
  · exact .inr (parseReturns whole known realized)

theorem parseAlike (whole : NoPairs env.source) (strict : rules.Strict) (known : ScansTrue env s.scans)
    {table : String → Body} {noted : MemoKey → List String → Prop}
    (denote : rules.Denote (rules.Invokes name rule) table)
    (noting : ∀ {n t}, Runs (env.caching true) rules env.config.maxRuleDepth (.body (.call name rule)) s.reset n t →
      noted (MemoKey.of n t.state) t.path)
    (alike : ∀ {n t memo path o},
      Answers (env.caching true) rules env.config.maxRuleDepth (.body (.call name rule)) s.reset n t memo →
      noted (MemoKey.of n t.state) path → memo.Records env (seeing f) path o →
      SeenAlike env (seeing f) path t.path o)
    (never : NeverRefuses (env.caching false) rules env.config.maxRuleDepth (.body (.call name rule)) s.reset)
    (shallow : ∀ span position rule' depth, (s.parseRule (env.caching false) rules name rule).1 ≠
      .error (.recursionLimit span position rule' depth)) :
    (s.parseRule (env.caching true) rules name rule).1.map (Output.seen f) =
      (s.parseRule (env.caching false) rules name rule).1.map (Output.seen f) := by
  have whole' : ∀ on, NoPairs (env.caching on).source := fun _ => whole
  have known' : ∀ on, ScansTrue (env.caching on) s.scans := fun _ => known
  have realized : s.reset.Realized (env.caching false) ⟨seeing f, fun _ _ => True⟩
      (entryMeans (env.caching false) rules name rule)
      (invoke (env.caching false) rules env.config.maxRuleDepth name rule s.reset) :=
    directRealized (whole' false) strict (known' false) rfl never _
  have direct : (s.parseRule (env.caching false) rules name rule).1.map (Output.seen f) =
      (entryMeans (env.caching false) rules name rule).result (env.caching false) f :=
    parseReturns (whole' false) (known' false) realized
  have cached : (entryMeans (env.caching true) rules name rule = .cut ∨
      ∃ span position rule' depth, entryMeans (env.caching true) rules name rule =
        .fatal (.recursionLimit span position rule' depth)) ∨
      (s.parseRule (env.caching true) rules name rule).1.map (Output.seen f) =
        (entryMeans (env.caching true) rules name rule).result (env.caching true) f :=
    cachedReturns (whole' true) strict (known' true) denote noting alike
  rw [entryMeansCaching, resultCaching] at direct cached
  rw [entryMeansCaching] at realized
  rcases cached with (cut | ⟨span, position, rule', depth, deep⟩) | cached
  · rw [cut] at realized
    exact realized.elim
  · rw [deep] at direct
    refine absurd ?_ (shallow span position rule' depth)
    cases result : (s.parseRule (env.caching false) rules name rule).1 with
    | ok output =>
      rw [result] at direct
      exact nomatch direct
    | error error =>
      rw [result] at direct
      exact congrArg Except.error (Except.error.inj direct)
  · rw [cached, direct]

end Session

def ParseError.pathless : ParseError → ParseError
  | .syntaxError span position expected found _ suggestion =>
    .syntaxError span position expected found [] suggestion
  | .unexpectedEnd span position expected _ suggestion =>
    .unexpectedEnd span position expected [] suggestion
  | error => error

def ParseError.path : ParseError → List String
  | .syntaxError _ _ _ _ path _ => path
  | .unexpectedEnd _ _ _ path _ => path
  | _ => []

theorem ParseError.eqIffPathless {e e' : ParseError} : e = e' ↔ e.pathless = e'.pathless ∧ e.path = e'.path := by
  constructor
  · rintro rfl
    exact ⟨rfl, rfl⟩
  · rintro ⟨rest, path⟩
    cases e <;> cases e' <;> simp_all [pathless, ParseError.path]

theorem Session.errorFromPathless (env : Setup) (s : Session) (f : Failure) (stack : List String) :
    (s.errorFrom env (f.rootedAt stack)).pathless = (s.errorFrom env f).pathless := by
  unfold Failure.rootedAt
  split
  · unfold errorFrom
    cases f.found <;> rfl
  · rfl

theorem Session.alikePathless (env : Setup) (path other : List String) (o : Outcome) :
    SeenAlike env (seeing ParseError.pathless) path other o := by
  intro m trail _ r _
  refine Prod.ext rfl ?_
  simp only [seeing, Repair.recovery, Repair.under, errorFromPathless]

inductive SameResult : Except ParseError Output → Except ParseError Output → Prop where
  | success {a b : Output} (root : a.root = b.root) (tokens : a.tokens = b.tokens)
      (fragments : a.fragments = b.fragments) : SameResult (.ok a) (.ok b)
  | failure (error : ParseError) : SameResult (.error error) (.error error)

theorem SameResult.ofSeen {f : ParseError → ParseError} {a b : Except ParseError Output}
    (same : a.map (Output.seen f) = b.map (Output.seen f)) : SameResult a b := by
  cases a with
  | ok a =>
    cases b with
    | ok b =>
      have same := Except.ok.inj same
      simp only [Output.seen, Prod.mk.injEq] at same
      exact .success same.1 same.2.1 same.2.2.1
    | error e => cases same
  | error e =>
    cases b with
    | ok b => cases same
    | error e' =>
      cases Except.error.inj same
      exact .failure e

namespace Parser

def Spares (p : Parser) (rules : Rules) (name rule : String) : Prop :=
  Session.NeverRefuses (p.setCache false).setup rules p.config.maxRuleDepth (.body (.call name rule))
    p.session.reset

theorem sparesOff {p : Parser} (off : p.config.recover = false) (rules : Rules) (name rule : String) :
    p.Spares rules name rule := by
  have off' : (p.setCache false).setup.config.recover = false := off
  exact Session.neverRefusesOff off' rules p.config.maxRuleDepth _ _

theorem sparesAmple {source : String} {definitions : List Definition} {p : Parser}
    (reachable : Reachable source definitions p) (whole : NoPairs source.toList)
    (ample : byteLength source.toList < p.config.maxErrors) (rules : Rules) (name rule : String) :
    p.Spares rules name rule := by
  obtain ⟨text, settled, _⟩ := reachable.settledAndPlaced whole
  rw [← text] at whole ample
  have whole' : NoPairs (p.setCache false).setup.source := whole
  exact Session.neverRefusesAmple whole' ample rules _ _ (Session.settledReset settled.scans) rfl

section
variable {source : String} {definitions : List Definition} {p : Parser} {rules : Rules} {name rule : String}
  (reachable : Reachable source definitions p) (whole : NoPairs source.toList) (strict : rules.Strict)
  (agree : rules.NamesAgree name rule) (spares : p.config.recover = true → p.Spares rules name rule)
include reachable whole strict agree spares

theorem switchAlike {f : ParseError → ParseError} (noted : MemoKey → List String → Prop)
    (noting : ∀ {n t}, Session.Runs (p.setCache true).setup rules p.config.maxRuleDepth
      (.body (.call name rule)) p.session.reset n t → noted (MemoKey.of n t.state) t.path)
    (alike : ∀ {n t memo path o}, Session.Answers (p.setCache true).setup rules p.config.maxRuleDepth
      (.body (.call name rule)) p.session.reset n t memo → noted (MemoKey.of n t.state) path →
      memo.Records p.setup (seeing f) path o → Session.SeenAlike p.setup (seeing f) path t.path o)
    (shallow : ∀ span position rule' depth, ((p.setCache false).parse rules name rule).1 ≠
      .error (.recursionLimit span position rule' depth)) :
    ((p.setCache true).parse rules name rule).1.map (Output.seen f) =
      ((p.setCache false).parse rules name rule).1.map (Output.seen f) := by
  obtain ⟨text, settled, _⟩ := reachable.settledAndPlaced whole
  obtain ⟨table, denote⟩ := agree.denoteTable
  have never : p.Spares rules name rule := by
    cases on : p.config.recover with
    | true => exact spares on
    | false => exact sparesOff on rules name rule
  have whole' : NoPairs p.setup.source := by
    rw [text]
    exact whole
  exact Session.parseAlike whole' strict settled.scans denote noting alike never shallow

theorem switchPathless
    (shallow : ∀ span position rule' depth, ((p.setCache false).parse rules name rule).1 ≠
      .error (.recursionLimit span position rule' depth)) :
    ((p.setCache true).parse rules name rule).1.map (Output.seen ParseError.pathless) =
      ((p.setCache false).parse rules name rule).1.map (Output.seen ParseError.pathless) :=
  switchAlike reachable whole strict agree spares (fun _ _ => True) (fun _ => trivial)
    (fun _ _ _ => Session.alikePathless _ _ _ _) shallow

theorem cacheTransparent
    (shallow : ∀ span position rule' depth, ((p.setCache false).parse rules name rule).1 ≠
      .error (.recursionLimit span position rule' depth)) :
    SameResult ((p.setCache true).parse rules name rule).1 ((p.setCache false).parse rules name rule).1 :=
  SameResult.ofSeen (switchPathless reachable whole strict agree spares shallow)

end

namespace Sample

def rules : Rules :=
  [("R", .firstOf [.inOrder [.call "A" "A", .consume "a" defaultGoal],
      .inOrder [.call "B" "B", .consume "b" defaultGoal]]),
    ("A", .call "L" "L"), ("B", .call "L" "L"),
    ("L", .many (.inOrder [.consume "c" defaultGoal, .consume "S" defaultGoal]))]

def definitions : List Definition :=
  [{ name := "a", shape := .literal "a" }, { name := "b", shape := .literal "b" },
    { name := "c", shape := .literal "c" }, { name := "S", shape := .literal ";" }]

def parser : Parser :=
  ((Parser.ofDefinitions "ca;b" definitions).toOption.get (by decide +kernel)).withConfig
    { maxMemo := 2, recover := true, syncTokens := ["S"], maxErrors := 5 }

end Sample

theorem cacheTransparentOnList :
    Reachable "ca;b" Sample.definitions Sample.parser ∧ Sample.parser.config.recover ∧
      SameResult ((Sample.parser.setCache true).parse Sample.rules "R" "R").1
        ((Sample.parser.setCache false).parse Sample.rules "R" "R").1 := by
  have reachable : Reachable "ca;b" Sample.definitions Sample.parser :=
    (Reachable.new (Parser.ofDefinitionsOfOption _)).configured _
  have whole : NoPairs "ca;b".toList := by decide
  have succeeds : ((Sample.parser.setCache false).parse Sample.rules "R" "R").1.isOk := by decide +kernel
  refine ⟨reachable, rfl, ?_⟩
  refine cacheTransparent reachable whole (Rules.strictOf (by decide)) (Rules.namesAgreeOf (by decide) "R")
    (fun _ => sparesAmple reachable whole (by decide +kernel) _ _ _) ?_
  intro span position rule depth failed
  rw [failed] at succeeds
  exact nomatch succeeds

end Parser
end Packrat

import Packrat.Proofs.Session.Tracking

/-! A parse takes the tokens of the source. With bodies that take tokens in the default goal only, and
without recovery, a new parser that succeeds has read on demand what `tokenize` reads in one go, up to the
end of the source. -/
namespace Packrat
namespace Parser

inductive Fresh (source : String) (definitions : List Definition) : Parser → Prop where
  | new {p} (made : Parser.ofDefinitions source definitions = .ok p) : Fresh source definitions p
  | configured {p} (before : Fresh source definitions p) (config : ParserConfig) :
      Fresh source definitions (p.withConfig config)
  | adjusted {p} (before : Fresh source definitions p) (f : ParserConfig → ParserConfig) :
      Fresh source definitions (p.mapConfig f)

section
variable {source : String} {definitions : List Definition} {p : Parser}

theorem Fresh.isReachable (fresh : Fresh source definitions p) : Reachable source definitions p := by
  induction fresh with
  | new made => exact .new made
  | configured _ config ih => exact ih.configured config
  | adjusted _ f ih => exact ih.adjusted f

theorem Fresh.lexerOfDefinitions (fresh : Fresh source definitions p) :
    p.setup.source = source.toList ∧ Lexer.ofDefinitions definitions = .ok p.setup.lexer := by
  induction fresh with
  | @new p made =>
    unfold Parser.ofDefinitions at made
    cases read : Lexer.ofDefinitions definitions with
    | error e =>
      rw [read] at made
      exact nomatch made
    | ok lexer =>
      rw [read] at made
      cases made
      exact ⟨rfl, rfl⟩
  | configured _ config ih => exact ih
  | adjusted _ f ih => exact ih

theorem Fresh.withoutScans (fresh : Fresh source definitions p) : p.session.scans = [] := by
  induction fresh with
  | new made =>
    obtain ⟨lexer, rfl⟩ := ofDefinitionsMade made
    rfl
  | configured _ config ih => exact ih
  | adjusted _ f ih => exact ih

theorem Fresh.tracksWhenReset (fresh : Fresh source definitions p) :
    (Session.tracking p.setup).holds p.session.reset := by
  refine ⟨Session.soundReset fresh.isReachable.sourceAndSound.2, .atFirst, fun _ _ _ _ member => ?_, fun _ member =>
    nomatch member⟩
  rw [show p.session.reset.scans = [] from fresh.withoutScans] at member
  exact nomatch member

end

theorem straightTaking {env : Setup} {rules : Rules} {task : Task} {s : Session} {depth : Nat}
    (off : env.config.recover = false) (straight : ∀ rule, (rules.body rule).inDefaultGoal) (h : task.Straight)
    (d : Nat) : (Session.tracking env).Taking env (Session.Reached env rules depth task s d) where
  consume := by
    intro t token goal reached holds
    obtain rfl : goal = defaultGoal := beq_iff_eq.mp (reached.keepsStraight off straight h)
    exact Session.tracksConsume token holds
  recover := fun _ reached _ => (reached.keepsStraight off straight h).elim

theorem lexingAgrees {source : String} {definitions : List Definition} {p : Parser}
    (fresh : Fresh source definitions p) (off : p.config.recover = false) {lexer : Lexer}
    (lexed : Lexer.ofDefinitions definitions = .ok lexer) {rules : Rules}
    (straight : ∀ e ∈ rules, e.2.inDefaultGoal) (name rule : String) :
    (∀ output, (p.parse rules name rule).1 = .ok output →
      lexer.tokenize source.toList = (output.tokens, byteLength source.toList)) ∧
    ((lexer.tokenize source.toList).2 ≠ byteLength source.toList →
      ∃ error, (p.parse rules name rule).1 = .error error) := by
  obtain ⟨text, lexed'⟩ := fresh.lexerOfDefinitions
  obtain rfl : p.setup.lexer = lexer := Except.ok.inj (lexed'.symm.trans lexed)
  have agrees : ∀ output, (p.parse rules name rule).1 = .ok output →
      p.setup.lexer.tokenize source.toList = (output.tokens, byteLength source.toList) := by
    intro output succeeds
    obtain ⟨t, _, ran, _, _, tokens, _, _, _, cursor, ended⟩ := Session.parseRuleOk succeeds
    have bodies := Rules.bodyFrom (motive := fun b => b.inDefaultGoal) rfl straight
    have entry : (Task.body (.call name rule)).Straight := rfl
    obtain ⟨⟨_, tracks⟩, _, read, lexes⟩ := (Session.trackingNested p.setup).invokeObeys Session.tracksAnswer
      (straightTaking off bodies entry) p.config.maxRuleDepth name rule p.session.reset .start fresh.tracksWhenReset
    rw [show Session.invoke p.setup rules p.config.maxRuleDepth name rule p.session.reset = _ from ran] at tracks lexes
    obtain ⟨_, scan, _⟩ := tracks.afterScan defaultGoal
    have stopped : t.place.read p.setup defaultGoal = .ended cursor := by
      rw [scan] at ended
      exact ended
    have whole := lexes.reads.tokenizeReadsAlike stopped
    rw [text] at whole
    rw [whole, tokens, lexes.taken]
    rfl
  refine ⟨agrees, fun stops => ?_⟩
  cases result : (p.parse rules name rule).1 with
  | error error => exact ⟨error, rfl⟩
  | ok output => exact absurd (congrArg Prod.snd (agrees output result)) stops

namespace Sample

def breaking : List Definition :=
  [{ name := "w", shape := .literal "w" }, { name := "S", shape := .literal ";" },
    { name := "half", shape := .literal "\r", goals := some ["Raw"] },
    { name := "break", shape := .literal "\r\n", skip := true, goals := some [defaultGoal] }]

def words : Rules :=
  [("R", .firstOf [.inOrder [.call "W" "W", .notAhead "half" "Raw", .consume "S" defaultGoal],
      .inOrder [.call "W" "W", .call "W" "W", .consume "S" defaultGoal]]),
    ("W", .consume "w" defaultGoal)]

def lines : Parser :=
  (Parser.ofDefinitions "w\r\nw;" breaking).toOption.get (by decide +kernel)

end Sample

theorem lexingAgreesOnLines :
    ∃ lexer output, Lexer.ofDefinitions Sample.breaking = .ok lexer ∧
      (Sample.lines.parse Sample.words "R" "R").1 = .ok output ∧ output.stats.cacheHits = 1 ∧
      output.tokens.map Token.start = [⟨1, 0⟩, ⟨2, 0⟩, ⟨2, 1⟩] ∧
      lexer.tokenize "w\r\nw;".toList = (output.tokens, 5) := by
  have fresh : Fresh "w\r\nw;" Sample.breaking Sample.lines := .new (Parser.ofDefinitionsOfOption _)
  have lexed := fresh.lexerOfDefinitions.2
  have straight : ∀ e ∈ Sample.words, e.2.inDefaultGoal := by decide
  have agrees := (lexingAgrees fresh rfl lexed straight "R" "R").1
  have replayed : (Sample.lines.parse Sample.words "R" "R").1.toOption.map
      (fun o => (o.stats.cacheHits, o.tokens.map Token.start)) = some (1, [⟨1, 0⟩, ⟨2, 0⟩, ⟨2, 1⟩]) := by
    decide +kernel
  cases result : (Sample.lines.parse Sample.words "R" "R").1 with
  | error error =>
    rw [result] at replayed
    exact nomatch replayed
  | ok output =>
    rw [result] at replayed
    obtain ⟨hits, starts⟩ := Prod.mk.inj (Option.some.inj replayed)
    exact ⟨_, output, lexed, rfl, hits, starts, agrees output result⟩

end Parser
end Packrat

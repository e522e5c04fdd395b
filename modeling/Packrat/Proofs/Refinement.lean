import Packrat.Proofs.Peg
import Packrat.Proofs.Transparency

/-! A parser without cache and recovery runs a body as the evaluator does: its verdict, end, nodes and tokens
are the evaluator's, once the bounds of the evaluator are large enough. -/
namespace Packrat

inductive Plain : Outcome → Peg.Result → Prop where
  | ok (m : Match) (trail : Trail) : Plain (.ok m trail) (.ok m.stop m.nodes m.tokens)
  | mismatch (trail : Trail) : Plain (.mismatch trail) .mismatch
  | fatal (error : ParseError) : Plain (.fatal error) (.fatal error)

namespace Plain

variable {env : Setup}

theorem behindMatch {o : Outcome} {r : Peg.Result} (h : Plain o r) (m : Match) (trail : Trail) :
    Plain (env.meaning.prepend m trail o) (r.behind m.nodes m.tokens) := by
  cases h with
  | ok more later => exact .ok (m.append more) (trail.append later)
  | mismatch later => exact .mismatch _
  | fatal error => exact .fatal error

theorem withTrail {o : Outcome} {r : Peg.Result} (h : Plain o r) (p : Place) (trail : Trail) :
    Plain (env.meaning.prepend { stop := p } trail o) r := by
  cases h with
  | ok more later => exact .ok (Match.append { stop := p } more) (trail.append later)
  | mismatch later => exact .mismatch _
  | fatal error => exact .fatal error

def Everywhere (env : Setup) (m : Meaning) (e : Peg.Eval) : Prop :=
  ∀ p, p.Stands env → ∀ n, Plain (m p n) (e p)

theorem consumeEverywhere (token : String) (goal : Goal) :
    Everywhere env (env.meaning.consume token goal) (Peg.consume env token goal) := by
  intro p _ n
  have seen : env.meaning.look goal p = (env.lexer.readToken env.source p.cursor goal p.prev).glimpse := rfl
  simp only [Semantics.consume, seen, Peg.consume]
  cases env.lexer.readToken env.source p.cursor goal p.prev with
  | token t next =>
    simp only [Scan.glimpse]
    split
    · exact .ok (Meaning.taking t next).1 _
    · exact .mismatch _
  | ended cursor => exact .mismatch _
  | unrecognized cursor c => exact .mismatch _

theorem notAhead (token : String) (goal : Goal) :
    Everywhere env (env.meaning.notAhead token goal) (Peg.notAhead env token goal) := by
  intro p _ n
  have seen : env.meaning.look goal p = (env.lexer.readToken env.source p.cursor goal p.prev).glimpse := rfl
  simp only [Semantics.notAhead, seen, Peg.notAhead]
  cases env.lexer.readToken env.source p.cursor goal p.prev with
  | token t next =>
    simp only [Scan.glimpse]
    split
    · exact .mismatch _
    · exact .ok { stop := p } _
  | ended cursor => exact .ok { stop := p } _
  | unrecognized cursor c => exact .ok { stop := p } _

theorem sameLine : Everywhere env env.meaning.sameLine (Peg.sameLine env) := by
  intro p _ n
  have seen : env.meaning.look defaultGoal p =
    (env.lexer.readToken env.source p.cursor defaultGoal p.prev).glimpse := rfl
  simp only [Semantics.sameLine, seen, Peg.sameLine]
  cases env.lexer.readToken env.source p.cursor defaultGoal p.prev with
  | token t next =>
    simp only [Scan.glimpse]
    split
    · exact .mismatch _
    · exact .ok { stop := p } _
  | ended cursor => exact .ok { stop := p } _
  | unrecognized cursor c => exact .ok { stop := p } _

theorem inOrder {bodies : List Body} {f : Body → Meaning} {g : Body → Peg.Eval}
    (each : ∀ b ∈ bodies, Everywhere env (f b) (g b))
    (forward : ∀ b ∈ bodies, Semantics.Forward (Place.Stands env) (Match.Onward env) (f b)) :
    Everywhere env (env.meaning.inOrder (bodies.map f)) (Peg.inOrder (bodies.map g)) := by
  induction bodies with
  | nil => exact fun p _ n => .ok { stop := p } _
  | cons b rest ih =>
    intro p stands n
    have later := ih (fun b member => each b (List.mem_cons_of_mem _ member))
      (fun b member => forward b (List.mem_cons_of_mem _ member))
    have head := each b List.mem_cons_self p stands n
    have ahead := forward b List.mem_cons_self p stands n
    simp only [List.map_cons, Semantics.inOrder, Peg.inOrder]
    generalize f b p n = o at head ahead ⊢
    generalize g b p = r at head ⊢
    cases head with
    | ok m trail => exact (later m.stop (ahead m trail rfl).there _).behindMatch m trail
    | mismatch trail => exact .mismatch _
    | fatal error => exact .fatal error

theorem firstOf {bodies : List Body} {f : Body → Meaning} {g : Body → Peg.Eval}
    (each : ∀ b ∈ bodies, Everywhere env (f b) (g b)) :
    Everywhere env (env.meaning.firstOf (bodies.map f)) (Peg.firstOf (bodies.map g)) := by
  induction bodies with
  | nil => exact fun p _ n => .mismatch _
  | cons b rest ih =>
    intro p stands n
    have later := ih fun b member => each b (List.mem_cons_of_mem _ member)
    have head := each b List.mem_cons_self p stands n
    simp only [List.map_cons, Semantics.firstOf, Peg.firstOf]
    generalize f b p n = o at head ⊢
    generalize g b p = r at head ⊢
    cases head with
    | ok m trail => exact .ok m trail
    | mismatch trail => exact (later p stands n).withTrail p trail
    | fatal error => exact .fatal error

theorem optionalEverywhere {body : Meaning} {e : Peg.Eval} (h : Everywhere env body e) :
    Everywhere env (env.meaning.optional body) (Peg.optional e) := by
  intro p stands n
  have inner := h p stands n
  simp only [Semantics.optional, Peg.optional]
  generalize body p n = o at inner ⊢
  generalize e p = r at inner ⊢
  cases inner with
  | ok m trail => exact .ok m trail
  | mismatch trail => exact .ok { stop := p } _
  | fatal error => exact .fatal error

section
variable {limit : Option Nat} {stack : Peg.Stack} (off : env.config.recover = false)
include off

theorem roundsRefined {body : Meaning} {e : Peg.Eval} (h : Everywhere env body e)
    (forward : Semantics.Forward (Place.Stands env) (Match.Onward env) body)
    (fuel bound done : Nat) {p : Place} (stands : p.Stands env) (n : Nat)
    (enough : byteLength env.source < fuel + p.offset) (enough' : byteLength env.source < bound + p.offset) :
    Plain (env.meaning.repeated limit stack body fuel done p n) (Peg.rounds stack e bound done p) := by
  have inside : p.offset ≤ byteLength env.source := stands.offsetLe
  -- every round that goes on has moved, so neither side comes to the end of its rounds
  induction fuel generalizing bound done p n with
  | zero => omega
  | succ fuel ih =>
    obtain ⟨bound, rfl⟩ : ∃ k, bound = k + 1 := ⟨bound - 1, by omega⟩
    have inner := h p stands n
    have ahead := forward p stands n
    simp only [Semantics.repeated, Peg.rounds]
    generalize body p n = o at inner ahead ⊢
    generalize e p = r at inner ⊢
    cases inner with
    | ok m trail =>
      have onward := ahead m trail rfl
      simp only [Result.elim, env.meaningStood]
      split
      · exact .fatal _
      · rename_i moved
        have further : p.offset < m.stop.offset := by
          rcases onward.leads with same | further
          · refine onward.further fun none => moved ⟨by rw [same], none⟩
          · exact further
        have inside' : m.stop.offset ≤ byteLength env.source := onward.there.offsetLe
        exact (ih bound (done + 1) onward.there _ (by omega) (by omega) inside').behindMatch m _
    | mismatch trail =>
      have unmended : ¬ env.meaning.mends p trail := by simp [Setup.meaning, off]
      rw [Result.elim, Semantics.mending, if_neg unmended]
      exact .ok { stop := p } _
    | fatal error => exact .fatal error

theorem someEverywhere {bound : Nat} (ample : Session.roundLimit env ≤ bound) {body : Meaning} {e : Peg.Eval}
    (h : Everywhere env body e) (forward : Semantics.Forward (Place.Stands env) (Match.Onward env) body) :
    Everywhere env (env.meaning.some limit stack body) (Peg.some stack e bound) := by
  intro p stands n
  have inner := h p stands n
  have ahead := forward p stands n
  have rounded : env.meaning.rounds = Session.roundLimit env := rfl
  simp only [Semantics.some, Peg.some, rounded]
  generalize body p n = o at inner ahead ⊢
  generalize e p = r at inner ⊢
  cases inner with
  | ok m trail =>
    simp only [Result.elim, env.meaningStood]
    split
    · exact .fatal _
    · unfold Session.roundLimit at ample ⊢
      refine (roundsRefined off h forward _ bound 1 (ahead m trail rfl).there _ ?_ ?_).behindMatch m trail <;> omega
  | mismatch trail => exact .mismatch _
  | fatal error => exact .fatal error

theorem evalEverywhere (whole : NoPairs env.source) {bound : Nat} (ample : Session.roundLimit env ≤ bound)
    {mcall : String → String → Meaning} {ecall : String → String → Peg.Eval}
    (calls : ∀ name rule, Everywhere env (mcall name rule) (ecall name rule))
    (forward : ∀ name rule, Semantics.Forward (Place.Stands env) (Match.Onward env) (mcall name rule)) (b : Body)
    (strict : b.swallows = false) :
    Everywhere env (env.meaning.eval limit stack mcall b) (Peg.eval env bound stack ecall b) := by
  have ahead : ∀ b, Semantics.Forward (Place.Stands env) (Match.Onward env) (env.meaning.eval limit stack mcall b) :=
    (env.meaningLawful whole).forwardEval forward
  induction b using Body.induction with
  | consume token goal => exact consumeEverywhere token goal
  | inOrder parts ih =>
    simp only [Semantics.eval, Semantics.evalAllMaps, Peg.eval, Peg.evalAllAsMap]
    exact inOrder (fun b member => ih b member (Body.swallowsAnyFalseIff.mp strict b member))
      fun b _ => ahead b
  | call name rule => exact calls name rule
  | firstOf branches ih =>
    simp only [Semantics.eval, Semantics.evalAllMaps, Peg.eval, Peg.evalAllAsMap]
    exact firstOf fun b member => ih b member (Body.swallowsAnyFalseIff.mp strict b member)
  | many body ih =>
    intro p stands n
    have rounded : env.meaning.rounds = Session.roundLimit env := rfl
    unfold Session.roundLimit at ample rounded
    simp only [Semantics.eval, Peg.eval, rounded]
    refine roundsRefined off (ih strict) (ahead body) _ bound 0 stands n ?_ ?_ <;> omega
  | some body ih => exact someEverywhere off ample (ih strict) (ahead body)
  | optional body ih => exact optionalEverywhere (ih strict)
  | notAhead token goal => exact notAhead token goal
  | sameLine => exact sameLine
  | mismatch => exact fun p _ n => .mismatch _
  | raise error => exact fun p _ n => .fatal error
  | whenRecording recorded parsed ih => exact ih strict
  | attempt body ih => exact Bool.noConfusion strict

end

theorem enteringRefined {stack : Peg.Stack} {name : String} {body : Meaning} {e : Peg.Eval} {p : Place} {n : Nat}
    (h : stack.length < env.config.maxRuleDepth → Plain (body p n) (e p)) :
    Plain (env.meaning.entering stack name body p n) (Peg.entering env stack name e p) := by
  unfold Semantics.entering Peg.entering
  by_cases isOpen : stack.contains (name, p.offset)
  · rw [if_pos isOpen, if_pos (show stack.contains (name, env.meaning.offset p) from isOpen)]
    exact .fatal _
  · rw [if_neg isOpen, if_neg (show ¬ stack.contains (name, env.meaning.offset p) from isOpen)]
    by_cases full : env.config.maxRuleDepth ≤ stack.length
    · rw [if_pos full, if_pos (show env.meaning.levels ≤ _ from full)]
      exact .fatal _
    · rw [if_neg full, if_neg (show ¬ env.meaning.levels ≤ _ from full)]
      have inner := h (Nat.not_le.mp full)
      generalize body p n = o at inner ⊢
      generalize e p = r at inner ⊢
      cases inner with
      | ok m trail => exact .ok (m.inRule name p) _
      | mismatch trail => exact .mismatch _
      | fatal error => exact .fatal error

theorem callEverywhere (off : env.config.recover = false) (whole : NoPairs env.source) {rules : Rules}
    (strict : rules.Strict) (limit : Option Nat) {bound : Nat} (ample : Session.roundLimit env ≤ bound)
    (depth levels : Nat) {stack : Peg.Stack} (deep : env.config.maxRuleDepth ≤ depth + stack.length)
    (deep' : env.config.maxRuleDepth ≤ levels + stack.length) (name rule : String) :
    Everywhere env (env.meaning.guarded limit rules depth stack name rule)
      (Peg.call env rules bound levels stack name rule) := by
  -- with no levels left on one side, both are refused for the limit on nesting
  induction depth generalizing levels stack name rule with
  | zero =>
    intro p stands n
    cases levels <;> exact enteringRefined fun room => absurd room (by omega)
  | succ depth ih =>
    intro p stands n
    cases levels with
    | zero => exact enteringRefined fun room => absurd room (by omega)
    | succ levels =>
      refine enteringRefined fun _ => ?_
      have inner : ∀ name' rule', Everywhere env
          (env.meaning.guarded limit rules depth ((name, p.offset) :: stack) name' rule')
          (Peg.call env rules bound levels ((name, p.offset) :: stack) name' rule') := by
        refine ih levels ?_ ?_ <;> rw [List.length_cons] <;> omega
      exact evalEverywhere off whole ample inner ((env.meaningLawful whole).forwardGuarded limit rules depth _)
        (rules.body rule)
        (strict rule) p stands n

end Plain

inductive Session.Refines (s : Session) : Peg.Result → Verdict × Session → Prop where
  | ok {stop nodes tokens} {t : Session}
      (state : t.state = stop.state (s.state.tokenIndex + tokens.length))
      (levels : t.levels = (s.children ++ nodes) :: s.levels.tail)
      (stream : t.tokens.take t.state.tokenIndex =
        s.tokens.take s.state.tokenIndex ++ Session.renumber s.state.tokenIndex tokens) :
      Refines s (.ok stop nodes tokens) (.ok, t)
  | mismatch (t : Session) : Refines s .mismatch (.mismatch, t)
  | fatal (error : ParseError) (t : Session) : Refines s (.fatal error) (.fatal error, t)

namespace Session

variable {env : Setup} {s : Session}

theorem Realized.refinesResult {scheme : Scheme} {o : Outcome} {r : Verdict × Session} {result : Peg.Result}
    (h : s.Realized env scheme o r) (plain : Plain o result) : s.Refines result r := by
  obtain ⟨verdict, t⟩ := r
  cases plain with
  | ok m trail =>
    obtain ⟨rfl, follows, _⟩ := h
    exact .ok follows.state follows.levels follows.tokens
  | mismatch trail =>
    obtain ⟨rfl, _, _⟩ := h
    exact .mismatch t
  | fatal error =>
    obtain rfl : verdict = .fatal error := h
    exact .fatal error t

theorem runRealized (whole : NoPairs env.source) {rules : Rules} (strict : rules.Strict)
    (direct : env.config.memoize = false) (off : env.config.recover = false) (settled : s.Settled env)
    (placed : s.Placed) (b : Body) (plain : b.swallows = false) :
    s.Realized env ⟨id, fun _ _ => True⟩
      (env.meaning.eval (Option.some env.config.maxErrors) s.ruleStack
        (env.meaning.guarded (Option.some env.config.maxErrors) rules env.config.maxRuleDepth s.ruleStack) b
        s.place s.recoveries.length)
      (run env rules b s) := by
  obtain ⟨around, stack, inside⟩ := placed
  have ready : s.Ready env ⟨id, fun _ _ => True⟩ around := ⟨settled, stack, inside, fun _ _ _ => trivial⟩
  have accounts := directAccounts direct (neverRefusesOff off rules env.config.maxRuleDepth b s) id
  have deep : env.config.maxRuleDepth ≤ env.config.maxRuleDepth + around.length := Nat.le_add_right _ _
  have ran := execRan env (invoke env rules env.config.maxRuleDepth) b s
  have calls : ∀ {name rule} {t : Session}, True → t.Ready env ⟨id, fun _ _ => True⟩ around →
      Reached env rules env.config.maxRuleDepth (.body b) s env.config.maxRuleDepth (.body (.call name rule)) t →
      t.Simulates env ⟨id, fun _ _ => True⟩ (fun _ => False)
        (env.meaning.guarded (Option.some env.config.maxErrors) rules env.config.maxRuleDepth
          (env.meaning.stack around) name rule t.place t.recoveries.length)
        (invoke env rules env.config.maxRuleDepth name rule t) :=
    fun _ ready reached => simulatesInvoke (c := (_, _)) whole strict accounts env.config.maxRuleDepth deep trivial
      ready reached
  have simulates := simulatesRan whole (keepsInvoke whole rules env.config.maxRuleDepth) Reached.within
    (accounts.refused around) calls ran ⟨plain, fun _ _ => trivial⟩ ready .start
  rw [← ready.stack] at simulates
  rcases simulates with ⟨_, none⟩ | realized
  · exact none.elim
  · exact realized

end Session

namespace Parser

theorem refinesPeg {source : String} {definitions : List Definition} {p : Parser}
    (reachable : Reachable source definitions p) (whole : NoPairs source.toList)
    (direct : p.config.memoize = false) (off : p.config.recover = false) {rules : Rules}
    (strict : rules.Strict) (b : Body) (plain : b.swallows = false) {levels bound : Nat}
    (deep : p.config.maxRuleDepth ≤ levels) (ample : Session.roundLimit p.setup ≤ bound) :
    p.session.Refines (Peg.run p.setup rules levels bound p.session.ruleStack b p.session.place)
      ((p.run rules b).1, (p.run rules b).2.session) := by
  obtain ⟨text, settled, placed⟩ := reachable.settledAndPlaced whole
  have whole' : NoPairs p.setup.source := by
    rw [text]
    exact whole
  have realized := Session.runRealized whole' strict direct off settled placed b plain
  refine realized.refinesResult ?_
  have calls : ∀ name rule, Plain.Everywhere p.setup
      (p.setup.meaning.guarded (some p.config.maxErrors) rules p.config.maxRuleDepth p.session.ruleStack name rule)
      (Peg.call p.setup rules bound levels p.session.ruleStack name rule) :=
    Plain.callEverywhere off whole' strict _ ample p.config.maxRuleDepth levels (Nat.le_add_right _ _)
      (Nat.le_trans deep (Nat.le_add_right _ _))
  exact Plain.evalEverywhere off whole' ample calls ((p.setup.meaningLawful whole').forwardGuarded _ rules _ _) b plain
    p.session.place settled.stands _

def Sample.behindFirst : Parser :=
  ((Sample.parser.mapConfig ({ · with memoize := false, recover := false })).run Sample.rules
    (.consume "c" defaultGoal)).2

theorem refinesPegBehindFirst :
    Reachable "ca;b" Sample.definitions Sample.behindFirst ∧ Sample.behindFirst.session.state.offset = 1 ∧
      Sample.behindFirst.session.Refines
        (Peg.run Sample.behindFirst.setup Sample.rules 1000 5 Sample.behindFirst.session.ruleStack
          (.firstOf [.call "R" "R", .inOrder [.optional (.consume "a" defaultGoal), .sameLine]])
          Sample.behindFirst.session.place)
        ((Sample.behindFirst.run Sample.rules
            (.firstOf [.call "R" "R", .inOrder [.optional (.consume "a" defaultGoal), .sameLine]])).1,
          (Sample.behindFirst.run Sample.rules
            (.firstOf [.call "R" "R", .inOrder [.optional (.consume "a" defaultGoal), .sameLine]])).2.session) := by
  have reachable : Reachable "ca;b" Sample.definitions Sample.behindFirst :=
    (((Reachable.new (Parser.ofDefinitionsOfOption _)).configured _).adjusted _).ran _ _
  refine ⟨reachable, by decide +kernel, ?_⟩
  exact refinesPeg reachable (by decide) rfl rfl (Rules.strictOf (by decide)) _ (by decide)
    (by decide +kernel) (by decide +kernel)

end Parser
end Packrat

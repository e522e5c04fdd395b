import Packrat.Parser
import Packrat.Proofs.Session.Fragments
import Packrat.Proofs.Session.Invoking

/-! What a whole parse returns, from what its entry rule means. -/
namespace Packrat

def seeing (f : ParseError → ParseError) : Recovery → Recovery := fun r => (r.1, f r.2)

def Output.seen (f : ParseError → ParseError) (o : Output) :
    Tree × List Token × List Tree × List ParseError :=
  (o.root, o.tokens, o.fragments, o.errors.map f)

def Place.first : Place := ⟨.first, none⟩

def Outcome.result (env : Setup) (f : ParseError → ParseError) :
    Outcome → Except ParseError (Tree × List Token × List Tree × List ParseError)
  | .ok m trail =>
    match m.stop.read env defaultGoal with
    | .ended _ =>
      match m.nodes.getLast? with
      | none => .error (.custom ⟨0, 0⟩ "entry rule produced no syntax tree")
      | some root => .ok (root, Session.renumber 0 m.tokens, root.topErrors,
          root.topErrors.filterMap fun node =>
            ((m.repairs.map fun r => seeing f (r.recovery env)).find? (·.1 == node.range)).map (·.2))
    | found =>
      .error ((m.stop.below [] []).errorFrom env (trail.failure.expecting Session.endOfInput found []))
  | .mismatch trail => .error ((Place.first.below [] []).errorFrom env trail.failure)
  | .fatal error => .error error
  | .cut => .error (.custom ⟨0, 0⟩ "")

namespace Session

def concluded (env : Setup) : Verdict × Session → Except ParseError Output
  | (.ok, t) => (finish env t).1
  | (.mismatch, t) => .error (t.errorFrom env t.furthest)
  | (.fatal error, _) => .error error

theorem parseRuleConcludes (env : Setup) (rules : Rules) (name rule : String) (s : Session) :
    ∃ stats, (s.parseRule env rules name rule).1 =
      (concluded env (invoke env rules env.config.maxRuleDepth name rule s.reset)).map
        fun output => { output with stats := stats } := by
  unfold parseRule
  cases invoke env rules env.config.maxRuleDepth name rule s.reset with
  | mk verdict t =>
    cases verdict with
    | ok =>
      simp only [concluded]
      cases finish env t with
      | mk result u =>
        cases result with
        | ok output => exact ⟨_, rfl⟩
        | error error => exact ⟨{}, rfl⟩
    | mismatch => exact ⟨{}, rfl⟩
    | fatal error => exact ⟨{}, rfl⟩

theorem parseRuleSession (env : Setup) (rules : Rules) (name rule : String) (s : Session) :
    ∃ t stats log, (s.parseRule env rules name rule).2 = { t with stats := stats, log := log } ∧
      (t = (invoke env rules env.config.maxRuleDepth name rule s.reset).2 ∨
        t = (finish env (invoke env rules env.config.maxRuleDepth name rule s.reset).2).2) := by
  unfold parseRule
  cases invoke env rules env.config.maxRuleDepth name rule s.reset with
  | mk verdict t =>
    cases verdict with
    | ok =>
      simp only
      cases done : finish env t with
      | mk result u => cases result <;> exact ⟨u, _, _, rfl, .inr rfl⟩
    | mismatch => exact ⟨t, _, _, rfl, .inl rfl⟩
    | fatal error => exact ⟨t, _, _, rfl, .inl rfl⟩

theorem finishSession (env : Setup) (s : Session) : ∃ root furthest tokens,
    (finish env s).2 = { (s.scan env defaultGoal).2 with root := root, furthest := furthest, tokens := tokens } ∧
      (furthest = s.furthest ∨ ∃ failure, furthest = s.furthest.merge failure) ∧
      (s.state.tokenIndex ≤ s.tokens.length → s.state.tokenIndex ≤ tokens.length) := by
  obtain ⟨found, scans, scan⟩ := scanChangesScans env defaultGoal s
  simp only [finish, scan]
  cases found with
  | ended cursor =>
    simp only
    split
    · exact ⟨_, _, _, rfl, .inl rfl, id⟩
    · refine ⟨_, _, _, rfl, .inl rfl, fun index => ?_⟩
      rw [List.length_take]
      exact Nat.le_min.mpr ⟨Nat.le_refl _, index⟩
  | token t next => exact ⟨_, _, _, rfl, .inr ⟨_, rfl⟩, id⟩
  | unrecognized cursor c => exact ⟨_, _, _, rfl, .inr ⟨_, rfl⟩, id⟩

theorem parseRuleSeen (env : Setup) (rules : Rules) (name rule : String) (s : Session)
    (f : ParseError → ParseError) :
    (s.parseRule env rules name rule).1.map (Output.seen f) =
      (concluded env (invoke env rules env.config.maxRuleDepth name rule s.reset)).map (Output.seen f) := by
  obtain ⟨stats, eq⟩ := parseRuleConcludes env rules name rule s
  rw [eq]
  cases concluded env (invoke env rules env.config.maxRuleDepth name rule s.reset) <;> rfl

variable {env : Setup}

theorem settledReset {s : Session} (known : ScansTrue env s.scans) : s.reset.Settled env where
  stands := Cursor.firstStands env.source
  index := Nat.zero_le _
  active := rfl
  scans := known
  memo := fun _ member => nomatch member

theorem readyReset {s : Session} (known : ScansTrue env s.scans) (scheme : Scheme) :
    s.reset.Ready env scheme [] where
  settled := settledReset known
  stack := rfl
  inside := fun _ member => nomatch member
  known := fun _ _ member => nomatch member

theorem subruleStill {name : String} {body : Action} {s t : Session}
    (failed : subrule env name body s = (.mismatch, t)) : t.state = s.state := by
  rcases subruleCases env name body s with ⟨_, eq⟩ | ⟨_, _, eq⟩ | ⟨memo, _, _, eq⟩ | ⟨_, _, eq⟩
  · exact nomatch eq.symm.trans failed
  · exact nomatch eq.symm.trans failed
  · rw [eq] at failed
    cases memo with
    | success stop node tokens attempt => exact nomatch failed
    | failure attempt =>
      cases failed
      rfl
  · rw [eq] at failed
    cases ran : body (opened env name s (s.asked env name)) with
    | mk verdict u =>
      rw [ran] at failed
      cases verdict with
      | ok => exact nomatch failed
      | mismatch =>
        obtain ⟨log, eq⟩ := closedMismatch env name s u
        rw [eq] at failed
        cases failed
        rfl
      | fatal error => exact nomatch failed

section
variable {s t : Session} {f : ParseError → ParseError} {m : Match} {trail : Trail}

theorem Trailed.fromReset (h : Trailed s.reset trail t) : t.furthest = trail.failure := by
  rw [h.furthest, show s.reset.path = [] from rfl, Failure.rootedAtNil]
  exact Failure.emptyMerge trail.proper

theorem Follows.rootFromReset (h : Follows env (seeing f) s.reset m trail t) : t.root = m.nodes := by
  have levels : t.frames ++ [t.root] = [m.nodes] := h.levels
  cases frames : t.frames with
  | nil =>
    rw [frames] at levels
    exact (List.cons.inj levels).1
  | cons frame rest =>
    have length := congrArg List.length levels
    simp [frames] at length

theorem Follows.recoveriesFromReset (h : Follows env (seeing f) s.reset m trail t) :
    t.recoveries.map (seeing f) = m.repairs.map fun r => seeing f (r.recovery env) := by
  have all := h.recoveries
  simp only [show s.reset.path = [] from rfl, Repair.under, Failure.rootedAtNil] at all
  exact all

theorem errorsSeen (recoveries : List Recovery) (f : ParseError → ParseError) (fragments : List Tree) :
    (fragments.filterMap fun node => (recoveries.find? (·.1 == node.range)).map (·.2)).map f =
      fragments.filterMap fun node =>
        ((recoveries.map (seeing f)).find? (·.1 == node.range)).map (·.2) := by
  rw [List.map_filterMap]
  congr 1
  funext node
  rw [List.find?_map]
  simp [Option.map_map, Function.comp_def, seeing]

theorem Follows.concludesWithMatch (settled : t.Settled env) (onward : s.reset.Extends t)
    (h : Follows env (seeing f) s.reset m trail t) :
    (concluded env (.ok, t)).map (Output.seen f) = Outcome.result env f (.ok m trail) := by
  obtain ⟨scans, scan, _⟩ := settled.afterScan defaultGoal
  rw [h.endsAtPlace] at scan
  have left : ∀ found, ((t.expect endOfInput found).errorFrom env (t.expect endOfInput found).furthest) =
      (m.stop.below [] []).errorFrom env (trail.failure.expecting endOfInput found []) := by
    intro found
    show (t.place.below [] []).errorFrom env (t.furthest.expecting endOfInput found t.path) = _
    rw [h.endsAtPlace, h.toTrailed.fromReset, onward.pathKept]
    rfl
  simp only [concluded, finish, scan, Outcome.result]
  cases found : m.stop.read env defaultGoal with
  | token next cursor => exact congrArg _ (left _)
  | unrecognized cursor c => exact congrArg _ (left _)
  | ended cursor =>
    simp only
    rw [h.rootFromReset]
    cases last : m.nodes.getLast? with
    | none => rfl
    | some root =>
      have tokens : t.tokens.take t.state.tokenIndex = renumber 0 m.tokens := h.tokens
      simp only [Except.map, Output.seen, tokens, errorsSeen, h.recoveriesFromReset]

theorem Realized.concludesWithOutcome {o : Outcome} {r : Verdict × Session} {valid : MemoKey → Memo → Prop}
    (settled : r.2.Settled env) (onward : s.reset.Extends r.2)
    (still : r.1 = .mismatch → r.2.state = s.reset.state)
    (h : s.reset.Realized env ⟨seeing f, valid⟩ o r) :
    (concluded env r).map (Output.seen f) = o.result env f := by
  obtain ⟨verdict, t⟩ := r
  cases o with
  | ok m trail =>
    obtain ⟨rfl, follows, _⟩ := h
    exact follows.concludesWithMatch settled onward
  | mismatch trail =>
    obtain ⟨rfl, trailed, _⟩ := h
    refine congrArg Except.error ?_
    show (t.place.below [] []).errorFrom env t.furthest = _
    rw [trailed.fromReset, place, still rfl]
    rfl
  | fatal error =>
    obtain rfl : verdict = .fatal error := h
    rfl
  | cut => exact h.elim

end

end Session
end Packrat

import Packrat.Proofs.Session.Growth
import Packrat.Proofs.Transparency

/-! A body that does not match leaves nothing behind. Going back to a mark is enough, because whatever runs in
between adds only behind the mark and leaves the frames and open rules as they were. -/
namespace Packrat

def Body.Undoes : Body → Prop
  | .consume _ _ => True
  | .call _ _ => True
  | .firstOf _ => True
  | .some _ => True
  | .notAhead _ _ => True
  | .sameLine => True
  | _ => False

namespace Session

variable {env : Setup} {rules : Rules} {s t u : Session}

section
variable {depth d : Nat} {task k : Task}

structure Proceeds (env : Setup) (s t : Session) : Prop where
  sound : t.Sound env
  stack : t.ruleStack = s.ruleStack
  takes : ∃ tokens, s.Takes tokens t

theorem Grows.proceedsByGrowth {g : Growth} (grows : s.Grows g t) (sound : t.Sound env) : s.Proceeds env t :=
  ⟨sound, grows.stack, _, grows.toTakes⟩

theorem Passed.proceedsByPassing {tokens : List Token} (passed : Passed env s tokens t) : s.Proceeds env t :=
  ⟨passed.sound, passed.stack, _, passed.toTakes⟩

theorem Starts.startProceeds {k' : Task} (starts : Starts env (invoke env rules d) k t k' u)
    (before : Reached env rules depth task s d k t) (h : t.Sound env) : t.Proceeds env u := by
  by_cases whole : k.Whole
  · have upheld := growingUpheld env
    obtain ⟨sound, rfl | ⟨_, grows⟩⟩ :=
      upheld.startingHolds Reached.within (upheld.invokeObeys growsAnswer d) whole before h starts
    · have nothing := (Grows.refl t).toTakes
      exact ⟨sound, rfl, [], nothing.index, nothing.taken, nothing.covers⟩
    · exact grows.proceedsByGrowth sound
  · obtain ⟨found, scans, scan, read, sound⟩ := h.afterScan defaultGoal
    have within := read.isWithin
    cases starts with
    | skipToken was _ =>
      cases scan.symm.trans was
      obtain ⟨_, behind, wide, inside, range⟩ := within
      have passed := Passed.afterCommit (s := { t with scans := scans }) behind wide range
        (passedNothing (sound.afterCommit _ inside))
      exact passed.withoutScans.proceedsByPassing
    | @skipUnknown _ _ cursor c _ was =>
      cases scan.symm.trans was
      obtain ⟨behind, fits⟩ := within
      have next := unrecognizedOffset cursor c
      have wide := Nat.lt_add_of_pos_right (n := cursor.offset) (Char.utf8Size_pos c)
      have passed := Passed.afterCommit (s := { t with scans := scans }) behind (next ▸ wide) rfl
        (passedNothing (sound.afterCommit (unrecognizedToken cursor c).1 (next ▸ fits)))
      exact passed.withoutScans.proceedsByPassing
    | _ => exact absurd trivial whole

theorem Reached.keepsSound (reached : Reached env rules depth task s d k t) (h : s.Sound env) : t.Sound env := by
  induction reached with
  | start => exact h
  | within before starts ih => exact (starts.startProceeds before ih).sound
  | enter _ _ miss ih => exact ih.whenOpened miss

theorem Reached.finishingProceeds (reached : Reached env rules depth task s d k t) (h : s.Sound env) :
    t.Proceeds env (finishing env (invoke env rules d) k t) := by
  have here := reached.keepsSound h
  by_cases whole : k.Whole
  · have upheld := growingUpheld env
    obtain ⟨sound, _, grows⟩ := upheld.finishingSteps Reached.within
      (upheld.invokeObeys growsAnswer d) whole reached here
    exact grows.proceedsByGrowth sound
  · cases k with
    | skip fuel =>
      obtain ⟨_, _, passed⟩ := skipPasses fuel here
      exact passed.proceedsByPassing
    | _ => exact absurd trivial whole

theorem Passes.keepsSound (passes : Passes env rules depth task s t) (h : s.Sound env) : t.Sound env := by
  obtain ⟨d, k, u, reached, rfl | rfl⟩ := passes
  · exact reached.keepsSound h
  · exact (reached.finishingProceeds h).sound

end

theorem Returned.refl (s : Session) : s.Returned s := ⟨rfl, rfl, rfl, rfl, rfl, rfl⟩

theorem Returned.trans (st : s.Returned t) (tu : t.Returned u) : s.Returned u where
  state := tu.state.trans st.state
  levels := tu.levels.trans st.levels
  stack := tu.stack.trans st.stack
  active := tu.active.trans st.active
  tokens := by
    rw [← st.tokens, ← st.state]
    exact tu.tokens
  recoveries := tu.recoveries.trans st.recoveries

theorem Returned.childrenKept (h : s.Returned t) : t.children = s.children :=
  (childrenOfLevels (h.levels.trans s.levelsByChildren)).1

theorem returnedScan (goal : Goal) (s : Session) : s.Returned (s.scan env goal).2 := by
  obtain ⟨found, scans, scan⟩ := scanChangesScans env goal s
  rw [scan]
  exact ⟨rfl, rfl, rfl, rfl, rfl, rfl⟩

theorem consumeUndoes {token : String} {goal : Goal} (failed : consume env token goal s = (.mismatch, t)) :
    s.Returned t := by
  obtain ⟨found, scans, scan⟩ := scanChangesScans env goal s
  simp only [consume, scan] at failed
  cases found with
  | token next cursor =>
    simp only at failed
    split at failed
    · cases failed
    · cases failed
      exact ⟨rfl, rfl, rfl, rfl, rfl, rfl⟩
  | ended cursor =>
    cases failed
    exact ⟨rfl, rfl, rfl, rfl, rfl, rfl⟩
  | unrecognized cursor c =>
    cases failed
    exact ⟨rfl, rfl, rfl, rfl, rfl, rfl⟩

theorem notAheadUndoes (token : String) (goal : Goal) (s : Session) : s.Returned (notAhead env token goal s).2 := by
  obtain ⟨verdict, _, eq⟩ := notAheadLooks env token goal s
  rw [eq]
  exact returnedScan goal s

theorem sameLineUndoes (s : Session) : s.Returned (sameLine env s).2 := by
  obtain ⟨verdict, _, eq⟩ := sameLineLooks env s
  rw [eq]
  exact returnedScan defaultGoal s

theorem closedUndoes {name : String} {memo : Cache MemoKey Memo} {r : Verdict × Session} (h : s.Sound env)
    (step : (growing env).Step (opened env name s memo) r.2) (failed : closed env name s r = (.mismatch, t)) :
    s.Returned t := by
  obtain ⟨verdict, u⟩ := r
  obtain ⟨_, g, grows⟩ := step
  have framed := grows.framedByRule
  cases verdict with
  | ok =>
    obtain ⟨_, _, eq⟩ := closedOk env name s u framed.inFrame
    rw [eq] at failed
    cases failed
  | mismatch =>
    obtain ⟨log, eq⟩ := closedMismatch env name s u
    rw [eq] at failed
    cases failed
    exact framed.returnedByCut h.index _ _ _ log
  | fatal error =>
    obtain ⟨log, eq⟩ := closedFatal env name s u error
    rw [eq] at failed
    cases failed

theorem replayUndoes {name : String} {memo : Memo} (fits : memo.Sound env (MemoKey.of name s.state))
    (failed : s.replay memo = (.mismatch, t)) : s.Returned t := by
  cases memo with
  | success stop node tokens attempt => cases failed
  | failure attempt =>
    cases failed
    refine ⟨rfl, rfl, rfl, rfl, rfl, ?_⟩
    show s.recoveries ++ attempt.recoveries = s.recoveries
    rw [show attempt.recoveries = [] from fits, List.append_nil]

theorem subruleUndoes {name : String} {body : Action} (h : s.Sound env)
    (fresh : s.remembered env name = none →
      (growing env).Step (opened env name s (s.asked env name)) (body (opened env name s (s.asked env name))).2)
    (failed : subrule env name body s = (.mismatch, t)) : s.Returned t := by
  rcases subruleCases env name body s with ⟨_, eq⟩ | ⟨_, _, eq⟩ | ⟨memo, _, hit, eq⟩ | ⟨_, miss, eq⟩
  · exact nomatch eq.symm.trans failed
  · exact nomatch eq.symm.trans failed
  · have fits : memo.Sound env (MemoKey.of name (s.answering env name).state) := h.memo _ (rememberedMem hit).2
    have back := replayUndoes fits (eq.symm.trans failed)
    exact ⟨back.state, back.levels, back.stack, back.active, back.tokens, back.recoveries⟩
  · exact closedUndoes h (fresh miss) (eq.symm.trans failed)

theorem invokeUndoes {depth : Nat} {name rule : String} (h : s.Sound env)
    (failed : invoke env rules depth name rule s = (.mismatch, t)) : s.Returned t := by
  cases depth with
  | zero => exact subruleUndoes h (fun miss => (growingUpheld env).stepToItself (h.whenOpened miss)) failed
  | succ depth => exact subruleUndoes h (fun miss => (h.whenOpened miss).runGrows rules depth (rules.body rule)) failed

theorem firstOfUndoes {depth : Nat} {branches : List Body} (h : s.Sound env)
    (failed : firstOf (branches.map (exec env (invoke env rules depth))) s = (.mismatch, t)) : s.Returned t := by
  induction branches generalizing s with
  | nil =>
    cases failed
    exact Returned.refl _
  | cons b rest ih =>
    have step := h.runGrows rules depth b
    simp only [List.map_cons, firstOf] at failed
    cases ran : exec env (invoke env rules depth) b s with
    | mk verdict u =>
      rw [ran] at failed step
      cases verdict with
      | ok => cases failed
      | mismatch =>
        obtain ⟨g, grows⟩ := step.2
        have back := grows.returnedByRewind h
        exact back.trans (ih (growsRewound h step).1 failed)
      | fatal error => cases failed

theorem repeatFromNotMismatch (body : Action) (fuel done : Nat) (s : Session) :
    (repeatFrom env body fuel done s).1 ≠ .mismatch := by
  induction fuel generalizing done s with
  | zero => rintro ⟨⟩
  | succ fuel ih =>
    simp only [repeatFrom]
    cases round body s with
    | mk verdict rest =>
      obtain ⟨failure, reached, t⟩ := rest
      cases verdict with
      | ok =>
        simp only
        split
        · rintro ⟨⟩
        · exact ih _ _
      | mismatch =>
        simp only
        split
        · cases (t.rewind s.mark).recover env failure with
          | mk success u =>
            cases success with
            | true => exact ih _ _
            | false => rintro ⟨⟩
        · rintro ⟨⟩
      | fatal error => rintro ⟨⟩

theorem someUndoes {depth : Nat} {b : Body} (h : s.Sound env)
    (failed : some env (exec env (invoke env rules depth) b) s = (.mismatch, t)) : s.Returned t := by
  have step := h.runGrows rules depth b
  unfold some at failed
  cases ran : exec env (invoke env rules depth) b s with
  | mk verdict u =>
    rw [ran] at failed step
    cases verdict with
    | ok =>
      simp only at failed
      split at failed
      · cases failed
      · exact absurd (congrArg Prod.fst failed) (repeatFromNotMismatch _ _ _ _)
    | mismatch =>
      cases failed
      obtain ⟨_, g, grows⟩ := step
      exact grows.returnedByRewind h
    | fatal error => cases failed

theorem execUndoes {depth : Nat} {b : Body} (undoes : b.Undoes) (h : s.Sound env)
    (failed : exec env (invoke env rules depth) b s = (.mismatch, t)) : s.Returned t := by
  cases b with
  | consume token goal => exact consumeUndoes failed
  | call name rule => exact invokeUndoes h failed
  | firstOf branches =>
    simp only [exec, execAllAsMap] at failed
    exact firstOfUndoes h failed
  | some body => exact someUndoes h failed
  | notAhead token goal =>
    have back : s.Returned (notAhead env token goal s).2 := notAheadUndoes token goal s
    rw [show notAhead env token goal s = _ from failed] at back
    exact back
  | sameLine =>
    have back : s.Returned (sameLine env s).2 := sameLineUndoes s
    rw [show sameLine env s = _ from failed] at back
    exact back
  | _ => exact undoes.elim

theorem soundReset (h : s.Sound env) : s.reset.Sound env :=
  ⟨Nat.zero_le _, Nat.zero_le _, rfl, h.scans, fun _ member => nomatch member⟩

theorem Sound.whenConfigured (h : s.Sound env) (config : ParserConfig) : s.Sound { env with config := config } := by
  refine ⟨h.index, h.inside, h.active, h.scans, ?_⟩
  rintro ⟨key, memo⟩ member
  have fits := h.memo _ member
  cases memo <;> exact fits

theorem Sound.whenResized (h : s.Sound env) (capacity : Nat) :
    ({ s with memo := s.memo.resize capacity } : Session).Sound env :=
  ⟨h.index, h.inside, h.active, h.scans, fun e member => h.memo e (List.mem_of_mem_take member)⟩

theorem Sound.whenFinished (h : s.Sound env) : (finish env s).2.Sound env := by
  obtain ⟨found, scans, scan, _, sound⟩ := h.afterScan defaultGoal
  obtain ⟨root, furthest, tokens, left, _, index⟩ := finishSession env s
  rw [left, scan]
  exact ⟨index h.index, sound.inside, sound.active, sound.scans, sound.memo⟩

theorem soundDurable (source : List Char) : Durable source fun env s => env.source = source ∧ s.Sound env where
  new := fun _ =>
    ⟨rfl, Nat.le_refl _, Nat.zero_le _, rfl, fun _ member => (nomatch member), fun _ member => nomatch member⟩
  reset := fun ⟨text, sound⟩ => ⟨text, soundReset sound⟩
  passes := fun ⟨text, sound⟩ passes => ⟨text, passes.keepsSound sound⟩
  finished := fun ⟨text, sound⟩ => ⟨text, sound.whenFinished⟩
  told := fun ⟨text, sound⟩ _ _ => ⟨text, sound.index, sound.inside, sound.active, sound.scans, sound.memo⟩
  configured := fun ⟨text, sound⟩ config => ⟨text, sound.whenConfigured config⟩
  resized := fun ⟨text, sound⟩ capacity => ⟨text, sound.whenResized capacity⟩

end Session

theorem Parser.Reachable.sourceAndSound {source : String} {definitions : List Definition} {p : Parser}
    (reachable : Parser.Reachable source definitions p) :
    p.setup.source = source.toList ∧ p.session.Sound p.setup :=
  reachable.durableHolds (Session.soundDurable _)

namespace Parser

theorem failureUndone {source : String} {definitions : List Definition} {p : Parser}
    (reachable : Reachable source definitions p) (rules : Rules) (depth : Nat) :
    (∀ b t, b.Undoes → Session.exec p.setup (Session.invoke p.setup rules depth) b p.session = (.mismatch, t) →
      t.state = p.session.state ∧ t.children = p.session.children ∧
        t.tokens.take t.state.tokenIndex = p.session.tokens.take p.session.state.tokenIndex ∧
        t.recoveries = p.session.recoveries) ∧
    (∀ b verdict t, Session.exec p.setup (Session.invoke p.setup rules depth) b p.session = (verdict, t) →
      t.frames.length = p.session.frames.length ∧ t.ruleStack = p.session.ruleStack ∧
        t.active = p.session.active) ∧
    (∀ name b verdict t, p.session.Enters p.setup name → p.session.remembered p.setup name = none →
      Session.exec p.setup (Session.invoke p.setup rules depth) b
        (p.session.opened p.setup name (p.session.asked p.setup name)) = (verdict, t) →
      p.session.state.tokenIndex ≤ t.state.tokenIndex ∧ t.state.tokenIndex ≤ t.tokens.length ∧
        p.session.recoveries.length ≤ t.recoveries.length) := by
  obtain ⟨_, sound⟩ := reachable.sourceAndSound
  refine ⟨fun b t undoes failed => ?_, fun b verdict t ran => ?_, fun name b verdict t _ miss ran => ?_⟩
  · have back := Session.execUndoes undoes sound failed
    refine ⟨back.state, back.childrenKept, ?_, back.recoveries⟩
    rw [back.state]
    exact back.tokens
  · obtain ⟨_, g, grows⟩ := sound.runGrows rules depth b
    rw [ran] at grows
    have levels := congrArg List.length grows.levels
    refine ⟨?_, grows.stack, grows.active⟩
    rw [List.length_cons, List.length_tail, Session.levels, Session.levels] at levels
    simp only [List.length_append, List.length_singleton] at levels
    omega
  · obtain ⟨inner, g, grows⟩ := (sound.whenOpened miss).runGrows rules depth b
    rw [ran] at inner grows
    have framed : Session.Framed name p.session g t := grows.framedByRule
    have index := framed.index
    have recovered := congrArg List.length framed.recoveries
    rw [List.length_append] at recovered
    exact ⟨by omega, inner.index, by omega⟩

namespace Sample

def inside : Parser := (parser.run rules (.consume "c" defaultGoal)).2

def pairs : Body := .some (.inOrder [.consume "a" defaultGoal, .consume "b" defaultGoal])

end Sample

theorem failureUndoneHalfRound :
    Reachable "ca;b" Sample.definitions Sample.inside ∧ Sample.inside.session.state.tokenIndex = 1 ∧
      (Sample.inside.run Sample.rules Sample.pairs).1 = .mismatch ∧
      (Sample.inside.run Sample.rules Sample.pairs).2.session.state = Sample.inside.session.state ∧
      Sample.inside.session.Enters Sample.inside.setup "L" ∧
      Sample.inside.session.remembered Sample.inside.setup "L" = none := by
  have reachable : Reachable "ca;b" Sample.definitions Sample.inside :=
    ((Reachable.new (Parser.ofDefinitionsOfOption _)).configured _).ran _ _
  have failed : (Sample.inside.run Sample.rules Sample.pairs).1 = .mismatch := by decide +kernel
  have undone := (failureUndone reachable Sample.rules Sample.inside.config.maxRuleDepth).1
    Sample.pairs (Sample.inside.run Sample.rules Sample.pairs).2.session trivial (Prod.ext failed rfl)
  refine ⟨reachable, by decide +kernel, failed, undone.1, ⟨by decide +kernel, by decide +kernel⟩, ?_⟩
  exact Option.isNone_iff_eq_none.mp (by decide +kernel)

end Parser
end Packrat

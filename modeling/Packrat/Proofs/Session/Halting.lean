import Packrat.Proofs.Lexing
import Packrat.Proofs.Session.Ending
import Packrat.Proofs.Undo

/-! Every run comes to an end. Skipped tokens and rounds that go on leave less of the source, and rules nest
only so deep; so no bound is ever met. -/
namespace Packrat.Session

variable {env : Setup} {rules : Rules} {d : Nat} {b : Body} {s t u : Session}

theorem skipEnds (fuel : Nat) (h : s.Sound env) (room : charsLeft env.source s.state.offset < fuel) :
    SkipEnds env s (s.skip env fuel).1 (s.skip env fuel).2 := by
  induction fuel generalizing s with
  | zero => exact absurd room (Nat.not_lt_zero _)
  | succ fuel ih =>
    obtain ⟨found, scans, scan, read, sound⟩ := h.afterScan defaultGoal
    have within := read.isWithin
    obtain ⟨cursor, offset, _, read⟩ := read
    have offset : cursor.offset = s.state.offset := offset
    simp only [skip, scan]
    cases found with
    | token t next =>
      obtain ⟨_, _, _, inside, _⟩ := within
      have taken := Lexer.readTokenTakes read.symm
      rw [offset] at taken
      simp only
      split
      · exact .sync scan ‹_›
      · rename_i off
        have later := ih (sound.afterCommit t inside) (Nat.lt_of_lt_of_le taken (Nat.le_of_lt_succ room))
        exact .token scan (Bool.not_eq_true _ ▸ off) later
    | ended cursor => exact .ended scan
    | unrecognized stop c =>
      have missed := Lexer.readTokenMisses read.symm
      rw [offset, ← unrecognizedOffset] at missed
      have inside := unrecognizedOffset stop c ▸ within.2
      exact .unrecognized scan (ih (sound.afterCommit _ inside) (Nat.lt_of_lt_of_le missed (Nat.le_of_lt_succ room)))

theorem recoverEnds (failure : Failure) (h : s.Sound env) : RecoverEnds env failure s (s.recover env failure) := by
  by_cases spent : env.config.maxErrors ≤ s.recoveries.length
  · rw [recover, if_pos spent]
    exact .spent spent
  · have skips := skipEnds (env.source.length + 1) h (Nat.lt_succ_of_le (charsLeftWithin _ _))
    rw [recover, if_neg spent]
    exact .skipped (Nat.not_le.mp spent) skips

theorem againFurther (step : (growing env).Step s t) (moved : stoodStill s.mark t = false) :
    s.state.offset < t.state.offset := by
  have apart := movedFurther step moved
  obtain ⟨_, _, grows⟩ := step
  exact Nat.lt_of_le_of_ne grows.covers.spotLeads.offsetLe (Ne.symm apart)

theorem resumedFurther {failure : Failure} (h : s.Sound env) (step : (growing env).Step s t)
    (recovered : (t.rewind s.mark).recover env failure = (true, u)) : s.state.offset < u.state.offset := by
  have back := growsRewound h step
  obtain ⟨_, _, grows⟩ := step
  obtain ⟨tokens, nodes, passed⟩ := skipPasses (env.source.length + 1) back.1
  have covers := passed.covers
  rw [(grows.returnedByRewind h).state] at covers
  unfold recover at recovered
  split at recovered
  · cases recovered
  · simp only at recovered
    split at recovered
    · cases recovered
    · rename_i skipped
      have some : tokens.map Token.range ≠ [] := by
        intro none
        rw [nodes, List.map_eq_nil_iff.mp none] at skipped
        exact skipped rfl
      cases recovered
      rw [pushChildState]
      exact covers.spaced.startLtStop some

def Lasts (env : Setup) : Task → Session → Prop
  | .rounds _ fuel _, s => byteLength env.source < fuel + s.state.offset
  | _, _ => True

theorem lastsAtFirst (env : Setup) (b : Body) (done : Nat) (s : Session) :
    Lasts env (.rounds b (roundLimit env) done) s :=
  Nat.lt_of_lt_of_le (Nat.lt_succ_self _) (Nat.le_add_right _ _)

structure Roomy (env : Setup) (d : Nat) (k : Task) (s : Session) : Prop where
  sound : s.Sound env
  levels : env.config.maxRuleDepth ≤ d + s.ruleStack.length
  lasts : Lasts env k s

variable {k k' : Task}

theorem Roomy.whenStarted (rules : Rules) (roomy : Roomy env d k s) (starts : Starts env (invoke env rules d) k s k' t)
    (lasts : Lasts env k' t) : Roomy env d k' t := by
  have proceeds := starts.startProceeds .start roomy.sound
  exact ⟨proceeds.sound, by rw [proceeds.stack]; exact roomy.levels, lasts⟩

theorem Roomy.whenEntered {name rule : String} (roomy : Roomy env (d + 1) (.body (.call name rule)) s)
    (miss : s.remembered env name = none) :
    Roomy env d (.body (rules.body rule)) (opened env name s (s.asked env name)) := by
  have levels := roomy.levels
  refine ⟨roomy.sound.whenOpened miss, ?_, trivial⟩
  rw [openedRuleStack, List.length_cons]
  omega

theorem Starts.roundsFurther {fuel done : Nat} (starts : Starts env (invoke env rules d) k s (.rounds b fuel done) t)
    (later : k ≠ .body (.many b)) (h : s.Sound env) : s.state.offset < t.state.offset := by
  have upheld := growingUpheld env
  have joined := upheld.rejoined h ((upheld.isolated h).runGrows rules d b)
  cases starts with
  | many => exact absurd rfl later
  | more matched moved =>
    have step := h.runGrows rules d b
    rw [matched] at step
    exact againFurther step moved
  | again matched moved =>
    rw [matched] at joined
    exact againFurther joined moved
  | recovered failed _ recovered =>
    rw [failed] at joined
    exact resumedFurther h joined recovered

def Concludes (env : Setup) (rules : Rules) : Task → Session → Verdict × Session → Prop
  | .body b, s, r => Ends env rules (.body b) s r
  | .rounds b _ done, s, r => Ends env rules (.rounds b done) s r
  | .recover _, _, _ => True
  | .skip _, _, _ => True

theorem Roomy.goneOn {fuel done : Nat} (rules : Rules) (roomy : Roomy env d (.rounds b (fuel + 1) done) s)
    (starts : Starts env (invoke env rules d) (.rounds b (fuel + 1) done) s (.rounds b fuel (done + 1)) t) :
    Roomy env d (.rounds b fuel (done + 1)) t := by
  have further := starts.roundsFurther nofun roomy.sound
  have lasts := roomy.lasts
  refine roomy.whenStarted rules starts ?_
  simp only [Lasts] at lasts ⊢
  omega

theorem Ran.runConcludes (calls : ∀ name rule s, Roomy env d (.body (.call name rule)) s →
      Ends env rules (.body (.call name rule)) s (invoke env rules d name rule s)) {r : Verdict × Session}
    (ran : Ran env (invoke env rules d) k s r) (roomy : Roomy env d k s) : Concludes env rules k s r := by
  induction ran with
  | consume => exact .consume
  | notAhead => exact .notAhead
  | sameLine => exact .sameLine
  | mismatch => exact .mismatch
  | raise => exact .raise
  | call => exact calls _ _ _ roomy
  | parsed _ inner => exact .parsed (inner (roomy.whenStarted rules .parsed trivial))
  | attempt _ inner => exact .attempt (inner (roomy.whenStarted rules .attempt trivial))
  | nothing => exact .nothing
  | next first _ inner later =>
    exact .next (inner (roomy.whenStarted rules .first trivial))
      (later (roomy.whenStarted rules (.next first.execResult) trivial))
  | broken _ failed inner => exact .broken (inner (roomy.whenStarted rules .first trivial)) failed
  | exhausted => exact .exhausted
  | branch _ decided inner => exact .branch (inner (roomy.whenStarted rules .branch trivial)) decided
  | other first _ inner later =>
    exact .other (inner (roomy.whenStarted rules .branch trivial))
      (later (roomy.whenStarted rules (.other first.execResult) trivial))
  | present _ decided inner => exact .present (inner (roomy.whenStarted rules .optional trivial)) decided
  | absent _ inner => exact .absent (inner (roomy.whenStarted rules .optional trivial))
  | many _ rounds => exact .many (rounds (roomy.whenStarted rules .many (lastsAtFirst env _ 0 _)))
  | more first moved _ inner rounds =>
    exact .more (inner (roomy.whenStarted rules .once trivial)) moved
      (rounds (roomy.whenStarted rules (.more first.execResult moved) (lastsAtFirst env _ 1 _)))
  | unmoved _ still inner => exact .unmoved (inner (roomy.whenStarted rules .once trivial)) still
  | never _ inner => exact .never (inner (roomy.whenStarted rules .once trivial))
  | stopped _ inner => exact .stopped (inner (roomy.whenStarted rules .once trivial))
  | spent =>
    have inside := roomy.sound.inside
    have lasts := roomy.lasts
    simp only [Lasts] at lasts
    omega
  | again round moved _ inner later =>
    exact .goOn (inner (roomy.whenStarted rules .round trivial)) (.again moved)
      (later (roomy.goneOn rules (.again round.execResult moved)))
  | stuck _ still inner => exact .stop (inner (roomy.whenStarted rules .round trivial)) (.stuck still)
  | enough _ off inner => exact .stop (inner (roomy.whenStarted rules .round trivial)) (.enough off)
  | @resumed s t _ _ _ _ _ round on recovered _ inner later =>
    have recovers := recoverEnds t.furthest (roomy.whenStarted rules (.recover round.execResult on) trivial).sound
    rw [recovered] at recovers
    exact .goOn (inner (roomy.whenStarted rules .round trivial)) (.resumed on recovers)
      (later (roomy.goneOn rules (.recovered round.execResult on recovered)))
  | @givenUp _ t _ _ _ _ round on refused inner =>
    have recovers := recoverEnds t.furthest (roomy.whenStarted rules (.recover round.execResult on) trivial).sound
    rw [refused] at recovers
    exact .stop (inner (roomy.whenStarted rules .round trivial)) (.givenUp on recovers)
  | failed _ inner => exact .stop (inner (roomy.whenStarted rules .round trivial)) .failed

theorem subruleEnds {name rule : String} {body : Action}
    (fresh : s.Enters env name → s.remembered env name = none →
      Ends env rules (.body (rules.body rule)) (opened env name s (s.asked env name))
        (body (opened env name s (s.asked env name)))) :
    Ends env rules (.body (.call name rule)) s (subrule env name body s) := by
  rcases subruleCases env name body s with
    ⟨isOpen, eq⟩ | ⟨notOpen, deep, eq⟩ | ⟨memo, enters, hit, eq⟩ | ⟨enters, miss, eq⟩
  · exact eq ▸ .reentered isOpen
  · exact eq ▸ .deep notOpen deep
  · exact eq ▸ .answered enters hit
  · exact eq ▸ .entered enters miss (fresh enters miss)

theorem concludesCall (depth : Nat) (name rule : String) (s : Session)
    (roomy : Roomy env depth (.body (.call name rule)) s) :
    Ends env rules (.body (.call name rule)) s (invoke env rules depth name rule s) := by
  induction depth generalizing name rule s with
  | zero =>
    have levels := roomy.levels
    refine subruleEnds fun enters _ => ?_
    have := enters.2
    omega
  | succ depth ih =>
    refine subruleEnds fun enters miss => ?_
    exact (execRan env (invoke env rules depth) (rules.body rule) _).runConcludes ih (roomy.whenEntered miss)

end Packrat.Session

import Packrat.Proofs.Session.Lenient

/-! How a body that only takes tokens and puts bodies together comes to an end is decided at the spot where it
starts. Without recovery a session does as is foretold, answers from the cache included. -/
namespace Packrat

/-- From a spot a body comes to another one, or it fails. -/
inductive Body.Ends (env : Setup) (rules : Rules) : Body → Spot → Option Spot → Prop where
  | taken {token goal broken p q} (found : env.look goal p = .token token broken q) :
      Ends env rules (.consume token goal) p (.some q)
  | refused {token goal p} (others : ∀ broken q, env.look goal p ≠ .token token broken q) :
      Ends env rules (.consume token goal) p .none
  | nothing {p} : Ends env rules (.inOrder []) p (.some p)
  | next {b rest p q r} (first : Ends env rules b p (.some q)) (later : Ends env rules (.inOrder rest) q r) :
      Ends env rules (.inOrder (b :: rest)) p r
  | stuck {b rest p} (first : Ends env rules b p .none) : Ends env rules (.inOrder (b :: rest)) p .none
  | call {name rule p r} (body : Ends env rules (rules.body rule) p r) : Ends env rules (.call name rule) p r
  | exhausted {p} : Ends env rules (.firstOf []) p .none
  | branch {b rest p q} (first : Ends env rules b p (.some q)) : Ends env rules (.firstOf (b :: rest)) p (.some q)
  | other {b rest p r} (first : Ends env rules b p .none) (later : Ends env rules (.firstOf rest) p r) :
      Ends env rules (.firstOf (b :: rest)) p r
  | present {b p q} (body : Ends env rules b p (.some q)) : Ends env rules (.optional b) p (.some q)
  | absent {b p} (body : Ends env rules b p .none) : Ends env rules (.optional b) p (.some p)
  | done {b p} (body : Ends env rules b p .none) : Ends env rules (.many b) p (.some p)
  | again {b p q r} (body : Ends env rules b p (.some q)) (later : Ends env rules (.many b) q r) :
      Ends env rules (.many b) p r
  | once {b p q r} (first : Ends env rules b p (.some q)) (later : Ends env rules (.many b) q r) :
      Ends env rules (.some b) p r
  | missing {b p} (first : Ends env rules b p .none) : Ends env rules (.some b) p .none

theorem Body.Ends.eachBranchFails {env : Setup} {rules : Rules} {branches : List Body} {p : Spot}
    (failed : (Body.firstOf branches).Ends env rules p .none) : ∀ b ∈ branches, b.Ends env rules p .none := by
  induction branches with
  | nil => exact fun _ member => nomatch member
  | cons b rest ih =>
    cases failed with
    | other first later => exact List.forall_mem_cons.mpr ⟨first, ih later⟩

def Memo.stop : Memo → Option Spot
  | .success stop _ _ _ => some stop.spot
  | .failure _ => none

def Rules.Foretold (rules : Rules) (env : Setup) (entry : String × String) (e : MemoKey × Memo) : Prop :=
  ∀ c, rules.Reaches entry c → c.1 = e.1.rule → (rules.body c.2).Ends env rules e.1.spot e.2.stop

def Task.remainder : Task → Body
  | .body b => b
  | .rounds b _ _ => .many b
  | .recover _ => .mismatch
  | .skip _ => .mismatch

namespace Session

variable {env : Setup} {rules : Rules} {entry : String × String} {s t : Session} {n : Nat}

def Fulfils (env : Setup) (rules : Rules) (b : Body) (s : Session) : Verdict × Session → Prop
  | (.ok, t) => b.Ends env rules s.state.spot (Option.some t.state.spot)
  | (.mismatch, _) => b.Ends env rules s.state.spot none
  | (.fatal _, _) => True

theorem Fulfils.weakerBody {b b' : Body} {r : Verdict × Session} (h : Fulfils env rules b t r)
    (ends : ∀ o, b.Ends env rules t.state.spot o → b'.Ends env rules s.state.spot o) : Fulfils env rules b' s r := by
  obtain ⟨verdict, u⟩ := r
  cases verdict with
  | ok => exact ends _ h
  | mismatch => exact ends _ h
  | fatal error => trivial

theorem spotRewound (s t : Session) : (t.rewind s.mark).state.spot = s.state.spot :=
  congrArg (State.spot ∘ View.state) (rewindView t s.mark)

def Fulfilling (env : Setup) (rules : Rules) (entry : String × String) (n : Nat) (b : Body) (a : Action) : Prop :=
  ∀ s, s.Recalls env (rules.Foretold env entry) n → Fulfils env rules b s (a s)

structure Foretells (env : Setup) (rules : Rules) (entry : String × String) (n : Nat)
    (call : String → String → Action) : Prop where
  kept : ∀ name rule, (recalling env (rules.Foretold env entry) n).Obeys (fun k _ => k.Unguarded rules entry)
    (.body (.call name rule)) (call name rule)
  ends : ∀ c, rules.Reaches entry c → Fulfilling env rules entry n (.call c.1 c.2) (call c.1 c.2)

section
variable {call : String → String → Action}

theorem fulfilsConsume (token : String) (goal : Goal) :
    Fulfilling env rules entry n (.consume token goal) (consume env token goal) := by
  intro s h
  obtain ⟨found, scans, scan, read, _⟩ := h.sound.afterScan goal
  have glance : found.glance = env.look goal s.state.spot := read.glanceIsLook
  have none : ∀ t, found.glance = .nothing → Fulfils env rules (.consume token goal) s (.mismatch, t) := by
    intro t nothing
    exact .refused fun _ _ other => nomatch (glance.symm.trans nothing).symm.trans other
  simp only [consume, scan]
  cases found with
  | token t next =>
    simp only
    split
    · rename_i same
      subst same
      simp only [Fulfils, pushChildState]
      exact .taken glance.symm
    · rename_i other
      refine .refused fun _ _ taken => other ?_
      rw [← glance, Scan.glance, Glance.token.injEq] at taken
      exact taken.1
  | ended cursor => exact none _ rfl
  | unrecognized cursor c => exact none _ rfl

theorem Foretells.execRecalls (foretells : Foretells env rules entry n call) {b : Body}
    (carries : rules.Carries entry b) (h : s.Recalls env (rules.Foretold env entry) n) :
    (recalling env (rules.Foretold env entry) n).Step s (exec env call b s).2 :=
  (recallingSteady env (rules.Foretold env entry) n).execObeys
    (fun side starts => starts.keepsUnguarded side) foretells.kept b s
    carries h

theorem Foretells.fulfilsRan (foretells : Foretells env rules entry n call) (off : env.config.recover = false)
    {k : Task} {r : Verdict × Session} (ran : Ran env call k s r)
    (side : k.Unguarded rules entry ∧ s.Recalls env (rules.Foretold env entry) n) :
    Fulfils env rules k.remainder s r := by
  induction ran with
  | consume => exact fulfilsConsume _ _ _ side.2
  | notAhead => exact nomatch side.1.unguarded
  | sameLine => exact nomatch side.1.unguarded
  | mismatch => exact nomatch side.1.unguarded
  | raise => exact nomatch side.1.unguarded
  | parsed => exact nomatch side.1.unguarded
  | attempt => exact nomatch side.1.unguarded
  | @call _ name rule => exact foretells.ends (name, rule) (side.1.calls _ List.mem_cons_self) _ side.2
  | nothing => exact .nothing
  | next first _ inner later =>
    have ended := inner (Starts.first.keepsRecalls trivial foretells.kept side)
    exact (later ((Starts.next first.execResult).keepsRecalls trivial foretells.kept side)).weakerBody fun _ =>
      .next ended
  | @broken s b rest r _ failed inner =>
    obtain ⟨verdict, t⟩ := r
    have ended := inner (Starts.first.keepsRecalls trivial foretells.kept side)
    cases verdict with
    | ok => exact absurd rfl failed
    | mismatch => exact .stuck ended
    | fatal error => trivial
  | exhausted => exact .exhausted
  | @branch s b rest r _ decided inner =>
    obtain ⟨verdict, t⟩ := r
    have ended := inner (Starts.branch.keepsRecalls trivial foretells.kept side)
    cases verdict with
    | ok => exact .branch ended
    | mismatch => exact absurd rfl decided
    | fatal error => trivial
  | other first _ inner later =>
    have ended := inner (Starts.branch.keepsRecalls trivial foretells.kept side)
    refine (later ((Starts.other first.execResult).keepsRecalls trivial foretells.kept side)).weakerBody fun _ rest =>
      ?_
    rw [spotRewound] at rest
    exact .other ended rest
  | @present s b r _ decided inner =>
    obtain ⟨verdict, t⟩ := r
    have ended := inner (Starts.optional.keepsRecalls trivial foretells.kept side)
    cases verdict with
    | ok => exact .present ended
    | mismatch => exact absurd rfl decided
    | fatal error => trivial
  | absent _ inner =>
    simp only [Fulfils, spotRewound]
    exact .absent (inner (Starts.optional.keepsRecalls trivial foretells.kept side))
  | many _ rounds => exact rounds (Starts.many.keepsRecalls trivial foretells.kept side)
  | more first moved _ inner rounds =>
    have ended := inner (Starts.once.keepsRecalls trivial foretells.kept side)
    exact (rounds ((Starts.more first.execResult moved).keepsRecalls trivial foretells.kept side)).weakerBody fun _ =>
      .once ended
  | never _ inner => exact .missing (inner (Starts.once.keepsRecalls trivial foretells.kept side))
  | again round moved _ inner later =>
    have ended := inner (Starts.round.keepsRecalls trivial foretells.kept side)
    exact (later ((Starts.again round.execResult moved).keepsRecalls trivial foretells.kept side)).weakerBody fun _ =>
      .again ended
  | enough _ _ inner =>
    simp only [Fulfils, spotRewound]
    exact .done (inner (Starts.round.keepsRecalls trivial foretells.kept side))
  | resumed _ on => simp [off] at on
  | givenUp _ on => simp [off] at on
  | _ => trivial

theorem Foretells.fulfilsExec (foretells : Foretells env rules entry n call) (off : env.config.recover = false)
    (b : Body) (carries : rules.Carries entry b) : Fulfilling env rules entry n b (Session.exec env call b) :=
  fun s h => foretells.fulfilsRan off (execRan env call b s) ⟨carries, h⟩

end

section
variable {name : String}

theorem closedForetold {c : String × String} {r : Verdict × Session} (inFrame : r.2.frames ≠ [])
    (fulfils : Fulfils env rules (rules.body c.2) s r) :
    Fulfils env rules (.call c.1 c.2) s (closed env c.1 s r) ∧
      ∀ e ∈ (closed env c.1 s r).2.memo.entries, e ∈ r.2.memo.entries ∨
        e.1.rule = c.1 ∧ (rules.body c.2).Ends env rules e.1.spot e.2.stop := by
  obtain ⟨verdict, t⟩ := r
  cases verdict with
  | ok =>
    obtain ⟨stats, log, eq⟩ := closedOk env c.1 s t inFrame
    rw [eq]
    refine ⟨?_, fun e member => ?_⟩
    · simp only [Fulfils, pushChildState]
      exact .call fulfils
    · rw [pushChildMemo] at member
      rcases memRemembering member with rfl | old
      · exact .inr ⟨rfl, fulfils⟩
      · exact .inl old
  | mismatch =>
    obtain ⟨log, eq⟩ := closedMismatch env c.1 s t
    rw [eq]
    refine ⟨.call fulfils, fun e member => ?_⟩
    rcases memRemembering member with rfl | old
    · exact .inr ⟨rfl, fulfils⟩
    · exact .inl old
  | fatal error =>
    obtain ⟨log, eq⟩ := closedFatal env c.1 s t error
    rw [eq]
    exact ⟨trivial, fun _ => .inl⟩

theorem replayFulfils {c : String × String} {memo : Memo}
    (told : (rules.body c.2).Ends env rules s.state.spot memo.stop) :
    Fulfils env rules (.call c.1 c.2) s (s.replay memo) := by
  cases memo with
  | success stop node tokens attempt =>
    simp only [replay, Fulfils, pushChildState]
    exact .call told
  | failure attempt => exact .call told

end

theorem foretoldSubrule {name rule : String} (agree : rules.NamesAgree entry.1 entry.2) {body : Action}
    (reaches : rules.Reaches entry (name, rule)) (h : s.Recalls env (rules.Foretold env entry) n)
    (fresh : s.Enters env name → s.remembered env name = none →
      (recalling env (rules.Foretold env entry) (n + 1)).Step (opened env name s (s.asked env name))
          (body (opened env name s (s.asked env name))).2 ∧
        Fulfils env rules (rules.body rule) (opened env name s (s.asked env name))
          (body (opened env name s (s.asked env name)))) :
    (∀ e ∈ (subrule env name body s).2.memo.entries, rules.Foretold env entry e) ∧
      Fulfils env rules (.call name rule) s (subrule env name body s) := by
  rcases subruleCases env name body s with ⟨_, eq⟩ | ⟨_, _, eq⟩ | ⟨memo, _, hit, eq⟩ | ⟨enters, miss, eq⟩
  · rw [eq]
    exact ⟨h.good, trivial⟩
  · rw [eq]
    exact ⟨h.good, trivial⟩
  · rw [eq]
    have told := h.good _ (rememberedMem hit).2 (name, rule) reaches rfl
    refine ⟨fun e member => ?_, replayFulfils (c := (name, rule)) told⟩
    rw [replayMemo] at member
    exact h.good e (askedSubset e member)
  · obtain ⟨⟨after, _, grows⟩, fulfils⟩ := fresh enters miss
    have state := openedState env name s (s.asked env name)
    have here : Fulfils env rules (rules.body rule) s (body (opened env name s (s.asked env name))) :=
      fulfils.weakerBody fun _ ends => state ▸ ends
    obtain ⟨told, recalled⟩ := closedForetold (c := (name, rule)) grows.framedByRule.inFrame here
    rw [eq]
    refine ⟨fun e member => ?_, told⟩
    rcases recalled e member with old | ⟨named, ends⟩
    · exact after.good e old
    · intro c reaches' same
      rw [agree c (name, rule) reaches'.isInvoked reaches.isInvoked (same.trans named)]
      exact ends

theorem foretellsOf {depth : Nat} (invoked : ∀ c s, rules.Reaches entry c → s.Recalls env (rules.Foretold env entry) n →
      (∀ e ∈ (invoke env rules depth c.1 c.2 s).2.memo.entries, rules.Foretold env entry e) ∧
        Fulfils env rules (.call c.1 c.2) s (invoke env rules depth c.1 c.2 s)) :
    Foretells env rules entry n (invoke env rules depth) := by
  refine ⟨fun name rule s carries h => ?_, fun c reaches s h => (invoked c s reaches h).2⟩
  have reaches := carries.calls (name, rule) List.mem_cons_self
  exact h.afterGrowth (h.sound.runGrows rules depth (.call name rule)) (invoked (name, rule) s reaches h).1

section
variable (off : env.config.recover = false) (agree : rules.NamesAgree entry.1 entry.2)
  (unguarded : rules.Unguarded entry)
include off agree unguarded

theorem invokeForetells (depth : Nat) {n : Nat} (levels : env.config.maxRuleDepth ≤ depth + n) :
    Foretells env rules entry n (invoke env rules depth) := by
  induction depth generalizing n with
  | zero =>
    refine foretellsOf fun c s reaches h => foretoldSubrule agree reaches h fun enters _ => ?_
    have := enters.2
    have := h.deep
    omega
  | succ depth ih =>
    have deeper := ih (n := n + 1) (by omega)
    refine foretellsOf fun c s reaches h => foretoldSubrule agree reaches h fun _ miss => ?_
    have carries := unguarded.bodyCarries reaches
    exact ⟨deeper.execRecalls carries (h.whenOpened miss), deeper.fulfilsExec off _ carries _ (h.whenOpened miss)⟩

theorem Reached.recallsAndForetells {origin d : Nat} {task : Task} {first : Session} {b : Body}
    (reached : Reached env rules origin task first d (.body b) t) (start : task.Unguarded rules entry)
    (levels : env.config.maxRuleDepth ≤ origin) (sound : first.Sound env) (fresh : first.memo.entries = []) :
    rules.Carries entry b ∧ ∃ n, t.Recalls env (rules.Foretold env entry) n ∧
      Foretells env rules entry n (invoke env rules d) := by
  have recalls : first.Recalls env (rules.Foretold env entry) 0 :=
    ⟨sound, fun e member => by simp [fresh] at member, Nat.zero_le _⟩
  obtain ⟨carries, n, levels, here⟩ := reached.keepsRecalls unguarded
    (fun _ _ levels => (invokeForetells off agree unguarded _ levels).kept) start levels recalls
  exact ⟨carries, n, here, invokeForetells off agree unguarded d levels⟩

end
end Session
end Packrat

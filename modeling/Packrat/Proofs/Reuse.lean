import Packrat.Proofs.Session.Fragments
import Packrat.Proofs.Session.Indifference
import Packrat.Proofs.Tokenization

/-! A used parser parses like a new one. A parse starts from a session in which nothing is left but the
scans, which are true, the log, and the capacity of the cache, which is that of the settings. -/
namespace Packrat

namespace Cache

variable {Key Value : Type} [DecidableEq Key]

theorem getCapacity (c : Cache Key Value) (key : Key) : (c.get key).2.capacity = c.capacity := by
  unfold get
  split <;> rfl

theorem insertCapacity (c : Cache Key Value) (key : Key) (value : Value) :
    (c.insert key value).capacity = c.capacity := by
  unfold insert
  split
  · rfl
  · split <;> rfl

end Cache

namespace Session

variable {env : Setup}

def holding (n : Nat) : Invariant := ⟨fun s => s.memo.capacity = n, fun _ _ => True⟩

theorem holdingSteady (env : Setup) (n : Nat) : (holding n).Steady env where
  refl := fun _ => trivial
  trans := fun _ _ => trivial
  scan := by
    intro s goal h
    obtain ⟨found, scans, scan⟩ := scanChangesScans env goal s
    rw [scan]
    exact ⟨h, trivial⟩
  consume := fun {s} token goal h => ⟨(congrArg Cache.capacity (consumeMemo env token goal s)).trans h, trivial⟩
  recover := fun {s} failure h => ⟨(congrArg Cache.capacity (recoverMemo env failure s)).trans h, trivial⟩
  rewound := fun {s t} _ step => ⟨(congrArg Cache.capacity (rewindMemo t s.mark)).trans step.1, trivial⟩
  isolated := fun h => h
  rejoined := fun _ step => step

theorem askedCapacity (env : Setup) (name : String) (s : Session) :
    (s.asked env name).capacity = s.memo.capacity := by
  unfold asked
  split
  · exact Cache.getCapacity _ _
  · rfl

theorem closedCapacity (env : Setup) (name : String) (s t : Session) (verdict : Verdict) :
    (closed env name s (verdict, t)).2.memo.capacity = t.memo.capacity := by
  obtain ⟨log, traced⟩ := traceChangesLog env
    (if verdict = .ok then "match" else "fail") name { t with frames := t.frames.tail }
  have held : ∀ key memo (u : Session), (u.remember env key memo).memo.capacity = u.memo.capacity := by
    intro key memo u
    unfold remember
    split
    · exact Cache.insertCapacity _ _ _
    · rfl
  simp only [closed, runFresh, closeRule, traced]
  cases verdict with
  | ok =>
    rw [pushChildMemo]
    exact held _ _ _
  | mismatch => exact held _ _ _
  | fatal error => rfl

theorem subruleCapacity {name : String} {body : Action} (kept : ∀ s, (body s).2.memo.capacity = s.memo.capacity)
    (s : Session) : (subrule env name body s).2.memo.capacity = s.memo.capacity := by
  rcases subruleCases env name body s with ⟨_, eq⟩ | ⟨_, _, eq⟩ | ⟨memo, _, _, eq⟩ | ⟨_, _, eq⟩
  · rw [eq]
  · rw [eq]
  · rw [eq, replayMemo]
    exact askedCapacity env name s
  · obtain ⟨log, opened⟩ := openedAsUpdate env name s (s.asked env name)
    rw [eq]
    refine (closedCapacity env name s _ _).trans ((kept _).trans ?_)
    rw [opened]
    exact askedCapacity env name s

theorem invokeCapacity (rules : Rules) (depth : Nat) (name rule : String) (s : Session) :
    (invoke env rules depth name rule s).2.memo.capacity = s.memo.capacity := by
  induction depth generalizing name rule s with
  | zero => exact subruleCapacity (fun _ => rfl) s
  | succ depth ih =>
    refine subruleCapacity (fun t => ?_) s
    exact ((holdingSteady env t.memo.capacity).execObeys (fun _ _ => trivial)
      (fun name rule u _ held => ⟨(ih name rule u).trans held, trivial⟩) (rules.body rule) t trivial rfl).1

theorem finishMemo (env : Setup) (s : Session) : (finish env s).2.memo = s.memo := by
  obtain ⟨found, scans, scan⟩ := scanChangesScans env defaultGoal s
  obtain ⟨root, furthest, tokens, left, _⟩ := finishSession env s
  rw [left, scan]

theorem parseRuleCapacity (env : Setup) (rules : Rules) (name rule : String) (s : Session) :
    (s.parseRule env rules name rule).2.memo.capacity = s.memo.capacity := by
  have invoked : (invoke env rules env.config.maxRuleDepth name rule s.reset).2.memo.capacity = s.memo.capacity :=
    invokeCapacity rules _ name rule s.reset
  obtain ⟨t, stats, log, eq, rfl | rfl⟩ := parseRuleSession env rules name rule s
  · rw [eq]
    exact invoked
  · rw [eq]
    exact (congrArg Cache.capacity (finishMemo env _)).trans invoked

theorem finishAlike {t : Session} {scans : List (ScanKey × Scan)} (log : List Message) (h : t.Settled env)
    (known : ScansTrue env scans) :
    ∃ scans', finish env (t.having scans log) = ((finish env t).1, (finish env t).2.having scans' log) := by
  obtain ⟨own, scans', _, _, scan, scan'⟩ := h.scanAlike known log defaultGoal
  refine ⟨scans', ?_⟩
  simp only [finish, scan, scan']
  cases t.place.read env defaultGoal with
  | ended cursor =>
    have root : (t.having own t.log).root = t.root := rfl
    have root' : (t.having scans' log).root = t.root := rfl
    simp only [root, root']
    cases t.root.getLast? <;> rfl
  | token found next => rfl
  | unrecognized cursor c => rfl

theorem parseRuleAlike (whole : NoPairs env.source) {s t : Session} (hs : ScansTrue env s.scans)
    (ht : ScansTrue env t.scans) (capacity : s.memo.capacity = t.memo.capacity) (rules : Rules) (name rule : String) :
    (s.parseRule env rules name rule).1 = (t.parseRule env rules name rule).1 ∧
      (s.parseRule env rules name rule).2.stats = (t.parseRule env rules name rule).2.stats := by
  have start : s.reset = t.reset.having s.scans s.log := by
    simp only [reset, having, Cache.clear, capacity]
  obtain ⟨keeps, alike⟩ := indifferentInvoke whole rules env.config.maxRuleDepth name rule
  have settled := settledReset ht
  obtain ⟨scans, log, known, eq⟩ := alike t.reset s.scans s.log settled hs
  have later := (keeps t.reset settled).1
  unfold parseRule
  rw [start, eq]
  cases ran : invoke env rules env.config.maxRuleDepth name rule t.reset with
  | mk verdict u =>
    rw [ran] at later
    cases verdict with
    | ok =>
      obtain ⟨scans', finished⟩ := finishAlike log later known
      simp only [finished]
      cases finish env u with
      | mk result v => cases result <;> exact ⟨rfl, rfl⟩
    | mismatch => exact ⟨rfl, rfl⟩
    | fatal error => exact ⟨rfl, rfl⟩

end Session

namespace Parser

inductive Used (source : String) (definitions : List Definition) : Parser → Prop where
  | new {p} (made : Parser.ofDefinitions source definitions = .ok p) : Used source definitions p
  | parsed {p} (before : Used source definitions p) (rules : Rules) (name rule : String) :
      Used source definitions (p.parse rules name rule).2
  | ran {p} (before : Used source definitions p) (rules : Rules) (body : Body) :
      Used source definitions (p.run rules body).2
  | validated {p} (before : Used source definitions p) (rules : Rules) (name rule : String) (clock : Nat → Nat) :
      Used source definitions (p.validate rules name rule clock).2
  | configured {p} (before : Used source definitions p) (config : ParserConfig) :
      Used source definitions (p.withConfig config)
  | caching {p} (before : Used source definitions p) (on : Bool) : Used source definitions (p.setCache on)
  | recovering {p} (before : Used source definitions p) (on : Bool) : Used source definitions (p.setRecovery on)
  | debugging {p} (before : Used source definitions p) (showPath : Bool) : Used source definitions (p.setDebug showPath)
  | logTaken {p} (before : Used source definitions p) : Used source definitions p.takeLog.2

namespace Used

variable {source : String} {definitions : List Definition} {p : Parser}

theorem isReachable (used : Used source definitions p) : Reachable source definitions p := by
  induction used with
  | new made => exact .new made
  | parsed _ rules name rule ih => exact ih.parsed rules name rule
  | ran _ rules body ih => exact ih.ran rules body
  | validated _ rules name rule clock ih => exact ih.validated rules name rule clock
  | configured _ config ih => exact ih.configured config
  | caching _ on ih => exact ih.adjusted _
  | recovering _ on ih => exact ih.adjusted _
  | debugging _ showPath ih => exact ih.adjusted _
  | logTaken _ ih => exact ih.logTaken

theorem likeNew (used : Used source definitions p) :
    ∃ q, Parser.ofDefinitions source definitions = .ok q ∧ (q.withConfig p.config).setup = p.setup ∧
      (q.withConfig p.config).session.scans = [] ∧
      p.session.memo.capacity = (q.withConfig p.config).session.memo.capacity := by
  induction used with
  | @new p made =>
    obtain ⟨lexer, rfl⟩ := ofDefinitionsMade made
    exact ⟨_, made, rfl, rfl, rfl⟩
  | @parsed p _ rules name rule ih =>
    obtain ⟨q, made, setup, scans, capacity⟩ := ih
    exact ⟨q, made, setup, scans, (Session.parseRuleCapacity p.setup rules name rule p.session).trans capacity⟩
  | @ran p _ rules body ih =>
    obtain ⟨q, made, setup, scans, capacity⟩ := ih
    refine ⟨q, made, setup, scans, Eq.trans ?_ capacity⟩
    exact ((Session.holdingSteady p.setup _).execObeys (fun _ _ => trivial)
      (fun name rule s _ held => ⟨(Session.invokeCapacity rules _ name rule s).trans held, trivial⟩)
      body p.session trivial rfl).1
  | validated _ rules name rule clock ih => exact ih
  | configured _ config ih =>
    obtain ⟨q, made, setup, scans, _⟩ := ih
    exact ⟨q, made, congrArg (fun e : Setup => { e with config := config }) setup, scans, rfl⟩
  | caching _ on ih =>
    obtain ⟨q, made, setup, scans, capacity⟩ := ih
    exact ⟨q, made, congrArg (fun e : Setup => { e with config := { e.config with memoize := on } }) setup,
      scans, capacity⟩
  | recovering _ on ih =>
    obtain ⟨q, made, setup, scans, capacity⟩ := ih
    exact ⟨q, made, congrArg (fun e : Setup => { e with config := { e.config with recover := on } }) setup,
      scans, capacity⟩
  | debugging _ showPath ih =>
    obtain ⟨q, made, setup, scans, capacity⟩ := ih
    exact ⟨q, made, congrArg (fun e : Setup =>
      { e with config := { e.config with debug := true, showPath := showPath } }) setup, scans, capacity⟩
  | logTaken _ ih => exact ih

end Used

theorem reusable {source : String} {definitions : List Definition} {p : Parser} (whole : NoPairs source.toList)
    (used : Used source definitions p) :
    ∃ q, Parser.ofDefinitions source definitions = .ok q ∧ ∀ rules name rule,
      (p.parse rules name rule).1 = ((q.withConfig p.config).parse rules name rule).1 ∧
        (p.parse rules name rule).2.stats = ((q.withConfig p.config).parse rules name rule).2.stats := by
  obtain ⟨q, made, setup, scans, capacity⟩ := used.likeNew
  obtain ⟨text, settled, _⟩ := used.isReachable.settledAndPlaced whole
  refine ⟨q, made, fun rules name rule => ?_⟩
  have fresh : ScansTrue p.setup (q.withConfig p.config).session.scans := by
    rw [scans]
    exact fun _ _ _ _ member => nomatch member
  simp only [parse, stats, setup]
  exact Session.parseRuleAlike (text ▸ whole) settled.scans fresh capacity rules name rule

namespace Sample

def worn : Parser :=
  ((((parser.parse [("A", .call "A" "A")] "A" "A").2.parse rules "L" "L").2.run rules
    (.consume "b" defaultGoal)).2.setCache false)

end Sample

theorem reusableAfterWear :
    Sample.worn.session.state.tokenIndex = 4 ∧ Sample.worn.session.scans ≠ [] ∧
      ∃ q, Parser.ofDefinitions "ca;b" Sample.definitions = .ok q ∧
        (Sample.worn.parse Sample.rules "R" "R").1 = ((q.withConfig Sample.worn.config).parse Sample.rules "R" "R").1 ∧
        (Sample.worn.parse Sample.rules "R" "R").1.isOk := by
  have used : Used "ca;b" Sample.definitions Sample.worn :=
    (((((Used.new (Parser.ofDefinitionsOfOption _)).configured _).parsed _ _ _).parsed _ _ _).ran _ _).caching _
  have whole : NoPairs "ca;b".toList := by decide
  obtain ⟨q, made, alike⟩ := reusable whole used
  refine ⟨by decide +kernel, ?_, q, made, (alike Sample.rules "R" "R").1, by decide +kernel⟩
  exact List.ne_nil_of_length_pos (by decide +kernel)

end Parser
end Packrat

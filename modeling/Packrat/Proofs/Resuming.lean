import Mathlib.Data.List.Forall2
import Packrat.Proofs.Session.Skipping

/-! Where a parse goes on after an error. Recovery takes the tokens up to the first synchronization token, or up
to the end of the source, and puts them under one error node. -/
namespace Packrat

namespace Lexer.Onward

variable {lx : Lexer} {source : List Char} {cursor stop : Cursor} {prev last : Option Kind} {tokens : List Token}

theorem nothingWhenLost (onward : lx.Onward source cursor prev tokens stop last)
    (lost : (lx.readToken source cursor defaultGoal prev).piece? = none) : tokens = [] := by
  cases onward with
  | here => rfl
  | next read _ => exact nomatch lost.symm.trans read

end Lexer.Onward

namespace Session

variable {env : Setup} {failure : Failure} {s t : Session} {tokens read : List Token} {stop : Cursor}

def errorNode (env : Setup) (failure : Failure) (s : Session) (tokens : List Token) : Tree :=
  .ofError (s.errorFrom env failure).message (tokens.map Tree.ofToken) s.state.offset s.state.position

structure Resumes (env : Setup) (failure : Failure) (s t : Session) (tokens read : List Token) (stop : Cursor) :
    Prop where
  some : tokens ≠ []
  onward : env.lexer.Onward env.source s.state.cursor s.state.prev read stop t.state.prev
  upTo : UpTo (env.config.isSync ·.name) read
    ((env.lexer.readToken env.source stop defaultGoal t.state.prev).piece? = none)
  alike : List.Forall₂ (Token.Alike (pairs env.source)) tokens read
  behind : t.state.cursor.Alike (pairs env.source) stop
  index : t.state.tokenIndex = s.state.tokenIndex + tokens.length
  taken : t.tokens.take t.state.tokenIndex =
    s.tokens.take s.state.tokenIndex ++ renumber s.state.tokenIndex tokens
  levels : t.levels = (s.children ++ [s.errorNode env failure tokens]) :: s.levels.tail
  recoveries : t.recoveries =
    s.recoveries ++ [((s.errorNode env failure tokens).range, s.errorFrom env failure)]

theorem Resumes.exactWithoutPairs (resumes : Resumes env failure s t tokens read stop) (whole : NoPairs env.source) :
    tokens = read ∧ t.state.cursor = stop := by
  have alike := resumes.alike
  have behind := resumes.behind
  rw [whole.pairsNone] at alike behind
  have same : List.Forall₂ Eq tokens read := alike.imp fun _ _ => Token.Alike.tokensEqual
  rw [List.forall₂_eq_eq_eq] at same
  exact ⟨same, behind.cursorsEqual⟩

theorem mendedSome (env : Setup) (failure : Failure) (s t : Session) {tokens : List Token} (some : tokens ≠ []) :
    ∃ log, s.mended env failure (tokens.map Tree.ofToken) t =
      (true, ({ t with
        recoveries := t.recoveries ++ [((s.errorNode env failure tokens).range, s.errorFrom env failure)]
        log := log } : Session).pushChild (s.errorNode env failure tokens)) := by
  have left : (tokens.map Tree.ofToken).isEmpty = false := by
    rw [List.isEmpty_eq_false_iff]
    exact fun none => some (List.map_eq_nil_iff.mp none)
  unfold mended
  rw [left]
  exact ⟨_, rfl⟩

theorem Sweeps.resumesBehind {nodes : List Tree} (sweeps : Sweeps env s s.state.cursor nodes t tokens read stop)
    (some : tokens ≠ []) (upTo : UpTo (env.config.isSync ·.name) read
      ((env.lexer.readToken env.source stop defaultGoal t.state.prev).piece? = none)) :
    ∃ u, s.mended env failure nodes t = (true, u) ∧ Resumes env failure s u tokens read stop := by
  obtain ⟨rfl, passed, onward, alike, behind⟩ := sweeps
  obtain ⟨log, mended⟩ := mendedSome env failure s t some
  refine ⟨_, mended, ?_⟩
  generalize made : ({ t with
    recoveries := t.recoveries ++ [((s.errorNode env failure tokens).range, s.errorFrom env failure)]
    log := log } : Session) = v
  have state : v.state = t.state := by rw [← made]
  have taken : (v.pushChild (s.errorNode env failure tokens)).tokens = t.tokens :=
    (congrArg View.tokens (pushChildView v _)).trans (by rw [← made]; rfl)
  have levels : v.levels = s.levels := by rw [← made]; exact passed.levels
  have recoveries : v.recoveries = s.recoveries ++
      [((s.errorNode env failure tokens).range, s.errorFrom env failure)] := by
    rw [← made, ← passed.recoveries]
  refine ⟨some, ?_, ?_, alike, ?_, ?_, ?_, pushChildLevels levels _, ?_⟩
  · rw [pushChildState, state]
    exact onward
  · rw [pushChildState, state]
    exact upTo
  · rw [pushChildState, state]
    exact behind
  · rw [pushChildState, state]
    exact passed.index
  · rw [pushChildState, state, taken]
    exact passed.taken
  · rw [pushChildRecoveries, recoveries]

theorem Sweeps.nothingMended {nodes : List Tree} (sweeps : Sweeps env s s.state.cursor nodes t tokens read stop)
    (skips : SkipEnds env s nodes t) (none : tokens = []) :
    s.mended env failure nodes t = (false, t) ∧ ∃ scans, t = { s with scans := scans } := by
  obtain ⟨rfl, passed, onward, alike, behind⟩ := sweeps
  subst none
  refine ⟨rfl, ?_⟩
  cases skips with
  | ended found =>
    obtain ⟨_, scans, scan⟩ := scanChangesScans env defaultGoal s
    cases found.symm.trans scan
    exact ⟨scans, rfl⟩

theorem recoverCases (apart : env.config.isSync unrecognizedName = false) (failure : Failure) (sound : s.Sound env)
    (counted : s.Counted env) :
    (env.config.maxErrors ≤ s.recoveries.length ∧ s.recover env failure = (false, s)) ∨
    (s.recoveries.length < env.config.maxErrors ∧
      (env.lexer.readToken env.source s.state.cursor defaultGoal s.state.prev).piece? = none ∧
      ∃ scans, s.recover env failure = (false, { s with scans := scans })) ∨
    (s.recoveries.length < env.config.maxErrors ∧
      (env.lexer.readToken env.source s.state.cursor defaultGoal s.state.prev).piece? ≠ none ∧
      ∃ t tokens read stop, s.recover env failure = (true, t) ∧ Resumes env failure s t tokens read stop) := by
  have ends := recoverEnds failure sound
  generalize s.recover env failure = r at ends ⊢
  cases ends with
  | spent budget => exact .inl ⟨budget, rfl⟩
  | @skipped nodes t budget skips =>
    have poised : Poised env s s.state.cursor :=
      ⟨sound, counted, counted.here, counted.here.alikeAtSamePlace counted.here rfl rfl⟩
    obtain ⟨tokens, read, stop, sweeps, upTo⟩ := skips.sweepsAlong apart poised
    right
    by_cases none : tokens = []
    · obtain ⟨refused, scans, rfl⟩ := sweeps.nothingMended skips none
      have read : read = [] := by
        have alike := sweeps.tokens
        rw [none] at alike
        exact List.forall₂_nil_left_iff.mp alike
      subst read
      left
      refine ⟨budget, ?_, scans, refused⟩
      have onward := sweeps.onward
      cases onward with
      | here => exact upTo.last.resolve_left fun ⟨_, last, _⟩ => nomatch last
    · obtain ⟨u, mended, resumes⟩ := sweeps.resumesBehind none upTo
      right
      refine ⟨budget, fun lost => ?_, u, tokens, read, stop, mended, resumes⟩
      have alike := sweeps.tokens
      rw [sweeps.onward.nothingWhenLost lost] at alike
      exact none (List.forall₂_nil_right_iff.mp alike)

end Session

namespace Parser

theorem recoveryResumes {source : String} {definitions : List Definition} {p : Parser}
    (reachable : Reachable source definitions p) (apart : p.setup.config.isSync unrecognizedName = false)
    (failure : Failure) :
    ((p.session.recover p.setup failure).1 = true ↔ p.session.recoveries.length < p.setup.config.maxErrors ∧
      (p.setup.lexer.readToken source.toList p.session.state.cursor defaultGoal p.session.state.prev).piece? ≠ none) ∧
    (∀ t, p.session.recover p.setup failure = (true, t) → ∃ tokens read stop,
      p.session.Resumes p.setup failure t tokens read stop ∧
        (NoPairs source.toList → tokens = read ∧ t.state.cursor = stop)) ∧
    ∀ t, p.session.recover p.setup failure = (false, t) → ∃ scans, t = { p.session with scans := scans } := by
  obtain ⟨text, sound⟩ := reachable.sourceAndSound
  rw [← text]
  rcases Session.recoverCases apart failure sound reachable.isCounted with
    ⟨spent, refused⟩ | ⟨budget, lost, scans, refused⟩ | ⟨budget, some, t, tokens, read, stop, recovered, resumes⟩
  · rw [refused]
    refine ⟨iff_of_false Bool.false_ne_true fun h => absurd h.1 (Nat.not_lt.mpr spent), nofun, ?_⟩
    rintro t ⟨⟩
    exact ⟨_, rfl⟩
  · rw [refused]
    refine ⟨iff_of_false Bool.false_ne_true fun h => h.2 lost, nofun, ?_⟩
    rintro t ⟨⟩
    exact ⟨_, rfl⟩
  · rw [recovered]
    refine ⟨iff_of_true rfl ⟨budget, some⟩, ?_, nofun⟩
    rintro _ ⟨⟩
    exact ⟨tokens, read, stop, resumes, resumes.exactWithoutPairs⟩

namespace Sample

def marked : List Definition :=
  [{ name := "a", shape := .literal "a" }, { name := "S", shape := .literal ";" }]

def strayed : Parser :=
  ((Parser.ofDefinitions "a@;a" marked).toOption.get (by decide +kernel)).withConfig
    { recover := true, syncTokens := ["S"] }

def astray : Parser := (strayed.run [] (.consume "a" defaultGoal)).2

def named : Parser :=
  ((Parser.ofDefinitions "@a" marked).toOption.get (by decide +kernel)).withConfig
    { recover := true, syncTokens := [unrecognizedName] }

end Sample

theorem recoveryResumesPastStray :
    Reachable "a@;a" Sample.marked Sample.astray ∧ Sample.astray.setup.config.isSync unrecognizedName = false ∧
      ∃ t tokens stop, Sample.astray.session.recover Sample.astray.setup {} = (true, t) ∧
        Sample.astray.session.Resumes Sample.astray.setup {} t tokens tokens stop ∧
        tokens.length = 2 ∧ stop.offset = 3 := by
  have reachable : Reachable "a@;a" Sample.marked Sample.astray :=
    ((Reachable.new (Parser.ofDefinitionsOfOption _)).configured _).ran _ _
  have apart : Sample.astray.setup.config.isSync unrecognizedName = false := by decide +kernel
  have start : Sample.astray.session.state.tokenIndex = 1 := by decide +kernel
  obtain ⟨_, resumed, _⟩ := recoveryResumes reachable apart {}
  have told : (Sample.astray.session.recover Sample.astray.setup {}).1 = true ∧
      (Sample.astray.session.recover Sample.astray.setup {}).2.state.cursor.offset = 3 ∧
      (Sample.astray.session.recover Sample.astray.setup {}).2.state.tokenIndex = 3 := by decide +kernel
  generalize Sample.astray.session.recover Sample.astray.setup {} = r at resumed told ⊢
  obtain ⟨success, t⟩ := r
  obtain ⟨rfl, offset, last⟩ := told
  obtain ⟨tokens, read, stop, resumes, exact⟩ := resumed t rfl
  obtain ⟨rfl, rfl⟩ := exact (by decide)
  have index := resumes.index
  have last : t.state.tokenIndex = 3 := last
  exact ⟨reachable, apart, t, tokens, _, rfl, resumes, by omega, offset⟩

theorem recoveryPassesNamedStray : ¬ ∀ p, Reachable "@a" Sample.marked p → ∀ failure t,
    p.session.recover p.setup failure = (true, t) → ∃ tokens read stop,
      p.session.Resumes p.setup failure t tokens read stop := by
  intro resumed
  have reachable : Reachable "@a" Sample.marked Sample.named :=
    (Reachable.new (Parser.ofDefinitionsOfOption _)).configured _
  have told : (Sample.named.session.recover Sample.named.setup {}).1 = true ∧
      (Sample.named.session.recover Sample.named.setup {}).2.state.tokenIndex = 2 := by decide +kernel
  have resumed := resumed _ reachable {}
  generalize Sample.named.session.recover Sample.named.setup {} = r at resumed told
  obtain ⟨success, t⟩ := r
  obtain ⟨rfl, last⟩ := told
  obtain ⟨tokens, read, stop, resumes⟩ := resumed t rfl
  have start : Sample.named.session.state.tokenIndex = 0 := by decide +kernel
  have last : t.state.tokenIndex = 2 := last
  have index := resumes.index
  have length := resumes.alike.length_eq
  have upTo := resumes.upTo
  have onward := resumes.onward
  generalize t.state.prev = prev at onward upTo
  have first : (Sample.named.setup.lexer.readToken Sample.named.setup.source Sample.named.session.state.cursor
      defaultGoal Sample.named.session.state.prev).piece?.all
          (fun piece => Sample.named.setup.config.isSync piece.1.name)
        = true := by decide +kernel
  cases onward with
  | here =>
    rw [List.length_nil] at length
    omega
  | next piece later =>
    rw [piece] at first
    cases later with
    | here =>
      rw [List.length_singleton] at length
      omega
    | next _ _ => exact absurd (upTo.before _ List.mem_cons_self) (Bool.not_eq_false _ ▸ first)

end Parser
end Packrat

import Packrat.Proofs.Session.Destined
import Packrat.Proofs.Undo

/-! The limit on nesting and the cache. An answer from the cache is taken however deep its rule would have
nested, so with the cache a parse may get by where without it the nesting is too deep. -/
namespace Packrat

def Verdict.isLimit : Verdict → Bool
  | .fatal error => error.isLimit
  | _ => false

def hitsLimit : Except ParseError Output → Bool
  | .error error => error.isLimit
  | .ok _ => false

namespace Session

theorem Arrives.isLimitIff {env : Setup} {valid : MemoKey → Memo → Prop} {o : Course} {r : Verdict × Session}
    (h : Arrives env valid o r) : r.1.isLimit ↔ o = .fatal true := by
  obtain ⟨verdict, t⟩ := r
  cases verdict with
  | ok => simp [Verdict.isLimit, h.courseOfMatch.1]
  | mismatch => simp [Verdict.isLimit, h.courseOfMismatch.1]
  | fatal error => simp [Verdict.isLimit, h.courseOfError]

def HidesLimit (env : Setup) (rules : Rules) (depth : Nat) (task : Task) (first : Session) : Prop :=
  ∃ d name rule t memo error, Reached env rules depth task first d (.body (.call name rule)) t ∧
    t.Enters env name ∧ t.remembered env name = Option.some memo ∧
    (invoke (env.caching false) rules d name rule t).1 = .fatal error ∧ error.isLimit

namespace Pursuit

def direct (env : Setup) (rules : Rules) (depth : Nat) (task : Task) (first : Session) : Pursuit :=
  ⟨env, rules, depth, task, first, fun _ _ => True, fun _ _ => True⟩

def cached (env : Setup) (rules : Rules) (depth : Nat) (task : Task) (first : Session) (table : String → Body) :
    Pursuit where
  env := env
  rules := rules
  depth := depth
  task := task
  first := first
  valid := fun key memo => ∃ height, memo.Tells (env.course.free table height key.rule key.spot 0)
  stops := fun around o => (o = .fatal true → ¬ HidesLimit env rules depth task first) ∧
    (o ≠ .fatal true → ∀ e ∈ around, ∀ height, (env.course.free table height e.1 e.2 0).Halts)

variable {env : Setup} {rules : Rules} {depth : Nat} {task : Task} {first : Session}
  {invoked : String × String → Prop} {table : String → Body}

theorem directHonest (off : env.config.recover = false) (strict : rules.Strict)
    (uncached : env.config.memoize = false) : (direct env rules depth task first).Honest fun _ => True where
  off := off
  strict := strict
  within := fun _ _ _ => trivial
  inside := fun _ _ => trivial
  store := fun _ _ _ => trivial
  hit := by
    intro _ _ _ s _ _ memo found
    have on := (rememberedMem found).1
    rw [show (direct env rules depth task first).env.config.memoize = false from uncached] at on
    exact nomatch on

theorem directArrives (off : env.config.recover = false) (strict : rules.Strict) {around : Semantics.Around Spot}
    {d : Nat} (deep : env.config.maxRuleDepth ≤ d + around.length) {valid : MemoKey → Memo → Prop} {s : Session}
    (underway : s.Underway env valid around) (c : String × String) :
    Arrives (env.caching false) (fun _ _ => True)
      (env.course.guarded none rules d (env.course.stack around) c.1 c.2 s.state.spot 0)
      (invoke (env.caching false) rules d c.1 c.2 s) := by
  have honest : (direct (env.caching false) rules d (.body (.call c.1 c.2)) s).Honest fun _ => True :=
    directHonest off strict rfl
  have sound : s.Sound (env.caching false) := underway.sound.whenConfigured _
  exact followsInvoke honest d deep trivial
    ⟨⟨sound, underway.stack, underway.inside, fun _ _ _ => trivial⟩, .start, fun _ => trivial⟩

section
variable {around : Semantics.Around Spot} {d : Nat} {c : String × String} {s : Session}

theorem Calling.endsAsUnbounded (calling : (cached env rules depth task first table).Calling invoked around d c s)
    (denote : rules.Denote invoked table) {height : Nat}
    (ends : ¬ (env.course.free table height c.1 s.state.spot 0).Halts) :
    env.course.guarded none rules d (env.course.stack around) c.1 c.2 s.state.spot 0 =
        env.course.free table height c.1 s.state.spot 0 ∨
      env.course.guarded none rules d (env.course.stack around) c.1 c.2 s.state.spot 0 = .fatal true ∧
        ¬ HidesLimit env rules depth task first := by
  rcases env.courseLawful.freeGuarded denote none height calling.called calling.deep trivial
    calling.due.underway.inside 0 0 ends
    with same | ⟨halts, excused⟩
  · exact .inl same
  · obtain ⟨shown, endless⟩ := calling.due.fair halts
    by_cases limit : env.course.guarded none rules d (env.course.stack around) c.1 c.2 s.state.spot 0 = .fatal true
    · exact .inr ⟨limit, shown limit⟩
    · rcases excused with ⟨cut, _⟩ | ⟨_, _, _, deep⟩ | ⟨e, member, k, _, ends⟩
      · exact absurd rfl cut
      · exact absurd deep limit
      · exact absurd (endless limit e member k) ends

theorem cachedHonest (off : env.config.recover = false) (strict : rules.Strict) (denote : rules.Denote invoked table) :
    (cached env rules depth task first table).Honest invoked where
  off := off
  strict := strict
  within := denote.within
  inside := by
    intro around d c s calling halts
    obtain ⟨shown, endless⟩ := calling.due.fair halts
    refine ⟨shown, fun other e member height => ?_⟩
    rcases List.mem_cons.mp member with rfl | member
    · by_contra ends
      rcases calling.endsAsUnbounded denote ends with same | ⟨limit, _⟩
      · exact ends (same ▸ halts)
      · exact other limit
    · exact endless other e member height
  store := by
    intro around d c s calling memo tells
    have deep : env.course.levels ≤ d + (env.course.stack around).length := by
      rw [Semantics.stack, List.length_map]
      exact calling.deep
    rcases env.courseLawful.agreeGuarded denote none d deep calling.called s.state.spot trivial
      (.refl _) 0 0 tells.courseEnds with same | ⟨_, none⟩
    · exact ⟨d, same ▸ tells⟩
    · exact none.elim
  hit := by
    intro around d c s calling enters memo found
    obtain ⟨memoize, member⟩ := rememberedMem found
    obtain ⟨height, tells⟩ := calling.due.underway.trusts memoize _ member
    rcases calling.endsAsUnbounded denote tells.courseEnds with same | ⟨limit, shown⟩
    · show memo.Tells (env.course.guarded none rules d (env.course.stack around) c.1 c.2 s.state.spot 0)
      rw [same]
      exact tells
    -- run without the cache the rule would be refused, and the answer hides it
    · have anew := directArrives off strict calling.deep calling.due.underway c
      rw [limit] at anew
      obtain ⟨error, stopped, isLimit⟩ := anew
      exact absurd ⟨d, c.1, c.2, s, memo, error, calling.due.reached, enters, found, stopped, isLimit⟩ shown

end
end Pursuit

section
variable {env : Setup} {rules : Rules} {name rule : String} {table : String → Body} {s : Session}

open Pursuit in
theorem invokeLimit (off : env.config.recover = false) (strict : rules.Strict)
    (denote : rules.Denote (rules.Invokes name rule) table) (sound : s.Sound env) :
    (invoke (env.caching false) rules env.config.maxRuleDepth name rule s.reset).1.isLimit ↔
      (invoke env rules env.config.maxRuleDepth name rule s.reset).1.isLimit ∨
      HidesLimit env rules env.config.maxRuleDepth (.body (.call name rule)) s.reset := by
  let x := cached env rules env.config.maxRuleDepth (.body (.call name rule)) s.reset table
  have honest : x.Honest (rules.Invokes name rule) := cachedHonest off strict denote
  have underway : s.reset.Underway env x.valid [] :=
    ⟨soundReset sound, rfl, fun _ member => (nomatch member), fun _ _ member => nomatch member⟩
  have deep : env.config.maxRuleDepth ≤ env.config.maxRuleDepth + ([] : Semantics.Around Spot).length := Nat.le_refl _
  have plain := directArrives off strict deep underway (name, rule)
  by_cases hides : HidesLimit env rules env.config.maxRuleDepth (.body (.call name rule)) s.reset
  · refine iff_of_true (plain.isLimitIff.mpr ?_) (.inr hides)
    by_contra other
    have start : x.Due [] env.config.maxRuleDepth (.body (.call name rule)) s.reset :=
      ⟨underway, .start, fun _ => ⟨fun limit => absurd limit other, fun _ _ member => nomatch member⟩⟩
    have entry : (Task.body (.call name rule)).Plain (rules.Invokes name rule) :=
      ⟨rfl, fun c member => .inl (List.mem_singleton.mp member)⟩
    obtain ⟨d, n, r, t, memo, error, reached, _, _, stopped, isLimit⟩ := id hides
    obtain ⟨around, deep', _, due⟩ := dueReached honest start deep entry reached
    have anew := directArrives off strict deep' due.underway (n, r)
    have limit := anew.isLimitIff.mp (by rw [stopped]; exact isLimit)
    have halts : (x.walk around d (.body (.call n r)) t.state.spot).Halts := by
      rw [show x.walk around d (.body (.call n r)) t.state.spot = _ from limit]
      trivial
    exact (due.fair halts).1 limit hides
  · have start : x.Due [] env.config.maxRuleDepth (.body (.call name rule)) s.reset :=
      ⟨underway, .start, fun _ => ⟨fun _ => hides, fun _ _ member => nomatch member⟩⟩
    have arrives := followsInvoke honest env.config.maxRuleDepth deep (.inl rfl) start
    rw [or_iff_left hides, plain.isLimitIff]
    exact arrives.isLimitIff.symm

theorem errorFromIsLimit (env : Setup) (s : Session) (f : Failure) : (s.errorFrom env f).isLimit = false := by
  unfold errorFrom
  cases f.found <;> rfl

theorem finishLimit (env : Setup) (s : Session) : hitsLimit (finish env s).1 = false := by
  obtain ⟨found, scans, scan⟩ := scanChangesScans env defaultGoal s
  simp only [finish, scan]
  cases found with
  | ended cursor =>
    simp only
    split <;> rfl
  | token t next => exact errorFromIsLimit env _ _
  | unrecognized cursor c => exact errorFromIsLimit env _ _

theorem parseRuleLimit (env : Setup) (rules : Rules) (name rule : String) (s : Session) :
    hitsLimit (s.parseRule env rules name rule).1 =
      (invoke env rules env.config.maxRuleDepth name rule s.reset).1.isLimit := by
  have mapped : ∀ (result : Except ParseError Output) (stats : Stats),
      hitsLimit (result.map fun output => { output with stats := stats }) = hitsLimit result := by
    intro result stats
    cases result <;> rfl
  obtain ⟨stats, eq⟩ := parseRuleConcludes env rules name rule s
  rw [eq, mapped]
  cases invoke env rules env.config.maxRuleDepth name rule s.reset with
  | mk verdict t =>
    cases verdict with
    | ok => exact finishLimit env t
    | mismatch => exact errorFromIsLimit env t _
    | fatal error => rfl

end
end Session

namespace Parser

theorem depthGuard {source : String} {definitions : List Definition} {p : Parser} {rules : Rules}
    {name rule : String} (reachable : Reachable source definitions p) (strict : rules.Strict)
    (agree : rules.NamesAgree name rule) (off : p.config.recover = false) :
    hitsLimit ((p.setCache false).parse rules name rule).1 ↔
      hitsLimit ((p.setCache true).parse rules name rule).1 ∨
      Session.HidesLimit (p.setCache true).setup rules p.config.maxRuleDepth (.body (.call name rule))
        p.session.reset := by
  obtain ⟨table, denote⟩ := agree.denoteTable
  have off' : (p.setCache true).setup.config.recover = false := off
  have sound : p.session.Sound (p.setCache true).setup := reachable.sourceAndSound.2.whenConfigured _
  have limits := Session.invokeLimit off' strict denote sound
  show hitsLimit (p.session.parseRule (p.setCache false).setup rules name rule).1 ↔
    hitsLimit (p.session.parseRule (p.setCache true).setup rules name rule).1 ∨ _
  rw [Session.parseRuleLimit, Session.parseRuleLimit]
  exact limits

namespace Sample

def nested : Rules :=
  [("R", .firstOf [.inOrder [.call "L" "L", .consume "b" defaultGoal], .call "A" "A"]),
    ("A", .call "L" "L"), ("L", .call "M" "M"), ("M", .consume "a" defaultGoal)]

def shallow : Parser :=
  ((Parser.ofDefinitions "a" (definitions.take 2)).toOption.get (by decide +kernel)).withConfig { maxRuleDepth := 3 }

end Sample

theorem depthGuardHidden :
    Reachable "a" (Sample.definitions.take 2) Sample.shallow ∧
      hitsLimit ((Sample.shallow.setCache false).parse Sample.nested "R" "R").1 ∧
      Session.HidesLimit (Sample.shallow.setCache true).setup Sample.nested 3 (.body (.call "R" "R"))
        Sample.shallow.session.reset := by
  have reachable : Reachable "a" (Sample.definitions.take 2) Sample.shallow :=
    (Reachable.new (Parser.ofDefinitionsOfOption _)).configured _
  have limit : hitsLimit ((Sample.shallow.setCache false).parse Sample.nested "R" "R").1 := by decide +kernel
  have strict : Sample.nested.Strict := Rules.strictOf (by decide)
  have agree : Sample.nested.NamesAgree "R" "R" := Rules.namesAgreeOf (by decide) "R"
  refine ⟨reachable, limit, ((depthGuard reachable strict agree rfl).mp limit).resolve_left ?_⟩
  decide +kernel

theorem depthGuardEvaded :
    Sample.nested.Strict ∧ Sample.nested.NamesAgree "R" "R" ∧ Sample.shallow.config.recover = false ∧
      ¬ (hitsLimit ((Sample.shallow.setCache true).parse Sample.nested "R" "R").1 ↔
        hitsLimit ((Sample.shallow.setCache false).parse Sample.nested "R" "R").1) := by
  refine ⟨Rules.strictOf (by decide), Rules.namesAgreeOf (by decide) "R", rfl, ?_⟩
  decide +kernel

end Parser
end Packrat

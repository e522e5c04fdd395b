import Packrat.Proofs.Deciding
import Packrat.Proofs.Grammar.Judging
import Packrat.Proofs.Reachable
import Packrat.Proofs.Vanishing

/-! Branches that are reported to be like an earlier one, for their first `k` symbols or for one path. Such a
branch may be chosen all the same, unless the first `k` tokens decide the earlier one. -/
namespace Packrat

namespace Conflict

structure Alike (a : Analyzer) (earlier later : Node) (path : Path) : Prop where
  begins : Path.Firsts a.config.firstK (a.grammar.Unfolds (a.config.maxDepth - 1) earlier) path
  likewise : Path.Firsts a.config.firstK (a.grammar.Unfolds (a.config.maxDepth - 1) later) path
  shared : path.length < a.config.firstK ∧ path.hasRules = false ∨
    ∀ p, Path.Firsts a.config.firstK (a.grammar.Unfolds (a.config.maxDepth - 1) earlier) p ↔
      Path.Firsts a.config.firstK (a.grammar.Unfolds (a.config.maxDepth - 1) later) p

theorem shadowAlike {a : Analyzer} {n m : Node} {s t : Start} (first : s.Complete a n) (later : t.Complete a m)
    {shadow : Shadow} (told : shadow? s.first t.first a.config.firstK = some shadow) : Alike a n m shadow.path := by
  unfold shadow? at told
  split at told
  · rename_i path found
    cases told
    have short := List.find?_some found
    simp only [Bool.and_eq_true, decide_eq_true_eq, Bool.not_eq_true'] at short
    exact ⟨(first path).mp (List.mem_of_find?_eq_some found), (later path).mp (List.contains_iff_mem.mp short.2),
      .inl short.1⟩
  · split at told
    · cases told
    · rename_i same
      obtain ⟨path, head, rfl⟩ := Option.map_eq_some_iff.mp told
      have inside := List.mem_of_head? head
      have alike := Classical.not_not.mp same
      refine ⟨(first path).mp inside, (later path).mp (alike ▸ inside), .inr fun p => ?_⟩
      rw [← first p, alike]
      exact later p

theorem betweenAlike {a : Analyzer} {rule : String} {choice i j : Nat} {n m : Node} {s t : Start} {x : Finding}
    (first : s.Complete a n) (later : t.Complete a m)
    (told : between rule choice a.config.firstK i j s t = some x) (identical : x.kind = .identicalBranches) :
    x.rule = rule ∧ x.choice = some choice ∧ x.branches = [i, j] ∧ ∃ path, x.paths = [path] ∧ Alike a n m path := by
  unfold between at told
  split at told
  · rename_i shadow found
    cases told
    exact ⟨rfl, rfl, rfl, shadow.path, rfl, shadowAlike first later found⟩
  · obtain ⟨_, _, rfl⟩ := Option.map_eq_some_iff.mp told
    exact nomatch identical

theorem startAt {a : Analyzer} {nodes : List Node} {starts : List Start}
    (complete : List.Forall₂ (Start.Complete a) nodes starts) {i : Nat} {s : Start} (at' : starts[i]? = some s) :
    ∃ n, nodes[i]? = some n ∧ s.Complete a n := by
  obtain ⟨inside, rfl⟩ := List.getElem?_eq_some_iff.mp at'
  have here : i < nodes.length := complete.length_eq ▸ inside
  exact ⟨_, List.getElem?_eq_getElem here, complete.get here inside⟩

theorem Judges.identicalAlike {a : Analyzer} {cycles : List Cycle} {choices : List (String × List Node × Nat)}
    {f g : Findings}
    {found : List Finding} (judges : Judges a cycles choices f found g) {x : Finding} (member : x ∈ found)
    (identical : x.kind = .identicalBranches) : ∃ c ∈ choices, ∃ i j n m path, i < j ∧ c.2.1[i]? = some n ∧
      c.2.1[j]? = some m ∧ x.rule = c.1 ∧ x.choice = some c.2.2 ∧ x.branches = [i, j] ∧ x.paths = [path] ∧
      Alike a n m path := by
  induction judges with
  | done => exact nomatch member
  | skipped _ _ ih =>
    obtain ⟨c, inside, alike⟩ := ih member
    exact ⟨c, List.mem_cons_of_mem _ inside, alike⟩
  | lone _ _ _ ih =>
    obtain ⟨c, inside, alike⟩ := ih member
    exact ⟨c, List.mem_cons_of_mem _ inside, alike⟩
  | @judged rule branches choice rest _ _ _ starts _ _ _ _ _ complete _ ih =>
    rcases List.mem_append.mp member with here | later
    · rcases List.mem_append.mp here with empty | both
      · exact nomatch identical.symm.trans (emptyPathsKind empty)
      · obtain ⟨i, j, s, t, less, first, second, told⟩ := memBetweenAll both
        obtain ⟨n, here, first⟩ := startAt complete first
        obtain ⟨m, there, later⟩ := startAt complete second
        rw [Nat.zero_add, Nat.zero_add] at told
        obtain ⟨named, number, which, path, paths, alike⟩ := betweenAlike first later told identical
        exact ⟨_, List.mem_cons_self, i, j, n, m, path, less, here, there, named, number, which, paths, alike⟩
    · obtain ⟨c, inside, alike⟩ := ih later
      exact ⟨c, List.mem_cons_of_mem _ inside, alike⟩

end Conflict

def Grammar.Spelt (g : Grammar) (depth k : Nat) (n : Node) : Prop :=
  ∀ u, g.Unfolds depth n u → Path.hasRules (u.take k) = false

theorem Grammar.collectBranched {rules : Rules} {name entry : String} (plain : rules.Plain)
    (branched : ∀ e ∈ rules, [] ∉ e.2.choices) (tokens : List Definition) :
    (collect rules name entry tokens).1.Branched := by
  intro rule body known empty
  obtain ⟨n, choice⟩ := List.getElem?_of_mem empty
  obtain ⟨own, branches, _, choice, none⟩ := recordedChoice plain (ruleListed known) choice
  cases List.map_eq_nil_iff.mp none.symm
  exact Rules.bodyFrom (motive := fun b => [] ∉ b.choices) List.not_mem_nil branched own (List.mem_of_getElem? choice)

theorem Rules.Follows.insideChoice {rules : Rules} {entry : String × String} {b : Body}
    (follows : rules.Follows entry b)
    {branches : List Body} (member : branches ∈ b.choices) : ∀ b ∈ branches, rules.Follows entry b :=
  Body.inChoices (fun _ follows => follows.insideParts) (fun _ follows => (Rules.followsFirstOf.mp follows).insideParts)
    (fun _ follows => follows.insideMany) (fun _ follows => follows.insideSome.1)
      (fun _ follows => follows.insideOptional) follows member

def Finding.Compares (x : Finding) (rules : Rules) (entry : String × String) (branches : List Body) (i j : Nat) :
    Prop :=
  ∃ c n, rules.Reaches entry c ∧ x.rule = c.1 ∧ (rules.body c.2).choices[n]? = some branches ∧ x.choice = some n ∧
    x.branches = [i, j] ∧ i < j ∧ j < branches.length

theorem Validation.alikeBranches {rules : Rules} {name entry : String} (plain : rules.Plain) {tokens : List Definition}
    {g : Grammar} (recorded : g = (Grammar.collect rules name entry tokens).1) (branched : g.Branched)
    {config : AnalyzerConfig} {clock : Nat → Nat} {a : Analyzer} (made : a = .ofGrammar g config clock)
    (held : ∀ e ∈ ((recursions a (g.rules.map (·.1)) []).after {}).levelCache, e.2.truncated = false)
    {x : Finding} (reported : x ∈ (validate g config clock).1.findings) (identical : x.kind = .identicalBranches) :
    ∃ branches i j earlier later path, x.Compares rules (name, entry) branches i j ∧ branches[i]? = some earlier ∧
      branches[j]? = some later ∧ x.paths = [path] ∧
      Conflict.Alike a (.inOrder earlier.outline none) (.inOrder later.outline none) path := by
  have distinct : g.Distinct := recorded ▸ Grammar.collectDistinct rules name entry tokens
  subst made
  cases validateOrigin reported with
  | undefined kind => exact nomatch identical.symm.trans kind
  | late kind => exact nomatch identical.symm.trans kind
  | cycle kind => exact nomatch identical.symm.trans kind
  | differing kind _ => exact nomatch identical.symm.trans kind
  | @conflict _ _ f _ searched checked told =>
    have after : ((recursions (.ofGrammar g config clock) (g.rules.map (·.1)) []).after {}) = f :=
      Query.afterWhenOk searched
    rw [after] at held
    have judges := ((judgedComplete g config rfl distinct branched searched held).2 _ _ checked).2
    obtain ⟨⟨rule, nodes, n⟩, choice, i, j, _, _, path, less, here, there, named, number, which, paths, alike⟩ :=
      judges.identicalAlike told identical
    obtain ⟨r, inside, choice⟩ := List.mem_flatMap.mp choice
    obtain ⟨c, known, same⟩ := List.mem_map.mp choice
    cases same
    subst recorded
    obtain ⟨own, branches, reaches, choice, rfl⟩ :=
      Grammar.recordedChoice plain inside (List.mem_zipIdx_iff_getElem?.mp known)
    rw [List.getElem?_map, Option.map_eq_some_iff] at here there
    obtain ⟨earlier, here, rfl⟩ := here
    obtain ⟨later, there, rfl⟩ := there
    obtain ⟨inside, _⟩ := List.getElem?_eq_some_iff.mp there
    exact ⟨branches, i, j, earlier, later, path, ⟨(_, own), _, reaches, named, choice, number, which, less, inside⟩,
      here, there, paths, alike⟩

namespace Session

variable {env : Setup} {rules : Rules} {entry : String × String} {call : String → String → Action}
    {branches : List Body}
  {j : Nat} {s t : Session}

def Chooses (env : Setup) (call : String → String → Action) (branches : List Body) (j : Nat) (s t : Session) : Prop :=
  ∃ b u, branches[j]? = Option.some b ∧ exec env call (.firstOf (branches.take j)) s = (.mismatch, u) ∧
    exec env call b u = (.ok, t)

theorem choosesOf {b : Body} (there : branches[j]? = Option.some b)
    (front : (exec env call (.firstOf (branches.take j)) s).1 = .mismatch)
    (own : (exec env call b (exec env call (.firstOf (branches.take j)) s).2).1 = .ok) :
    ∃ t, Chooses env call branches j s t :=
  ⟨_, b, _, there, Prod.ext front rfl, Prod.ext own rfl⟩

theorem firstOfMatchesIff : exec env call (.firstOf branches) s = (.ok, t) ↔ ∃ j, Chooses env call branches j s t := by
  induction branches generalizing s with
  | nil =>
    constructor
    · intro ran
      cases ran
    · rintro ⟨_, _, _, there, _⟩
      cases there
  | cons b rest ih =>
    -- the first branch is the one, or those behind it choose from where it has been taken back
    have split : (∃ j, Chooses env call (b :: rest) j s t) ↔ exec env call b s = (.ok, t) ∨
        ∃ u, exec env call b s = (.mismatch, u) ∧ ∃ j, Chooses env call rest j (u.rewind s.mark) t := by
      constructor
      · rintro ⟨_ | j, c, u, there, front, own⟩
        · cases there
          cases front
          exact .inl own
        · simp only [List.take_succ_cons, exec, execAll, firstOf] at front
          cases ran : exec env call b s with
          | mk verdict v =>
            rw [ran] at front
            cases verdict with
            | ok => cases front
            | mismatch => exact .inr ⟨v, rfl, j, c, u, there, front, own⟩
            | fatal error => cases front
      · rintro (own | ⟨v, ran, j, c, u, there, front, own⟩)
        · exact ⟨0, b, s, rfl, rfl, own⟩
        · refine ⟨j + 1, c, u, there, ?_, own⟩
          simp only [List.take_succ_cons, exec, execAll, firstOf, ran]
          exact front
    rw [split]
    simp only [exec, execAll, firstOf] at ih ⊢
    cases ran : exec env call b s with
    | mk verdict v =>
      cases verdict with
      | ok => simp
      | mismatch => simpa using ih
      | fatal error => simp

theorem firstOfMismatchTakenBack (failed : exec env call (.firstOf branches) s = (.mismatch, t)) :
    t.state.spot = s.state.spot := by
  induction branches generalizing s with
  | nil =>
    cases failed
    rfl
  | cons b rest ih =>
    simp only [exec, execAll, firstOf] at failed ih
    cases ran : exec env call b s with
    | mk verdict u =>
      rw [ran] at failed
      cases verdict with
      | ok => cases failed
      | mismatch => exact (ih failed).trans (spotRewound s u)
      | fatal error => cases failed

theorem Chooses.branchesEnd {n i : Nat} {earlier later : Body} (chooses : Chooses env call branches j s t)
    (foretells : Foretells env rules entry n call) (off : env.config.recover = false)
    (carries : ∀ b ∈ branches, rules.Carries entry b) (recalls : s.Recalls env (rules.Foretold env entry) n)
    (less : i < j) (here : branches[i]? = Option.some earlier) (there : branches[j]? = Option.some later) :
    earlier.Ends env rules s.state.spot none ∧ later.Ends env rules s.state.spot (Option.some t.state.spot) := by
  obtain ⟨_, u, there', front, own⟩ := chooses
  cases there.symm.trans there'
  have before : rules.Carries entry (.firstOf (branches.take j)) :=
    Rules.carriesFirstOf.mpr (Rules.carriesAll fun b member => carries b (List.mem_of_mem_take member))
  have failed := foretells.fulfilsExec off _ before s recalls
  have step := foretells.execRecalls before recalls
  have matched := foretells.fulfilsExec off later (carries later (List.mem_of_getElem? there)) u
  rw [front] at failed step
  rw [own] at matched
  refine ⟨failed.eachBranchFails earlier (List.mem_of_getElem? (i := i) ?_), ?_⟩
  · rw [List.getElem?_take_of_lt less, here]
  · exact firstOfMismatchTakenBack front ▸ matched step.1

end Session

theorem Conflict.Alike.wordsMissed {env : Setup} {a : Analyzer} {rules : Rules} {entry : String × String}
    {earlier later : Body} {path : Path} {p q : Spot} {w : List String}
    (alike : Alike a (.inOrder earlier.outline none) (.inOrder later.outline none) path)
    (describes : a.grammar.Describes rules entry) (distinct : a.grammar.Distinct) (branched : a.grammar.Branched)
    (unguarded : rules.Unguarded entry) (goals : ∀ e ∈ rules, e.2.inDefaultGoal)
    (decided : earlier.Decided a.grammar rules a.config.firstK) (follows : rules.Follows entry earlier)
    (failed : earlier.Ends env rules p .none) (yields : a.grammar.Yields later.outline w) (reads : env.Reads p w q) :
    (w.take a.config.firstK).map .token ≠ path ∧
      (a.grammar.Spelt (a.config.maxDepth - 1) a.config.firstK (.inOrder later.outline none) →
        path.length < a.config.firstK) := by
  have other : ¬ Path.Firsts a.config.firstK (a.grammar.Unfolds (a.config.maxDepth - 1) (.inOrder earlier.outline none))
      ((w.take a.config.firstK).map .token) := by
    rintro ⟨u, unfolds, spelt⟩
    rw [← List.take_append_drop a.config.firstK w] at reads
    obtain ⟨_, front, _⟩ := Setup.readsAppend.mp reads
    exact decided.doesNotFail describes unguarded goals distinct branched follows unfolds spelt.symm front failed
  constructor
  · rintro rfl
    exact other alike.begins
  · intro spelt
    refine (alike.shared.resolve_right fun same => other ((same _).mpr ?_)).1
    obtain ⟨u, unfolds, begins⟩ := Grammar.Derives.unfoldsToBeginning yields (a.config.maxDepth - 1)
    exact ⟨u, unfolds, (begins.tokensInFront (spelt u unfolds)).symm⟩

namespace Parser

theorem identicalUnreachable {rules : Rules} {name entry : String} (unguarded : rules.Unguarded (name, entry))
    (goals : ∀ e ∈ rules, e.2.inDefaultGoal) (agree : rules.NamesAgree name entry) {tokens : List Definition}
    {g : Grammar} (recorded : g = (Grammar.collect rules name entry tokens).1)
    (branched : ∀ e ∈ rules, [] ∉ e.2.choices) {config : AnalyzerConfig} {clock : Nat → Nat} {a : Analyzer}
    (made : a = .ofGrammar g config clock)
    (held : ∀ e ∈ ((Validation.recursions a (g.rules.map (·.1)) []).after {}).levelCache, e.2.truncated = false)
    {x : Finding} (reported : x ∈ (Validation.validate g config clock).1.findings)
    (identical : x.kind = .identicalBranches) :
    ∃ branches i j earlier later path, x.Compares rules (name, entry) branches i j ∧ branches[i]? = some earlier ∧
      branches[j]? = some later ∧ x.paths = [path] ∧
      Conflict.Alike a (.inOrder earlier.outline none) (.inOrder later.outline none) path ∧
      (earlier.Decided g rules a.config.firstK →
        ∀ (source : String) (definitions : List Definition) (p : Parser) (first : String × String) (d : Nat)
          (s t : Session), Reachable source definitions p → p.config.recover = false →
          rules.Reaches (name, entry) first →
          Session.Reached p.setup rules p.config.maxRuleDepth (.body (.call first.1 first.2)) p.session.reset d
            (.body (.firstOf branches)) s →
          Session.Chooses p.setup (Session.invoke p.setup rules d) branches j s t →
          ∃ w, p.setup.Reads s.state.spot w t.state.spot ∧ g.Yields later.outline w ∧
            (w.take a.config.firstK).map .token ≠ path ∧
            (g.Spelt (a.config.maxDepth - 1) a.config.firstK (.inOrder later.outline none) →
              path.length < a.config.firstK)) := by
  have describes : g.Describes rules (name, entry) := recorded ▸ Grammar.collectDescribes unguarded.isPlain agree tokens
  have distinct : g.Distinct := recorded ▸ Grammar.collectDistinct rules name entry tokens
  have branched : g.Branched := recorded ▸ Grammar.collectBranched unguarded.isPlain branched tokens
  obtain ⟨branches, i, j, earlier, later, path, compares, here, there, paths, alike⟩ :=
    Validation.alikeBranches unguarded.isPlain recorded branched made held reported identical
  refine ⟨branches, i, j, earlier, later, path, compares, here, there, paths, alike, ?_⟩
  obtain ⟨c, n, reaches, _, choice, _, _, less, _⟩ := compares
  have follows := (unguarded.bodyFollows goals reaches).insideChoice (List.mem_of_getElem? choice)
  intro decided source definitions p first d s t reachable off begins reached chooses
  have start : (Task.body (.call first.1 first.2)).Unguarded rules (name, entry) :=
    ⟨rfl, fun _ called => List.mem_singleton.mp called ▸ begins⟩
  obtain ⟨_, depth, recalls, foretells⟩ := reached.recallsAndForetells off agree unguarded start (Nat.le_refl _)
    (Session.soundReset reachable.sourceAndSound.2) rfl
  obtain ⟨failed, matched⟩ :=
    chooses.branchesEnd foretells off (fun b member => (follows b member).toCarries) recalls less here there
  obtain ⟨w, yields, reads⟩ :=
    matched.readsWhatIsYielded describes unguarded goals (follows later (List.mem_of_getElem? there)) _ rfl
  subst made
  exact ⟨w, reads, yields, alike.wordsMissed describes distinct branched unguarded goals decided
    (follows earlier (List.mem_of_getElem? here)) failed yields reads⟩

namespace Sample

def sharing : Rules :=
  [("R", .firstOf [.consume "a" defaultGoal, .firstOf [.consume "a" defaultGoal, .consume "b" defaultGoal]])]

def sharingBranches : List Body :=
  [.consume "a" defaultGoal, .firstOf [.consume "a" defaultGoal, .consume "b" defaultGoal]]

def shared : Parser := (Parser.ofDefinitions "b" definitions).toOption.get (by decide +kernel)

def sharedGrammar : Grammar := (Grammar.collect sharing "R" "R" definitions).1

def sharedAnalyzer : Analyzer := .ofGrammar sharedGrammar {} fun _ => 0

def inShared : Session := Session.opened shared.setup "R" shared.session.reset
    (shared.session.reset.asked shared.setup "R")

end Sample

theorem Sample.sharedReported :
    ∃ x ∈ (Validation.validate Sample.sharedGrammar {} fun _ => 0).1.findings, x.kind = .identicalBranches ∧
      x.Compares Sample.sharing ("R", "R") Sample.sharingBranches 0 1 ∧ x.paths = [[.token "a"]] := by
  have body : Sample.sharing.body "R" = .firstOf Sample.sharingBranches := by
    simp [Rules.body, Sample.sharing, Sample.sharingBranches]
  have reported : (Validation.validate Sample.sharedGrammar {} fun _ => 0).1.findings.any fun x =>
      x.kind == .identicalBranches && x.rule == "R" && x.choice == some 0 && x.branches == [0, 1] &&
        x.paths == [[.token "a"]] := by decide +kernel
  obtain ⟨x, member, told⟩ := List.any_eq_true.mp reported
  simp only [Bool.and_eq_true, beq_iff_eq] at told
  obtain ⟨⟨⟨⟨identical, named⟩, number⟩, which⟩, paths⟩ := told
  exact ⟨x, member, identical, ⟨("R", "R"), 0, .entry, named, by rw [body]; rfl, number, which, by decide, by decide⟩,
    paths⟩

theorem Sample.sharedReached :
    Session.Reached Sample.shared.setup Sample.sharing 1000 (.body (.call "R" "R")) Sample.shared.session.reset 999
      (.body (.firstOf Sample.sharingBranches)) Sample.inShared := by
  have body : Sample.sharing.body "R" = .firstOf Sample.sharingBranches := by
    simp [Rules.body, Sample.sharing, Sample.sharingBranches]
  rw [← body]
  exact .enter .start ⟨by decide +kernel, by decide +kernel⟩ (Option.isNone_iff_eq_none.mp (by decide +kernel))

theorem Sample.sharedChooses :
    ∃ t, Session.Chooses Sample.shared.setup (Session.invoke Sample.shared.setup Sample.sharing 999)
      Sample.sharingBranches 1 Sample.inShared t :=
  Session.choosesOf rfl (by decide +kernel) (by decide +kernel)

theorem Sample.sharingUnguarded : Sample.sharing.Unguarded ("R", "R") :=
  ⟨by decide, Rules.presentOf (by decide) (by decide)⟩

theorem Sample.sharedCompares {x : Finding} {branches : List Body} {i j : Nat}
    (compares : x.Compares Sample.sharing ("R", "R") Sample.sharingBranches 0 1)
    (again : x.Compares Sample.sharing ("R", "R") branches i j) :
    branches = Sample.sharingBranches ∧ i = 0 ∧ j = 1 := by
  obtain ⟨c, n, reaches, _, choice, number, which, _⟩ := compares
  obtain ⟨c', m, reaches', _, choice', number', which', _⟩ := again
  have only {c : String × String} (reaches : Sample.sharing.Reaches ("R", "R") c) : c = ("R", "R") := by
    cases reaches with
    | entry => rfl
    | @call c _ before called =>
      have calls : (Sample.sharing.body c.2).calls = [] :=
        Rules.bodyFrom (motive := fun b => b.calls = []) rfl (by decide) c.2
      rw [calls] at called
      cases called
  cases only reaches
  cases only reaches'
  cases number.symm.trans number'
  cases which.symm.trans which'
  cases choice.symm.trans choice'
  exact ⟨rfl, rfl, rfl⟩

theorem identicalUnreachableShared :
    ∃ x ∈ (Validation.validate Sample.sharedGrammar {} fun _ => 0).1.findings, x.kind = .identicalBranches ∧
      x.Compares Sample.sharing ("R", "R") Sample.sharingBranches 0 1 ∧ x.paths = [[.token "a"]] ∧
      ∃ t, Session.Chooses Sample.shared.setup (Session.invoke Sample.shared.setup Sample.sharing 999)
          Sample.sharingBranches 1 Sample.inShared t ∧
        ∃ w, Sample.shared.setup.Reads Sample.inShared.state.spot w t.state.spot ∧
          (w.take 3).map .token ≠ [Symbol.token "a"] := by
  obtain ⟨x, member, identical, compares, known⟩ := Sample.sharedReported
  obtain ⟨t, chooses⟩ := Sample.sharedChooses
  have reachable : Reachable "b" Sample.definitions Sample.shared := .new (Parser.ofDefinitionsOfOption _)
  have limit : Sample.shared.config.maxRuleDepth = 1000 := by decide +kernel
  have branched : ∀ e ∈ Sample.sharing, [] ∉ e.2.choices := by simp [Sample.sharing, Body.choices, Body.choicesAll]
  have held : ((Validation.recursions Sample.sharedAnalyzer (Sample.sharedGrammar.rules.map (·.1)) []).after
      {}).levelCache.all fun e => !e.2.truncated := by decide +kernel
  obtain ⟨branches, i, j, earlier, later, path, compares', here, there, paths, _, means⟩ :=
    identicalUnreachable Sample.sharingUnguarded (by decide) (Rules.namesAgreeOf (by decide) "R")
      (g := Sample.sharedGrammar) rfl branched (a := Sample.sharedAnalyzer) rfl
      (fun e kept => by simpa using List.all_eq_true.mp held e kept) member identical
  obtain ⟨rfl, rfl, rfl⟩ := Sample.sharedCompares compares compares'
  cases known.symm.trans paths
  cases here
  obtain ⟨w, reads, _, other, _⟩ := means (.consume (by decide)) "b" Sample.definitions Sample.shared ("R", "R") 999 _ _
    reachable (by decide +kernel) .entry (limit ▸ Sample.sharedReached) chooses
  exact ⟨x, member, identical, compares, known, t, chooses, w, reads, other⟩

theorem unreachableBranchChosen :
    Sample.sharing.Unguarded ("R", "R") ∧ Sample.sharing.NamesAgree "R" "R" ∧
      (∃ x ∈ (Validation.validate Sample.sharedGrammar {} fun _ => 0).1.findings, x.kind = .identicalBranches ∧
        x.Compares Sample.sharing ("R", "R") Sample.sharingBranches 0 1) ∧
      Reachable "b" Sample.definitions Sample.shared ∧ Sample.shared.config.maxRuleDepth = 1000 ∧
      Session.Reached Sample.shared.setup Sample.sharing 1000 (.body (.call "R" "R")) Sample.shared.session.reset 999
        (.body (.firstOf Sample.sharingBranches)) Sample.inShared ∧
      ∃ t, Session.Chooses Sample.shared.setup (Session.invoke Sample.shared.setup Sample.sharing 999)
          Sample.sharingBranches 1 Sample.inShared t ∧
        Session.exec Sample.shared.setup (Session.invoke Sample.shared.setup Sample.sharing 999)
          (.firstOf Sample.sharingBranches) Sample.inShared = (.ok, t) := by
  obtain ⟨x, member, identical, compares, _⟩ := Sample.sharedReported
  obtain ⟨t, chooses⟩ := Sample.sharedChooses
  have limit : Sample.shared.config.maxRuleDepth = 1000 := by decide +kernel
  exact ⟨Sample.sharingUnguarded, Rules.namesAgreeOf (by decide) "R", ⟨x, member, identical, compares⟩,
    .new (Parser.ofDefinitionsOfOption _), limit, Sample.sharedReached, t, chooses,
    Session.firstOfMatchesIff.mpr ⟨1, chooses⟩⟩

end Parser
end Packrat

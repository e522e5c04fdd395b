import Packrat.Proofs.Grammar.Derivation
import Packrat.Proofs.Grammar.Recording
import Packrat.Proofs.Session.Running
import Packrat.Proofs.Undo

/-! What a body that matches has taken is derived from its outline in the recorded grammar, as long as no error
was recovered from. Results from the cache are no exception. -/
namespace Packrat

def ParseError.isLeftRecursion : ParseError → Bool
  | .leftRecursion .. => true
  | _ => false

namespace Grammar

def Yields (g : Grammar) (nodes : List Node) (w : List String) : Prop := g.Derives (.inOrder nodes none) w

variable {g : Grammar} {nodes more : List Node} {n : Node} {u v w : List String}

theorem yieldsNil : g.Yields [] w ↔ w = [] := by
  constructor
  · rintro ⟨⟩
    rfl
  · rintro rfl
    exact .nothing

theorem yieldsSingle : g.Yields [n] w ↔ g.Derives n w := by
  constructor
  · intro yields
    cases yields with
    | next first later =>
      cases later
      rwa [List.append_nil]
  · intro derives
    have sequence : g.Yields [n] (w ++ []) := .next derives .nothing
    rwa [List.append_nil] at sequence

theorem yieldsAppend :
    g.Yields (nodes ++ more) w ↔ ∃ u v, w = u ++ v ∧ g.Yields nodes u ∧ g.Yields more v := by
  induction nodes generalizing w with
  | nil => simp [yieldsNil]
  | cons n rest ih =>
    constructor
    · rintro (_ | _ | _ | @⟨_, _, _, u, _, head, tail⟩)
      obtain ⟨u', v, rfl, inner, later⟩ := ih.mp tail
      exact ⟨u ++ u', v, (List.append_assoc ..).symm, .next head inner, later⟩
    · rintro ⟨_, v, rfl, ⟨⟩ | ⟨⟩ | ⟨⟩ | @⟨_, _, _, u, u', head, tail⟩, later⟩
      rw [List.append_assoc]
      exact .next head (ih.mpr ⟨u', v, rfl, tail, later⟩)

theorem Yields.anotherRound (yields : g.Yields (nodes ++ [.many (.inOrder nodes none)]) w) :
    g.Yields [.many (.inOrder nodes none)] w := by
  obtain ⟨u, v, rfl, first, later⟩ := yieldsAppend.mp yields
  exact yieldsSingle.mpr (.again first (yieldsSingle.mp later))

theorem Yields.derivesNamed (yields : g.Yields nodes w) (rule : Option String) : g.Derives (.inOrder nodes rule) w := by
  induction nodes generalizing w with
  | nil =>
    cases yields
    exact .nothing
  | cons n rest ih =>
    cases yields with
    | next head tail => exact .next head (ih tail)

structure Describes (g : Grammar) (rules : Rules) (entry : String × String) : Prop where
  plain : rules.Plain
  recorded : ∀ c, rules.Reaches entry c → g.rule? c.1 = some (.inOrder (rules.body c.2).outline (some c.1))

theorem collectDescribes {rules : Rules} (plain : rules.Plain) {name entry : String}
    (agree : rules.NamesAgree name entry) (tokens : List Definition) :
    (collect rules name entry tokens).1.Describes rules (name, entry) :=
  ⟨plain, fun _ reaches => collectRule plain name entry tokens agree reaches⟩

theorem Describes.derivesCall {rules : Rules} {entry c : String × String} (describes : g.Describes rules entry)
    (reaches : rules.Reaches entry c) (yields : g.Yields (rules.body c.2).outline w) : g.Derives (.call c.1) w :=
  .call (describes.recorded c reaches) (yields.derivesNamed _)

end Grammar

structure Rules.Owns (rules : Rules) (entry : String × String) (b : Body) : Prop where
  plain : b.plain
  calls : ∀ c ∈ b.calls, rules.Reaches entry c

namespace Rules.Owns

variable {rules : Rules} {entry : String × String} {b : Body} {bodies : List Body}

theorem headAndTail (owns : rules.Owns entry (.inOrder (b :: bodies))) :
    rules.Owns entry b ∧ rules.Owns entry (.inOrder bodies) := by
  obtain ⟨plain, calls⟩ := owns
  rw [Body.plain, Body.plainAll, Bool.and_eq_true] at plain
  rw [Body.calls, Body.callsAll, List.forall_mem_append] at calls
  exact ⟨⟨plain.1, calls.1⟩, plain.2, calls.2⟩

theorem firstAndLater (owns : rules.Owns entry (.firstOf (b :: bodies))) :
    rules.Owns entry b ∧ rules.Owns entry (.firstOf bodies) := by
  obtain ⟨plain, calls⟩ := owns
  rw [Body.plain, Body.plainAll, Bool.and_eq_true] at plain
  rw [Body.calls, Body.callsAll, List.forall_mem_append] at calls
  exact ⟨⟨plain.1, calls.1⟩, plain.2, calls.2⟩

end Rules.Owns

namespace Task

def outline : Task → List Node
  | .body b => b.outline
  | .rounds b _ _ => [.many (.inOrder b.outline none)]
  | .recover _ => []
  | .skip _ => []

def Among (rules : Rules) (entry : String × String) : Task → Prop
  | .body b => b = .mismatch ∨ rules.Owns entry b
  | .rounds b _ _ => rules.Owns entry b
  | .recover _ => True
  | .skip _ => True

end Task

def Memo.Derived (env : Setup) (g : Grammar) (key : MemoKey) : Memo → Prop
  | .success _ _ tokens attempt =>
    env.config.recover = false ∨ attempt.recoveries = [] → g.Derives (.call key.rule) (tokens.map Token.name)
  | .failure _ => True

namespace Session

def between (s t : Session) : List String :=
  ((t.tokens.take t.state.tokenIndex).drop s.state.tokenIndex).map Token.name

def Unrecovered (env : Setup) (s t : Session) : Prop :=
  env.config.recover = false ∨ t.recoveries = s.recoveries

def Knows (env : Setup) (g : Grammar) (s : Session) : Prop := ∀ e ∈ s.memo.entries, e.2.Derived env g e.1

structure Conforms (env : Setup) (g : Grammar) (blame : Prop) (nodes : List Node) (s : Session)
    (r : Verdict × Session) : Prop where
  step : (growing env).Step s r.2
  knows : r.2.Knows env g
  made : r.1 = .ok → s.Unrecovered env r.2 → g.Yields nodes (s.between r.2)
  stopped : ∀ error, r.1 = .fatal error → error.isLeftRecursion → blame

variable {env : Setup} {g : Grammar} {s t u : Session} {growth later : Growth} {tokens : List Token}

@[simp] theorem betweenPushChild (s t : Session) (node : Tree) : s.between (t.pushChild node) = s.between t := by
  have view := pushChildView t node
  simp only [Session.view, View.mk.injEq] at view
  rw [Session.between, view.1, view.2.2.2.2.1, ← Session.between]

theorem Takes.namesBetween (takes : s.Takes tokens t) (index : s.state.tokenIndex ≤ s.tokens.length) :
    s.between t = tokens.map Token.name := by
  have length : (s.tokens.take s.state.tokenIndex).length = s.state.tokenIndex := by
    rw [List.length_take]
    exact Nat.min_eq_left index
  rw [Session.between, takes.taken, List.drop_left' length]
  exact mapRenumber (fun _ _ => rfl) _ _

theorem Returned.nothingBetween (back : s.Returned t) (index : s.state.tokenIndex ≤ s.tokens.length) :
    s.between t = [] := back.growsByNothing.toTakes.namesBetween index

theorem Grows.unrecoveredHalves (st : s.Grows growth t) (tu : t.Grows later u) (whole : s.Unrecovered env u) :
    s.Unrecovered env t ∧ t.Unrecovered env u := by
  rcases whole with off | same
  · exact ⟨.inl off, .inl off⟩
  · rw [tu.recoveries, st.recoveries, List.append_assoc] at same
    obtain ⟨first, more⟩ := List.append_eq_nil_iff.mp (List.append_right_eq_self.mp same)
    exact ⟨.inr (by rw [st.recoveries, first, List.append_nil]), .inr (by rw [tu.recoveries, more, List.append_nil])⟩

namespace Conforms

variable {blame : Prop} {nodes more : List Node} {verdict : Verdict} {r : Verdict × Session}

theorem weakerNodes (h : Conforms env g blame nodes s r) (weaker : ∀ w, g.Yields nodes w → g.Yields more w) :
    Conforms env g blame more s r :=
  ⟨h.step, h.knows, fun ok quiet => weaker _ (h.made ok quiet), h.stopped⟩

theorem ofMatch (step : (growing env).Step s t) (knows : t.Knows env g)
    (made : s.Unrecovered env t → g.Yields nodes (s.between t)) : Conforms env g blame nodes s (.ok, t) :=
  ⟨step, knows, fun _ => made, nofun⟩

theorem ofMismatch (step : (growing env).Step s t) (knows : t.Knows env g) :
    Conforms env g blame nodes s (.mismatch, t) :=
  ⟨step, knows, nofun, nofun⟩

theorem whenFailed (h : Conforms env g blame nodes s r) (failed : r.1 ≠ .ok) : Conforms env g blame more s r :=
  ⟨h.step, h.knows, fun ok => absurd ok failed, h.stopped⟩

theorem ofOtherError (step : (growing env).Step s t) (knows : t.Knows env g) {error : ParseError}
    (other : error.isLeftRecursion = false) : Conforms env g blame nodes s (.fatal error, t) := by
  refine ⟨step, knows, nofun, ?_⟩
  rintro _ ⟨⟩ blamed
  rw [other] at blamed
  exact nomatch blamed

theorem ofQuietEnd (sound : s.Sound env) (back : s.Returned t) (after : t.Sound env) (knows : t.Knows env g)
    (ends : ∀ error, verdict ≠ .fatal error) : Conforms env g blame [] s (verdict, t) :=
  ⟨⟨after, {}, back.growsByNothing⟩, knows, fun _ _ => Grammar.yieldsNil.mpr (back.nothingBetween sound.index),
    fun error fatal => absurd fatal (ends error)⟩

theorem thenConforms (sound : s.Sound env) (h : Conforms env g blame nodes s (.ok, t))
    (next : Conforms env g blame more t r) : Conforms env g blame (nodes ++ more) s r := by
  obtain ⟨middle, growth, st⟩ := h.step
  obtain ⟨after, later, tu⟩ := next.step
  refine ⟨⟨after, growth.append later, st.trans tu⟩, next.knows, fun ok whole => ?_, next.stopped⟩
  obtain ⟨first, rest⟩ := st.unrecoveredHalves tu whole
  have taken : s.between r.2 = s.between t ++ t.between r.2 := by
    rw [(st.trans tu).toTakes.namesBetween sound.index, st.toTakes.namesBetween sound.index,
      tu.toTakes.namesBetween middle.index]
    exact List.map_append
  exact Grammar.yieldsAppend.mpr ⟨_, _, taken, h.made rfl first, next.made ok rest⟩

theorem takenBack (sound : s.Sound env) (h : Conforms env g blame nodes s (verdict, t)) (result : Verdict)
    (ends : ∀ error, result ≠ .fatal error) : Conforms env g blame [] s (result, t.rewind s.mark) := by
  have step := growsRewound sound h.step
  obtain ⟨_, growth, grows⟩ := h.step
  refine ofQuietEnd sound (grows.returnedByRewind sound) step.1 (fun e member => h.knows e ?_) ends
  rwa [rewindMemo] at member

theorem whenRejoined (sound : s.Sound env) (h : Conforms env g blame nodes s.isolated (verdict, t)) :
    Conforms env g blame nodes s (verdict, s.rejoined t) :=
  ⟨(growingUpheld env).rejoined sound h.step, h.knows, h.made, h.stopped⟩

end Conforms

def Conforming (env : Setup) (g : Grammar) (blame : Prop) (met : Task → Session → Prop) (k : Task)
    (nodes : List Node) (a : Action) : Prop :=
  ∀ s, met k s → s.Sound env → s.Knows env g → Conforms env g blame nodes s (a s)

section
variable {blame : Prop} {met : Task → Session → Prop}

theorem conformsConsume (token : String) (goal : Goal) (sound : s.Sound env) (knows : s.Knows env g) :
    Conforms env g blame [.consume token] s (consume env token goal s) := by
  have step := growsConsume token goal sound
  obtain ⟨found, scans, scan, read, scanned⟩ := sound.afterScan goal
  have within := read.isWithin
  simp only [consume, scan] at step ⊢
  cases found with
  | token t next =>
    obtain ⟨first, behind, wide, _, range⟩ := within
    simp only at step ⊢
    split
    · rename_i same
      rw [if_pos same] at step
      refine .ofMatch step (fun e member => knows e (by rwa [pushChildMemo] at member)) fun _ => ?_
      have takes := commitTakes { s with scans := scans } behind wide range
      have taken : s.between (({ s with scans := scans } : Session).commit t next) = [token] :=
        (takes.namesBetween sound.index).trans (by simp [same])
      rw [Grammar.yieldsSingle, betweenPushChild, taken]
      exact .consume
    · rename_i other
      rw [if_neg other] at step
      exact .ofMismatch step knows
  | ended cursor => exact .ofMismatch step knows
  | unrecognized cursor c => exact .ofMismatch step knows

theorem conformsScan (goal : Goal) (sound : s.Sound env) (knows : s.Knows env g) {verdict : Verdict}
    (ends : ∀ error, verdict ≠ .fatal error) : Conforms env g blame [] s (verdict, (s.scan env goal).2) := by
  obtain ⟨found, scans, scan, _, scanned⟩ := sound.afterScan goal
  rw [scan]
  exact .ofQuietEnd sound ⟨rfl, rfl, rfl, rfl, rfl, rfl⟩ scanned knows ends

theorem conformsNotAhead (token : String) (goal : Goal) (sound : s.Sound env) (knows : s.Knows env g) :
    Conforms env g blame [] s (notAhead env token goal s) := by
  obtain ⟨verdict, quiet, eq⟩ := notAheadLooks env token goal s
  rw [eq]
  exact conformsScan goal sound knows quiet

theorem conformsSameLine (sound : s.Sound env) (knows : s.Knows env g) :
    Conforms env g blame [] s (sameLine env s) := by
  obtain ⟨verdict, quiet, eq⟩ := sameLineLooks env s
  rw [eq]
  exact conformsScan defaultGoal sound knows quiet

theorem conformsRecover (failure : Failure) (on : env.config.recover) (sound : s.Sound env)
    (knows : s.Knows env g) : Conforms env g blame [] s (.ok, (s.recover env failure).2) := by
  obtain ⟨_, _, memo⟩ := skipQuiet env (env.source.length + 1) s
  obtain ⟨tokens, nodes, passed⟩ := skipPasses (env.source.length + 1) sound
  have step := growsRecover failure sound
  unfold recover at step ⊢
  split
  · exact .ofQuietEnd sound (.refl s) sound knows nofun
  · rename_i budget
    rw [if_neg budget] at step
    cases ran : s.skip env (env.source.length + 1) with
    | mk skipped t =>
      rw [ran] at nodes passed memo step
      obtain rfl : skipped = tokens.map Tree.ofToken := nodes
      have passed : Passed env s tokens t := passed
      have knows : t.Knows env g := fun e member => knows e (memo ▸ member)
      simp only at step ⊢
      split
      · rename_i empty
        rw [if_pos empty] at step
        obtain rfl : tokens = [] := List.map_eq_nil_iff.mp (List.isEmpty_iff.mp empty)
        refine .ofMatch step knows fun _ => Grammar.yieldsNil.mpr ?_
        exact passed.toTakes.namesBetween sound.index
      · rename_i some
        rw [if_neg some] at step
        refine .ofMatch step (fun e member => knows e (by rwa [pushChildMemo] at member)) fun whole => ?_
        rcases whole with off | same
        · rw [off] at on
          exact nomatch on
        · simp [note, passed.recoveries] at same

section
variable {call : String → String → Action} {rules : Rules} {entry : String × String}

theorem Starts.keepsAmong {k k' : Task} (starts : Starts env call k s k' t) (among : k.Among rules entry) :
    k'.Among rules entry := by
  cases starts with
  | first => exact .inr (among.resolve_left nofun).headAndTail.1
  | next _ => exact .inr (among.resolve_left nofun).headAndTail.2
  | branch => exact .inr (among.resolve_left nofun).firstAndLater.1
  | other _ => exact .inr (among.resolve_left nofun).firstAndLater.2
  | optional =>
    have owns := among.resolve_left nofun
    exact .inr ⟨owns.plain, owns.calls⟩
  | once =>
    have owns := among.resolve_left nofun
    exact .inr ⟨owns.plain, owns.calls⟩
  | many =>
    have owns := among.resolve_left nofun
    exact ⟨owns.plain, owns.calls⟩
  | more _ _ =>
    have owns := among.resolve_left nofun
    exact ⟨owns.plain, owns.calls⟩
  | parsed => exact nomatch (among.resolve_left nofun).plain
  | attempt => exact nomatch (among.resolve_left nofun).plain
  | round => exact .inr among
  | again _ _ => exact among
  | recovered _ _ _ => exact among
  | _ => trivial

variable (starts : ∀ {k s k' t}, met k s → Starts env call k s k' t → met k' t)
  (owned : ∀ {k s}, met k s → k.Among rules entry)
  (calls : ∀ c, rules.Reaches entry c → Conforming env g blame met (.body (.call c.1 c.2)) [.call c.1] (call c.1 c.2))
include starts owned calls

theorem Ran.runConforms {k : Task} {r : Verdict × Session} (ran : Ran env call k s r) (side : met k s)
    (sound : s.Sound env) (knows : s.Knows env g) : Conforms env g blame k.outline s r := by
  have ended : ∀ {b : Body} w, g.Yields [] w → g.Yields [.many (.inOrder b.outline none)] w := by
    intro b w nothing
    rw [Grammar.yieldsNil.mp nothing]
    exact Grammar.yieldsSingle.mpr .done
  induction ran with
  | consume => exact conformsConsume _ _ sound knows
  | notAhead => exact conformsNotAhead _ _ sound knows
  | sameLine => exact conformsSameLine sound knows
  | mismatch => exact .ofMismatch ⟨sound, {}, .refl _⟩ knows
  | @call _ name rule =>
    exact calls (name, rule) (((owned side).resolve_left nofun).calls _ List.mem_cons_self) _ side sound knows
  | raise => exact nomatch ((owned side).resolve_left nofun).plain
  | parsed => exact nomatch ((owned side).resolve_left nofun).plain
  | attempt => exact nomatch ((owned side).resolve_left nofun).plain
  | nothing => exact .ofQuietEnd sound (.refl _) sound knows nofun
  | next first _ inner later =>
    have head := inner (starts side .first) sound knows
    exact head.thenConforms sound (later (starts side (.next first.execResult)) head.step.1 head.knows)
  | broken _ failed inner => exact (inner (starts side .first) sound knows).whenFailed failed
  | exhausted => exact .ofMismatch ⟨sound, {}, .refl _⟩ knows
  | branch _ decided inner =>
    refine (inner (starts side .branch) sound knows).weakerNodes fun w yields => ?_
    exact Grammar.yieldsSingle.mpr (.branch List.mem_cons_self yields)
  | other first _ inner later =>
    have back := (inner (starts side .branch) sound knows).takenBack sound .ok nofun
    have rest := later (starts side (.other first.execResult)) back.step.1 back.knows
    refine (back.thenConforms sound rest).weakerNodes fun w yields => ?_
    cases Grammar.yieldsSingle.mp yields with
    | branch member inside => exact Grammar.yieldsSingle.mpr (.branch (List.mem_cons_of_mem _ member) inside)
  | present _ decided inner =>
    exact (inner (starts side .optional) sound knows).weakerNodes fun w yields =>
      Grammar.yieldsSingle.mpr (.present yields)
  | absent _ inner =>
    refine ((inner (starts side .optional) sound knows).takenBack sound .ok nofun).weakerNodes fun w nothing => ?_
    rw [Grammar.yieldsNil.mp nothing]
    exact Grammar.yieldsSingle.mpr .absent
  | many _ rounds => exact rounds (starts side .many) sound knows
  | more first moved _ inner rounds =>
    have once := inner (starts side .once) sound knows
    refine (once.thenConforms sound (rounds (starts side (.more first.execResult moved)) once.step.1
      once.knows)).weakerNodes ?_
    intro w yields
    obtain ⟨u, v, rfl, first, more⟩ := Grammar.yieldsAppend.mp yields
    exact Grammar.yieldsSingle.mpr (.once first (Grammar.yieldsSingle.mp more))
  | unmoved _ _ inner =>
    have once := inner (starts side .once) sound knows
    exact .ofOtherError once.step once.knows rfl
  | never _ inner => exact ((inner (starts side .once) sound knows).takenBack sound .mismatch nofun).whenFailed nofun
  | stopped _ inner => exact (inner (starts side .once) sound knows).whenFailed nofun
  | spent => exact .ofOtherError ⟨sound, {}, .refl _⟩ knows rfl
  | again round moved _ inner later =>
    have once := (inner (starts side .round) ((growingUpheld env).isolated sound) knows).whenRejoined sound
    have rest := later (starts side (.again round.execResult moved)) once.step.1 once.knows
    exact (once.thenConforms sound rest).weakerNodes fun _ => Grammar.Yields.anotherRound
  | stuck _ _ inner =>
    have once := (inner (starts side .round) ((growingUpheld env).isolated sound) knows).whenRejoined sound
    exact .ofOtherError once.step once.knows rfl
  | enough _ _ inner =>
    have once := (inner (starts side .round) ((growingUpheld env).isolated sound) knows).whenRejoined sound
    exact (once.takenBack sound .ok nofun).weakerNodes ended
  | @resumed _ t _ _ _ _ _ round on recovered _ inner later =>
    have once := (inner (starts side .round) ((growingUpheld env).isolated sound) knows).whenRejoined sound
    have back := once.takenBack sound .ok nofun
    have skipped : Conforms env g blame [] _ (.ok, _) :=
      conformsRecover t.furthest (Bool.and_eq_true_iff.mp on).1 back.step.1 back.knows
    rw [recovered] at skipped
    have onward := back.thenConforms sound skipped
    exact onward.thenConforms sound (later (starts side (.recovered round.execResult on recovered)) onward.step.1
      onward.knows)
  | @givenUp _ t _ _ _ _ round on refused inner =>
    have once := (inner (starts side .round) ((growingUpheld env).isolated sound) knows).whenRejoined sound
    have back := once.takenBack sound .ok nofun
    have skipped : Conforms env g blame [] _ (.ok, _) :=
      conformsRecover t.furthest (Bool.and_eq_true_iff.mp on).1 back.step.1 back.knows
    rw [refused] at skipped
    exact (back.thenConforms sound skipped).weakerNodes ended
  | failed _ inner =>
    exact ((inner (starts side .round) ((growingUpheld env).isolated sound) knows).whenRejoined sound).whenFailed nofun

end

variable {name : String}

theorem Knows.whenOpened (knows : s.Knows env g) (miss : s.remembered env name = none) :
    (opened env name s (s.asked env name)).Knows env g := by
  obtain ⟨log, eq⟩ := openedAsUpdate env name s (s.asked env name)
  intro e member
  rw [eq] at member
  exact knows e (askedEntries miss ▸ member)

theorem Conforms.whenClosed {cache : Cache MemoKey Memo} {r : Verdict × Session} (sound : s.Sound env)
    (h : Conforms env g blame [.call name] (opened env name s cache) r) :
    Conforms env g blame [.call name] s (closed env name s r) := by
  obtain ⟨verdict, t⟩ := r
  have step := growsClosed verdict sound h.step
  obtain ⟨_, growth, grows⟩ := h.step
  have framed : Framed name s growth t := grows.framedByRule
  have view := openedView env name s cache
  simp only [Session.view, View.mk.injEq] at view
  obtain ⟨state, _, _, _, _, recoveries⟩ := view
  have made : verdict = .ok → s.Unrecovered env t →
      g.Derives (.call name) (((t.tokens.take t.state.tokenIndex).drop s.state.tokenIndex).map Token.name) := by
    intro ok whole
    have yields := h.made ok (whole.imp_right fun same => same.trans recoveries.symm)
    rw [Grammar.yieldsSingle, Session.between, state] at yields
    exact yields
  cases verdict with
  | ok =>
    obtain ⟨stats, log, eq⟩ := closedOk env name s t framed.inFrame
    rw [eq] at step ⊢
    refine .ofMatch step (fun e member => ?_) fun whole => ?_
    · rw [pushChildMemo] at member
      rcases memRemembering member with rfl | old
      · refine fun whole => made rfl (whole.imp_right fun (none : t.recoveries.drop s.recoveries.length = []) => ?_)
        rw [framed.recoveries, List.drop_left] at none
        rw [framed.recoveries, none, List.append_nil]
      · exact h.knows e old
    · rw [Unrecovered, pushChildRecoveries] at whole
      rw [Grammar.yieldsSingle, betweenPushChild]
      exact made rfl whole
  | mismatch =>
    obtain ⟨log, eq⟩ := closedMismatch env name s t
    rw [eq] at step ⊢
    refine .ofMismatch step fun e member => ?_
    rcases memRemembering member with rfl | old
    · trivial
    · exact h.knows e old
  | fatal error =>
    obtain ⟨log, eq⟩ := closedFatal env name s t error
    rw [eq] at step ⊢
    exact ⟨step, h.knows, by simp, h.stopped⟩

theorem conformsReplay {memo : Memo} (sound : s.Sound env) (knows : s.Knows env g)
    (fits : memo.Sound env (MemoKey.of name s.state)) (derived : memo.Derived env g (MemoKey.of name s.state)) :
    Conforms env g blame [.call name] s (s.replay memo) := by
  have step := growsReplay sound fits
  cases memo with
  | success stop node tokens attempt =>
    refine ⟨step, fun e member => knows e (by rwa [replay, pushChildMemo] at member), fun _ whole =>
      ?_, by simp [replay]⟩
    have length : (s.tokens.take s.state.tokenIndex).length = s.state.tokenIndex := by
      rw [List.length_take]
      exact Nat.min_eq_left sound.index
    have taken : s.between (s.replay (.success stop node tokens attempt)).2 = tokens.map Token.name := by
      rw [replay, betweenPushChild]
      show (((s.tokens.take s.state.tokenIndex ++ renumber s.state.tokenIndex tokens).take
        (s.state.tokenIndex + tokens.length)).drop s.state.tokenIndex).map Token.name = _
      rw [List.take_of_length_le (by rw [List.length_append, length, lengthRenumber]), List.drop_left' length]
      exact mapRenumber (fun _ _ => rfl) _ _
    rw [Grammar.yieldsSingle, taken]
    refine derived (whole.imp_right fun same => ?_)
    rw [replayRecoveries] at same
    exact List.append_right_eq_self.mp same
  | failure attempt => exact .ofMismatch step knows

theorem conformsSubrule {body : Action} (sound : s.Sound env) (knows : s.Knows env g)
    (refused : s.active.contains (s.here name) → blame)
    (fresh : s.Enters env name → s.remembered env name = none →
      Conforms env g blame [.call name] (opened env name s (s.asked env name))
        (body (opened env name s (s.asked env name)))) :
    Conforms env g blame [.call name] s (subrule env name body s) := by
  have still : (growing env).Step s s := ⟨sound, {}, Grows.refl s⟩
  rcases subruleCases env name body s with ⟨isOpen, eq⟩ | ⟨_, _, eq⟩ | ⟨memo, _, hit, eq⟩ | ⟨enters, miss, eq⟩
  · rw [eq]
    exact ⟨still, knows, nofun, fun _ _ _ => refused isOpen⟩
  · rw [eq]
    exact .ofOtherError still knows rfl
  · have member := (rememberedMem hit).2
    have after : (s.answering env name).Sound env :=
      ⟨sound.index, sound.inside, sound.active, sound.scans, fun e inside => sound.memo e (askedSubset e inside)⟩
    have replayed : Conforms env g blame [.call name] (s.answering env name) ((s.answering env name).replay memo) :=
      conformsReplay after (fun e inside => knows e (askedSubset e inside)) (sound.memo _ member) (knows _ member)
    obtain ⟨⟨ends, growth, grows⟩, knows', made, stopped⟩ := replayed
    rw [eq]
    exact ⟨⟨ends, growth, ⟨grows.index, grows.taken, grows.covers⟩, grows.stack, grows.active, grows.levels,
      grows.recoveries, grows.tidy⟩, knows', made, stopped⟩
  · rw [eq]
    exact (fresh enters miss).whenClosed sound

end

def Reenters (env : Setup) (rules : Rules) (depth : Nat) (task : Task) (first : Session) : Prop :=
  ∃ d name rule t, Reached env rules depth task first d (.body (.call name rule)) t ∧ t.active.contains (t.here name)

section
variable {rules : Rules} {entry : String × String} (describes : g.Describes rules entry)
  {origin : Nat} {task : Task} {first : Session}

theorem conformsInside {depth : Nat} {b : Body} (owns : rules.Owns entry b)
    (calls : ∀ c, rules.Reaches entry c →
      Conforming env g (Reenters env rules origin task first) (Reached env rules origin task first depth)
        (.body (.call c.1 c.2)) [.call c.1] (invoke env rules depth c.1 c.2)) :
    Conforming env g (Reenters env rules origin task first) (Reached env rules origin task first depth) (.body b)
      b.outline (exec env (invoke env rules depth) b) := fun s reached sound knows =>
  (execRan env (invoke env rules depth) b s).runConforms
    (fun {k s _ _} (side : Reached env rules origin task first depth k s ∧ k.Among rules entry) starts =>
      ⟨.within side.1 starts, starts.keepsAmong side.2⟩) And.right
    (fun c reaches s side => calls c reaches s side.1) ⟨reached, .inr owns⟩ sound knows

include describes

theorem conformsInvoke (depth : Nat) {c : String × String} (reaches : rules.Reaches entry c) :
    Conforming env g (Reenters env rules origin task first) (Reached env rules origin task first depth)
      (.body (.call c.1 c.2)) [.call c.1] (invoke env rules depth c.1 c.2) := by
  induction depth generalizing c with
  | zero =>
    intro s reached sound knows
    refine conformsSubrule sound knows (fun isOpen => ⟨0, c.1, c.2, s, reached, isOpen⟩) fun _ miss => ?_
    exact .ofMismatch ⟨sound.whenOpened miss, {}, Grows.refl _⟩ (knows.whenOpened miss)
  | succ depth ih =>
    intro s reached sound knows
    refine conformsSubrule sound knows (fun isOpen => ⟨depth + 1, c.1, c.2, s, reached, isOpen⟩) fun enters miss => ?_
    rcases describes.plain.bodyPlain c.2 with absent | plain
    · rw [absent]
      exact .ofMismatch ⟨sound.whenOpened miss, {}, Grows.refl _⟩ (knows.whenOpened miss)
    · have ran := conformsInside ⟨plain, fun c' called => .call reaches called⟩ (fun _ => ih)
        (opened env c.1 s (s.asked env c.1)) (.enter reached enters miss) (sound.whenOpened miss)
          (knows.whenOpened miss)
      exact ran.weakerNodes fun w yields => Grammar.yieldsSingle.mpr (describes.derivesCall reaches yields)

theorem conformsBody {depth : Nat} {b : Body} (owns : rules.Owns entry b) :
    Conforming env g (Reenters env rules origin task first) (Reached env rules origin task first depth) (.body b)
      b.outline (exec env (invoke env rules depth) b) :=
  conformsInside owns fun _ => conformsInvoke describes depth

end
end Session
end Packrat

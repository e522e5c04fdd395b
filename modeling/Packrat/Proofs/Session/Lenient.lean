import Packrat.Proofs.Session.Leading

/-! Rules that can vanish do not fail, in bodies that only take tokens and put bodies together. That none is
remembered to have failed is followed one level of nesting after the other. -/
namespace Packrat

mutual

def Body.unguarded : Body → Bool
  | .consume _ _ => true
  | .inOrder parts => Body.unguardedAll parts
  | .call _ _ => true
  | .firstOf branches => Body.unguardedAll branches
  | .many body => body.unguarded
  | .some body => body.unguarded
  | .optional body => body.unguarded
  | .notAhead _ _ => false
  | .sameLine => false
  | .mismatch => false
  | .raise _ => false
  | .whenRecording _ _ => false
  | .attempt _ => false

def Body.unguardedAll : List Body → Bool
  | [] => true
  | b :: rest => b.unguarded && Body.unguardedAll rest

end

theorem Body.unguardedAllIff {bodies : List Body} : Body.unguardedAll bodies ↔ ∀ b ∈ bodies, b.unguarded := by
  induction bodies with
  | nil => simp [Body.unguardedAll]
  | cons b rest ih => simp [Body.unguardedAll, ih]

theorem Body.plainOfUnguarded (b : Body) (unguarded : b.unguarded) : b.plain := by
  induction b using Body.induction with
  | inOrder parts ih =>
    rw [Body.unguarded, Body.unguardedAllIff] at unguarded
    exact Body.plainAllIff.mpr fun b member => ih b member (unguarded b member)
  | firstOf branches ih =>
    rw [Body.unguarded, Body.unguardedAllIff] at unguarded
    exact Body.plainAllIff.mpr fun b member => ih b member (unguarded b member)
  | consume token goal => rfl
  | call name rule => rfl
  | many body ih => exact ih unguarded
  | some body ih => exact ih unguarded
  | optional body ih => exact ih unguarded
  | _ => exact absurd unguarded Bool.false_ne_true

structure Rules.Unguarded (rules : Rules) (entry : String × String) : Prop where
  bodies : ∀ e ∈ rules, e.2.unguarded
  present : ∀ c, rules.Reaches entry c → c.2 ∈ rules.map Prod.fst

structure Rules.Carries (rules : Rules) (entry : String × String) (b : Body) : Prop where
  unguarded : b.unguarded
  calls : ∀ c ∈ b.calls, rules.Reaches entry c

namespace Rules

variable {rules : Rules} {entry : String × String} {b : Body} {bodies : List Body}

theorem presentOf {name : String} (first : name ∈ rules.map Prod.fst)
    (each : ∀ e ∈ rules, ∀ c ∈ e.2.calls, c.2 ∈ rules.map Prod.fst) (c : String × String)
    (reaches : rules.Reaches (name, name) c) : c.2 ∈ rules.map Prod.fst := by
  cases reaches with
  | entry => exact first
  | @call before _ _ called =>
    exact Rules.bodyFrom (motive := fun b => ∀ c ∈ b.calls, c.2 ∈ rules.map Prod.fst) nofun each before.2 c called

theorem Unguarded.isPlain (unguarded : rules.Unguarded entry) : rules.Plain :=
  fun e member => e.2.plainOfUnguarded (unguarded.bodies e member)

theorem Unguarded.bodyCarries (unguarded : rules.Unguarded entry) {c : String × String}
    (reaches : rules.Reaches entry c) :
    rules.Carries entry (rules.body c.2) := by
  refine ⟨?_, fun _ called => .call reaches called⟩
  unfold Rules.body
  split
  · rename_i body found
    obtain ⟨before, after, eq, _⟩ := List.lookup_eq_some_iff.mp found
    exact unguarded.bodies (c.2, body) (by simp [eq])
  · rename_i absent
    obtain ⟨e, member, same⟩ := List.mem_map.mp (unguarded.present c reaches)
    have other := List.lookup_eq_none_iff.mp absent e member
    simp [same] at other

theorem Carries.insideParts (carries : rules.Carries entry (.inOrder bodies)) :
    ∀ b ∈ bodies, rules.Carries entry b := by
  obtain ⟨unguarded, calls⟩ := carries
  rw [Body.unguarded, Body.unguardedAllIff] at unguarded
  exact fun b member => ⟨unguarded b member, fun c called => calls c (Body.memCallsAll.mpr ⟨b, member, called⟩)⟩

theorem carriesAll (each : ∀ b ∈ bodies, rules.Carries entry b) : rules.Carries entry (.inOrder bodies) := by
  refine ⟨Body.unguardedAllIff.mpr fun b member => (each b member).unguarded, fun c called => ?_⟩
  obtain ⟨b, member, called⟩ := Body.memCallsAll.mp called
  exact (each b member).calls c called

theorem carriesFirstOf : rules.Carries entry (.firstOf bodies) ↔ rules.Carries entry (.inOrder bodies) :=
  ⟨fun h => ⟨h.unguarded, h.calls⟩, fun h => ⟨h.unguarded, h.calls⟩⟩

end Rules

def Memo.matched : Memo → Bool
  | .success .. => true
  | .failure _ => false

def Grammar.Lenient (g : Grammar) (e : MemoKey × Memo) : Prop := e.1.rule ∈ g.nullable → e.2.matched

def Task.Unguarded (rules : Rules) (entry : String × String) : Task → Prop
  | .body b => rules.Carries entry b
  | .rounds b _ _ => rules.Carries entry b
  | .recover _ => True
  | .skip _ => True

namespace Session

variable {env : Setup} {s t : Session}

theorem Starts.keepsUnguarded {rules : Rules} {entry : String × String} {call : String → String → Action} {k k' : Task}
    (starts : Starts env call k s k' t) (h : k.Unguarded rules entry) : k'.Unguarded rules entry := by
  cases starts with
  | first => exact h.insideParts _ List.mem_cons_self
  | next _ => exact Rules.carriesAll fun b member => h.insideParts b (List.mem_cons_of_mem _ member)
  | branch => exact (Rules.carriesFirstOf.mp h).insideParts _ List.mem_cons_self
  | other _ =>
    have each := (Rules.carriesFirstOf.mp h).insideParts
    exact Rules.carriesFirstOf.mpr (Rules.carriesAll fun b member => each b (List.mem_cons_of_mem _ member))
  | optional => exact ⟨h.unguarded, h.calls⟩
  | many => exact ⟨h.unguarded, h.calls⟩
  | once => exact ⟨h.unguarded, h.calls⟩
  | more _ _ => exact ⟨h.unguarded, h.calls⟩
  | parsed => exact nomatch h.unguarded
  | attempt => exact nomatch h.unguarded
  | round => exact h
  | again _ _ => exact h
  | recover _ _ => trivial
  | recovered _ _ _ => exact h
  | skip _ => trivial
  | skipToken _ _ => trivial
  | skipUnknown _ => trivial

structure Recalls (env : Setup) (good : MemoKey × Memo → Prop) (n : Nat) (s : Session) : Prop where
  sound : s.Sound env
  good : ∀ e ∈ s.memo.entries, good e
  deep : n ≤ s.ruleStack.length

def recalling (env : Setup) (good : MemoKey × Memo → Prop) (n : Nat) : Invariant :=
  ⟨(·.Recalls env good n), fun s t => ∃ growth, s.Grows growth t⟩

variable {good : MemoKey × Memo → Prop} {n : Nat}

theorem Recalls.afterGrowth (h : s.Recalls env good n) (step : (growing env).Step s t)
    (after : ∀ e ∈ t.memo.entries, good e) : (recalling env good n).Step s t := by
  obtain ⟨sound, growth, grows⟩ := step
  exact ⟨⟨sound, after, grows.stack ▸ h.deep⟩, growth, grows⟩

theorem Recalls.whenOpened {name : String} (h : s.Recalls env good n) (miss : s.remembered env name = none) :
    (opened env name s (s.asked env name)).Recalls env good (n + 1) := by
  obtain ⟨log, eq⟩ := openedAsUpdate env name s (s.asked env name)
  refine ⟨h.sound.whenOpened miss, ?_, ?_⟩
  · rw [eq]
    exact fun e member => h.good e (askedEntries miss ▸ member)
  · rw [eq]
    exact Nat.succ_le_succ h.deep

theorem recallingSteady (env : Setup) (good : MemoKey × Memo → Prop) (n : Nat) : (recalling env good n).Steady env where
  refl := (growingUpheld env).refl
  trans := (growingUpheld env).trans
  scan := fun {s} goal h => by
    refine h.afterGrowth ((growingUpheld env).scan goal h.sound) ?_
    obtain ⟨_, _, scan⟩ := scanChangesScans env goal s
    rw [scan]
    exact h.good
  consume := fun {s} token goal h =>
    h.afterGrowth ((growingUpheld env).consume token goal h.sound) (consumeMemo env token goal s ▸ h.good)
  recover := fun {s} failure h =>
    h.afterGrowth ((growingUpheld env).recover failure h.sound) (recoverMemo env failure s ▸ h.good)
  rewound := fun {s t} h step =>
    h.afterGrowth ((growingUpheld env).rewound h.sound ⟨step.1.sound, step.2⟩) (rewindMemo t s.mark ▸ step.1.good)
  isolated := fun h => ⟨(growingUpheld env).isolated h.sound, h.good, h.deep⟩
  rejoined := fun h step => h.afterGrowth ((growingUpheld env).rejoined h.sound ⟨step.1.sound, step.2⟩) step.1.good

theorem Starts.keepsRecalls {rules : Rules} {entry : String × String} {call : String → String → Action} {k k' : Task}
    (starts : Starts env call k s k' t) (whole : k.Whole)
    (kept : ∀ name rule, (recalling env good n).Obeys (fun k _ => k.Unguarded rules entry) (.body (.call name rule))
      (call name rule))
    (side : k.Unguarded rules entry ∧ s.Recalls env good n) : k'.Unguarded rules entry ∧ t.Recalls env good n :=
  ⟨starts.keepsUnguarded side.1, ((recallingSteady env good n).startingHolds
    (fun side starts => starts.keepsUnguarded side) kept whole
    side.1 side.2 starts).1⟩

def Firm (inv : Invariant) (a : Action) : Prop := ∀ s, inv.holds s → (a s).1 ≠ .mismatch

theorem firstOfAppend {branches : List Action} (more : List Action) (decided : (firstOf branches s).1 ≠ .mismatch) :
    firstOf (branches ++ more) s = firstOf branches s := by
  induction branches generalizing s with
  | nil => exact absurd rfl decided
  | cons b rest ih =>
    simp only [List.cons_append, firstOf] at decided ⊢
    cases ran : b s with
    | mk verdict t =>
      rw [ran] at decided
      cases verdict with
      | ok => rfl
      | mismatch => exact ih decided
      | fatal error => rfl

theorem allNullableOutlineAll {nullable : String → Bool} {parts : List Body} :
    Node.allNullable nullable (Body.outlineAll parts) ↔ ∀ b ∈ parts, Node.allNullable nullable b.outline := by
  induction parts with
  | nil => simp [Body.outlineAll, Node.allNullable]
  | cons b rest ih =>
    simp only [Body.outlineAll, Node.allNullableIff, List.forall_mem_append, List.forall_mem_cons] at ih ⊢
    rw [ih]

structure Complies (env : Setup) (g : Grammar) (rules : Rules) (entry : String × String) (n : Nat)
    (call : String → String → Action) : Prop where
  kept : ∀ name rule, (recalling env g.Lenient n).Obeys (fun k _ => k.Unguarded rules entry) (.body (.call name rule))
    (call name rule)
  firm : ∀ c, rules.Reaches entry c → c.1 ∈ g.nullable → Firm (recalling env g.Lenient n) (call c.1 c.2)

section
variable {g : Grammar} {rules : Rules} {entry : String × String} {call : String → String → Action}

theorem Complies.execRecalls (complies : Complies env g rules entry n call) {b : Body} (carries : rules.Carries entry b)
    (h : s.Recalls env g.Lenient n) : (recalling env g.Lenient n).Step s (exec env call b s).2 :=
  (recallingSteady env g.Lenient n).execObeys
    (fun side starts => starts.keepsUnguarded side) complies.kept b s carries h

theorem Complies.firmRan (complies : Complies env g rules entry n call) {k : Task} {r : Verdict × Session}
    (ran : Ran env call k s r) (side : k.Unguarded rules entry ∧ s.Recalls env g.Lenient n)
    (vanishes : Node.allNullable g.nullable.contains k.outline) : r.1 ≠ .mismatch := by
  induction ran with
  | consume => simp [Task.outline, Body.outline, Node.allNullable, Node.isNullable] at vanishes
  | notAhead => cases side.1.unguarded
  | sameLine => cases side.1.unguarded
  | mismatch => cases side.1.unguarded
  | parsed => cases side.1.unguarded
  | @call _ name rule =>
    refine complies.firm (name, rule) (side.1.calls _ List.mem_cons_self) ?_ _ side.2
    simpa [Task.outline, Body.outline, Node.allNullable, Node.isNullable] using vanishes
  | next first _ _ later =>
    have each := allNullableOutlineAll.mp vanishes
    refine later ((Starts.next first.execResult).keepsRecalls trivial complies.kept side) (allNullableOutlineAll.mpr ?_)
    exact fun b member => each b (List.mem_cons_of_mem _ member)
  | broken _ _ inner =>
    exact inner (Starts.first.keepsRecalls trivial complies.kept side)
      (allNullableOutlineAll.mp vanishes _ List.mem_cons_self)
  | exhausted =>
    simp [Task.outline, Body.outline, Body.outlineEach, Node.allNullable, Node.isNullable, Node.anyNullable] at vanishes
  | branch _ decided _ => exact decided
  | other first _ inner later =>
    simp only [Task.outline, Body.outline, Body.outlineEach, Node.allNullable, Node.isNullable, Node.anyNullable,
      Bool.and_true, Bool.or_eq_true] at vanishes
    rcases vanishes with here | there
    · exact absurd rfl (inner (Starts.branch.keepsRecalls trivial complies.kept side) here)
    · refine later ((Starts.other first.execResult).keepsRecalls trivial complies.kept side) ?_
      simpa [Task.outline, Body.outline, Node.allNullable, Node.isNullable] using there
  | present _ decided _ => exact decided
  | many _ rounds => exact rounds (Starts.many.keepsRecalls trivial complies.kept side) rfl
  | more first moved _ _ rounds =>
    exact rounds ((Starts.more first.execResult moved).keepsRecalls trivial complies.kept side) rfl
  | never _ inner =>
    refine absurd rfl (inner (Starts.once.keepsRecalls trivial complies.kept side) ?_)
    simpa [Task.outline, Body.outline, Node.allNullable, Node.isNullable] using vanishes
  | again round moved _ _ later =>
    exact later ((Starts.again round.execResult moved).keepsRecalls trivial complies.kept side) rfl
  | resumed round on recovered _ _ later =>
    exact later ((Starts.recovered round.execResult on recovered).keepsRecalls trivial complies.kept side) rfl
  | _ =>
    intro failed
    cases failed

theorem Complies.firmExec (complies : Complies env g rules entry n call) (b : Body) (carries : rules.Carries entry b)
    (vanishes : Node.allNullable g.nullable.contains b.outline) :
    Firm (recalling env g.Lenient n) (Session.exec env call b) :=
  fun s h => complies.firmRan (execRan env call b s) ⟨carries, h⟩ vanishes

end

theorem closedRecalls (env : Setup) (name : String) (s : Session) {r : Verdict × Session} (inFrame : r.2.frames ≠ []) :
    (closed env name s r).1 = r.1 ∧ ∀ e ∈ (closed env name s r).2.memo.entries, e ∈ r.2.memo.entries ∨
      e.1.rule = name ∧ (r.1 = .mismatch ∨ e.2.matched) := by
  obtain ⟨verdict, t⟩ := r
  cases verdict with
  | ok =>
    obtain ⟨stats, log, eq⟩ := closedOk env name s t inFrame
    rw [eq]
    refine ⟨rfl, fun e member => ?_⟩
    rw [pushChildMemo] at member
    rcases memRemembering member with rfl | old
    · exact .inr ⟨rfl, .inr rfl⟩
    · exact .inl old
  | mismatch =>
    obtain ⟨log, eq⟩ := closedMismatch env name s t
    rw [eq]
    refine ⟨rfl, fun e member => ?_⟩
    rcases memRemembering member with rfl | old
    · exact .inr ⟨rfl, .inl rfl⟩
    · exact .inl old
  | fatal error =>
    obtain ⟨log, eq⟩ := closedFatal env name s t error
    rw [eq]
    exact ⟨rfl, fun _ => .inl⟩

section
variable {g : Grammar}

theorem lenientReplay {name : String} {memo : Memo} (lenient : ∀ e ∈ s.memo.entries, g.Lenient e)
    (this : g.Lenient (MemoKey.of name s.state, memo)) :
    (∀ e ∈ (s.replay memo).2.memo.entries, g.Lenient e) ∧ (name ∈ g.nullable → (s.replay memo).1 ≠ .mismatch) := by
  cases memo with
  | success stop node tokens attempt =>
    refine ⟨fun e member => ?_, fun _ => nofun⟩
    rw [replay, pushChildMemo] at member
    exact lenient e member
  | failure attempt => exact ⟨lenient, fun vanishes => absurd (this vanishes) Bool.false_ne_true⟩

theorem lenientSubrule {name : String} {body : Action} (h : s.Recalls env g.Lenient n)
    (fresh : s.Enters env name → s.remembered env name = none →
      (recalling env g.Lenient (n + 1)).Step (opened env name s (s.asked env name))
          (body (opened env name s (s.asked env name))).2 ∧
        (name ∈ g.nullable → (body (opened env name s (s.asked env name))).1 ≠ .mismatch)) :
    (∀ e ∈ (subrule env name body s).2.memo.entries, g.Lenient e) ∧
      (name ∈ g.nullable → (subrule env name body s).1 ≠ .mismatch) := by
  rcases subruleCases env name body s with ⟨_, eq⟩ | ⟨_, _, eq⟩ | ⟨memo, _, hit, eq⟩ | ⟨enters, miss, eq⟩
  · rw [eq]
    exact ⟨h.good, fun _ => nofun⟩
  · rw [eq]
    exact ⟨h.good, fun _ => nofun⟩
  · rw [eq]
    have good : ∀ e ∈ (s.answering env name).memo.entries, g.Lenient e := fun e inside =>
      h.good e (askedSubset e inside)
    exact lenientReplay good (h.good _ (rememberedMem hit).2)
  · obtain ⟨⟨after, _, grows⟩, firm⟩ := fresh enters miss
    obtain ⟨verdict, recalled⟩ := closedRecalls env name s grows.framedByRule.inFrame
    rw [eq, verdict]
    refine ⟨fun e member => ?_, firm⟩
    rcases recalled e member with old | ⟨rfl, failed | matched⟩
    · exact after.good e old
    · exact fun vanishes => absurd failed (firm vanishes)
    · exact fun _ => matched

variable {rules : Rules} {entry : String × String}

theorem compliesOf {depth : Nat} (invoked : ∀ c s, rules.Reaches entry c → s.Recalls env g.Lenient n →
      (∀ e ∈ (invoke env rules depth c.1 c.2 s).2.memo.entries, g.Lenient e) ∧
        (c.1 ∈ g.nullable → (invoke env rules depth c.1 c.2 s).1 ≠ .mismatch)) :
    Complies env g rules entry n (invoke env rules depth) := by
  refine ⟨fun name rule s carries h => ?_, fun c reaches vanishes s h => (invoked c s reaches h).2 vanishes⟩
  have reaches := carries.calls (name, rule) List.mem_cons_self
  exact h.afterGrowth (h.sound.runGrows rules depth (.call name rule)) (invoked (name, rule) s reaches h).1

variable (describes : g.Describes rules entry) (distinct : g.Distinct) (unguarded : rules.Unguarded entry)
include describes distinct

theorem vanishingBody {c : String × String} (reaches : rules.Reaches entry c) (vanishes : c.1 ∈ g.nullable) :
    Node.allNullable g.nullable.contains (rules.body c.2).outline := by
  obtain ⟨body, known, inside⟩ := Grammar.nullableBody distinct vanishes
  cases (describes.recorded c reaches).symm.trans known
  exact inside

include unguarded

theorem invokeComplies (depth : Nat) {n : Nat} (levels : env.config.maxRuleDepth ≤ depth + n) :
    Complies env g rules entry n (invoke env rules depth) := by
  induction depth generalizing n with
  | zero =>
    refine compliesOf fun c s _ h => lenientSubrule h fun enters _ => ?_
    have := enters.2
    have := h.deep
    omega
  | succ depth ih =>
    have deeper := ih (n := n + 1) (by omega)
    refine compliesOf fun c s reaches h => lenientSubrule h fun _ miss => ?_
    have carries := unguarded.bodyCarries reaches
    refine ⟨deeper.execRecalls carries (h.whenOpened miss), fun vanishes => ?_⟩
    exact deeper.firmExec _ carries (vanishingBody describes distinct reaches vanishes) _ (h.whenOpened miss)

end

theorem finishingGood {met : Task → Session → Prop} {call : String → String → Action}
    (starts : ∀ {k s k' t}, met k s → Starts env call k s k' t → met k' t)
    (calls : ∀ name rule, (recalling env good n).Obeys met (.body (.call name rule)) (call name rule)) {k : Task}
    (side : met k s) (h : s.Recalls env good n) : ∀ e ∈ (finishing env call k s).memo.entries, good e := by
  by_cases whole : k.Whole
  · exact ((recallingSteady env good n).finishingSteps starts calls whole side h).1.good
  · cases k with
    | skip fuel =>
      obtain ⟨_, _, memo⟩ := skipQuiet env fuel s
      exact memo ▸ h.good
    | _ => exact absurd trivial whole

theorem Reached.keepsRecalls {rules : Rules} {entry : String × String} {origin d : Nat} {task k : Task}
    {first : Session} (unguarded : rules.Unguarded entry)
    (kept : ∀ d n, env.config.maxRuleDepth ≤ d + n → ∀ name rule, (recalling env good n).Obeys
      (fun k _ => k.Unguarded rules entry) (.body (.call name rule)) (invoke env rules d name rule))
    (reached : Reached env rules origin task first d k t) (start : task.Unguarded rules entry)
    (levels : env.config.maxRuleDepth ≤ origin + n) (h : first.Recalls env good n) :
    k.Unguarded rules entry ∧ ∃ m, env.config.maxRuleDepth ≤ d + m ∧ t.Recalls env good m := by
  induction reached with
  | start => exact ⟨start, n, levels, h⟩
  | @within d k t k' t' before starts ih =>
    obtain ⟨side, m, levels, here⟩ := ih
    refine ⟨starts.keepsUnguarded side, m, levels, ?_⟩
    by_cases whole : k.Whole
    · exact (starts.keepsRecalls whole (kept d m levels) ⟨side, here⟩).2
    · have sound := (before.within starts).keepsSound h.sound
      obtain ⟨_, _, scan⟩ := scanChangesScans env defaultGoal t
      cases starts with
      | skipToken found _ =>
        cases scan.symm.trans found
        exact ⟨sound, here.good, here.deep⟩
      | skipUnknown found =>
        cases scan.symm.trans found
        exact ⟨sound, here.good, here.deep⟩
      | _ => exact absurd trivial whole
  | enter _ _ miss ih =>
    obtain ⟨side, m, levels, here⟩ := ih
    exact ⟨unguarded.bodyCarries (side.calls _ List.mem_cons_self), m + 1, by omega, here.whenOpened miss⟩

section
variable {g : Grammar} {rules : Rules} {entry : String × String} (describes : g.Describes rules entry)
  {origin d : Nat} {task k : Task} {first : Session}
include describes

theorem Passes.knowsGrammar (passes : Passes env rules origin task first t) (sound : first.Sound env)
    (start : Nested env g rules entry task first) : t.Knows env g := by
  obtain ⟨d, k, u, reached, rfl | rfl⟩ := passes
  · exact (reached.keepsNested describes sound start).knows
  · have here := (reached.keepsNested describes sound start).knows
    refine finishingGood (n := 0) Reached.within (fun name rule s met h => ?_) reached
      ⟨reached.keepsSound sound, here, Nat.zero_le _⟩
    have among := (met.keepsNested describes sound start).among
    have reaches := (among.resolve_left nofun).calls (name, rule) List.mem_cons_self
    have conforms := conformsInvoke describes d reaches s met h.sound h.good
    exact h.afterGrowth conforms.step conforms.knows

variable (distinct : g.Distinct) (unguarded : rules.Unguarded entry)
include distinct unguarded

theorem Reached.keepsLenient (reached : Reached env rules origin task first d k t) (start : task.Unguarded rules entry)
    (levels : env.config.maxRuleDepth ≤ origin + n) (h : first.Recalls env g.Lenient n) :
    k.Unguarded rules entry ∧ ∃ m, env.config.maxRuleDepth ≤ d + m ∧ t.Recalls env g.Lenient m :=
  reached.keepsRecalls unguarded (fun _ _ levels => (invokeComplies describes distinct unguarded _ levels).kept) start
    levels h

theorem Passes.memoLenient (passes : Passes env rules origin task first t) (start : task.Unguarded rules entry)
    (levels : env.config.maxRuleDepth ≤ origin + n) (h : first.Recalls env g.Lenient n) :
    ∀ e ∈ t.memo.entries, g.Lenient e := by
  obtain ⟨d, k, u, reached, rfl | rfl⟩ := passes
  · obtain ⟨_, _, _, here⟩ := reached.keepsLenient describes distinct unguarded start levels h
    exact here.good
  · obtain ⟨side, _, levels, here⟩ := reached.keepsLenient describes distinct unguarded start levels h
    have complies := invokeComplies describes distinct unguarded d levels
    exact finishingGood (fun side starts => starts.keepsUnguarded side) complies.kept side here

end
end Session
end Packrat

import Mathlib.Data.List.Chain
import Packrat.Proofs.Session.Deriving

/-! The rules that are open. What a rule passes over before it has moved can vanish, so open rules that were
entered at one offset lead from one to the next in the grammar. -/
namespace Packrat

namespace Node

theorem memLeadingPartsAppend {nullable : String → Bool} {parts more : List Node} {r : String} :
    r ∈ leadingParts nullable (parts ++ more) ↔
      r ∈ leadingParts nullable parts ∨ allNullable nullable parts ∧ r ∈ leadingParts nullable more := by
  induction parts with
  | nil => simp [leadingParts, allNullable]
  | cons n rest ih =>
    by_cases vanishes : n.isNullable nullable <;> simp [leadingParts, allNullable, vanishes, ih, or_assoc]

theorem leadingPartsSingle (nullable : String → Bool) (n : Node) : leadingParts nullable [n] = n.leading nullable := by
  simp [leadingParts]

end Node

namespace Task

def leading (g : Grammar) (k : Task) : List String := Node.leadingParts g.nullable.contains k.outline

section
variable (g : Grammar) (b : Body) (rest : List Body) (fuel done : Nat)

@[simp] theorem leadingFirstOf :
    leading g (.body (.firstOf (b :: rest))) = leading g (.body b) ++ leading g (.body (.firstOf rest)) := by
  simp [leading, outline, Body.outline, Node.leadingPartsSingle, Body.outlineEach, Node.leading, Node.leadingAny]

@[simp] theorem leadingRounds : leading g (.rounds b fuel done) = leading g (.body b) := by
  simp [leading, outline, Node.leadingPartsSingle, Node.leading]

@[simp] theorem leadingMany : leading g (.body (.many b)) = leading g (.body b) := leadingRounds g b 0 0

@[simp] theorem leadingSome : leading g (.body (.some b)) = leading g (.body b) := by
  simp [leading, outline, Body.outline, Node.leadingPartsSingle, Node.leading]

@[simp] theorem leadingOptional : leading g (.body (.optional b)) = leading g (.body b) := by
  simp [leading, outline, Body.outline, Node.leadingPartsSingle, Node.leading]

end

end Task

namespace Session

variable {env : Setup} {g : Grammar} {s t : Session}

theorem Conforms.vanishesWhenStill {blame : Prop} {nodes : List Node} (sound : s.Sound env)
    (h : Conforms env g blame nodes s (.ok, t)) (still : t.state.offset = s.state.offset) :
    Node.allNullable g.nullable.contains nodes := by
  obtain ⟨_, growth, grows⟩ := h.step
  have tokens : growth.tokens = [] := grows.covers.standsStillIff.mp still
  have recoveries : growth.recoveries = [] := by
    by_contra some
    have moved := grows.tidy.spaced.startLtStop (by simpa using some)
    exact Nat.ne_of_gt moved still
  have yields := h.made rfl (.inr (by rw [grows.recoveries, recoveries, List.append_nil]))
  rw [grows.toTakes.namesBetween sound.index, tokens] at yields
  exact yields.nullableOfEmptyWord rfl

structure Advances (env : Setup) (g : Grammar) (rules : Rules) (entry : String × String) (k : Task) (s : Session)
    (k' : Task) (t : Session) : Prop where
  among : k'.Among rules entry
  knows : t.Knows env g
  stack : t.ruleStack = s.ruleStack
  ahead : s.state.offset ≤ t.state.offset
  leading : t.state.offset = s.state.offset → ∀ r ∈ k'.leading g, r ∈ k.leading g

section
variable {rules : Rules} {entry : String × String} {k k' : Task}

theorem Advances.standingStill (among : k'.Among rules entry) (knows : s.Knows env g)
    (leading : ∀ r ∈ k'.leading g, r ∈ k.leading g) : Advances env g rules entry k s k' s :=
  ⟨among, knows, rfl, Nat.le_refl _, fun _ => leading⟩

theorem Advances.throughRun {verdict : Verdict} {blame : Prop} {nodes : List Node} (among : k'.Among rules entry)
    (h : Conforms env g blame nodes s (verdict, t))
    (leading : t.state.offset = s.state.offset → ∀ r ∈ k'.leading g, r ∈ k.leading g) :
    Advances env g rules entry k s k' t := by
  obtain ⟨_, growth, grows⟩ := h.step
  exact ⟨among, h.knows, grows.stack, grows.covers.spotLeads.offsetLe, leading⟩

theorem Advances.pastScan (knows : s.Knows env g) {goal : Goal} {found : Scan} {token : Token} {next : Cursor}
    {fuel : Nat} (scan : s.scan env goal = (found, t)) (ahead : s.state.offset ≤ next.offset) :
    Advances env g rules entry k s (.skip fuel) (t.commit token next) := by
  obtain ⟨_, scans, eq⟩ := scanChangesScans env goal s
  cases scan.symm.trans eq
  exact ⟨trivial, knows, rfl, ahead, fun _ _ => nofun⟩

variable (describes : g.Describes rules entry) {origin d : Nat} {task : Task} {first : Session}
include describes

theorem Starts.startAdvances (starts : Starts env (invoke env rules d) k s k' t)
    (reached : Reached env rules origin task first d k s) (among : k.Among rules entry) (sound : s.Sound env)
    (knows : s.Knows env g) : Advances env g rules entry k s k' t := by
  have ran : ∀ {b verdict u}, Starts env (invoke env rules d) k s (.body b) s → rules.Owns entry b →
      exec env (invoke env rules d) b s = (verdict, u) →
      Conforms env g (Reenters env rules origin task first) b.outline s (verdict, u) :=
    fun starts owns eq => eq ▸ conformsBody describes owns s (.within reached starts) sound knows
  have round : ∀ {b verdict u}, Starts env (invoke env rules d) k s (.body b) s.isolated → rules.Owns entry b →
      exec env (invoke env rules d) b s.isolated = (verdict, u) →
      Conforms env g (Reenters env rules origin task first) b.outline s (verdict, s.rejoined u) :=
    fun starts owns eq =>
      (eq ▸ conformsBody describes owns s.isolated (.within reached starts) ((growingUpheld env).isolated sound)
        knows).whenRejoined sound
  have inside : k'.Among rules entry := starts.keepsAmong among
  cases starts with
  | first => exact .standingStill inside knows fun r leads => Node.memLeadingPartsAppend.mpr (.inl leads)
  | next matched =>
    have inner := ran .first (among.resolve_left nofun).headAndTail.1 matched
    refine .throughRun inside inner fun still r leads => ?_
    exact Node.memLeadingPartsAppend.mpr (.inr ⟨inner.vanishesWhenStill sound still, leads⟩)
  | branch => exact .standingStill inside knows fun r leads => by simp [leads]
  | other failed =>
    have inner := ran .branch (among.resolve_left nofun).firstAndLater.1 failed
    exact .throughRun inside (inner.takenBack sound .ok nofun) fun _ r leads => by simp [leads]
  | optional => exact .standingStill inside knows fun r leads => by simpa using leads
  | many => exact .standingStill inside knows fun r leads => by simpa using leads
  | once => exact .standingStill inside knows fun r leads => by simpa using leads
  | more matched _ => exact .throughRun inside (ran .once inside matched) fun _ r leads => by simpa using leads
  | parsed => exact nomatch (among.resolve_left nofun).plain
  | attempt => exact nomatch (among.resolve_left nofun).plain
  | round => exact ⟨inside, knows, rfl, Nat.le_refl _, fun _ r leads => by simpa using leads⟩
  | again matched _ => exact .throughRun inside (round .round among matched) fun _ r leads => by simpa using leads
  | recover failed _ =>
    exact .throughRun inside ((round .round among failed).takenBack sound .ok nofun) fun _ _ => nofun
  | @recovered _ u _ _ _ _ failed moved done =>
    have back := (round .round among failed).takenBack sound .ok nofun
    have recovered := back.thenConforms sound
      (conformsRecover u.furthest (Bool.and_eq_true_iff.mp moved).1 back.step.1 back.knows)
    rw [done] at recovered
    exact .throughRun inside recovered fun _ r leads => by simpa using leads
  | skip _ => exact .standingStill inside knows fun _ => nofun
  | skipToken found _ =>
    obtain ⟨_, _, scan, read, _⟩ := sound.afterScan defaultGoal
    cases scan.symm.trans found
    obtain ⟨_, behind, wide, _⟩ := read.isWithin
    exact .pastScan knows found (Nat.le_trans behind (Nat.le_of_lt wide))
  | @skipUnknown _ _ cursor c _ found =>
    obtain ⟨_, _, scan, read, _⟩ := sound.afterScan defaultGoal
    cases scan.symm.trans found
    refine .pastScan knows found ?_
    rw [unrecognizedOffset]
    exact Nat.le_trans read.isWithin.1 (Nat.le_add_right _ _)

end

def Linked (g : Grammar) (inner outer : String × Nat) : Prop :=
  outer.2 ≤ inner.2 ∧ (outer.2 = inner.2 → g.Leads outer.1 inner.1)

theorem linkedFrom {stack : List (String × Nat)} {top e : String × Nat} (chain : (top :: stack).IsChain (Linked g))
    (member : e ∈ top :: stack) (behind : top.2 ≤ e.2) :
    top.2 = e.2 ∧ Relation.ReflTransGen g.Leads e.1 top.1 := by
  induction stack generalizing top with
  | nil =>
    cases List.mem_singleton.mp member
    exact ⟨rfl, .refl⟩
  | cons outer rest ih =>
    obtain ⟨⟨before, leads⟩, chain⟩ := List.isChain_cons_cons.mp chain
    rcases List.mem_cons.mp member with rfl | member
    · exact ⟨rfl, .refl⟩
    · obtain ⟨same, path⟩ := ih chain member (Nat.le_trans before behind)
      exact ⟨by omega, path.tail (leads (by omega))⟩

structure Nested (env : Setup) (g : Grammar) (rules : Rules) (entry : String × String) (k : Task) (s : Session) :
    Prop where
  among : k.Among rules entry
  knows : s.Knows env g
  chain : s.ruleStack.IsChain (Linked g)
  behind : ∀ r ∈ s.ruleStack.head?, r.2 ≤ s.state.offset
  leads : ∀ r ∈ s.ruleStack.head?, r.2 = s.state.offset → ∀ x ∈ k.leading g, g.Leads r.1 x

section
variable {rules : Rules} {entry : String × String} {k k' : Task}

theorem Nested.afterAdvance (h : Nested env g rules entry k s) (advances : Advances env g rules entry k s k' t) :
    Nested env g rules entry k' t := by
  obtain ⟨among, knows, stack, ahead, leading⟩ := advances
  refine ⟨among, knows, stack ▸ h.chain, ?_, ?_⟩
  · rw [stack]
    exact fun r top => Nat.le_trans (h.behind r top) ahead
  · rw [stack]
    intro r top here x member
    have behind := h.behind r top
    exact h.leads r top (by omega) x (leading (by omega) x member)

variable (describes : g.Describes rules entry)
include describes

theorem Nested.whenEntered {c : String × String} (h : Nested env g rules entry (.body (.call c.1 c.2)) s)
    (miss : s.remembered env c.1 = none) :
    Nested env g rules entry (.body (rules.body c.2)) (opened env c.1 s (s.asked env c.1)) := by
  have reaches : rules.Reaches entry c := (h.among.resolve_left nofun).calls c List.mem_cons_self
  have view := openedView env c.1 s (s.asked env c.1)
  simp only [Session.view, View.mk.injEq] at view
  obtain ⟨state, _, stack, _⟩ := view
  refine ⟨?_, h.knows.whenOpened miss, ?_, ?_, ?_⟩
  · rcases describes.plain.bodyPlain c.2 with absent | plain
    · exact .inl absent
    · exact .inr ⟨plain, fun c' called => .call reaches called⟩
  · rw [stack, List.isChain_cons]
    refine ⟨fun outer top => ⟨h.behind outer top, fun here => h.leads outer top here c.1 ?_⟩, h.chain⟩
    simp [Task.leading, Task.outline, Body.outline, Node.leadingParts, Node.leading]
  · rw [stack, state]
    rintro _ ⟨⟩
    exact Nat.le_refl _
  · rw [stack]
    rintro _ ⟨⟩ _ x member
    show x ∈ g.starts c.1
    rw [Grammar.startsOfBody (describes.recorded c reaches)]
    exact member

variable {origin d : Nat} {task : Task} {first : Session}

theorem Reached.keepsNested (reached : Reached env rules origin task first d k t) (sound : first.Sound env)
    (start : Nested env g rules entry task first) : Nested env g rules entry k t := by
  induction reached with
  | start => exact start
  | within before starts ih =>
    exact ih.afterAdvance (starts.startAdvances describes before ih.among (before.keepsSound sound) ih.knows)
  | @enter d name rule t before enters miss ih => exact Nested.whenEntered describes (c := (name, rule)) ih miss

theorem Reenters.leftRecursive (reenters : Reenters env rules origin task first) (sound : first.Sound env)
    (start : Nested env g rules entry task first) : ∃ rule, g.LeftRecursive rule := by
  obtain ⟨d, name, rule, t, reached, isOpen⟩ := reenters
  obtain ⟨_, _, chain, behind, leads⟩ := reached.keepsNested describes sound start
  rw [(reached.keepsSound sound).active, List.contains_iff_mem] at isOpen
  obtain ⟨top, stack, eq⟩ := List.exists_cons_of_ne_nil (List.ne_nil_of_mem isOpen)
  rw [eq] at chain behind leads isOpen
  obtain ⟨here, path⟩ := linkedFrom chain isOpen (behind top rfl)
  refine ⟨name, .tail' path (leads top rfl here name ?_)⟩
  simp [Task.leading, Task.outline, Body.outline, Node.leadingParts, Node.leading]

end
end Session
end Packrat

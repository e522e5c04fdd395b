import Packrat.Proofs.Accord
import Packrat.Proofs.Session.Raising
import Packrat.Proofs.Termination

/-! How the rules that are open came to be open. A run is followed together with the sessions in which they were
invoked, each leading to those inside it by the tokens taken since. -/
namespace Packrat

abbrev Callers := List (String × Session)

namespace Session

inductive Inside (env : Setup) (rules : Rules) (depth : Nat) (task : Task) (s : Session) :
    Callers → Nat → Task → Session → Prop where
  | start : Inside env rules depth task s [] depth task s
  | within {callers d k t k' t'} (before : Inside env rules depth task s callers d k t)
      (starts : Starts env (invoke env rules d) k t k' t') : Inside env rules depth task s callers d k' t'
  | enter {callers d name rule t} (before : Inside env rules depth task s callers (d + 1) (.body (.call name rule)) t)
      (enters : t.Enters env name) (miss : t.remembered env name = none) :
      Inside env rules depth task s ((name, t) :: callers) d (.body (rules.body rule))
        (opened env name t (t.asked env name))

def PassesIn (env : Setup) (rules : Rules) (depth : Nat) (task : Task) (s : Session) (callers : Callers) (t : Session) :
    Prop :=
  ∃ d k u, Inside env rules depth task s callers d k u ∧ (t = u ∨ t = finishing env (invoke env rules d) k u)

section
variable {env : Setup} {rules : Rules} {depth d : Nat} {task k : Task} {s t : Session} {callers : Callers}

theorem Inside.isReached (inside : Inside env rules depth task s callers d k t) :
    Reached env rules depth task s d k t := by
  induction inside with
  | start => exact .start
  | within _ starts ih => exact .within ih starts
  | enter _ enters miss ih => exact .enter ih enters miss

theorem Reached.insideCallers (reached : Reached env rules depth task s d k t) :
    ∃ callers, Inside env rules depth task s callers d k t := by
  induction reached with
  | start => exact ⟨[], .start⟩
  | within _ starts ih =>
    obtain ⟨callers, inside⟩ := ih
    exact ⟨callers, .within inside starts⟩
  | enter _ enters miss ih =>
    obtain ⟨callers, inside⟩ := ih
    exact ⟨_, .enter inside enters miss⟩

theorem PassesIn.isPassed (inside : PassesIn env rules depth task s callers t) : Passes env rules depth task s t := by
  obtain ⟨d, k, u, inside, ends⟩ := inside
  exact ⟨d, k, u, inside.isReached, ends⟩

theorem Passes.insideCallers (passes : Passes env rules depth task s t) :
    ∃ callers, PassesIn env rules depth task s callers t := by
  obtain ⟨d, k, u, reached, ends⟩ := passes
  obtain ⟨callers, inside⟩ := reached.insideCallers
  exact ⟨callers, d, k, u, inside, ends⟩

end

def Onward (s t : Session) : Prop := ∃ tokens, s.Takes tokens t

variable {env : Setup} {rules : Rules} {depth d : Nat} {task k k' : Task} {first s t u : Session}

namespace Onward

theorem sameTokens (state : t.state = s.state) (tokens : t.tokens = s.tokens) : s.Onward t := by
  refine ⟨[], by rw [state]; rfl, ?_, ?_⟩
  · rw [state, tokens]
    exact (List.append_nil _).symm
  · rw [state]
    exact Covers.refl _

theorem trans (st : s.Onward t) (tu : t.Onward u) : s.Onward u := by
  obtain ⟨tokens, st⟩ := st
  obtain ⟨more, tu⟩ := tu
  exact ⟨tokens ++ more, st.trans tu⟩

theorem offsetOnward (h : s.Onward t) : s.state.offset ≤ t.state.offset := by
  obtain ⟨_, takes⟩ := h
  exact takes.covers.spotLeads.offsetLe

theorem takenWhenStill (h : s.Onward t) (same : t.state.offset = s.state.offset) : t.taken = s.taken := by
  obtain ⟨tokens, takes⟩ := h
  obtain rfl : tokens = [] := takes.covers.standsStillIff.mp same
  rw [taken, takes.taken, taken]
  exact List.append_nil _

end Onward

def Led : Callers → Session → Prop
  | [], t => t.ruleStack = []
  | (name, u) :: outer, t =>
    t.ruleStack = u.here name :: u.ruleStack ∧ u.here name ∉ u.ruleStack ∧ u.Onward t ∧ Led outer u

namespace Led

variable {name : String} {callers outer inner : Callers}

theorem afterOnward (h : Led callers s) (stack : t.ruleStack = s.ruleStack) (further : s.Onward t) : Led callers t := by
  cases callers with
  | nil => exact stack.trans h
  | cons e outer =>
    obtain ⟨opened, fresh, before, led⟩ := h
    exact ⟨stack.trans opened, fresh, before.trans further, led⟩

theorem whenEntered (h : Led callers t) (sound : t.Sound env) (enters : t.Enters env name) :
    Led ((name, t) :: callers) (opened env name t (t.asked env name)) := by
  refine ⟨openedRuleStack .., ?_, .sameTokens (openedState ..) (openedTokens ..), h⟩
  rw [← sound.active, ← List.contains_iff_mem]
  exact enters.1

theorem stackOfCallers (h : Led callers t) : t.ruleStack = callers.map fun e => e.2.here e.1 := by
  induction callers generalizing t with
  | nil => exact h
  | cons e outer ih =>
    obtain ⟨opened, _, _, led⟩ := h
    rw [opened, ih led, List.map_cons]

theorem stackNodup (h : Led callers t) : t.ruleStack.Nodup := by
  induction callers generalizing t with
  | nil =>
    rw [show t.ruleStack = [] from h]
    exact List.nodup_nil
  | cons e outer ih =>
    obtain ⟨opened, fresh, _, led⟩ := h
    rw [opened]
    exact List.nodup_cons.mpr ⟨fresh, ih led⟩

theorem onwardBetween (h : Led (inner ++ (name, u) :: outer) t) :
    u.Onward t ∧ ∀ e ∈ inner, u.Onward e.2 ∧ e.2.Onward t := by
  induction inner generalizing t with
  | nil => exact ⟨h.2.2.1, nofun⟩
  | cons e rest ih =>
    obtain ⟨_, _, before, led⟩ := h
    obtain ⟨entry, each⟩ := ih led
    refine ⟨entry.trans before, fun e' member => ?_⟩
    rcases List.mem_cons.mp member with rfl | member
    · exact ⟨entry, before⟩
    · exact ⟨(each e' member).1, (each e' member).2.trans before⟩

theorem standsStill (h : Led (inner ++ (name, u) :: outer) t) (same : u.state.offset = t.state.offset) :
    ∀ e ∈ inner ++ [(name, u)], e.2.state.offset = t.state.offset ∧ e.2.taken = t.taken := by
  obtain ⟨entry, each⟩ := h.onwardBetween
  intro e member
  rcases List.mem_append.mp member with member | member
  · obtain ⟨before, after⟩ := each e member
    have offset : e.2.state.offset = t.state.offset := by
      have := before.offsetOnward
      have := after.offsetOnward
      omega
    exact ⟨offset, (after.takenWhenStill offset.symm).symm⟩
  · obtain rfl := List.mem_singleton.mp member
    exact ⟨same, (entry.takenWhenStill same.symm).symm⟩

theorem leftRecursionOfCallers (h : Led (inner ++ (name, u) :: outer) t) (same : u.state.offset = t.state.offset) :
    t.leftRecursion name = .leftRecursion (.point t.state.offset) t.state.position name
      (name :: (inner.map Prod.fst).reverse ++ [name]) := by
  have here : u.here name = (name, t.state.offset) := by rw [Session.here, same]
  have stack := h.stackOfCallers
  have distinct := h.stackNodup
  rw [stack, List.map_append, List.map_cons, here] at distinct
  have fresh : ∀ e ∈ (outer.map fun e => e.2.here e.1).reverse, (e != (name, t.state.offset)) = true := by
    intro e member
    have outside := (List.nodup_cons.mp (List.nodup_append.mp distinct).2.1).1
    rw [bne_iff_ne]
    rintro rfl
    exact outside (List.mem_reverse.mp member)
  have entered : t.ruleStack.reverse = (outer.map fun e => e.2.here e.1).reverse ++
      (name, t.state.offset) :: (inner.map fun e => e.2.here e.1).reverse := by
    rw [stack, List.map_append, List.map_cons, here]
    simp
  have cut : t.ruleStack.reverse.dropWhile (· != (name, t.state.offset)) =
      (name, t.state.offset) :: (inner.map fun e => e.2.here e.1).reverse := by
    rw [entered, List.dropWhile_append_of_pos fresh, List.dropWhile_cons_of_neg (by simp)]
  have names : (inner.map fun e => e.2.here e.1).map Prod.fst = inner.map Prod.fst := by
    rw [List.map_map]
    rfl
  simp only [leftRecursion, cut, List.map_cons, List.map_reverse, names]

theorem callerAtOffset (h : Led callers t) (isOpen : t.here name ∈ t.ruleStack) :
    ∃ inner u outer, callers = inner ++ (name, u) :: outer ∧ u.state.offset = t.state.offset := by
  rw [h.stackOfCallers, List.mem_map] at isOpen
  obtain ⟨⟨name', u⟩, member, told⟩ := isOpen
  obtain ⟨rfl, same⟩ := Prod.mk.inj told
  obtain ⟨inner, outer, split⟩ := List.append_of_mem member
  exact ⟨inner, u, outer, split, same⟩

end Led

theorem Inside.ledByCallers {callers more : Callers} (inside : Inside env rules depth task first more d k t)
    (h : first.Sound env) (before : Led callers first) : Led (more ++ callers) t := by
  induction inside with
  | start => exact before
  | within inside starts ih =>
    have proceeds := starts.startProceeds inside.isReached (inside.isReached.keepsSound h)
    exact ih.afterOnward proceeds.stack proceeds.takes
  | enter inside enters _ ih => exact ih.whenEntered (inside.isReached.keepsSound h) enters

theorem PassesIn.ledByCallers {callers more : Callers} (inside : PassesIn env rules depth task first more t)
    (h : first.Sound env) (before : Led callers first) : Led (more ++ callers) t := by
  obtain ⟨d, k, u, inside, rfl | rfl⟩ := inside
  · exact inside.ledByCallers h before
  · have proceeds := inside.isReached.finishingProceeds h
    exact (inside.ledByCallers h before).afterOnward proceeds.stack proceeds.takes

end Session
end Packrat

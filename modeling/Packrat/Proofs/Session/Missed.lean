import Packrat.Proofs.Session.Missing
import Packrat.Proofs.Session.Task

/-! The list of what a run misses leaves nothing out and has nothing else in it: its entries are those of
the expectations that the run comes to and that fail, wherever in it this is. -/
namespace Packrat.Session

def Fails (env : Setup) (k : Task) (t : Session) (m : Miss) : Prop :=
  ∃ token goal, k = .body (.consume token goal) ∧ (consume env token goal t).1 = .mismatch ∧
    m = ⟨token, (t.scan env goal).1, t.path⟩

variable {env : Setup} {call : String → String → Action} {below : String → String → Account} {m : Miss}

theorem memMissesConsume {token : String} {goal : Goal} {s : Session} :
    m ∈ missesConsume env token goal s ↔ Fails env (.body (.consume token goal)) s m := by
  unfold missesConsume Fails
  cases ended : (consume env token goal s).1 with
  | mismatch =>
    constructor
    · intro member
      exact ⟨token, goal, rfl, ended, List.mem_singleton.mp member⟩
    · rintro ⟨_, _, ⟨⟩, _, rfl⟩
      exact List.mem_singleton_self _
  | ok =>
    constructor
    · exact nofun
    · rintro ⟨_, _, ⟨⟩, failed, _⟩
      exact nomatch ended.symm.trans failed
  | fatal error =>
    constructor
    · exact nofun
    · rintro ⟨_, _, ⟨⟩, failed, _⟩
      exact nomatch ended.symm.trans failed

theorem Starts.missesAmong {k k' : Task} {s t : Session} (starts : Starts env call k s k' t)
    (member : m ∈ missesTask env call below k' t) : m ∈ missesTask env call below k s := by
  cases starts with
  | first => exact List.mem_append_left _ member
  | next matched => exact missesNext matched ▸ List.mem_append_right _ member
  | branch => exact List.mem_append_left _ member
  | other failed => exact missesOther failed ▸ List.mem_append_right _ member
  | optional => exact member
  | many => exact member
  | once => exact List.mem_append_left _ member
  | more matched moved => exact missesMore matched moved ▸ List.mem_append_right _ member
  | parsed => exact member
  | attempt => exact member
  | round => exact List.mem_append_left _ member
  | again matched moved => exact missesAgain matched moved ▸ List.mem_append_right _ member
  | recover _ _ => cases member
  | recovered failed moved done => exact missesResumed failed moved done ▸ List.mem_append_right _ member
  | skip _ => cases member
  | skipToken _ _ => cases member
  | skipUnknown _ => cases member

section
variable {rules : Rules} {depth d : Nat} {task k : Task} {s t : Session}

theorem Reached.missesAmong (reached : Reached env rules depth task s d k t)
    (member : m ∈ missesTask env (invoke env rules d) (missesInvoke env rules d) k t) :
    m ∈ missesTask env (invoke env rules depth) (missesInvoke env rules depth) task s := by
  induction reached with
  | start => exact member
  | within _ starts ih => exact ih (starts.missesAmong member)
  | enter _ enters miss ih =>
    refine ih ?_
    have runs : _ ∧ _ := ⟨enters, Option.isNone_iff_eq_none.mpr miss⟩
    simp only [missesTask, missesExec, missesInvoke, missesSubrule, if_pos runs]
    exact member

end

def Among (met : Task → Session → Prop) (these : Miss → Prop) (k : Task) (account : Account) : Prop :=
  ∀ s m, met k s → m ∈ account s → these m

section
variable {met : Task → Session → Prop} {these : Miss → Prop}

variable (starts : ∀ {k s k' t}, met k s → Starts env call k s k' t → met k' t)
  (fails : ∀ k s m, met k s → Fails env k s m → these m)
  (calls : ∀ name rule, Among met these (.body (.call name rule)) (below name rule))
include starts fails calls

theorem Ran.missesSatisfy {k : Task} {s : Session} {r : Verdict × Session} (ran : Ran env call k s r) (side : met k s)
    (member : m ∈ missesTask env call below k s) : these m := by
  induction ran with
  | consume => exact fails _ _ m side (memMissesConsume.mp member)
  | call => exact calls _ _ _ m side member
  | parsed _ inner => exact inner (starts side .parsed) member
  | attempt _ inner => exact inner (starts side .attempt) member
  | next first _ inner later =>
    rw [missesNext first.execResult] at member
    rcases List.mem_append.mp member with member | member
    · exact inner (starts side .first) member
    · exact later (starts side (.next first.execResult)) member
  | broken first failed inner =>
    rw [missesBroken (first.execResult ▸ failed)] at member
    exact inner (starts side .first) member
  | branch first decided inner =>
    rw [missesBranch (first.execResult ▸ decided)] at member
    exact inner (starts side .branch) member
  | other first _ inner later =>
    rw [missesOther first.execResult] at member
    rcases List.mem_append.mp member with member | member
    · exact inner (starts side .branch) member
    · exact later (starts side (.other first.execResult)) member
  | present _ _ inner => exact inner (starts side .optional) member
  | absent _ inner => exact inner (starts side .optional) member
  | many _ rounds => exact rounds (starts side .many) member
  | more first moved _ inner rounds =>
    rw [missesMore first.execResult moved] at member
    rcases List.mem_append.mp member with member | member
    · exact inner (starts side .once) member
    · exact rounds (starts side (.more first.execResult moved)) member
  | unmoved first still inner =>
    rw [missesUnmoved first.execResult still] at member
    exact inner (starts side .once) member
  | never first inner =>
    rw [missesNever (first.execResult ▸ nofun)] at member
    exact inner (starts side .once) member
  | stopped first inner =>
    rw [missesNever (first.execResult ▸ nofun)] at member
    exact inner (starts side .once) member
  | again round moved _ inner later =>
    rw [missesAgain round.execResult moved] at member
    rcases List.mem_append.mp member with member | member
    · exact inner (starts side .round) member
    · exact later (starts side (.again round.execResult moved)) member
  | stuck round still inner =>
    rw [missesStuck round.execResult still] at member
    exact inner (starts side .round) member
  | enough round off inner =>
    rw [missesEnough round.execResult off] at member
    exact inner (starts side .round) member
  | resumed round on recovered _ inner later =>
    rw [missesResumed round.execResult on recovered] at member
    rcases List.mem_append.mp member with member | member
    · exact inner (starts side .round) member
    · exact later (starts side (.recovered round.execResult on recovered)) member
  | givenUp round on refused inner =>
    rw [missesGivenUp round.execResult on refused] at member
    exact inner (starts side .round) member
  | failed round inner =>
    rw [missesFailed round.execResult] at member
    exact inner (starts side .round) member
  | _ => exact absurd member List.not_mem_nil

theorem amongExec (b : Body) : Among met these (.body b) (missesExec env call below b) :=
  fun s _ side member => (execRan env call b s).missesSatisfy starts fails calls side member

end

section
variable {rules : Rules} {origin : Nat} {task : Task} {first : Session}

def Missed (env : Setup) (rules : Rules) (depth : Nat) (task : Task) (s : Session) (m : Miss) : Prop :=
  ∃ d k t, Reached env rules depth task s d k t ∧ Fails env k t m

theorem amongInvoke (depth : Nat) (name rule : String) :
    Among (Reached env rules origin task first depth) (Missed env rules origin task first) (.body (.call name rule))
      (missesInvoke env rules depth name rule) := by
  induction depth generalizing name rule with
  | zero =>
    intro s m _ member
    simp only [missesInvoke, missesSubrule, ite_self] at member
    exact absurd member List.not_mem_nil
  | succ depth ih =>
    intro s m reached member
    simp only [missesInvoke, missesSubrule] at member
    split at member
    · rename_i runs
      obtain ⟨enters, miss⟩ := runs
      refine amongExec Reached.within (fun k s m reached fails => ⟨_, k, s, reached, fails⟩) ih _ _ m ?_ member
      exact .enter reached enters (Option.isNone_iff_eq_none.mp miss)
    · exact absurd member List.not_mem_nil

theorem memMissesExec (rules : Rules) (depth : Nat) (b : Body) (s : Session) :
    m ∈ missesExec env (invoke env rules depth) (missesInvoke env rules depth) b s ↔
      Missed env rules depth (.body b) s m := by
  constructor
  · exact amongExec Reached.within (fun k s m reached fails => ⟨_, k, s, reached, fails⟩)
      (amongInvoke depth) b s m .start
  · rintro ⟨d, k, t, reached, token, goal, rfl, failed, told⟩
    exact reached.missesAmong (memMissesConsume.mpr ⟨token, goal, rfl, failed, told⟩)

end
end Packrat.Session

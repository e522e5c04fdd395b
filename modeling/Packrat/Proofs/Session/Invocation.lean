import Packrat.Proofs.Session.View

/-! What invoking a rule comes to. It is refused, answered from the cache, or run: a frame is
opened, the body runs in it, and the frame is closed. Everything proved about rules starts
from this distinction. -/
namespace Packrat

namespace Cache

variable {Key Value : Type} [DecidableEq Key]

theorem findListed {c : Cache Key Value} {key : Key} {value : Value} (h : c.find? key = some value) :
    (key, value) ∈ c.entries := by
  unfold find? at h
  cases found : c.entries.find? (fun e => e.1 = key) with
  | none => simp [found] at h
  | some e =>
    have same := List.find?_some found
    have present := List.mem_of_find?_eq_some found
    simp only [found, Option.map_some, Option.some.injEq] at h
    simp only [decide_eq_true_eq] at same
    obtain ⟨k, v⟩ := e
    simp only at same h
    rw [same, h] at present
    exact present

theorem memGet {c : Cache Key Value} {key : Key} {e : Key × Value} (h : e ∈ (c.get key).2.entries) :
    e ∈ c.entries := by
  unfold get at h
  split at h
  · rename_i value found
    rcases List.mem_cons.mp h with rfl | h
    · exact findListed found
    · exact (List.mem_filter.mp h).1
  · exact h

theorem memInsert {c : Cache Key Value} {key : Key} {value : Value} {e : Key × Value}
    (h : e ∈ (c.insert key value).entries) : e = (key, value) ∨ e ∈ c.entries := by
  unfold insert at h
  split at h
  · rcases List.mem_cons.mp h with rfl | h
    · exact .inl rfl
    · exact .inr (List.mem_filter.mp h).1
  · split at h
    · exact (List.mem_cons.mp h)
    · rcases List.mem_cons.mp h with rfl | h
      · exact .inl rfl
      · exact .inr (List.dropLast_subset _ h)

end Cache

def Memo.recoveries : Memo → List Recovery
  | .success _ _ _ attempt => attempt.recoveries
  | .failure attempt => attempt.recoveries

namespace Session

def here (s : Session) (name : String) : String × Nat := (name, s.state.offset)

def opened (env : Setup) (name : String) (s : Session) (memo : Cache MemoKey Memo) : Session :=
  openRule env name { s with active := s.here name :: s.active, memo := memo }

def closed (env : Setup) (name : String) (s : Session) (r : Verdict × Session) : Verdict × Session :=
  let after := runFresh env name (fun _ => r) { s with active := s.here name :: s.active }
  (after.1, { after.2 with active := after.2.active.erase (s.here name) })

theorem openedAsUpdate (env : Setup) (name : String) (s : Session) (memo : Cache MemoKey Memo) :
    ∃ log, opened env name s memo = { s with
      active := s.here name :: s.active
      memo := memo
      highWater := s.state.offset
      furthest := {}
      ruleStack := s.here name :: s.ruleStack
      frames := [] :: s.frames
      log := log } := by
  obtain ⟨log, eq⟩ := traceChangesLog env "enter" name ({ s with
    active := s.here name :: s.active
    memo := memo
    highWater := s.state.offset
    furthest := {}
    ruleStack := s.here name :: s.ruleStack
    frames := [] :: s.frames } : Session)
  exact ⟨log, eq⟩

theorem openedView (env : Setup) (name : String) (s : Session) (memo : Cache MemoKey Memo) :
    (opened env name s memo).view = ⟨s.state, [] :: s.levels, s.here name :: s.ruleStack,
      s.here name :: s.active, s.tokens, s.recoveries⟩ := by
  obtain ⟨log, eq⟩ := openedAsUpdate env name s memo
  rw [eq]
  rfl

section
variable (env : Setup) (name : String) (s : Session) (memo : Cache MemoKey Memo)

theorem openedState : (opened env name s memo).state = s.state := congrArg View.state (openedView env name s memo)

theorem openedRuleStack : (opened env name s memo).ruleStack = s.here name :: s.ruleStack :=
  congrArg View.ruleStack (openedView env name s memo)

theorem openedTokens : (opened env name s memo).tokens = s.tokens :=
  congrArg View.tokens (openedView env name s memo)

theorem openedRecoveries : (opened env name s memo).recoveries = s.recoveries :=
  congrArg View.recoveries (openedView env name s memo)

end

def successOf (name : String) (s t : Session) : Memo :=
  .success t.state (Tree.ofRule name t.children s.state.offset s.state.position)
    ((t.tokens.take t.state.tokenIndex).drop s.state.tokenIndex)
    ⟨t.highWater, t.furthest.relativeTo s.ruleStack.length, t.recoveries.drop s.recoveries.length⟩

def failureOf (s t : Session) : Memo :=
  .failure ⟨t.highWater, t.furthest.relativeTo s.ruleStack.length, []⟩

def remembering (env : Setup) (cache : Cache MemoKey Memo) (key : MemoKey) (memo : Memo) :
    Cache MemoKey Memo :=
  if env.config.memoize then cache.insert key memo else cache

theorem memRemembering {env : Setup} {cache : Cache MemoKey Memo} {key : MemoKey} {memo : Memo} {e : MemoKey × Memo}
    (h : e ∈ (remembering env cache key memo).entries) : e = (key, memo) ∨ e ∈ cache.entries := by
  unfold remembering at h
  split at h
  · exact Cache.memInsert h
  · exact .inr h

theorem closedOk (env : Setup) (name : String) (s t : Session) (inFrame : t.frames ≠ []) :
    ∃ stats log, closed env name s (.ok, t) = (.ok, ({ t with
      frames := t.frames.tail
      ruleStack := t.ruleStack.tail
      active := t.active.erase (s.here name)
      highWater := max s.highWater t.highWater
      furthest := s.furthest.merge t.furthest
      memo := remembering env t.memo (MemoKey.of name s.state) (successOf name s t)
      stats := stats
      log := log } : Session).pushChild
        (Tree.ofRule name t.children s.state.offset s.state.position)) := by
  obtain ⟨frame, outer, frames⟩ := List.exists_cons_of_ne_nil inFrame
  have head : t.children = t.frames.head?.getD [] := by simp [children, frames]
  obtain ⟨log, traced⟩ := traceChangesLog env "match" name { t with frames := t.frames.tail }
  refine ⟨{ t.stats with nodesCreated := t.stats.nodesCreated + 1 }, log, ?_⟩
  simp only [closed, runFresh, closeRule, if_true, traced, remember, remembering, successOf, head]
  cases memoize : env.config.memoize <;> cases outer <;>
    simp [pushChild, setChildren, children, frames]

theorem closedOkRecoveries (env : Setup) (name : String) (s t : Session) :
    (closed env name s (.ok, t)).2.recoveries = t.recoveries := by
  obtain ⟨log, traced⟩ := traceChangesLog env "match" name { t with frames := t.frames.tail }
  simp only [closed, runFresh, closeRule, if_true, traced, remember]
  cases env.config.memoize <;> exact pushChildRecoveries _ _

theorem closedOkMemo (env : Setup) (name : String) (s t : Session) : ∃ memo,
    (closed env name s (.ok, t)).2.memo = remembering env t.memo (MemoKey.of name s.state) memo ∧
      memo.recoveries = t.recoveries.drop s.recoveries.length := by
  obtain ⟨log, traced⟩ := traceChangesLog env "match" name { t with frames := t.frames.tail }
  refine ⟨.success t.state (Tree.ofRule name (t.frames.head?.getD []) s.state.offset s.state.position)
    ((t.tokens.take t.state.tokenIndex).drop s.state.tokenIndex)
    ⟨t.highWater, t.furthest.relativeTo s.ruleStack.length, t.recoveries.drop s.recoveries.length⟩, ?_, rfl⟩
  simp only [closed, runFresh, closeRule, if_true, traced, remember, remembering]
  cases env.config.memoize <;> exact pushChildMemo _ _

theorem closedMismatch (env : Setup) (name : String) (s t : Session) :
    ∃ log, closed env name s (.mismatch, t) = (.mismatch, { t with
      state := s.state
      frames := t.frames.tail
      ruleStack := t.ruleStack.tail
      active := t.active.erase (s.here name)
      highWater := max s.highWater t.highWater
      furthest := s.furthest.merge t.furthest
      recoveries := t.recoveries.take s.recoveries.length
      memo := remembering env t.memo (MemoKey.of name s.state) (failureOf s t)
      log := log }) := by
  obtain ⟨log, traced⟩ := traceChangesLog env "fail" name { t with frames := t.frames.tail }
  refine ⟨log, ?_⟩
  simp only [closed, runFresh, closeRule, reduceCtorEq, if_false, traced, remember, remembering, failureOf]
  cases memoize : env.config.memoize <;> rfl

theorem closedFatal (env : Setup) (name : String) (s t : Session) (error : ParseError) :
    ∃ log, closed env name s (.fatal error, t) = (.fatal error, { t with
      state := s.state
      frames := t.frames.tail
      ruleStack := t.ruleStack.tail
      active := t.active.erase (s.here name)
      highWater := max s.highWater t.highWater
      furthest := s.furthest.merge t.furthest
      recoveries := t.recoveries.take s.recoveries.length
      log := log }) := by
  obtain ⟨log, traced⟩ := traceChangesLog env "fail" name { t with frames := t.frames.tail }
  refine ⟨log, ?_⟩
  simp only [closed, runFresh, closeRule, reduceCtorEq, if_false, traced]

def remembered (env : Setup) (name : String) (s : Session) : Option Memo :=
  if env.config.memoize then s.memo.find? (MemoKey.of name s.state) else none

theorem rememberedMem {env : Setup} {name : String} {s : Session} {memo : Memo}
    (found : s.remembered env name = Option.some memo) :
    env.config.memoize ∧ (MemoKey.of name s.state, memo) ∈ s.memo.entries := by
  unfold remembered at found
  split at found
  · rename_i memoize
    exact ⟨memoize, Cache.findListed found⟩
  · contradiction

def asked (env : Setup) (name : String) (s : Session) : Cache MemoKey Memo :=
  if env.config.memoize then (s.memo.get (MemoKey.of name s.state)).2 else s.memo

theorem askedEntries {env : Setup} {name : String} {s : Session} (miss : s.remembered env name = none) :
    (s.asked env name).entries = s.memo.entries := by
  unfold remembered at miss
  unfold asked
  split
  · rename_i memoize
    rw [if_pos memoize] at miss
    simp [Cache.get, miss]
  · rfl

def Enters (env : Setup) (name : String) (s : Session) : Prop :=
  ¬ s.active.contains (s.here name) ∧ s.ruleStack.length < env.config.maxRuleDepth

theorem subruleOpen {env : Setup} {name : String} {s : Session} (body : Action)
    (isOpen : s.active.contains (s.here name)) :
    subrule env name body s = (.fatal (s.leftRecursion name), s) := by
  simp only [subrule]
  exact if_pos isOpen

theorem subruleDeep {env : Setup} {name : String} {s : Session} (body : Action)
    (notOpen : ¬ s.active.contains (s.here name)) (deep : env.config.maxRuleDepth ≤ s.ruleStack.length) :
    subrule env name body s = (.fatal (s.recursionLimit env name), s) := by
  simp only [subrule]
  exact (if_neg notOpen).trans (if_pos deep)

theorem subruleEntered {env : Setup} {name : String} {s : Session} (body : Action)
    (enters : s.Enters env name) {r : Verdict × Session}
    (ran : runRule env name body { s with active := s.here name :: s.active } = r) :
    subrule env name body s = (r.1, { r.2 with active := r.2.active.erase (s.here name) }) := by
  rw [← ran]
  simp only [subrule]
  exact (if_neg enters.1).trans (if_neg (Nat.not_le.mpr enters.2))

theorem replayRecoveries (s : Session) (memo : Memo) :
    (s.replay memo).2.recoveries = s.recoveries ++ memo.recoveries := by
  cases memo with
  | success stop node tokens attempt => exact pushChildRecoveries _ node
  | failure attempt => rfl

theorem replayMemo (s : Session) (memo : Memo) : (s.replay memo).2.memo = s.memo := by
  cases memo with
  | success stop node tokens attempt => exact pushChildMemo _ node
  | failure attempt => rfl

theorem replayActive (s : Session) (here : String × Nat) (memo : Memo) :
    ((replay { s with active := here :: s.active } memo).1,
      { (replay { s with active := here :: s.active } memo).2 with
        active := (replay { s with active := here :: s.active } memo).2.active.erase here }) =
      replay s memo := by
  cases memo with
  | success stop node tokens attempt =>
    simp only [replay, replayAttempt, pushChild, setChildren, children]
    cases s.frames <;> simp [path]
  | failure attempt => simp [replay, replayAttempt, path]

theorem askedSubset {env : Setup} {name : String} {s : Session} :
    ∀ e ∈ (s.asked env name).entries, e ∈ s.memo.entries := by
  intro e member
  unfold asked at member
  split at member
  · exact Cache.memGet member
  · exact member

def answering (env : Setup) (name : String) (s : Session) : Session :=
  { s with
    memo := s.asked env name
    log := ⟨.trace, "memo hit " ++ name ++ " @" ++ toString s.state.offset⟩ :: s.log }

theorem subruleAnswered {env : Setup} {name : String} {s : Session} {memo : Memo} (body : Action)
    (enters : s.Enters env name) (hit : s.remembered env name = .some memo) :
    subrule env name body s = (s.answering env name).replay memo := by
  unfold remembered at hit
  split at hit
  · rename_i memoize
    have asked : s.memo.get (MemoKey.of name s.state) = (.some memo, s.asked env name) := by
      rw [Session.asked, if_pos memoize]
      simp [Cache.get, hit]
    have ran : runRule env name body { s with active := s.here name :: s.active } =
        replay { s.answering env name with active := s.here name :: s.active } memo := by
      simp only [runRule, memoize, if_true]
      rw [asked]
      rfl
    exact (subruleEntered body enters ran).trans (replayActive (s.answering env name) (s.here name) memo)
  · contradiction

theorem subruleHit {env : Setup} {name : String} {s : Session} {memo : Memo} (body : Action)
    (enters : s.Enters env name) (hit : s.remembered env name = .some memo) :
    ∃ log cache, (∀ e ∈ cache.entries, e ∈ s.memo.entries) ∧
      subrule env name body s = replay { s with memo := cache, log := log } memo :=
  ⟨_, _, askedSubset, subruleAnswered body enters hit⟩

theorem subruleFresh {env : Setup} {name : String} {s : Session} (body : Action)
    (enters : s.Enters env name) (miss : s.remembered env name = none) :
    subrule env name body s = closed env name s (body (opened env name s (s.asked env name))) := by
  rw [subruleEntered body enters rfl]
  unfold remembered at miss
  unfold asked
  cases memoize : env.config.memoize with
  | true =>
    rw [memoize, if_pos rfl] at miss
    have asked : s.memo.get (MemoKey.of name s.state) = (none, { s.memo with misses := s.memo.misses + 1 }) := by
      simp [Cache.get, miss]
    simp only [runRule, memoize, if_true]
    rw [asked]
    rfl
  | false =>
    simp only [runRule, memoize]
    rfl

theorem subruleCases (env : Setup) (name : String) (body : Action) (s : Session) :
    (s.active.contains (s.here name) ∧ subrule env name body s = (.fatal (s.leftRecursion name), s)) ∨
    (¬ s.active.contains (s.here name) ∧ env.config.maxRuleDepth ≤ s.ruleStack.length ∧
      subrule env name body s = (.fatal (s.recursionLimit env name), s)) ∨
    (∃ memo, s.Enters env name ∧ s.remembered env name = Option.some memo ∧
      subrule env name body s = (s.answering env name).replay memo) ∨
    (s.Enters env name ∧ s.remembered env name = none ∧
      subrule env name body s = closed env name s (body (opened env name s (s.asked env name)))) := by
  by_cases isOpen : s.active.contains (s.here name)
  · exact .inl ⟨isOpen, subruleOpen body isOpen⟩
  · by_cases deep : env.config.maxRuleDepth ≤ s.ruleStack.length
    · exact .inr (.inl ⟨isOpen, deep, subruleDeep body isOpen deep⟩)
    · have enters : s.Enters env name := ⟨isOpen, Nat.not_le.mp deep⟩
      cases asked : s.remembered env name with
      | some memo => exact .inr (.inr (.inl ⟨memo, enters, rfl, subruleAnswered body enters asked⟩))
      | none => exact .inr (.inr (.inr ⟨enters, rfl, subruleFresh body enters asked⟩))

end Session
end Packrat

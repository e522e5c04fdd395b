import Packrat.Proofs.Session.Missing
import Packrat.Proofs.Undo

/-! The failures that a session and its cache hold. What joining and nesting failures keep, and is true of each
token that is missed, is true of all of them. -/
namespace Packrat

def Memo.attempt : Memo → Attempt
  | .success _ _ _ attempt => attempt
  | .failure attempt => attempt

structure Failure.Lasting (P : Failure → Prop) (read : Scan → Prop) : Prop where
  empty : P {}
  merge : ∀ {f g : Failure}, P f → P g → P (f.merge g)
  rootedAt : ∀ {f : Failure} stack, P f → P (f.rootedAt stack)
  cut : ∀ {f : Failure} depth, P f → P (f.relativeTo depth)
  missed : ∀ {found : Scan} name, read found → P (({} : Failure).expecting name found [])

theorem Failure.Lasting.afterExpecting {P : Failure → Prop} {read : Scan → Prop} (lasting : Lasting P read)
    {f : Failure}
    (h : P f) {found : Scan} (told : read found) (name : String) (stack : List String) :
    P (f.expecting name found stack) := by
  rw [expectingAsMerge]
  exact lasting.merge h (lasting.rootedAt stack (lasting.missed name told))

theorem Failure.properLasting : Lasting Proper fun _ => True where
  empty := emptyProper
  merge := fun hf _ => hf.mergeProper _
  rootedAt := fun stack h => h.rootedAt stack
  cut := fun depth h => h.relativeProper depth
  missed := fun name _ => expectingProper name _ []

namespace Session

structure Records (P : Failure → Prop) (s : Session) : Prop where
  furthest : P s.furthest
  memo : ∀ e ∈ s.memo.entries, P e.2.attempt.failure

structure Recorded (s : Session) : Prop where
  furthest : s.furthest.Proper
  memo : ∀ e ∈ s.memo.entries, e.2.attempt.failure.Proper

def Invariant.recording (base : Invariant) (P : Failure → Prop) : Invariant :=
  ⟨fun s => base.holds s ∧ s.Records P, base.along⟩

variable {env : Setup} {s t : Session} {P : Failure → Prop} {read : Scan → Prop}

theorem Records.sameMemo (h : s.Records P) (furthest : t.furthest = s.furthest) (memo : t.memo = s.memo) :
    t.Records P :=
  ⟨furthest ▸ h.furthest, memo ▸ h.memo⟩

theorem Records.afterRemembering (h : s.Records P) (key : MemoKey) {memo : Memo} (told : P memo.attempt.failure) :
    (s.remember env key memo).Records P := by
  unfold Session.remember
  split
  · refine ⟨h.furthest, fun e member => ?_⟩
    rcases Cache.memInsert member with rfl | old
    · exact told
    · exact h.memo e old
  · exact h

theorem recordsRecover (failure : Failure) (h : s.Records P) : (s.recover env failure).2.Records P :=
  have furthest : (s.recover env failure).2.furthest = s.furthest :=
    congrArg (·.2.furthest) (failingRecover s s.furthest env failure)
  h.sameMemo furthest (recoverMemo env failure s)

section
variable (lasting : Failure.Lasting P read)
include lasting

theorem recordsConsume (reads : ∀ goal, read (s.scan env goal).1) (token : String) (goal : Goal) (h : s.Records P) :
    (consume env token goal s).2.Records P := by
  have told := reads goal
  obtain ⟨found, scans, scan⟩ := scanChangesScans env goal s
  rw [scan] at told
  have missed : P (s.furthest.expecting token found s.path) := lasting.afterExpecting h.furthest told token s.path
  simp only [consume, scan]
  cases found with
  | token t next =>
    simp only
    split
    · exact h.sameMemo (pushChildFurthest _ _) (pushChildMemo _ _)
    · exact ⟨missed, h.memo⟩
  | ended cursor => exact ⟨missed, h.memo⟩
  | unrecognized cursor c => exact ⟨missed, h.memo⟩

theorem recordsClosed {name : String} (verdict : Verdict) (h : s.Records P) (inner : t.Records P) :
    (closed env name s (verdict, t)).2.Records P := by
  obtain ⟨log, traced⟩ := traceChangesLog env
    (if verdict = .ok then "match" else "fail") name { t with frames := t.frames.tail }
  have left : ∀ {u : Session}, u.Records P → ({ u with active := u.active.erase (s.here name) } : Session).Records P :=
    fun h => ⟨h.furthest, h.memo⟩
  have joined : P (s.furthest.merge t.furthest) := lasting.merge h.furthest inner.furthest
  have kept : P (t.furthest.relativeTo s.ruleStack.length) := lasting.cut _ inner.furthest
  simp only [closed, runFresh, closeRule, traced]
  cases verdict with
  | ok =>
    refine left ((Records.afterRemembering ?_ _ ?_).sameMemo (pushChildFurthest _ _) (pushChildMemo _ _))
    · exact ⟨joined, inner.memo⟩
    · exact kept
  | mismatch =>
    refine left (Records.afterRemembering ?_ _ ?_)
    · exact ⟨joined, inner.memo⟩
    · exact kept
  | fatal error => exact ⟨joined, inner.memo⟩

theorem recordsReplay (h : s.Records P) (memo : Memo) (known : P memo.attempt.failure) :
    (s.replay memo).2.Records P := by
  have merged : P (s.furthest.merge (memo.attempt.failure.rootedAt s.path)) :=
    lasting.merge h.furthest (lasting.rootedAt _ known)
  cases memo with
  | success stop node tokens attempt =>
    refine Records.sameMemo (s := replayAttempt _ attempt) ?_ (pushChildFurthest _ _) (pushChildMemo _ _)
    exact ⟨merged, h.memo⟩
  | failure attempt => exact ⟨merged, h.memo⟩

theorem Invariant.Kept.recordingKept {base : Invariant} (kept : base.Kept env)
    (reads : ∀ {s}, base.holds s → ∀ goal, read (s.scan env goal).1) : (base.recording P).Kept env where
  refl := kept.refl
  trans := kept.trans
  scan := by
    rintro s goal ⟨holds, h⟩
    obtain ⟨after, along⟩ := kept.scan goal holds
    obtain ⟨found, scans, scan⟩ := scanChangesScans env goal s
    rw [scan] at after along ⊢
    exact ⟨⟨after, h.furthest, h.memo⟩, along⟩
  consume := by
    rintro s token goal ⟨holds, h⟩
    obtain ⟨after, along⟩ := kept.consume token goal holds
    exact ⟨⟨after, recordsConsume lasting (reads holds) token goal h⟩, along⟩
  recover := by
    rintro s failure ⟨holds, h⟩
    obtain ⟨after, along⟩ := kept.recover failure holds
    exact ⟨⟨after, recordsRecover failure h⟩, along⟩
  rewound := by
    rintro s t ⟨holds, _⟩ ⟨⟨inner, h⟩, step⟩
    obtain ⟨after, along⟩ := kept.rewound holds ⟨inner, step⟩
    exact ⟨⟨after, h.sameMemo (rewindFurthest _ _) (rewindMemo _ _)⟩, along⟩
  isolated := fun ⟨holds, h⟩ => ⟨kept.isolated holds, lasting.empty, h.memo⟩
  rejoined := by
    rintro s t ⟨holds, h⟩ ⟨⟨inner, held⟩, step⟩
    obtain ⟨after, along⟩ := kept.rejoined holds ⟨inner, step⟩
    exact ⟨⟨after, lasting.merge h.furthest held.furthest, held.memo⟩, along⟩
  opened := by
    rintro s name ⟨holds, h⟩ miss
    refine ⟨kept.opened holds miss, ?_⟩
    obtain ⟨log, eq⟩ := openedAsUpdate env name s (s.asked env name)
    rw [eq]
    exact ⟨lasting.empty, fun e member => h.memo e (askedEntries miss ▸ member)⟩
  closed := by
    rintro s t name verdict ⟨holds, h⟩ ⟨⟨inner, held⟩, step⟩
    obtain ⟨after, along⟩ := kept.closed verdict holds ⟨inner, step⟩
    exact ⟨⟨after, recordsClosed lasting verdict h held⟩, along⟩
  skipToken := by
    rintro s t token next ⟨holds, h⟩ found
    obtain ⟨after, along⟩ := kept.skipToken holds found
    obtain ⟨_, scans, scan⟩ := scanChangesScans env defaultGoal s
    cases scan.symm.trans found
    exact ⟨⟨after, h.furthest, h.memo⟩, along⟩
  skipUnknown := by
    rintro s t cursor c ⟨holds, h⟩ found
    obtain ⟨after, along⟩ := kept.skipUnknown holds found
    obtain ⟨_, scans, scan⟩ := scanChangesScans env defaultGoal s
    cases scan.symm.trans found
    exact ⟨⟨after, h.furthest, h.memo⟩, along⟩

theorem recordsAnswer {rules : Rules} {depth : Nat} {task : Task} {first : Session} {name : String} {memo : Memo}
    (answers : Answers env rules depth task first name s memo) (h : s.Records P) (cache : Cache MemoKey Memo)
    (log : List Message) (subset : ∀ e ∈ cache.entries, e ∈ s.memo.entries) :
    (({ s with memo := cache, log := log } : Session).replay memo).2.Records P := by
  have known : ({ s with memo := cache, log := log } : Session).Records P :=
    ⟨h.furthest, fun e member => h.memo e (subset e member)⟩
  exact recordsReplay lasting known memo (h.memo _ answers.memoStored)

end

def unconcerned : Invariant := ⟨fun _ => True, fun _ _ => True⟩

theorem unconcernedKept (env : Setup) : unconcerned.Kept env where
  refl := fun _ => trivial
  trans := fun _ _ => trivial
  scan := fun _ _ => ⟨trivial, trivial⟩
  consume := fun _ _ _ => ⟨trivial, trivial⟩
  recover := fun _ _ => ⟨trivial, trivial⟩
  rewound := fun _ _ => ⟨trivial, trivial⟩
  isolated := fun _ => trivial
  rejoined := fun _ _ => ⟨trivial, trivial⟩
  opened := fun _ _ => trivial
  closed := fun _ _ _ => ⟨trivial, trivial⟩
  skipToken := fun _ _ => ⟨trivial, trivial⟩
  skipUnknown := fun _ _ => ⟨trivial, trivial⟩

theorem recordedReset (s : Session) : s.reset.Recorded := ⟨Failure.emptyProper, fun _ member => nomatch member⟩

theorem Recorded.throughPasses {rules : Rules} {depth : Nat} {task : Task} (h : s.Recorded)
    (passes : Passes env rules depth task s t) : t.Recorded := by
  have kept := (unconcernedKept env).recordingKept Failure.properLasting fun _ _ => trivial
  obtain ⟨_, after⟩ := kept.holdsInPasses (fun answers h cache log subset =>
    ⟨⟨trivial, recordsAnswer Failure.properLasting answers h.2 cache log subset⟩, trivial⟩)
    ⟨trivial, h.furthest, h.memo⟩ passes
  exact ⟨after.furthest, after.memo⟩

theorem Recorded.whenFinished (h : s.Recorded) : (finish env s).2.Recorded := by
  obtain ⟨found, scans, scan⟩ := scanChangesScans env defaultGoal s
  obtain ⟨root, furthest, tokens, left, merged, _⟩ := finishSession env s
  rw [left, scan]
  refine ⟨?_, h.memo⟩
  rcases merged with rfl | ⟨failure, rfl⟩
  · exact h.furthest
  · exact h.furthest.mergeProper failure

theorem recordedDurable (source : List Char) : Durable source fun _ s => s.Recorded where
  new := fun _ => ⟨Failure.emptyProper, fun _ member => nomatch member⟩
  reset := fun {_ s} _ => recordedReset s
  passes := Recorded.throughPasses
  finished := Recorded.whenFinished
  told := fun h _ _ => ⟨h.furthest, h.memo⟩
  configured := fun h _ => h
  resized := fun h _ => ⟨h.furthest, fun e member => h.memo e (List.mem_of_mem_take member)⟩

end Session

theorem Parser.Reachable.isRecorded {source : String} {definitions : List Definition} {p : Parser}
    (reachable : Reachable source definitions p) : p.session.Recorded :=
  reachable.durableHolds (Session.recordedDurable _)

end Packrat

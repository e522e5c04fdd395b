import Packrat.Proofs.Session.Spelling

/-! Nodes one behind the other. Whatever is appended to the tree leads from the offset before it to the offset
behind it; a node around nothing stands where its rule was entered. -/
namespace Packrat

inductive Tree.Around (children : List Tree) (offset : Nat) : Tree → Prop where
  | rule (name : String) (position : LineCol) : Around children offset (.ofRule name children offset position)
  | error (message : String) (position : LineCol) : Around children offset (.ofError message children offset position)

inductive Arranged (source : List Char) : Nat → List Tree → Nat → Prop where
  | nil {n} : Arranged source n [] n
  | token {m gap t n rest k} (behind : t.Behind source m gap n) (later : Arranged source n rest k) :
      Arranged source m (.ofToken t :: rest) k
  | node {m children t n rest k} (around : t.Around children m) (inner : Arranged source m children n)
      (later : Arranged source n rest k) : Arranged source m (t :: rest) k

theorem Arranged.thenArranged {source : List Char} {m n k : Nat} {nodes more : List Tree}
    (first : Arranged source m nodes n) (later : Arranged source n more k) : Arranged source m (nodes ++ more) k := by
  induction first with
  | nil => exact later
  | token behind _ ih => exact .token behind (ih later)
  | node around inner _ _ ih => exact .node around inner (ih later)

def Memo.Stands (env : Setup) (key : MemoKey) : Memo → Prop
  | .success stop node _ _ => Arranged env.source key.offset [node] stop.offset
  | .failure _ => True

namespace Session

structure Arranges (env : Setup) (s : Session) (nodes : List Tree) (t : Session) : Prop where
  levels : t.levels = (s.children ++ nodes) :: s.levels.tail
  arranged : Arranged env.source s.state.offset nodes t.state.offset

def arranging (env : Setup) : Invariant :=
  ⟨fun s => s.Sound env ∧ ∀ e ∈ s.memo.entries, e.2.Stands env e.1,
    fun s t => (growing env).along s t ∧ ∃ nodes, s.Arranges env nodes t⟩

variable {env : Setup} {s t u : Session} {nodes more : List Tree}

theorem Arranges.trans (st : s.Arranges env nodes t) (tu : t.Arranges env more u) :
    s.Arranges env (nodes ++ more) u := by
  obtain ⟨children, outer⟩ := childrenOfLevels st.levels
  refine ⟨?_, st.arranged.thenArranged tu.arranged⟩
  rw [tu.levels, children, outer, List.append_assoc]

theorem Arranges.ofNothing (state : t.state = s.state) (levels : t.levels = s.levels) : s.Arranges env [] t := by
  refine ⟨?_, by rw [state]; exact .nil⟩
  rw [levels, List.append_nil]
  exact s.levelsByChildren

theorem Returned.arrangesNothing (h : s.Returned t) : s.Arranges env [] t := .ofNothing h.state h.levels

theorem Arranges.afterPush {node : Tree} (levels : t.levels = s.levels)
    (arranged : Arranged env.source s.state.offset [node] t.state.offset) : s.Arranges env [node] (t.pushChild node) :=
  ⟨pushChildLevels levels node, by rw [pushChildState]; exact arranged⟩

theorem arrangesConsume (token : String) (goal : Goal) (h : s.Sound env) :
    ∃ nodes, s.Arranges env nodes (consume env token goal s).2 := by
  obtain ⟨found, scans, scan, ⟨cursor, offset, _, read⟩, _⟩ := h.afterScan goal
  simp only [consume, scan]
  cases found with
  | token t next =>
    simp only
    split
    · obtain ⟨gap, behind, _⟩ := Setup.tokenBehind read.symm
      rw [show cursor.offset = s.state.offset from offset] at behind
      exact ⟨[.ofToken t], .afterPush rfl (.token behind .nil)⟩
    · exact ⟨[], .ofNothing rfl rfl⟩
  | ended cursor => exact ⟨[], .ofNothing rfl rfl⟩
  | unrecognized cursor c => exact ⟨[], .ofNothing rfl rfl⟩

theorem skipArranged (fuel : Nat) (h : s.Sound env) :
    Arranged env.source s.state.offset (s.skip env fuel).1 (s.skip env fuel).2.state.offset := by
  induction fuel generalizing s with
  | zero => exact .nil
  | succ fuel ih =>
    obtain ⟨found, scans, scan, read, sound⟩ := h.afterScan defaultGoal
    have within := read.isWithin
    obtain ⟨cursor, offset, _, read⟩ := read
    have here : cursor.offset = s.state.offset := offset
    simp only [skip, scan]
    cases found with
    | token t next =>
      obtain ⟨_, _, _, inside, _⟩ := within
      obtain ⟨gap, behind, _⟩ := Setup.tokenBehind read.symm
      rw [here] at behind
      simp only
      split
      · exact .token behind .nil
      · exact .token behind (ih (sound.afterCommit t inside))
    | ended cursor => exact .nil
    | unrecognized stop c =>
      obtain ⟨gap, behind⟩ := Setup.unrecognizedBehind read.symm
      rw [here] at behind
      exact .token behind (ih (sound.afterCommit _ (unrecognizedOffset stop c ▸ within.2)))

theorem arrangesRecover (failure : Failure) (h : s.Sound env) :
    ∃ nodes, s.Arranges env nodes (s.recover env failure).2 := by
  have skipped := skipArranged (env.source.length + 1) h
  obtain ⟨levels, _, _⟩ := skipQuiet env (env.source.length + 1) s
  unfold recover
  split
  · exact ⟨[], .ofNothing rfl rfl⟩
  · cases ran : s.skip env (env.source.length + 1) with
    | mk nodes t =>
      rw [ran] at skipped levels
      simp only
      split
      · rename_i empty
        obtain rfl := List.isEmpty_iff.mp empty
        exact ⟨[], (List.append_nil _).symm ▸ levels.trans s.levelsByChildren, skipped⟩
      · refine ⟨_, Arranges.afterPush ?_ (.node (.error _ s.state.position) skipped .nil)⟩
        exact levels

theorem arrangesClosed {name : String} (verdict : Verdict) (h : (arranging env).holds s)
    (step : (arranging env).Step (opened env name s (s.asked env name)) t) :
    (arranging env).Step s (closed env name s (verdict, t)).2 := by
  obtain ⟨sound, _⟩ := h
  obtain ⟨⟨sound', memo⟩, ⟨g, grows⟩, nodes, arranges⟩ := step
  obtain ⟨after, along⟩ := growsClosed verdict sound ⟨sound', g, grows⟩
  have framed := grows.framedByRule
  have inner : Arranged env.source s.state.offset t.children t.state.offset := by
    obtain ⟨log, eq⟩ := openedAsUpdate env name s (s.asked env name)
    rw [eq] at arranges
    rw [(childrenOfLevels arranges.levels).1]
    exact arranges.arranged
  suffices (∀ e ∈ (closed env name s (verdict, t)).2.memo.entries, e.2.Stands env e.1) ∧
      ∃ nodes, s.Arranges env nodes (closed env name s (verdict, t)).2 from ⟨⟨after, this.1⟩, along, this.2⟩
  cases verdict with
  | ok =>
    obtain ⟨stats, log, eq⟩ := closedOk env name s t framed.inFrame
    rw [eq]
    refine ⟨fun e member => ?_, _, Arranges.afterPush ?_ (.node (.rule name s.state.position) inner .nil)⟩
    · rw [pushChildMemo] at member
      rcases memRemembering member with rfl | old
      · exact .node (.rule name s.state.position) inner .nil
      · exact memo e old
    · exact framed.outer
  | mismatch =>
    obtain ⟨log, eq⟩ := closedMismatch env name s t
    rw [eq]
    refine ⟨fun e member => ?_, [], .ofNothing rfl framed.outer⟩
    rcases memRemembering member with rfl | old
    · trivial
    · exact memo e old
  | fatal error =>
    obtain ⟨log, eq⟩ := closedFatal env name s t error
    rw [eq]
    exact ⟨memo, [], .ofNothing rfl framed.outer⟩

theorem arrangingUpheld (env : Setup) : (arranging env).Upheld env where
  refl := fun s => ⟨(growingUpheld env).refl s, [], .ofNothing rfl rfl⟩
  trans := by
    rintro s t u ⟨st, _, first⟩ ⟨tu, _, later⟩
    exact ⟨(growingUpheld env).trans st tu, _, first.trans later⟩
  scan := by
    rintro s goal ⟨sound, memo⟩
    obtain ⟨sound', grows⟩ := (growingUpheld env).scan goal sound
    obtain ⟨found, scans, scan⟩ := scanChangesScans env goal s
    rw [scan] at sound' grows ⊢
    exact ⟨⟨sound', memo⟩, grows, [], .ofNothing rfl rfl⟩
  consume := by
    rintro s token goal ⟨sound, memo⟩
    obtain ⟨sound', grows⟩ := growsConsume token goal sound
    exact ⟨⟨sound', consumeMemo env token goal s ▸ memo⟩, grows, arrangesConsume token goal sound⟩
  recover := by
    rintro s failure ⟨sound, memo⟩
    obtain ⟨sound', grows⟩ := growsRecover failure sound
    exact ⟨⟨sound', recoverMemo env failure s ▸ memo⟩, grows, arrangesRecover failure sound⟩
  rewound := by
    rintro s t ⟨sound, _⟩ ⟨⟨sound', memo⟩, ⟨g, grows⟩, _⟩
    obtain ⟨after, along⟩ := growsRewound sound ⟨sound', g, grows⟩
    exact ⟨⟨after, rewindMemo t s.mark ▸ memo⟩, along, [], (grows.returnedByRewind sound).arrangesNothing⟩
  isolated := fun h => ⟨(growingUpheld env).isolated h.1, h.2⟩
  rejoined := by
    rintro s t ⟨sound, _⟩ ⟨⟨sound', memo⟩, grows, nodes, arranges⟩
    obtain ⟨after, along⟩ := (growingUpheld env).rejoined sound ⟨sound', grows⟩
    exact ⟨⟨after, memo⟩, along, nodes, arranges.levels, arranges.arranged⟩
  opened := by
    rintro s name ⟨sound, memo⟩ miss
    refine ⟨sound.whenOpened miss, ?_⟩
    obtain ⟨log, eq⟩ := openedAsUpdate env name s (s.asked env name)
    rw [eq]
    exact fun e member => memo e (askedEntries miss ▸ member)
  closed := arrangesClosed

theorem arrangesAnswer {rules : Rules} {depth : Nat} {task : Task} {first : Session} {name : String} {memo : Memo}
    (answers : Answers env rules depth task first name s memo) (h : (arranging env).holds s)
    (cache : Cache MemoKey Memo) (log : List Message) (subset : ∀ e ∈ cache.entries, e ∈ s.memo.entries) :
    (arranging env).Step s (({ s with memo := cache, log := log } : Session).replay memo).2 := by
  obtain ⟨sound, known⟩ := h
  obtain ⟨after, along⟩ := growsAnswer answers sound cache log subset
  have stands : memo.Stands env (MemoKey.of name s.state) := known _ answers.memoStored
  suffices ∃ nodes, s.Arranges env nodes (({ s with memo := cache, log := log } : Session).replay memo).2 by
    refine ⟨⟨after, fun e member => ?_⟩, along, this⟩
    rw [replayMemo] at member
    exact known e (subset e member)
  cases memo with
  | success stop node tokens attempt => exact ⟨[node], Arranges.afterPush rfl stands⟩
  | failure attempt => exact ⟨[], .ofNothing rfl rfl⟩

end Session
end Packrat

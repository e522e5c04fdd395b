import Packrat.Proofs.Position
import Packrat.Session.Run

/-! What a session shows. Most operations change a few fields of a session; seen through its
view, an operation that only scans, logs, counts or remembers changes nothing. The children
of the open rules and the nodes outside any rule are one list of levels here. -/
namespace Packrat

structure Place where
  cursor : Cursor
  prev : Option Kind
  deriving DecidableEq, Repr

namespace Place

def offset (p : Place) : Nat := p.cursor.offset

def position (p : Place) : LineCol := p.cursor.position

def read (p : Place) (env : Setup) (goal : Goal) : Scan :=
  env.lexer.readToken env.source p.cursor goal p.prev

def key (p : Place) (rule : String) : MemoKey := ⟨rule, p.offset, p.prev, p.cursor.depth⟩

def scanKey (p : Place) (goal : Goal) : ScanKey := ⟨p.offset, goal, p.prev, p.cursor.depth⟩

def state (p : Place) (index : Nat) : State :=
  ⟨p.cursor.offset, p.cursor.line, p.cursor.column, p.prev, p.cursor.depth, index⟩

def Stands (env : Setup) (p : Place) : Prop := p.cursor.Stands env.source

def Leads (p q : Place) : Prop := Ahead Place.offset p q

theorem Stands.onePlace {env : Setup} {p q : Place} (hp : p.Stands env) (hq : q.Stands env)
    (offset : p.offset = q.offset) (prev : p.prev = q.prev) (depth : p.cursor.depth = q.cursor.depth) :
    p = q := by
  have position := Cursor.Stands.onePosition hp hq offset
  obtain ⟨⟨po, pl, pc, pd⟩, pp⟩ := p
  obtain ⟨⟨qo, ql, qc, qd⟩, qp⟩ := q
  simp only [Cursor.position, LineCol.mk.injEq] at position
  simp only [Place.offset] at offset prev depth
  simp [position, offset, prev, depth]

end Place

def State.place (s : State) : Place := ⟨s.cursor, s.prev⟩

@[simp] theorem Place.stateTokenIndex (p : Place) (index : Nat) :
    (p.state index).tokenIndex = index := rfl

@[simp] theorem Place.stateOffset (p : Place) (index : Nat) : (p.state index).offset = p.offset := rfl

structure View where
  state : State
  levels : List (List Tree)
  ruleStack : List (String × Nat)
  active : List (String × Nat)
  tokens : List Token
  recoveries : List Recovery

namespace Session

def place (s : Session) : Place := s.state.place

def levels (s : Session) : List (List Tree) := s.frames ++ [s.root]

def view (s : Session) : View :=
  ⟨s.state, s.levels, s.ruleStack, s.active, s.tokens, s.recoveries⟩

theorem levelsByChildren (s : Session) : s.levels = s.children :: s.levels.tail := by
  unfold levels children
  cases s.frames <;> rfl

theorem childrenOfLevels {s : Session} {nodes : List Tree} {outer : List (List Tree)}
    (levels : s.levels = nodes :: outer) : s.children = nodes ∧ s.levels.tail = outer := by
  have := s.levelsByChildren
  rw [levels] at this
  exact ⟨(List.cons.inj this).1.symm, congrArg List.tail levels⟩

theorem frameOfLevels {s t : Session} {nodes : List Tree} (levels : t.levels = nodes :: s.levels) :
    t.frames ≠ [] ∧ t.frames.tail ++ [t.root] = s.levels := by
  cases frames : t.frames with
  | nil =>
    have length := congrArg List.length levels
    simp [Session.levels, frames] at length
  | cons frame outer =>
    rw [Session.levels, frames] at levels
    exact ⟨List.cons_ne_nil _ _, (List.cons.inj levels).2⟩

theorem levelsSetChildren (s : Session) (children : List Tree) :
    (s.setChildren children).levels = children :: s.levels.tail := by
  unfold levels setChildren
  cases s.frames <;> rfl

theorem setChildrenView (s : Session) (children : List Tree) :
    (s.setChildren children).view = { s.view with levels := children :: s.levels.tail } := by
  rw [← levelsSetChildren s children]
  unfold setChildren
  cases s.frames <;> rfl

@[simp] theorem setChildrenMemo (s : Session) (children : List Tree) :
    (s.setChildren children).memo = s.memo := by
  unfold setChildren
  cases s.frames <;> rfl

@[simp] theorem setChildrenScans (s : Session) (children : List Tree) :
    (s.setChildren children).scans = s.scans := by
  unfold setChildren
  cases s.frames <;> rfl

@[simp] theorem setChildrenFurthest (s : Session) (children : List Tree) :
    (s.setChildren children).furthest = s.furthest := by
  unfold setChildren
  cases s.frames <;> rfl

@[simp] theorem setChildrenHighWater (s : Session) (children : List Tree) :
    (s.setChildren children).highWater = s.highWater := by
  unfold setChildren
  cases s.frames <;> rfl

theorem pushChildView (s : Session) (node : Tree) :
    (s.pushChild node).view = { s.view with levels := (s.children ++ [node]) :: s.levels.tail } :=
  setChildrenView s _

@[simp] theorem pushChildMemo (s : Session) (node : Tree) : (s.pushChild node).memo = s.memo :=
  setChildrenMemo s _

@[simp] theorem pushChildScans (s : Session) (node : Tree) : (s.pushChild node).scans = s.scans :=
  setChildrenScans s _

@[simp] theorem pushChildFurthest (s : Session) (node : Tree) :
    (s.pushChild node).furthest = s.furthest :=
  setChildrenFurthest s _

@[simp] theorem pushChildHighWater (s : Session) (node : Tree) :
    (s.pushChild node).highWater = s.highWater :=
  setChildrenHighWater s _

@[simp] theorem pushChildState (s : Session) (node : Tree) : (s.pushChild node).state = s.state :=
  congrArg View.state (pushChildView s node)

@[simp] theorem pushChildRecoveries (s : Session) (node : Tree) : (s.pushChild node).recoveries = s.recoveries :=
  congrArg View.recoveries (pushChildView s node)

theorem rewindAsUpdate (s : Session) (m : Mark) :
    ∃ stats, s.rewind m = { ({ s with state := m.state, stats := stats } : Session).setChildren
      (s.children.take m.children) with recoveries := s.recoveries.take m.recoveries } := by
  unfold rewind
  by_cases still : s.state = m.state
  · refine ⟨s.stats, ?_⟩
    rw [if_pos still, ← still]
    simp only [setChildren]
    cases s.frames <;> rfl
  · refine ⟨{ s.stats with backtracks := s.stats.backtracks + 1 }, ?_⟩
    rw [if_neg still]
    simp only [setChildren, children]
    cases s.frames <;> rfl

theorem rewindView (s : Session) (m : Mark) :
    (s.rewind m).view = { s.view with
      state := m.state
      levels := s.children.take m.children :: s.levels.tail
      recoveries := s.recoveries.take m.recoveries } := by
  obtain ⟨stats, eq⟩ := rewindAsUpdate s m
  have levels := setChildrenView { s with state := m.state, stats := stats } (s.children.take m.children)
  rw [eq]
  simp only [view, View.mk.injEq] at levels ⊢
  exact ⟨levels.1, levels.2.1, levels.2.2.1, levels.2.2.2.1, levels.2.2.2.2.1, trivial⟩

theorem rewindRecoveries (s : Session) (m : Mark) : (s.rewind m).recoveries = s.recoveries.take m.recoveries :=
  congrArg View.recoveries (rewindView s m)

@[simp] theorem rewindMemo (s : Session) (m : Mark) : (s.rewind m).memo = s.memo := by
  obtain ⟨stats, eq⟩ := rewindAsUpdate s m
  simp [eq]

@[simp] theorem rewindScans (s : Session) (m : Mark) : (s.rewind m).scans = s.scans := by
  obtain ⟨stats, eq⟩ := rewindAsUpdate s m
  simp [eq]

@[simp] theorem rewindFurthest (s : Session) (m : Mark) : (s.rewind m).furthest = s.furthest := by
  obtain ⟨stats, eq⟩ := rewindAsUpdate s m
  simp [eq]

@[simp] theorem rewindHighWater (s : Session) (m : Mark) : (s.rewind m).highWater = s.highWater := by
  obtain ⟨stats, eq⟩ := rewindAsUpdate s m
  simp [eq]

theorem traceChangesLog (env : Setup) (event name : String) (s : Session) :
    ∃ log, s.trace env event name = { s with log := log } := by
  unfold trace
  split
  · exact ⟨_, rfl⟩
  · exact ⟨s.log, rfl⟩

theorem notAheadLooks (env : Setup) (token : String) (goal : Goal) (s : Session) :
    ∃ verdict : Verdict, (∀ error, verdict ≠ .fatal error) ∧
      notAhead env token goal s = (verdict, (s.scan env goal).2) := by
  unfold notAhead
  cases s.scan env goal with
  | mk found t =>
    cases found with
    | token next cursor => exact ⟨_, by split <;> nofun, rfl⟩
    | ended cursor => exact ⟨.ok, nofun, rfl⟩
    | unrecognized cursor c => exact ⟨.ok, nofun, rfl⟩

theorem sameLineLooks (env : Setup) (s : Session) :
    ∃ verdict : Verdict, (∀ error, verdict ≠ .fatal error) ∧
      sameLine env s = (verdict, (s.scan env defaultGoal).2) := by
  unfold sameLine
  cases s.scan env defaultGoal with
  | mk found t =>
    cases found with
    | token next cursor => exact ⟨_, by split <;> nofun, rfl⟩
    | ended cursor => exact ⟨.ok, nofun, rfl⟩
    | unrecognized cursor c => exact ⟨.ok, nofun, rfl⟩

end Session

def View.children (v : View) : List Tree := v.levels.headD []

theorem Session.viewChildren (s : Session) : s.view.children = s.children := by
  simp only [View.children, view]
  rw [levelsByChildren]
  rfl

end Packrat

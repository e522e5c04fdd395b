import Packrat.Proofs.Lexing
import Packrat.Proofs.Lines
import Packrat.Proofs.Undo

/-! Lines are counted piece by piece. However a session has come to its offset, it stands at the line of the
text before it, or below by the line ends that it has passed in two pieces. -/
namespace Packrat

def pairs : List Char → Nat
  | [] => 0
  | '\r' :: '\n' :: rest => pairs rest + 1
  | _ :: rest => pairs rest

theorem pairsCons {c : Char} {rest : List Char} (whole : ¬ Parted [c] rest) : pairs (c :: rest) = pairs rest := by
  rw [pairs.eq_def]
  split
  · contradiction
  · rename_i eq
    obtain ⟨rfl, rfl⟩ := List.cons.inj eq
    exact absurd ⟨rfl, rfl⟩ whole
  · rename_i eq
    obtain ⟨rfl, rfl⟩ := List.cons.inj eq
    rfl

theorem pairsAppend (a b : List Char) : pairs (a ++ b) = pairs a + pairs b + if Parted a b then 1 else 0 := by
  induction a using LineCol.byLineEnds with
  | nil => simp [pairs, Parted]
  | pair rest ih =>
    simp only [LineCol.partedPair]
    show pairs (rest ++ b) + 1 = pairs rest + 1 + pairs b + _
    rw [ih]
    omega
  | one c rest whole ih =>
    by_cases none : rest = []
    · subst none
      by_cases parted : Parted [c] b
      · obtain ⟨rfl, more, rfl⟩ := parted.splitsPair
        have feed : pairs ('\n' :: more) = pairs more := pairsCons (by simp [Parted])
        rw [if_pos parted, feed, pairsCons whole]
        simp [pairs]
      · rw [if_neg parted, pairsCons whole]
        simpa [pairs] using pairsCons parted
    · have whole' : ¬ Parted [c] (rest ++ b) := (partedAppend none b).not.mpr whole
      simp only [LineCol.partedBehindChar none]
      rw [List.cons_append, pairsCons whole', pairsCons whole, ih]

theorem NoPairs.pairsNone {text : List Char} (h : NoPairs text) : pairs text = 0 := by
  induction text using LineCol.byLineEnds with
  | nil => rfl
  | pair rest _ => exact absurd ⟨[], rest, rfl⟩ h
  | one c rest whole ih =>
    rw [pairsCons whole]
    exact ih (h.withinPart (List.suffix_cons c rest).isInfix)

def Cursor.below (c : Cursor) (lines : Nat) : Cursor := { c with line := c.line + lines }

def Token.below (t : Token) (lines : Nat) : Token :=
  { t with start := t.start.below lines, stop := t.stop.below lines }

namespace Scan

def below (lines : Nat) : Scan → Scan
  | .token t next => .token (t.below lines) (next.below lines)
  | .ended cursor => .ended (cursor.below lines)
  | .unrecognized cursor c => .unrecognized (cursor.below lines) c

theorem belowInjective {found : Scan} {k l : Nat} : found.below k = found.below l ↔ k = l := by
  refine ⟨fun same => ?_, fun same => congrArg found.below same⟩
  cases found with
  | token t next =>
    simp only [below, Cursor.below, Scan.token.injEq, Cursor.mk.injEq] at same
    omega
  | ended cursor =>
    simp only [below, Cursor.below, Scan.ended.injEq, Cursor.mk.injEq] at same
    omega
  | unrecognized cursor c =>
    simp only [below, Cursor.below, Scan.unrecognized.injEq, Cursor.mk.injEq] at same
    omega

end Scan

theorem Cursor.belowAdvance (c : Cursor) (lines : Nat) (text : List Char) :
    (c.below lines).advance text = (c.advance text).below lines := by
  have counted := LineCol.afterBelow text c.position lines
  rw [advanceAsPosition, advanceAsPosition, show (c.below lines).position = c.position.below lines from rfl, counted]
  rfl

theorem Nesting.belowApply (e : Nesting) (c : Cursor) (lines : Nat) :
    e.apply (c.below lines) = (e.apply c).below lines := by
  cases e <;> rfl

namespace Lexer

theorem readFromBelow (lx : Lexer) (goal : Goal) (prev : Option Kind) (fuel : Nat) (rest : List Char)
    (c : Cursor) (lines : Nat) (broken : Bool) :
    lx.readFrom goal prev fuel rest (c.below lines) broken =
        (lx.readFrom goal prev fuel rest c broken).below lines := by
  induction fuel generalizing rest c broken with
  | zero => rfl
  | succ fuel ih =>
    cases rest with
    | nil => rfl
    | cons x rest =>
      simp only [readFrom, show (c.below lines).offset = c.offset from rfl,
        show (c.below lines).depth = c.depth from rfl]
      cases lx.longestMatch (x :: rest) ⟨goal, prev, broken || c.offset == 0, c.depth⟩ with
      | none => rfl
      | some winner =>
        obtain ⟨e, n⟩ := winner
        simp only [Cursor.belowAdvance]
        split
        · exact ih _ _ _
        · simp only [Nesting.belowApply]
          rfl

theorem readTokenBelow (lx : Lexer) (source : List Char) (c : Cursor) (lines : Nat) (goal : Goal)
    (prev : Option Kind) :
    lx.readToken source (c.below lines) goal prev = (lx.readToken source c goal prev).below lines := by
  unfold readToken
  rw [show (c.below lines).offset = c.offset from rfl]
  cases dropBytes? source c.offset with
  | none => rfl
  | some rest => exact readFromBelow lx goal prev rest.length rest c lines false

end Lexer

namespace Cursor

structure CountedAt (source before rest : List Char) (c : Cursor) : Prop where
  cut : before ++ rest = source
  offset : c.offset = byteLength before
  lines : ∃ extra ≤ pairs before, c.position = (LineCol.after before .first).below extra

def Counted (source : List Char) (c : Cursor) : Prop := ∃ before rest, c.CountedAt source before rest

theorem firstCounted (source : List Char) : first.Counted source :=
  ⟨[], source, rfl, rfl, 0, Nat.le_refl _, rfl⟩

theorem Counted.atSamePlace {source : List Char} {c d : Cursor} (h : c.Counted source) (offset : d.offset = c.offset)
    (position : d.position = c.position) : d.Counted source := by
  obtain ⟨before, rest, here⟩ := h
  exact ⟨before, rest, here.cut, offset.trans here.offset, position ▸ here.lines⟩

theorem CountedAt.afterAdvance {source before text more : List Char} {c : Cursor}
    (h : c.CountedAt source before (text ++ more)) : (c.advance text).CountedAt source (before ++ text) more where
  cut := by
    rw [List.append_assoc]
    exact h.cut
  offset := by rw [advanceOffset, h.offset, byteLengthAppend]
  lines := by
    obtain ⟨extra, few, position⟩ := h.lines
    refine ⟨(if Parted before text then 1 else 0) + extra, ?_, ?_⟩
    · rw [pairsAppend]
      omega
    · have counted : (c.advance text).position = LineCol.after text c.position := by
        rw [advanceAsPosition]
        rfl
      rw [counted, position, LineCol.afterBelow, LineCol.afterInTurn, LineCol.belowInTurn]

theorem CountedAt.equalBelow {source before rest : List Char} {c : Cursor} (h : c.CountedAt source before rest) :
    ∃ extra ≤ pairs before, c = ({ first.advance before with depth := c.depth } : Cursor).below extra := by
  obtain ⟨extra, few, position⟩ := h.lines
  refine ⟨extra, few, ?_⟩
  obtain ⟨offset, line, column, depth⟩ := c
  have here : offset = byteLength before := h.offset
  simp only [Cursor.position, LineCol.below, LineCol.mk.injEq] at position
  simp only [advanceAsPosition, below, first, Nat.zero_add, here, Cursor.mk.injEq, and_true, true_and]
  exact position

end Cursor

def Scan.Counted (source : List Char) : Scan → Prop
  | .token _ next => next.Counted source
  | .ended _ => True
  | .unrecognized cursor c => (unrecognizedToken cursor c).2.Counted source

namespace Lexer

theorem Finds.scanCounted {lx : Lexer} {goal : Goal} {prev : Option Kind} {source before rest : List Char}
    {cursor : Cursor} {broken : Bool} {found : Scan} (finds : lx.Finds goal prev rest cursor broken found)
    (h : cursor.CountedAt source before rest) : found.Counted source := by
  induction finds generalizing before with
  | ended => trivial
  | @unrecognized c rest cursor _ _ =>
    have one : cursor.CountedAt source before ([c] ++ rest) := h
    exact ⟨_, _, one.afterAdvance⟩
  | @token c rest cursor broken e n _ _ =>
    rw [← List.take_append_drop n (c :: rest)] at h
    have next : (cursor.advance ((c :: rest).take n)).Counted source := ⟨_, _, h.afterAdvance⟩
    exact next.atSamePlace (Nesting.applyOffset _ _) (by cases e.definition.nesting <;> rfl)
  | @trivia c rest cursor broken e n found _ _ _ ih =>
    rw [← List.take_append_drop n (c :: rest)] at h
    exact ih h.afterAdvance

theorem readTokenCounted {source : List Char} {cursor : Cursor} (h : cursor.Counted source) (lx : Lexer) (goal : Goal)
    (prev : Option Kind) : (lx.readToken source cursor goal prev).Counted source := by
  obtain ⟨before, rest, here⟩ := h
  have left : dropBytes? source cursor.offset = some rest := by
    rw [← here.cut, here.offset]
    exact dropBytesAppend before rest
  exact (readTokenFinds left).scanCounted here

end Lexer

def Scan.CountedAt (env : Setup) (key : ScanKey) (found : Scan) : Prop :=
  ∃ cursor : Cursor, cursor.Counted env.source ∧ cursor.offset = key.offset ∧ cursor.depth = key.depth ∧
    found = env.lexer.readToken env.source cursor key.goal key.prev

theorem Scan.CountedAt.isCounted {env : Setup} {key : ScanKey} {found : Scan} (h : found.CountedAt env key) :
    found.Counted env.source := by
  obtain ⟨cursor, counted, _, _, rfl⟩ := h
  exact Lexer.readTokenCounted counted _ _ _

def Memo.Counted (source : List Char) : Memo → Prop
  | .success stop _ _ _ => stop.cursor.Counted source
  | .failure _ => True

namespace Session

structure Counted (env : Setup) (s : Session) : Prop where
  here : s.state.cursor.Counted env.source
  scans : ∀ e ∈ s.scans, e.2.CountedAt env e.1
  memo : ∀ e ∈ s.memo.entries, e.2.Counted env.source

def counting (env : Setup) : Invariant := ⟨(·.Counted env), fun _ _ => True⟩

variable {env : Setup} {s t : Session}

theorem Counted.afterScan (h : s.Counted env) (goal : Goal) :
    ∃ found scans, s.scan env goal = (found, { s with scans := scans }) ∧ found.CountedAt env (s.scanKey goal) ∧
      ({ s with scans := scans } : Session).Counted env := by
  have read : (env.lexer.readToken env.source s.state.cursor goal s.state.prev).CountedAt env (s.scanKey goal) :=
    ⟨s.state.cursor, h.here, rfl, rfl, rfl⟩
  obtain ⟨found, scans, scan, told, known⟩ := scanKept (fun key found => found.CountedAt env key) h.scans read
  exact ⟨found, scans, scan, told, h.here, known, h.memo⟩

theorem Counted.pushChild (h : s.Counted env) (node : Tree) : (s.pushChild node).Counted env where
  here := pushChildState s node ▸ h.here
  scans := pushChildScans s node ▸ h.scans
  memo := pushChildMemo s node ▸ h.memo

theorem countsConsume (token : String) (goal : Goal) (h : s.Counted env) :
    (consume env token goal s).2.Counted env := by
  obtain ⟨found, scans, scan, read, known⟩ := h.afterScan goal
  simp only [consume, scan]
  cases found with
  | token t next =>
    simp only
    split
    · exact Counted.pushChild (s := ({ s with scans := scans } : Session).commit t next)
        ⟨read.isCounted, known.scans, known.memo⟩ _
    · exact ⟨known.here, known.scans, known.memo⟩
  | ended cursor => exact ⟨known.here, known.scans, known.memo⟩
  | unrecognized cursor c => exact ⟨known.here, known.scans, known.memo⟩

theorem countsSkip (fuel : Nat) (h : s.Counted env) : (s.skip env fuel).2.Counted env := by
  induction fuel generalizing s with
  | zero => exact h
  | succ fuel ih =>
    obtain ⟨found, scans, scan, read, known⟩ := h.afterScan defaultGoal
    simp only [skip, scan]
    cases found with
    | token t next =>
      have taken : (({ s with scans := scans } : Session).commit t next).Counted env :=
        ⟨read.isCounted, known.scans, known.memo⟩
      simp only
      split
      · exact taken
      · exact ih taken
    | ended cursor => exact known
    | unrecognized cursor c =>
      exact ih (s := ({ s with scans := scans } : Session).commit _ _) ⟨read.isCounted, known.scans, known.memo⟩

theorem countsRecover (failure : Failure) (h : s.Counted env) : (s.recover env failure).2.Counted env := by
  have skipped := countsSkip (env.source.length + 1) h
  unfold recover
  split
  · exact h
  · cases ran : s.skip env (env.source.length + 1) with
    | mk nodes t =>
      rw [ran] at skipped
      obtain ⟨here, scans, memo⟩ := skipped
      simp only
      split
      · exact ⟨here, scans, memo⟩
      · refine Counted.pushChild ?_ _
        exact ⟨here, scans, memo⟩

theorem Counted.afterRemembering (h : s.Counted env) (key : MemoKey) {memo : Memo} (counted : memo.Counted env.source) :
    (s.remember env key memo).Counted env := by
  unfold Session.remember
  split
  · refine ⟨h.here, h.scans, fun e member => ?_⟩
    rcases Cache.memInsert member with rfl | old
    · exact counted
    · exact h.memo e old
  · exact h

theorem countsClosed {name : String} (verdict : Verdict) (h : s.Counted env) (inner : t.Counted env) :
    (closed env name s (verdict, t)).2.Counted env := by
  obtain ⟨log, traced⟩ := traceChangesLog env
    (if verdict = .ok then "match" else "fail") name { t with frames := t.frames.tail }
  have left : ∀ {u : Session}, u.Counted env →
      ({ u with active := u.active.erase (s.here name) } : Session).Counted env :=
    fun h => ⟨h.here, h.scans, h.memo⟩
  simp only [closed, runFresh, closeRule, traced]
  cases verdict with
  | ok =>
    refine left (Counted.pushChild (Counted.afterRemembering ?_ _ ?_) _)
    · exact ⟨inner.here, inner.scans, inner.memo⟩
    · exact inner.here
  | mismatch =>
    refine left (Counted.afterRemembering ?_ _ ?_)
    · exact ⟨h.here, inner.scans, inner.memo⟩
    · trivial
  | fatal error => exact ⟨h.here, inner.scans, inner.memo⟩

theorem Counted.whenOpened {name : String} (h : s.Counted env) (miss : s.remembered env name = none) :
    (opened env name s (s.asked env name)).Counted env := by
  obtain ⟨log, eq⟩ := openedAsUpdate env name s (s.asked env name)
  rw [eq]
  exact ⟨h.here, h.scans, fun e member => h.memo e (askedEntries miss ▸ member)⟩

theorem countingKept (env : Setup) : (counting env).Kept env where
  refl := fun _ => trivial
  trans := fun _ _ => trivial
  scan := by
    intro s goal h
    obtain ⟨found, scans, scan, _, known⟩ := Counted.afterScan h goal
    rw [scan]
    exact ⟨known, trivial⟩
  consume := fun token goal h => ⟨countsConsume token goal h, trivial⟩
  recover := fun failure h => ⟨countsRecover failure h, trivial⟩
  rewound := by
    rintro s t h ⟨after, _⟩
    have back : (t.rewind s.mark).state = s.state := congrArg View.state (rewindView t s.mark)
    refine ⟨⟨back ▸ h.here, ?_, ?_⟩, trivial⟩
    · rw [rewindScans]
      exact after.scans
    · rw [rewindMemo]
      exact after.memo
  isolated := fun h => ⟨h.here, h.scans, h.memo⟩
  rejoined := fun _ step => ⟨⟨step.1.here, step.1.scans, step.1.memo⟩, trivial⟩
  opened := Counted.whenOpened
  closed := fun verdict h step => ⟨countsClosed verdict h step.1, trivial⟩
  skipToken := by
    intro s t token next h found
    obtain ⟨_, _, scan, read, known⟩ := Counted.afterScan h defaultGoal
    cases scan.symm.trans found
    exact ⟨⟨read.isCounted, known.scans, known.memo⟩, trivial⟩
  skipUnknown := by
    intro s t cursor c h found
    obtain ⟨_, _, scan, read, known⟩ := Counted.afterScan h defaultGoal
    cases scan.symm.trans found
    exact ⟨⟨read.isCounted, known.scans, known.memo⟩, trivial⟩

theorem countsAnswer {rules : Rules} {depth : Nat} {task : Task} {first : Session} {name : String} {memo : Memo}
    (answers : Answers env rules depth task first name s memo) (h : s.Counted env)
    (cache : Cache MemoKey Memo) (log : List Message) (subset : ∀ e ∈ cache.entries, e ∈ s.memo.entries) :
    (counting env).Step s (({ s with memo := cache, log := log } : Session).replay memo).2 := by
  have known : ∀ e ∈ cache.entries, e.2.Counted env.source := fun e member => h.memo e (subset e member)
  refine ⟨?_, trivial⟩
  cases memo with
  | success stop node tokens attempt =>
    refine Counted.pushChild ?_ _
    exact ⟨h.memo _ answers.memoStored, h.scans, known⟩
  | failure attempt => exact ⟨h.here, h.scans, known⟩

end Session
end Packrat

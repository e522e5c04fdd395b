import Packrat.Proofs.Session.Fragments
import Packrat.Proofs.Session.Following
import Packrat.Proofs.Spot

/-! What every operation adds to a session. The leaves of new nodes are the new tokens, their error nodes the
new recoveries, and the tokens lead from the spot before to the spot behind. -/
namespace Packrat
namespace Tree

theorem nodesAllAppend (nodes more : List Tree) : nodesAll (nodes ++ more) = nodesAll nodes ++ nodesAll more := by
  induction nodes with
  | nil => rfl
  | cons t rest ih => simp [nodesAll, ih]

def leavesAll (nodes : List Tree) : List Tree := (nodesAll nodes).filter isToken

def errorsAll (nodes : List Tree) : List Tree := (nodesAll nodes).filter isError

@[simp] theorem leavesAllAppend (nodes more : List Tree) :
    leavesAll (nodes ++ more) = leavesAll nodes ++ leavesAll more := by
  simp [leavesAll, nodesAllAppend]

@[simp] theorem errorsAllAppend (nodes more : List Tree) :
    errorsAll (nodes ++ more) = errorsAll nodes ++ errorsAll more := by
  simp [errorsAll, nodesAllAppend]

theorem leavesAllSingleton (t : Tree) : leavesAll [t] = t.leaves := by
  simp [leavesAll, leaves, nodesAll]

theorem topErrorsAllSingleton (t : Tree) : topErrorsAll [t] = t.topErrors := by
  simp [topErrorsAll]

section
variable (name : String) (children : List Tree) (offset : Nat) (position : LineCol)

theorem leavesAllOfRule : leavesAll [ofRule name children offset position] = leavesAll children := by
  simp [leavesAll, nodesAll, ofRule, nodes, isToken]

theorem errorsAllOfRule : errorsAll [ofRule name children offset position] = errorsAll children := by
  simp [errorsAll, nodesAll, ofRule, nodes, isError]

theorem topErrorsAllOfRule : topErrorsAll [ofRule name children offset position] = topErrorsAll children := by
  simp [topErrorsAll, ofRule, topErrors]

theorem leavesAllOfError : leavesAll [ofError name children offset position] = leavesAll children := by
  simp [leavesAll, nodesAll, ofError, nodes, isToken]

theorem errorsAllOfError :
    errorsAll [ofError name children offset position] =
      ofError name children offset position :: errorsAll children := by
  simp only [errorsAll, nodesAll, ofError, nodes, List.append_nil]
  exact List.filter_cons_of_pos rfl

end

theorem nodesAllOfToken (tokens : List Token) : nodesAll (tokens.map ofToken) = tokens.map ofToken := by
  induction tokens with
  | nil => rfl
  | cons t rest ih =>
    rw [List.map_cons, nodesAll, ih]
    rfl

theorem leavesAllOfToken (tokens : List Token) : leavesAll (tokens.map ofToken) = tokens.map ofToken := by
  rw [leavesAll, nodesAllOfToken, List.filter_eq_self]
  intro t member
  obtain ⟨_, _, rfl⟩ := List.mem_map.mp member
  rfl

theorem errorsAllOfToken (tokens : List Token) : errorsAll (tokens.map ofToken) = [] := by
  rw [errorsAll, nodesAllOfToken, List.filter_eq_nil_iff]
  intro t member
  obtain ⟨_, _, rfl⟩ := List.mem_map.mp member
  exact Bool.false_ne_true

def told (t : Tree) : TextRange × Option String := (t.range, t.value)

end Tree

def Recovery.told (r : Recovery) : TextRange × Option String := (r.1, some r.2.message)

theorem Session.mapRenumber {α : Type} {f : Token → α} (same : ∀ t index, f { t with index := index } = f t)
    (first : Nat) (tokens : List Token) : (renumber first tokens).map f = tokens.map f := by
  induction tokens generalizing first with
  | nil => rfl
  | cons t rest ih =>
    have later := ih (first + 1)
    simp only [renumber, List.mapIdx_cons, List.map_cons, same, Nat.add_zero] at later ⊢
    rw [← later]
    simp only [Nat.add_assoc, Nat.add_comm 1]

theorem Covers.whenRenumbered {tokens : List Token} {p q : Spot} (h : Covers tokens p q) (first : Nat) :
    Covers (Session.renumber first tokens) p q where
  spaced := by
    rw [Session.mapRenumber fun _ _ => rfl]
    exact h.spaced
  still := fun none => h.still (by simpa [Session.renumber] using none)
  last := by
    intro t last
    have told : (tokens.map fun t => (t.kind, t.range)).getLast? = some (t.kind, t.range) := by
      rw [← Session.mapRenumber (fun _ _ => rfl) first tokens, List.getLast?_map, last]
      rfl
    rw [List.getLast?_map] at told
    obtain ⟨u, last', same⟩ := Option.map_eq_some_iff.mp told
    obtain ⟨kind, range⟩ := Prod.mk.inj same
    rw [← kind, ← range]
    exact h.last u last'

structure Growth where
  nodes : List Tree := []
  tokens : List Token := []
  recoveries : List Recovery := []

namespace Growth

def append (g more : Growth) : Growth :=
  ⟨g.nodes ++ more.nodes, g.tokens ++ more.tokens, g.recoveries ++ more.recoveries⟩

structure Tidy (g : Growth) (p q : Spot) : Prop where
  covers : Covers g.tokens p q
  leaves : Tree.leavesAll g.nodes = g.tokens.map Tree.ofToken
  flat : Tree.errorsAll g.nodes = Tree.topErrorsAll g.nodes
  told : (Tree.topErrorsAll g.nodes).map Tree.told = g.recoveries.map Recovery.told
  spaced : Spaced p.offset (g.recoveries.map Prod.fst) q.offset

theorem Tidy.refl (p : Spot) : Tidy {} p p :=
  ⟨Covers.refl p, rfl, rfl, rfl, .nil (Nat.le_refl _)⟩

theorem Tidy.thenTidy {g more : Growth} {p q r : Spot} (pq : g.Tidy p q) (qr : more.Tidy q r) :
    (g.append more).Tidy p r where
  covers := pq.covers.trans qr.covers
  leaves := by simp [Growth.append, pq.leaves, qr.leaves]
  flat := by simp [Growth.append, Tree.topErrorsAllAppend, pq.flat, qr.flat]
  told := by simp [Growth.append, Tree.topErrorsAllAppend, pq.told, qr.told]
  spaced := by
    simp only [Growth.append, List.map_append]
    exact pq.spaced.thenSpaced qr.spaced

theorem Tidy.whenRenumbered {g : Growth} {p q : Spot} (h : g.Tidy p q) (first : Nat) :
    ({ g with tokens := Session.renumber first g.tokens } : Growth).Tidy p q where
  covers := h.covers.whenRenumbered first
  leaves := h.leaves.trans (Session.mapRenumber (fun _ _ => rfl) first g.tokens).symm
  flat := h.flat
  told := h.told
  spaced := h.spaced

theorem Tidy.inRule {g : Growth} {p q : Spot} (h : g.Tidy p q) (name : String) (offset : Nat)
    (position : LineCol) : ({ g with nodes := [Tree.ofRule name g.nodes offset position] } : Growth).Tidy p q where
  covers := h.covers
  leaves := (Tree.leavesAllOfRule ..).trans h.leaves
  flat := (Tree.errorsAllOfRule ..).trans (h.flat.trans (Tree.topErrorsAllOfRule ..).symm)
  told := by
    rw [Tree.topErrorsAllOfRule]
    exact h.told
  spaced := h.spaced

theorem tidyToken {t : Token} {p q : Spot} (covers : Covers [t] p q) :
    (⟨[Tree.ofToken t], [t], []⟩ : Growth).Tidy p q :=
  ⟨covers, rfl, rfl, rfl, .nil covers.spotLeads.offsetLe⟩

end Growth

theorem Covers.spanWithin {tokens : List Token} {p q : Spot} (covers : Covers tokens p q) (some : tokens ≠ [])
    (offset : Nat) (position : LineCol) :
    ∃ first, p.offset ≤ first ∧ first < q.offset ∧
      (Tree.spanOf (tokens.map Tree.ofToken) offset position).1 = .ofOffsets first q.offset := by
  obtain ⟨t, rest, rfl⟩ := List.exists_cons_of_ne_nil some
  obtain ⟨u, last⟩ : ∃ u, (t :: rest).getLast? = Option.some u := ⟨_, List.getLast?_eq_some_getLast some⟩
  obtain ⟨_, stop⟩ := covers.last u last
  have spaced := covers.spaced
  rw [List.map_cons] at spaced
  generalize range : t.range = r at spaced
  cases spaced with
  | @cons _ first end' _ _ behind wide more =>
    have ends := more.startLeStop
    have behindFirst : clampOffset first ≤ u.range.start := by
      rcases List.mem_cons.mp (List.mem_of_getLast? last) with rfl | member
      · rw [range]
        exact Nat.le_refl _
      · exact Nat.le_trans (clampOffsetMono (Nat.le_of_lt wide)) (more.startsBehind _ (List.mem_map_of_mem member))
    refine ⟨first, behind, by omega, ?_⟩
    have span : (Tree.spanOf ((t :: rest).map Tree.ofToken) offset position).1 = t.range.cover u.range := by
      unfold Tree.spanOf
      rw [List.getLast?_map, last]
      rfl
    rw [span, range]
    show TextRange.mk (min (clampOffset first) u.range.start) (max (clampOffset end') u.range.stop) = _
    rw [stop, Nat.min_eq_left behindFirst, Nat.max_eq_right (clampOffsetMono ends)]
    rfl

namespace Growth

theorem tidyFragment {tokens : List Token} {p q : Spot} (covers : Covers tokens p q) (some : tokens ≠ [])
    (error : ParseError) (offset : Nat) (position : LineCol) :
    (⟨[Tree.ofError error.message (tokens.map Tree.ofToken) offset position], tokens,
      [((Tree.ofError error.message (tokens.map Tree.ofToken) offset position).range, error)]⟩ : Growth).Tidy p q where
  covers := covers
  leaves := (Tree.leavesAllOfError ..).trans (Tree.leavesAllOfToken tokens)
  flat := by
    rw [Tree.errorsAllOfError, Tree.errorsAllOfToken]
    rfl
  told := rfl
  spaced := by
    obtain ⟨first, behind, wide, span⟩ := covers.spanWithin some offset position
    show Spaced p.offset [(Tree.spanOf (tokens.map Tree.ofToken) offset position).1] q.offset
    rw [span]
    exact .cons behind wide (.nil (Nat.le_refl _))

end Growth

def Memo.Sound (env : Setup) (key : MemoKey) : Memo → Prop
  | .success stop node tokens attempt =>
    (⟨[node], tokens, attempt.recoveries⟩ : Growth).Tidy key.spot stop.spot ∧ stop.offset ≤ byteLength env.source
  | .failure attempt => attempt.recoveries = []

structure Session.Sound (env : Setup) (s : Session) : Prop where
  index : s.state.tokenIndex ≤ s.tokens.length
  inside : s.state.offset ≤ byteLength env.source
  active : s.active = s.ruleStack
  scans : ∀ e ∈ s.scans, e.2.ReadAt env e.1
  memo : ∀ e ∈ s.memo.entries, e.2.Sound env e.1

namespace Session

structure Takes (s : Session) (tokens : List Token) (t : Session) : Prop where
  index : t.state.tokenIndex = s.state.tokenIndex + tokens.length
  taken : t.tokens.take t.state.tokenIndex =
    s.tokens.take s.state.tokenIndex ++ renumber s.state.tokenIndex tokens
  covers : Covers tokens s.state.spot t.state.spot

structure Grows (s : Session) (g : Growth) (t : Session) : Prop extends Takes s g.tokens t where
  stack : t.ruleStack = s.ruleStack
  active : t.active = s.active
  levels : t.levels = (s.children ++ g.nodes) :: s.levels.tail
  recoveries : t.recoveries = s.recoveries ++ g.recoveries
  tidy : g.Tidy s.state.spot t.state.spot

def growing (env : Setup) : Invariant := ⟨(·.Sound env), fun s t => ∃ g, s.Grows g t⟩

variable {env : Setup} {s t u : Session} {g more : Growth}

theorem Takes.trans {tokens others : List Token} (st : s.Takes tokens t) (tu : t.Takes others u) :
    s.Takes (tokens ++ others) u where
  index := by rw [tu.index, st.index, List.length_append, Nat.add_assoc]
  taken := by rw [tu.taken, st.taken, st.index, List.append_assoc, ← renumberAppend]
  covers := st.covers.trans tu.covers

theorem Takes.frontKept {tokens : List Token} (h : s.Takes tokens t) (index : s.state.tokenIndex ≤ s.tokens.length) :
    t.tokens.take s.state.tokenIndex = s.tokens.take s.state.tokenIndex := by
  have length : (s.tokens.take s.state.tokenIndex).length = s.state.tokenIndex := by
    rw [List.length_take]
    exact Nat.min_eq_left index
  calc t.tokens.take s.state.tokenIndex
      = (t.tokens.take t.state.tokenIndex).take s.state.tokenIndex := by
        rw [List.take_take, Nat.min_eq_left (by rw [h.index]; exact Nat.le_add_right _ _)]
    _ = s.tokens.take s.state.tokenIndex := by
        rw [h.taken]
        exact List.take_left' length

theorem Returned.growsByNothing (h : s.Returned t) : s.Grows {} t where
  index := by rw [h.state]; rfl
  taken := by
    rw [h.state]
    exact h.tokens.trans (List.append_nil _).symm
  covers := by
    rw [h.state]
    exact Covers.refl _
  stack := h.stack
  active := h.active
  levels := by
    rw [h.levels, List.append_nil]
    exact s.levelsByChildren
  recoveries := by rw [h.recoveries, List.append_nil]
  tidy := by
    rw [h.state]
    exact Growth.Tidy.refl _

theorem Grows.refl (s : Session) : s.Grows {} s := Returned.growsByNothing ⟨rfl, rfl, rfl, rfl, rfl, rfl⟩

theorem Grows.trans (st : s.Grows g t) (tu : t.Grows more u) : s.Grows (g.append more) u := by
  obtain ⟨children, outer⟩ := childrenOfLevels st.levels
  refine ⟨st.toTakes.trans tu.toTakes, tu.stack.trans st.stack, tu.active.trans st.active, ?_, ?_,
    st.tidy.thenTidy tu.tidy⟩
  · rw [tu.levels, children, outer, List.append_assoc]
    rfl
  · rw [tu.recoveries, st.recoveries, List.append_assoc]
    rfl

theorem pushChildLevels (levels : t.levels = s.levels) (node : Tree) :
    (t.pushChild node).levels = (s.children ++ [node]) :: s.levels.tail := by
  obtain ⟨children, outer⟩ := childrenOfLevels (levels.trans s.levelsByChildren)
  rw [← children, ← outer]
  exact congrArg View.levels (pushChildView t node)

structure Gathers (s : Session) (g : Growth) (t : Session) : Prop extends Takes s g.tokens t where
  stack : t.ruleStack = s.ruleStack
  active : t.active = s.active
  levels : t.levels = s.levels
  recoveries : t.recoveries = s.recoveries ++ g.recoveries
  tidy : g.Tidy s.state.spot t.state.spot

theorem Gathers.growsWhenPushed {node : Tree} {tokens : List Token} {recoveries : List Recovery}
    (h : s.Gathers ⟨[node], tokens, recoveries⟩ t) : s.Grows ⟨[node], tokens, recoveries⟩ (t.pushChild node) := by
  have view := pushChildView t node
  simp only [Session.view, View.mk.injEq] at view
  obtain ⟨state, _, stack, active, tokens', recoveries'⟩ := view
  refine ⟨⟨?_, ?_, ?_⟩, stack.trans h.stack, active.trans h.active, pushChildLevels h.levels node,
    recoveries'.trans h.recoveries, ?_⟩
  · rw [state]
    exact h.index
  · rw [state, tokens']
    exact h.taken
  · rw [state]
    exact h.covers
  · rw [state]
    exact h.tidy

theorem Sound.pushChild (h : s.Sound env) (node : Tree) : (s.pushChild node).Sound env := by
  have view := pushChildView s node
  simp only [Session.view, View.mk.injEq] at view
  obtain ⟨state, _, stack, active, tokens, _⟩ := view
  refine ⟨?_, ?_, ?_, ?_, ?_⟩
  · rw [state, tokens]
    exact h.index
  · rw [state]
    exact h.inside
  · rw [active, stack]
    exact h.active
  · rw [pushChildScans]
    exact h.scans
  · rw [pushChildMemo]
    exact h.memo

theorem Sound.afterScan (h : s.Sound env) (goal : Goal) :
    ∃ found scans, s.scan env goal = (found, { s with scans := scans }) ∧
      found.ReadAt env (s.scanKey goal) ∧ ({ s with scans := scans } : Session).Sound env := by
  have read : (env.lexer.readToken env.source s.state.cursor goal s.state.prev).ReadAt env (s.scanKey goal) :=
    ⟨s.state.cursor, rfl, rfl, rfl⟩
  obtain ⟨found, scans, scan, told, known⟩ := scanKept (fun key found => found.ReadAt env key) h.scans read
  exact ⟨found, scans, scan, told, h.index, h.inside, h.active, known, h.memo⟩

theorem commitTakes (s : Session) {token : Token} {next : Cursor} {first : Nat} (behind : s.state.offset ≤ first)
    (wide : first < next.offset) (range : token.range = .ofOffsets first next.offset) :
    s.Takes [token] (s.commit token next) where
  index := rfl
  taken := by
    show (s.tokens.take s.state.tokenIndex ++ [_]).take (s.state.tokenIndex + 1) = _
    have length : (s.tokens.take s.state.tokenIndex ++ [{ token with index := s.state.tokenIndex }]).length ≤
        s.state.tokenIndex + 1 := by
      rw [List.length_append, List.length_take, List.length_singleton]
      omega
    rw [List.take_of_length_le length]
    rfl
  covers := .singleToken behind wide range rfl

theorem Sound.afterCommit (h : s.Sound env) (token : Token) {next : Cursor}
    (inside : next.offset ≤ byteLength env.source) : (s.commit token next).Sound env where
  index := by
    have := h.index
    simp only [Session.commit, List.length_append, List.length_take, List.length_singleton, State.after]
    omega
  inside := inside
  active := h.active
  scans := h.scans
  memo := h.memo

theorem growsConsume (token : String) (goal : Goal) (h : s.Sound env) :
    (growing env).Step s (consume env token goal s).2 := by
  obtain ⟨found, scans, scan, read, sound⟩ := h.afterScan goal
  have within := read.isWithin
  have still : ∀ found, (growing env).Step s (({ s with scans := scans } : Session).expect token found) :=
    fun _ => ⟨⟨sound.index, sound.inside, sound.active, sound.scans, sound.memo⟩, {},
      Returned.growsByNothing ⟨rfl, rfl, rfl, rfl, rfl, rfl⟩⟩
  simp only [consume, scan]
  cases found with
  | token t next =>
    obtain ⟨first, behind, wide, inside, range⟩ := within
    simp only
    split
    · have takes := commitTakes { s with scans := scans } behind wide range
      refine ⟨(sound.afterCommit _ inside).pushChild _, ⟨[.ofToken t], [t], []⟩, Gathers.growsWhenPushed ?_⟩
      exact ⟨⟨takes.index, takes.taken, takes.covers⟩, rfl, rfl, rfl, (List.append_nil _).symm,
        Growth.tidyToken takes.covers⟩
    · exact still _
  | ended cursor => exact still _
  | unrecognized cursor c => exact still _

theorem unrecognizedOffset (cursor : Cursor) (c : Char) :
    (unrecognizedToken cursor c).2.offset = cursor.offset + c.utf8Size :=
  (cursor.advanceOffset [c]).trans (by simp [byteLength])

structure Passed (env : Setup) (s : Session) (tokens : List Token) (t : Session) : Prop extends Takes s tokens t where
  sound : t.Sound env
  levels : t.levels = s.levels
  stack : t.ruleStack = s.ruleStack
  active : t.active = s.active
  recoveries : t.recoveries = s.recoveries

theorem passedNothing (h : s.Sound env) : Passed env s [] s :=
  ⟨(Grows.refl s).toTakes, h, rfl, rfl, rfl, rfl⟩

theorem Passed.afterCommit {token : Token} {next : Cursor} {first : Nat} {tokens : List Token}
    (behind : s.state.offset ≤ first) (wide : first < next.offset)
    (range : token.range = .ofOffsets first next.offset) (rest : Passed env (s.commit token next) tokens u) :
    Passed env s (token :: tokens) u :=
  ⟨(commitTakes s behind wide range).trans rest.toTakes, rest.sound, rest.levels, rest.stack,
    rest.active, rest.recoveries⟩

theorem Passed.withoutScans {scans : List (ScanKey × Scan)} {tokens : List Token}
    (h : Passed env { s with scans := scans } tokens t) : Passed env s tokens t :=
  ⟨⟨h.index, h.taken, h.covers⟩, h.sound, h.levels, h.stack, h.active, h.recoveries⟩

theorem skipPasses (fuel : Nat) (h : s.Sound env) :
    ∃ tokens, (s.skip env fuel).1 = tokens.map Tree.ofToken ∧ Passed env s tokens (s.skip env fuel).2 := by
  induction fuel generalizing s with
  | zero => exact ⟨[], rfl, passedNothing h⟩
  | succ fuel ih =>
    obtain ⟨found, scans, scan, read, sound⟩ := h.afterScan defaultGoal
    have within := read.isWithin
    simp only [skip, scan]
    cases found with
    | token t next =>
      obtain ⟨first, behind, wide, inside, range⟩ := within
      have committed := sound.afterCommit t inside
      simp only
      split
      · exact ⟨[t], rfl, (Passed.afterCommit (s := { s with scans := scans }) behind wide range
          (passedNothing committed)).withoutScans⟩
      · obtain ⟨tokens, nodes, passed⟩ := ih committed
        exact ⟨t :: tokens, congrArg _ nodes,
          (Passed.afterCommit (s := { s with scans := scans }) behind wide range passed).withoutScans⟩
    | ended cursor => exact ⟨[], rfl, (passedNothing sound).withoutScans⟩
    | unrecognized cursor c =>
      obtain ⟨behind, fits⟩ := within
      have next := unrecognizedOffset cursor c
      have wide := Char.utf8Size_pos c
      have committed := sound.afterCommit (unrecognizedToken cursor c).1 (next ▸ fits)
      obtain ⟨tokens, nodes, passed⟩ := ih committed
      exact ⟨(unrecognizedToken cursor c).1 :: tokens, congrArg _ nodes,
        (Passed.afterCommit (s := { s with scans := scans }) behind (next ▸ Nat.lt_add_of_pos_right wide) rfl
          passed).withoutScans⟩

theorem Passed.stepWhenRecorded {tokens : List Token} (passed : Passed env s tokens t) {node : Tree} {r : Recovery}
    (tidy : (⟨[node], tokens, [r]⟩ : Growth).Tidy s.state.spot t.state.spot) (log : List Message) :
    (growing env).Step s (({ t with log := log, recoveries := t.recoveries ++ [r] } : Session).pushChild node) := by
  have sound := passed.sound
  refine ⟨Sound.pushChild ?_ _, ⟨[node], tokens, [r]⟩, Gathers.growsWhenPushed ?_⟩
  · exact ⟨sound.index, sound.inside, sound.active, sound.scans, sound.memo⟩
  · exact ⟨⟨passed.index, passed.taken, passed.covers⟩, passed.stack, passed.active, passed.levels,
      congrArg (· ++ [r]) passed.recoveries, tidy⟩

theorem growsRecover (failure : Failure) (h : s.Sound env) : (growing env).Step s (s.recover env failure).2 := by
  obtain ⟨tokens, nodes, passed⟩ := skipPasses (env.source.length + 1) h
  unfold recover
  split
  · exact ⟨h, {}, Grows.refl s⟩
  · cases ran : s.skip env (env.source.length + 1) with
    | mk skipped t =>
      rw [ran] at nodes passed
      obtain rfl : skipped = tokens.map Tree.ofToken := nodes
      have passed : Passed env s tokens t := passed
      simp only
      split
      · rename_i empty
        obtain rfl : tokens = [] := List.map_eq_nil_iff.mp (List.isEmpty_iff.mp empty)
        refine ⟨passed.sound, {}, passed.toTakes, passed.stack, passed.active, ?_, ?_, ?_⟩
        · rw [passed.levels, List.append_nil]
          exact s.levelsByChildren
        · rw [passed.recoveries, List.append_nil]
        · exact passed.covers.still rfl ▸ Growth.Tidy.refl _
      · rename_i some
        have tidy := Growth.tidyFragment passed.covers (fun none => some (by rw [none]; rfl))
          (s.errorFrom env failure) s.state.offset s.state.position
        exact passed.stepWhenRecorded tidy _

theorem Grows.returnedByRewind (h : s.Grows g t) (sound : s.Sound env) : s.Returned (t.rewind s.mark) := by
  have view := rewindView t s.mark
  simp only [Session.view, View.mk.injEq] at view
  obtain ⟨state, levels, stack, active, tokens, recoveries⟩ := view
  obtain ⟨children, outer⟩ := childrenOfLevels h.levels
  refine ⟨state, ?_, stack.trans h.stack, active.trans h.active, ?_, ?_⟩
  · rw [levels, children, outer, mark, List.take_left]
    exact s.levelsByChildren.symm
  · rw [tokens]
    exact h.toTakes.frontKept sound.index
  · rw [recoveries, h.recoveries, mark, List.take_left]

theorem Returned.indexWithin (h : s.Returned t) (index : s.state.tokenIndex ≤ s.tokens.length) :
    t.state.tokenIndex ≤ t.tokens.length := by
  have kept := congrArg List.length h.tokens
  rw [List.length_take, List.length_take] at kept
  rw [h.state]
  omega

theorem Sound.afterReturn (h : s.Sound env) (back : s.Returned t) (scans : ∀ e ∈ t.scans, e.2.ReadAt env e.1)
    (memo : ∀ e ∈ t.memo.entries, e.2.Sound env e.1) : t.Sound env where
  index := back.indexWithin h.index
  inside := by
    rw [back.state]
    exact h.inside
  active := by
    rw [back.active, back.stack]
    exact h.active
  scans := scans
  memo := memo

theorem growsRewound (h : s.Sound env) (step : (growing env).Step s t) : (growing env).Step s (t.rewind s.mark) := by
  obtain ⟨sound, g, grows⟩ := step
  have back := grows.returnedByRewind h
  refine ⟨h.afterReturn back ?_ ?_, {}, back.growsByNothing⟩
  · rw [rewindScans]
    exact sound.scans
  · rw [rewindMemo]
    exact sound.memo

theorem Sound.whenOpened {name : String} (h : s.Sound env) (miss : s.remembered env name = none) :
    (opened env name s (s.asked env name)).Sound env := by
  obtain ⟨log, eq⟩ := openedAsUpdate env name s (s.asked env name)
  rw [eq]
  exact ⟨h.index, h.inside, congrArg _ h.active, h.scans, fun e member => h.memo e (askedEntries miss ▸ member)⟩

structure Framed (name : String) (s : Session) (g : Growth) (t : Session) : Prop extends Takes s g.tokens t where
  inFrame : t.frames ≠ []
  outer : t.frames.tail ++ [t.root] = s.levels
  children : t.children = g.nodes
  stack : t.ruleStack = s.here name :: s.ruleStack
  active : t.active = s.here name :: s.active
  recoveries : t.recoveries = s.recoveries ++ g.recoveries
  tidy : g.Tidy s.state.spot t.state.spot

theorem Grows.framedByRule {name : String} {memo : Cache MemoKey Memo} (h : (opened env name s memo).Grows g t) :
    Framed name s g t := by
  have view := openedView env name s memo
  simp only [Session.view, View.mk.injEq] at view
  obtain ⟨state, levels, stack, active, tokens, recoveries⟩ := view
  obtain ⟨children, outer⟩ := childrenOfLevels levels
  have inner := h.levels
  rw [children, outer, List.nil_append] at inner
  obtain ⟨inFrame, outer'⟩ := frameOfLevels inner
  refine ⟨⟨?_, ?_, ?_⟩, inFrame, outer', (childrenOfLevels inner).1, ?_, ?_, ?_, ?_⟩
  · rw [h.index, state]
  · rw [h.taken, state, tokens]
  · rw [← state]
    exact h.covers
  · rw [h.stack, stack]
  · rw [h.active, active]
  · rw [h.recoveries, recoveries]
  · rw [← state]
    exact h.tidy

namespace Framed

variable {name : String}

theorem recoveriesCut (h : Framed name s g t) : t.recoveries.take s.recoveries.length = s.recoveries := by
  rw [h.recoveries, List.take_left]

theorem activeLeft (h : Framed name s g t) : t.active.erase (s.here name) = s.active := by
  rw [h.active, List.erase_cons_head]

theorem stackLeft (h : Framed name s g t) : t.ruleStack.tail = s.ruleStack := by
  rw [h.stack]
  rfl

theorem returnedByCut (h : Framed name s g t) (index : s.state.tokenIndex ≤ s.tokens.length) (highWater : Nat)
    (furthest : Failure) (memo : Cache MemoKey Memo) (log : List Message) :
    s.Returned { t with
      state := s.state
      frames := t.frames.tail
      ruleStack := t.ruleStack.tail
      active := t.active.erase (s.here name)
      highWater := highWater
      furthest := furthest
      recoveries := t.recoveries.take s.recoveries.length
      memo := memo
      log := log } :=
  ⟨rfl, h.outer, h.stackLeft, h.activeLeft, h.frontKept index, h.recoveriesCut⟩

theorem successSound (h : Framed name s g t) (sound : s.Sound env) (inside : t.state.offset ≤ byteLength env.source) :
    (successOf name s t).Sound env (MemoKey.of name s.state) := by
  have length : (s.tokens.take s.state.tokenIndex).length = s.state.tokenIndex := by
    rw [List.length_take]
    exact Nat.min_eq_left sound.index
  have tokens : (t.tokens.take t.state.tokenIndex).drop s.state.tokenIndex =
      renumber s.state.tokenIndex g.tokens := by
    rw [h.taken]
    exact List.drop_left' length
  have recovered : t.recoveries.drop s.recoveries.length = g.recoveries := by
    rw [h.recoveries, List.drop_left]
  refine ⟨?_, inside⟩
  rw [tokens, recovered, h.children]
  exact (h.tidy.inRule name _ _).whenRenumbered s.state.tokenIndex

end Framed

theorem growsClosed {name : String} {memo : Cache MemoKey Memo} (verdict : Verdict) (h : s.Sound env)
    (step : (growing env).Step (opened env name s memo) t) :
    (growing env).Step s (closed env name s (verdict, t)).2 := by
  obtain ⟨sound, g, grows⟩ := step
  have framed := grows.framedByRule
  have active : t.active.erase (s.here name) = t.ruleStack.tail := by
    rw [framed.activeLeft, framed.stackLeft]
    exact h.active
  cases verdict with
  | ok =>
    obtain ⟨stats, log, eq⟩ := closedOk env name s t framed.inFrame
    rw [eq, framed.children]
    refine ⟨Sound.pushChild ?_ _, ⟨[_], g.tokens, g.recoveries⟩, Gathers.growsWhenPushed ?_⟩
    · refine ⟨sound.index, sound.inside, active, sound.scans, fun e member => ?_⟩
      rcases memRemembering member with rfl | old
      · exact framed.successSound h sound.inside
      · exact sound.memo e old
    · exact ⟨⟨framed.index, framed.taken, framed.covers⟩, framed.stackLeft, framed.activeLeft, framed.outer,
        framed.recoveries, framed.tidy.inRule name _ _⟩
  | mismatch =>
    obtain ⟨log, eq⟩ := closedMismatch env name s t
    rw [eq]
    have back := framed.returnedByCut h.index (max s.highWater t.highWater) (s.furthest.merge t.furthest)
      (remembering env t.memo (MemoKey.of name s.state) (failureOf s t)) log
    refine ⟨h.afterReturn back sound.scans fun e member => ?_, {}, back.growsByNothing⟩
    rcases memRemembering member with rfl | old
    · rfl
    · exact sound.memo e old
  | fatal error =>
    obtain ⟨log, eq⟩ := closedFatal env name s t error
    rw [eq]
    have back := framed.returnedByCut h.index (max s.highWater t.highWater) (s.furthest.merge t.furthest) t.memo log
    exact ⟨h.afterReturn back sound.scans sound.memo, {}, back.growsByNothing⟩

theorem growsReplay {name : String} {memo : Memo} (h : s.Sound env) (fits : memo.Sound env (MemoKey.of name s.state)) :
    (growing env).Step s (s.replay memo).2 := by
  cases memo with
  | success stop node tokens attempt =>
    obtain ⟨tidy, inside⟩ := fits
    have length : (s.tokens.take s.state.tokenIndex ++ renumber s.state.tokenIndex tokens).length =
        s.state.tokenIndex + tokens.length := by
      rw [List.length_append, List.length_take, lengthRenumber, Nat.min_eq_left h.index]
    refine ⟨Sound.pushChild ?_ _, ⟨[node], tokens, attempt.recoveries⟩, Gathers.growsWhenPushed ?_⟩
    · exact ⟨Nat.le_of_eq length.symm, inside, h.active, h.scans, h.memo⟩
    · exact ⟨⟨rfl, List.take_of_length_le (Nat.le_of_eq length), tidy.covers⟩, rfl, rfl, rfl, rfl, tidy⟩
  | failure attempt =>
    have none : attempt.recoveries = [] := fits
    have back : s.Returned (s.replay (.failure attempt)).2 := by
      refine ⟨rfl, rfl, rfl, rfl, rfl, ?_⟩
      show s.recoveries ++ attempt.recoveries = s.recoveries
      rw [none, List.append_nil]
    exact ⟨h.afterReturn back h.scans h.memo, {}, back.growsByNothing⟩

theorem growingUpheld (env : Setup) : (growing env).Upheld env where
  refl := fun s => ⟨{}, Grows.refl s⟩
  trans := by
    rintro s t u ⟨g, st⟩ ⟨more, tu⟩
    exact ⟨g.append more, st.trans tu⟩
  scan := by
    intro s goal h
    obtain ⟨found, scans, scan, _, sound⟩ := Sound.afterScan h goal
    rw [scan]
    exact ⟨sound, {}, Returned.growsByNothing ⟨rfl, rfl, rfl, rfl, rfl, rfl⟩⟩
  consume := fun token goal h => growsConsume token goal h
  recover := fun failure h => growsRecover failure h
  rewound := growsRewound
  isolated := fun h => ⟨h.index, h.inside, h.active, h.scans, h.memo⟩
  rejoined := by
    rintro s t h ⟨sound, g, grows⟩
    refine ⟨⟨sound.index, sound.inside, sound.active, sound.scans, sound.memo⟩, g, ?_⟩
    exact ⟨⟨grows.index, grows.taken, grows.covers⟩, grows.stack, grows.active, grows.levels, grows.recoveries,
      grows.tidy⟩
  opened := Sound.whenOpened
  closed := fun verdict h step => growsClosed verdict h step

theorem growsAnswer {rules : Rules} {depth : Nat} {task : Task} {first : Session} {name : String} {memo : Memo}
    (answers : Answers env rules depth task first name s memo) (h : s.Sound env)
    (cache : Cache MemoKey Memo) (log : List Message) (subset : ∀ e ∈ cache.entries, e ∈ s.memo.entries) :
    (growing env).Step s (({ s with memo := cache, log := log } : Session).replay memo).2 := by
  have asked : ({ s with memo := cache, log := log } : Session).Sound env :=
    ⟨h.index, h.inside, h.active, h.scans, fun e member => h.memo e (subset e member)⟩
  obtain ⟨sound, g, grows⟩ := growsReplay asked (h.memo _ answers.memoStored)
  exact ⟨sound, g, ⟨grows.index, grows.taken, grows.covers⟩, grows.stack, grows.active, grows.levels,
    grows.recoveries, grows.tidy⟩

theorem Sound.runGrows (h : s.Sound env) (rules : Rules) (depth : Nat) (b : Body) :
    (growing env).Step s (exec env (invoke env rules depth) b s).2 :=
  have here : Reached env rules depth (.body b) s depth (.body b) s := .start
  (growingUpheld env).execObeys Reached.within ((growingUpheld env).invokeObeys growsAnswer depth) b s here h

theorem stoodStillIff (step : (growing env).Step s t) :
    stoodStill s.mark t ↔ t.state.spot.offset = s.state.spot.offset := by
  obtain ⟨_, g, grows⟩ := step
  have stood := grows.covers.standsStillIff
  simp only [stoodStill, mark, Bool.and_eq_true, beq_iff_eq, grows.index, Nat.add_eq_left, List.length_eq_zero_iff]
  exact ⟨fun h => h.1, fun h => ⟨h, stood.mp h⟩⟩

theorem movedFurther (step : (growing env).Step s t) (moved : stoodStill s.mark t = false) :
    t.state.spot.offset ≠ s.state.spot.offset := by
  intro same
  rw [(stoodStillIff step).mpr same] at moved
  exact nomatch moved

end Session
end Packrat

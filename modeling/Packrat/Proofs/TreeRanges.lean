import Packrat.Proofs.Partition
import Packrat.Proofs.LineBreak
import Packrat.Proofs.Session.Arranging

/-! Ranges in syntax trees. Nodes lie one behind the other and do not cut characters, a node with children
reaches from the first to the last, and a token has the text of its range. -/
namespace Packrat

def Boundary (source : List Char) (n : Nat) : Prop :=
  ∃ before after, source = before ++ after ∧ byteLength before = n

structure Tree.WellPlaced (source : List Char) (t : Tree) : Prop where
  ordered : t.range.start ≤ t.range.stop
  inside : t.range.stop ≤ byteLength source
  start : Boundary source t.range.start
  stop : Boundary source t.range.stop
  siblings : t.children.Pairwise fun a b => a.range.stop ≤ b.range.start
  spans : ∀ first last, t.children.head? = some first → t.children.getLast? = some last →
    t.range = ⟨first.range.start, last.range.stop⟩
  within : ∀ c ∈ t.children, t.range.start ≤ c.range.start ∧ c.range.stop ≤ t.range.stop
  leaf : t.isToken → (slice? source t.range.start t.range.stop).map String.ofList = t.value

structure Tree.Row (source : List Char) (m : Nat) (nodes : List Tree) (n : Nat) : Prop where
  ordered : ∀ t ∈ nodes, m ≤ t.range.start ∧ t.range.start ≤ t.range.stop ∧ t.range.stop ≤ n
  boundaries : ∀ t ∈ nodes, Boundary source t.range.start ∧ Boundary source t.range.stop
  siblings : nodes.Pairwise fun a b => a.range.stop ≤ b.range.start
  begins : Boundary source m
  small : n ≤ maxOffset
  empty : nodes = [] → n = m

theorem Boundary.withinSource {source : List Char} {n : Nat} (h : Boundary source n) : n ≤ byteLength source := by
  obtain ⟨before, after, rfl, rfl⟩ := h
  rw [byteLengthAppend]
  exact Nat.le_add_right _ _

section
variable {source gap : List Char} {t : Token} {m n : Nat}

theorem Token.Behind.startLeStop (h : t.Behind source m gap n) : m + byteLength gap ≤ n := by
  obtain ⟨_, _, _, _, _, stop, _⟩ := h.cut
  omega

theorem Token.Behind.atBoundaries (h : t.Behind source m gap n) :
    Boundary source (m + byteLength gap) ∧ Boundary source n := by
  obtain ⟨before, text, after, cut, length, stop, _⟩ := h.cut
  refine ⟨⟨before ++ gap, text ++ after, by rw [cut, List.append_assoc], ?_⟩,
    ⟨before ++ (gap ++ text), after, by rw [cut]; simp, ?_⟩⟩
  · rw [byteLengthAppend, length]
  · rw [byteLengthAppend, byteLengthAppend, length, stop, Nat.add_assoc]

theorem Token.Behind.rangeBehindGap (h : t.Behind source m gap n) (small : n ≤ maxOffset) :
    t.range = ⟨m + byteLength gap, n⟩ := by
  rw [h.range, TextRange.ofOffsets, clampOffsetWithin small, clampOffsetWithin (Nat.le_trans h.startLeStop small)]

theorem Token.Behind.sliceIsText (h : t.Behind source m gap n) (small : n ≤ maxOffset) :
    (slice? source t.range.start t.range.stop).map String.ofList = some t.text := by
  have range := h.rangeBehindGap small
  obtain ⟨before, text, after, cut, length, stop, _, same⟩ := h.cut
  have place : m + byteLength gap = byteLength (before ++ gap) := by rw [byteLengthAppend, length]
  rw [range, cut, stop, place, ← List.append_assoc, sliceAppend, same]
  rfl

end

namespace Tree

variable {source : List Char} {m n k : Nat} {inner rest : List Tree} {t first last : Tree}

theorem Around.rangeOfSpan (h : t.Around inner m) : ∃ position, t.range = (spanOf inner m position).1 := by
  cases h with
  | rule _ position => exact ⟨position, rfl⟩
  | error _ position => exact ⟨position, rfl⟩

theorem Around.childrenInner (h : t.Around inner m) : t.children = inner := by
  cases h <;> rfl

theorem Around.isToken (h : t.Around inner m) : t.isToken = false := by
  cases h <;> rfl

theorem Around.nodesInner (h : t.Around inner m) : t.nodes = t :: nodesAll inner := by
  cases h <;> rfl

namespace Row

theorem afterNode (begins : Boundary source m)
    (ordered : m ≤ t.range.start ∧ t.range.start ≤ t.range.stop ∧ t.range.stop ≤ n)
    (boundaries : Boundary source t.range.start ∧ Boundary source t.range.stop) (onward : n ≤ k)
    (row : Row source n rest k) : Row source m (t :: rest) k where
  ordered := by
    intro u member
    rcases List.mem_cons.mp member with rfl | member
    · exact ⟨ordered.1, ordered.2.1, Nat.le_trans ordered.2.2 onward⟩
    · obtain ⟨behind, wide, inside⟩ := row.ordered u member
      exact ⟨by omega, wide, inside⟩
  boundaries := List.forall_mem_cons.mpr ⟨boundaries, row.boundaries⟩
  siblings := List.pairwise_cons.mpr
    ⟨fun u member => Nat.le_trans ordered.2.2 (row.ordered u member).1, row.siblings⟩
  begins := begins
  small := row.small
  empty := nofun

variable (row : Row source m inner n)
include row

theorem firstStartsBefore (head : inner.head? = some first) (member : t ∈ inner) :
    first.range.start ≤ t.range.start := by
  obtain ⟨rest, rfl⟩ := List.head?_eq_some_iff.mp head
  rcases List.mem_cons.mp member with rfl | later
  · exact Nat.le_refl _
  · have apart := (List.pairwise_cons.mp row.siblings).1 t later
    have wide := (row.ordered first List.mem_cons_self).2.1
    omega

theorem lastEndsBehind (ending : inner.getLast? = some last) (member : t ∈ inner) :
    t.range.stop ≤ last.range.stop := by
  obtain ⟨before, rfl⟩ := List.getLast?_eq_some_iff.mp ending
  rcases List.mem_append.mp member with earlier | same
  · have apart := (List.pairwise_append.mp row.siblings).2.2 t earlier last (List.mem_singleton_self _)
    have wide := (row.ordered last (List.mem_append_right _ (List.mem_singleton_self _))).2.1
    omega
  · rw [List.mem_singleton.mp same]

theorem rangeFromEnds (around : t.Around inner m) (head : inner.head? = some first)
    (ending : inner.getLast? = some last) : t.range = ⟨first.range.start, last.range.stop⟩ := by
  obtain ⟨position, range⟩ := around.rangeOfSpan
  have starts := row.firstStartsBefore head (List.mem_of_getLast? ending)
  have stops := row.lastEndsBehind ending (List.mem_of_mem_head? head)
  have span : (spanOf inner m position).1 = first.range.cover last.range := by
    simp only [spanOf, head, ending]
  rw [range, span, TextRange.cover, Nat.min_eq_left starts, Nat.max_eq_right stops]

theorem nodePlaced (around : t.Around inner m) :
    (m ≤ t.range.start ∧ t.range.start ≤ t.range.stop ∧ t.range.stop ≤ n) ∧
      Boundary source t.range.start ∧ Boundary source t.range.stop := by
  cases inner with
  | nil =>
    obtain rfl := row.empty rfl
    obtain ⟨position, range⟩ := around.rangeOfSpan
    have point : t.range = ⟨n, n⟩ := by
      rw [range]
      show TextRange.point n = _
      rw [TextRange.point, clampOffsetWithin row.small]
    rw [point]
    exact ⟨⟨Nat.le_refl _, Nat.le_refl _, Nat.le_refl _⟩, row.begins, row.begins⟩
  | cons first rest =>
    have ending := List.getLast?_eq_some_getLast (List.cons_ne_nil first rest)
    have member := List.mem_of_getLast? ending
    obtain ⟨behind, _, _⟩ := row.ordered first List.mem_cons_self
    obtain ⟨_, wide, inside⟩ := row.ordered _ member
    have onward := row.firstStartsBefore rfl member
    rw [row.rangeFromEnds around rfl ending]
    exact ⟨⟨behind, Nat.le_trans onward wide, inside⟩, (row.boundaries first List.mem_cons_self).1,
      (row.boundaries _ member).2⟩

theorem wellPlaced (around : t.Around inner m) : t.WellPlaced source := by
  obtain ⟨⟨_, ordered, _⟩, start, stop⟩ := row.nodePlaced around
  have holds := around.childrenInner
  refine ⟨ordered, stop.withinSource, start, stop, holds ▸ row.siblings, fun first last head ending =>
      ?_, fun c member => ?_,
    fun token => nomatch around.isToken.symm.trans token⟩
  · rw [holds] at head ending
    exact row.rangeFromEnds around head ending
  · rw [holds] at member
    have some := List.ne_nil_of_mem member
    have head := List.head?_eq_some_head some
    have ending := List.getLast?_eq_some_getLast some
    rw [row.rangeFromEnds around head ending]
    exact ⟨row.firstStartsBefore head member, row.lastEndsBehind ending member⟩

end Row
end Tree

theorem Token.Behind.wellPlaced {source gap : List Char} {t : Token} {m n : Nat} (h : t.Behind source m gap n)
    (small : n ≤ maxOffset) : (Tree.ofToken t).WellPlaced source := by
  have range : (Tree.ofToken t).range = ⟨m + byteLength gap, n⟩ := h.rangeBehindGap small
  obtain ⟨start, stop⟩ := h.atBoundaries
  refine ⟨?_, ?_, ?_, ?_, .nil, nofun, nofun, fun _ => h.sliceIsText small⟩
  all_goals rw [range]
  · exact h.startLeStop
  · exact stop.withinSource
  · exact start
  · exact stop

namespace Arranged

variable {source : List Char} {m n : Nat} {nodes : List Tree}

theorem startLeStop (h : Arranged source m nodes n) : m ≤ n := by
  induction h with
  | nil => exact Nat.le_refl _
  | token behind _ ih =>
    have := behind.startLeStop
    omega
  | node _ _ _ inner later => exact Nat.le_trans inner later

theorem stopBoundary (h : Arranged source m nodes n) (start : Boundary source m) : Boundary source n := by
  induction h with
  | nil => exact start
  | token behind _ ih => exact ih behind.atBoundaries.2
  | node _ _ _ inner later => exact later (inner start)

theorem rowOfNodes (h : Arranged source m nodes n) (start : Boundary source m) (small : n ≤ maxOffset) :
    Tree.Row source m nodes n := by
  induction h with
  | nil => exact ⟨nofun, nofun, .nil, start, small, fun _ => rfl⟩
  | @token m gap t n rest k behind later ih =>
    have range : (Tree.ofToken t).range = ⟨m + byteLength gap, n⟩ :=
      behind.rangeBehindGap (Nat.le_trans later.startLeStop small)
    refine .afterNode start ?_ ?_ later.startLeStop (ih behind.atBoundaries.2 small)
    all_goals rw [range]
    · exact ⟨Nat.le_add_right _ _, behind.startLeStop, Nat.le_refl _⟩
    · exact behind.atBoundaries
  | node around inner later ihInner ih =>
    obtain ⟨ordered, boundaries⟩ := (ihInner start (Nat.le_trans later.startLeStop small)).nodePlaced around
    exact .afterNode start ordered boundaries later.startLeStop (ih (inner.stopBoundary start) small)

theorem wellPlaced (h : Arranged source m nodes n) (start : Boundary source m) (small : n ≤ maxOffset) :
    ∀ t ∈ Tree.nodesAll nodes, t.WellPlaced source := by
  induction h with
  | nil => exact nofun
  | @token m gap t n rest k behind later ih =>
    rw [Tree.nodesAll, List.forall_mem_append]
    exact ⟨List.forall_mem_singleton.mpr (behind.wellPlaced (Nat.le_trans later.startLeStop small)),
      ih behind.atBoundaries.2 small⟩
  | node around inner later ihInner ih =>
    have inside := Nat.le_trans later.startLeStop small
    rw [Tree.nodesAll, around.nodesInner, List.forall_mem_append, List.forall_mem_cons]
    exact ⟨⟨(inner.rowOfNodes start inside).wellPlaced around, ihInner start inside⟩,
      ih (inner.stopBoundary start) small⟩

end Arranged

theorem Session.arrangedParse {env : Setup} {rules : Rules} {name rule : String} {s : Session} {output : Output}
    (sound : s.Sound env) (succeeds : (s.parseRule env rules name rule).1 = .ok output) :
    ∃ n, n ≤ byteLength env.source ∧ Arranged env.source 0 [output.root] n := by
  obtain ⟨t, root, ran, last, rfl, _⟩ := parseRuleOk succeeds
  obtain ⟨children, shown, frames⟩ := invokeEntry sound ran
  have fresh : (arranging env).holds s.reset := ⟨soundReset sound, fun _ member => nomatch member⟩
  obtain ⟨⟨after, _⟩, _, nodes, levels, arranged⟩ := (arrangingUpheld env).invokeObeys arrangesAnswer
    env.config.maxRuleDepth name rule s.reset .start fresh
  rw [ran] at after levels arranged
  have only : [t.root] = [nodes] := by
    rw [Session.levels, frames] at levels
    exact levels
  obtain rfl := (List.cons.inj only).1
  rw [shown] at last arranged
  rw [← Option.some.inj last]
  exact ⟨_, after.inside, arranged⟩

namespace Parser

theorem nodesWellPlaced {source : String} {definitions : List Definition} {p : Parser}
    (reachable : Reachable source definitions p) (small : byteLength source.toList ≤ maxOffset) {rules : Rules}
    {name rule : String} {output : Output} (succeeds : (p.parse rules name rule).1 = .ok output) :
    ∀ t ∈ output.root.nodes, t.WellPlaced source.toList := by
  obtain ⟨text, sound⟩ := reachable.sourceAndSound
  obtain ⟨n, inside, arranged⟩ := Session.arrangedParse sound succeeds
  rw [text] at inside arranged
  have placed := arranged.wellPlaced ⟨[], source.toList, rfl, rfl⟩ (Nat.le_trans inside small)
  rwa [show Tree.nodesAll [output.root] = output.root.nodes from List.append_nil _] at placed

namespace Sample

def framed : Rules :=
  [("R", .inOrder [.call "E" "E", .many (.inOrder [.consume "a" defaultGoal, .consume "S" defaultGoal]),
      .call "E" "E"]),
    ("E", .optional (.consume "S" defaultGoal))]

end Sample

theorem nodesWellPlacedFramed :
    byteLength "a\n@\n;".toList ≤ maxOffset ∧
      ∃ output, (Sample.stray.parse Sample.framed "R" "R").1 = .ok output ∧
        output.root.nodes.map (fun t => (t.name, t.range)) =
          [("R", ⟨0, 5⟩), ("E", ⟨0, 0⟩), ("#error", ⟨0, 5⟩), ("a", ⟨0, 1⟩), ("#unrecognized", ⟨2, 3⟩), ("S", ⟨4, 5⟩),
            ("E", ⟨5, 5⟩)] ∧
        ∀ t ∈ output.root.nodes, t.WellPlaced "a\n@\n;".toList := by
  have reachable : Reachable "a\n@\n;" Sample.endings Sample.stray :=
    (Reachable.new (Parser.ofDefinitionsOfOption _)).configured _
  have small : byteLength "a\n@\n;".toList ≤ maxOffset := by decide
  have shown : (Sample.stray.parse Sample.framed "R" "R").1.toOption.map
      (·.root.nodes.map fun t => (t.name, t.range)) =
        some [("R", ⟨0, 5⟩), ("E", ⟨0, 0⟩), ("#error", ⟨0, 5⟩), ("a", ⟨0, 1⟩), ("#unrecognized", ⟨2, 3⟩),
          ("S", ⟨4, 5⟩), ("E", ⟨5, 5⟩)] := by
    decide +kernel
  cases result : (Sample.stray.parse Sample.framed "R" "R").1 with
  | error error =>
    rw [result] at shown
    exact nomatch shown
  | ok output =>
    rw [result] at shown
    exact ⟨small, output, rfl, Option.some.inj shown, nodesWellPlaced reachable small result⟩

end Parser
end Packrat

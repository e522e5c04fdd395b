import Mathlib.Data.List.Chain
import Packrat.Proofs.Grammar.Uncut

/-! The cycles that a depth-first search reports are there. The rules on its stack follow from one
another at first position, and a piece that leads follows from the top of the stack; so a rule met
again closes a cycle. -/
namespace Packrat

namespace Piece

def leading (nullable : String → Bool) : Piece → List String
  | .rule name => [name]
  | .node n => n.leading nullable
  | .parts rest acc => if [] ∈ acc then Node.leadingParts nullable rest else []
  | .branches rest _ => Node.leadingAny nullable rest

def Vanishes (nullable : String → Bool) : Piece → Prop
  | .rule name => nullable name
  | .node n => n.isNullable nullable
  | .parts rest acc => [] ∈ acc ∧ Node.allNullable nullable rest
  | .branches rest acc => [] ∈ acc ∨ Node.anyNullable nullable rest

section
variable {nullable : String → Bool} {n : Node} {rest : List Node} {acc tail : PathSet} {k : Nat} {r : String}

theorem leadingPart (empty : [] ∈ acc) (inside : r ∈ n.leading nullable) :
    r ∈ (Piece.parts (n :: rest) acc).leading nullable := by
  simp [leading, empty, Node.leadingParts, inside]

theorem leadingLater (positive : 0 < k) (vanishes : [] ∈ tail → n.isNullable nullable)
    (inside : r ∈ (Piece.parts rest (PathSet.product acc tail k)).leading nullable) :
    r ∈ (Piece.parts (n :: rest) acc).leading nullable := by
  by_cases empty : [] ∈ PathSet.product acc tail k
  · have inside : r ∈ Node.leadingParts nullable rest := by simpa [leading, empty] using inside
    obtain ⟨empty, empty'⟩ := (PathSet.nilMemProduct positive).mp empty
    simp [leading, empty, Node.leadingParts, vanishes empty', inside]
  · simp [leading, empty] at inside

end

end Piece

namespace Grammar

structure Closes (g : Grammar) (limit : Nat) (c : Cycle) : Prop where
  chain : c.rules.IsChain g.Leads
  back : c.rules.getLast? = c.rules.head?
  long : 2 ≤ c.rules.length
  short : c.rules.length ≤ limit + 1

theorem walkOfChain {g : Grammar} {first last : String} {rules : List String}
    (chain : (first :: rules).IsChain g.Leads) (ends : (first :: rules).getLast? = some last) :
    g.Walk rules.length first last := by
  induction rules generalizing first with
  | nil => simpa [Walk] using ends
  | cons next rules ih =>
    rw [List.isChain_cons_cons] at chain
    exact ⟨next, chain.1, ih chain.2 (by simpa using ends)⟩

theorem Closes.walkAroundCycle {g : Grammar} {limit : Nat} {c : Cycle} (closes : g.Closes limit c) :
    ∃ n < limit, g.Walk (n + 1) c.head c.head := by
  obtain ⟨chain, back, long, short⟩ := closes
  obtain ⟨rules⟩ := c
  match rules with
  | [] => simp at long
  | [_] => simp at long
  | first :: next :: rest =>
    refine ⟨rest.length, by simp only [List.length_cons] at short; omega, ?_⟩
    exact walkOfChain chain back

end Grammar

namespace Desk

structure Linked (g : Grammar) (d : Desk) (leading : Bool) (next : List String) : Prop where
  chain : d.stack.IsChain g.Leads
  top : leading = true → ∀ r ∈ d.stack.getLast?, ∀ x ∈ next, g.Leads r x

theorem Linked.fewerNext {g : Grammar} {d e : Desk} {leading leading' : Bool} {next next' : List String}
    (linked : d.Linked g leading next) (stack : e.stack = d.stack)
    (fewer : leading' = true → leading = true ∧ ∀ x ∈ next', x ∈ next) : e.Linked g leading' next' := by
  refine ⟨stack ▸ linked.chain, fun leads r top x inside => ?_⟩
  obtain ⟨leads, fewer⟩ := fewer leads
  exact linked.top leads r (stack ▸ top) x (fewer x inside)

section
variable {g : Grammar} {d e : Desk} {leading : Bool} {n : Node} {rest : List Node} {acc tail : PathSet} {k : Nat}

theorem Linked.partsOf {parts : List Node} {rule : Option String}
    (linked : d.Linked g leading ((Piece.node (.inOrder parts rule)).leading g.nullable.contains)) :
    d.Linked g leading ((Piece.parts parts [[]]).leading g.nullable.contains) :=
  linked.fewerNext rfl fun leads => ⟨leads, fun x inside => by simpa [Piece.leading, Node.leading] using inside⟩

theorem Linked.firstPart {shortest : Nat} (short : Analyzer.shortestBelow k acc = some shortest)
    (linked : d.Linked g leading ((Piece.parts (n :: rest) acc).leading g.nullable.contains)) :
    d.Linked g (leading && shortest == 0) (n.leading g.nullable.contains) := by
  refine linked.fewerNext rfl fun leads => ?_
  rw [Bool.and_eq_true, beq_iff_eq, Analyzer.shortestZeroIff short] at leads
  exact ⟨leads.1, fun x inside => Piece.leadingPart leads.2 inside⟩

theorem Linked.laterParts (stack : e.stack = d.stack) (positive : 0 < k)
    (vanishes : [] ∈ tail → n.isNullable g.nullable.contains)
    (linked : d.Linked g leading ((Piece.parts (n :: rest) acc).leading g.nullable.contains)) :
    e.Linked g leading ((Piece.parts rest (PathSet.product acc tail k)).leading g.nullable.contains) :=
  linked.fewerNext stack fun leads => ⟨leads, fun _ inside => Piece.leadingLater positive vanishes inside⟩

theorem Linked.firstBranch (linked : d.Linked g leading
    ((Piece.branches (n :: rest) acc).leading g.nullable.contains)) :
    d.Linked g leading (n.leading g.nullable.contains) :=
  linked.fewerNext rfl fun leads => ⟨leads, fun _ inside => List.mem_append_left _ inside⟩

theorem Linked.laterBranches {acc' : PathSet} (stack : e.stack = d.stack)
    (linked : d.Linked g leading ((Piece.branches (n :: rest) acc).leading g.nullable.contains)) :
    e.Linked g leading ((Piece.branches rest acc').leading g.nullable.contains) :=
  linked.fewerNext stack fun leads => ⟨leads, fun _ inside => List.mem_append_right _ inside⟩

end

theorem Linked.chainWithNext {g : Grammar} {d : Desk} {rule : String} (linked : d.Linked g true [rule]) :
    (d.stack ++ [rule]).IsChain g.Leads := by
  refine List.isChain_append.mpr ⟨linked.chain, List.isChain_singleton _, fun r top x here => ?_⟩
  exact linked.top rfl r top x (by simpa [eq_comm] using here)

theorem Linked.whenOpened {g : Grammar} {d : Desk} {leading : Bool} {rule : String} {body : Node}
    (linked : d.Linked g leading [rule]) (known : g.rule? rule = some body) :
    (d.opened rule leading).Linked g true (body.leading g.nullable.contains) := by
  have starts := Grammar.startsOfBody known
  cases leading with
  | false =>
    refine ⟨List.isChain_singleton _, fun _ r top x inside => ?_⟩
    have same : r = rule := by simpa [Desk.opened, eq_comm] using top
    rw [same, Grammar.Leads, starts]
    exact inside
  | true =>
    refine ⟨linked.chainWithNext, fun _ r top x inside => ?_⟩
    have same : r = rule := by simpa [Desk.opened, eq_comm] using top
    rw [same, Grammar.Leads, starts]
    exact inside

theorem dropWhileFirst {rule : String} {stack : List String} (again : rule ∈ stack) :
    ∃ before rest, stack = before ++ rule :: rest ∧ stack.dropWhile (· != rule) = rule :: rest := by
  induction stack with
  | nil => exact nomatch again
  | cons first stack ih =>
    by_cases same : first = rule
    · exact ⟨[], stack, by simp [same], by simp [same]⟩
    · obtain ⟨before, rest, eq, found⟩ := ih ((List.mem_cons.mp again).resolve_left (Ne.symm same))
      exact ⟨first :: before, rest, by simp [eq], by simp [same, found]⟩

theorem Linked.closesCycle {g : Grammar} {d : Desk} {rule : String} {limit : Nat} (linked : d.Linked g true [rule])
    (again : rule ∈ d.stack) (room : d.stack.length ≤ limit) :
    g.Closes limit ⟨d.stack.dropWhile (· != rule) ++ [rule]⟩ := by
  obtain ⟨before, rest, eq, found⟩ := dropWhileFirst again
  have chain := linked.chainWithNext
  rw [eq] at chain room
  rw [found]
  constructor
  · rw [List.append_assoc] at chain
    exact chain.right_of_append
  · rw [List.getLast?_append]
    rfl
  · simp
  · simp only [List.length_append, List.length_cons, List.length_nil] at room ⊢
    omega

theorem Linked.walkFromBelow {g : Grammar} {d : Desk} {rule other : String} (linked : d.Linked g true [rule])
    (below : other ∈ d.stack) : ∃ n, g.Walk (n + 1) other rule := by
  obtain ⟨before, rest, eq⟩ := List.append_of_mem below
  have chain := linked.chainWithNext
  rw [eq, List.append_assoc] at chain
  have last : (other :: (rest ++ [rule])).getLast? = some rule := by
    rw [← List.cons_append, List.getLast?_append]
    rfl
  have walk := Grammar.walkOfChain chain.right_of_append last
  exact ⟨rest.length, by simpa using walk⟩

structure Finds (g : Grammar) (limit : Nat) (d e : Desk) : Prop where
  stack : e.stack = d.stack
  more : d.cuts ≤ e.cuts
  kept : ∀ c ∈ d.cycles, c ∈ e.cycles
  found : ∀ c ∈ e.cycles, c ∈ d.cycles ∨ g.Closes limit c
  cut : d.cuts < e.cuts → ∃ c ∈ e.cycles, g.Closes limit c

theorem Finds.refl (g : Grammar) (limit : Nat) (d : Desk) : d.Finds g limit d :=
  ⟨rfl, Nat.le_refl _, fun _ => id, fun _ => .inl, fun less => absurd less (Nat.lt_irrefl _)⟩

theorem Finds.trans {g : Grammar} {limit : Nat} {d e f : Desk} (first : d.Finds g limit e) (later : e.Finds g limit f) :
    d.Finds g limit f where
  stack := later.stack.trans first.stack
  more := Nat.le_trans first.more later.more
  kept c member := later.kept c (first.kept c member)
  found c member := (later.found c member).elim (first.found c) .inr
  cut less := by
    by_cases early : d.cuts < e.cuts
    · obtain ⟨c, member, closes⟩ := first.cut early
      exact ⟨c, later.kept c member, closes⟩
    · exact later.cut (by have := first.more; omega)

theorem memCutOff {d : Desk} {rule : String} {c : Cycle} :
    c ∈ (d.cutOff rule).cycles ↔ c ∈ d.cycles ∨ c = ⟨d.stack.dropWhile (· != rule) ++ [rule]⟩ := by
  unfold Desk.cutOff
  dsimp only
  split
  · rename_i known
    rw [List.contains_eq_mem, decide_eq_true_eq] at known
    constructor
    · exact .inl
    · rintro (old | rfl)
      · exact old
      · exact known
  · simp

theorem Finds.cutOff {g : Grammar} {limit : Nat} {d : Desk} {rule : String}
    (closes : g.Closes limit ⟨d.stack.dropWhile (· != rule) ++ [rule]⟩) : d.Finds g limit (d.cutOff rule) := by
  refine ⟨rfl, Nat.le_succ _, fun c member => memCutOff.mpr (.inl member), fun c member => ?_, fun _ => ?_⟩
  · rcases memCutOff.mp member with old | rfl
    · exact .inl old
    · exact .inr closes
  · exact ⟨_, memCutOff.mpr (.inr rfl), closes⟩

theorem Finds.afterClosing {g : Grammar} {limit : Nat} {d e : Desk} {rule : String} {key : DepthKey} {leading : Bool}
    {paths : PathSet} (inner : (d.opened rule leading).Finds g limit e) :
    d.Finds g limit (d.closed key leading paths e) := by
  refine ⟨?_, inner.more, inner.kept, inner.found, inner.cut⟩
  unfold Desk.closed
  dsimp only
  split
  · rename_i leads
    rw [inner.stack, Desk.opened, leads]
    simp
  · rfl

end Desk

namespace Analyzer

theorem Expands.findsWhileLinked {a : Analyzer} (exact : a.nullable = a.grammar.nullable)
    (distinct : a.grammar.Distinct)
    {budget : Nat} {piece : Piece} {k : Nat} {leading : Bool} {d e : Desk} {paths : PathSet} {limit : Nat}
    (expands : a.Expands budget piece k leading d paths e) (positive : 0 < k) (faithful : d.Faithful a)
    (linked : d.Linked a.grammar leading (piece.leading a.grammar.nullable.contains))
    (room : d.stack.length + budget ≤ limit) :
    d.Finds a.grammar limit e ∧ ([] ∈ paths → piece.Vanishes a.grammar.nullable.contains) := by
  induction expands with
  | @cut budget rule k d again =>
    exact ⟨Desk.Finds.cutOff (linked.closesCycle again (Nat.le_trans (Nat.le_add_right _ _) room)), fun empty =>
      nomatch empty⟩
  | @stand budget rule k leading d fresh shut =>
    refine ⟨.refl _ _ _, fun empty => ?_⟩
    rw [nilMemPlaceholder, exact] at empty
    simpa [Piece.Vanishes] using empty
  | @hit budget rule k leading d body paths fresh known found =>
    refine ⟨.refl _ _ _, fun empty => ?_⟩
    rw [(faithful _ _ found).1, Whole.nilMemOfRule exact distinct _ _ positive] at empty
    simpa [Piece.Vanishes] using empty
  | @opened budget rule k leading d body paths e fresh known miss inner ih =>
    have room : (d.opened rule leading).stack.length + budget ≤ limit := by
      cases leading <;> simp [Desk.opened] <;> omega
    obtain ⟨finds, vanishes⟩ := ih positive faithful (linked.whenOpened known) room
    refine ⟨finds.afterClosing, fun empty => ?_⟩
    have member := Grammar.nullableClosed known (vanishes empty)
    simpa [Piece.Vanishes] using member
  | consume => exact ⟨.refl _ _ _, fun empty => by simp at empty⟩
  | call inner ih => exact ih positive faithful linked room
  | inOrder inner ih =>
    obtain ⟨finds, vanishes⟩ := ih positive faithful linked.partsOf room
    exact ⟨finds, fun empty => (vanishes empty).2⟩
  | firstOf inner ih =>
    obtain ⟨finds, vanishes⟩ := ih positive faithful linked room
    exact ⟨finds, fun empty => (vanishes empty).resolve_left List.not_mem_nil⟩
  | optional inner ih => exact ⟨(ih positive faithful linked room).1, fun _ => rfl⟩
  | many inner ih => exact ⟨(ih positive faithful linked room).1, fun _ => rfl⟩
  | @some budget body k leading d once e inner ih =>
    obtain ⟨finds, vanishes⟩ := ih positive faithful linked room
    exact ⟨finds, fun empty => vanishes ((PathSet.nilMemClose positive k).mp empty)⟩
  | noParts => exact ⟨.refl _ _ _, fun empty => ⟨empty, rfl⟩⟩
  | full long => exact ⟨.refl _ _ _, fun empty => absurd empty (emptyAbsentWhenLong positive long)⟩
  | @part budget n rest k leading d acc shortest tail e paths f short first later ihFirst ihLater =>
    have below := (shortestBelowFound short).1
    obtain ⟨finds, vanishes⟩ := ihFirst (by omega) faithful (linked.firstPart short) room
    obtain ⟨finds', vanishes'⟩ := ihLater positive (first.keepsFaithful faithful).1
      (linked.laterParts finds.stack positive vanishes) (finds.stack ▸ room)
    refine ⟨finds.trans finds', fun empty => ?_⟩
    obtain ⟨both, rest⟩ := vanishes' empty
    obtain ⟨empty, empty'⟩ := (PathSet.nilMemProduct positive).mp both
    exact ⟨empty, by rw [Node.allNullable, vanishes empty', rest, Bool.and_self]⟩
  | noBranches => exact ⟨.refl _ _ _, .inl⟩
  | @branch budget n rest k leading d acc other e paths f first later ihFirst ihLater =>
    obtain ⟨finds, vanishes⟩ := ihFirst positive faithful linked.firstBranch room
    obtain ⟨finds', vanishes'⟩ := ihLater positive (first.keepsFaithful faithful).1 (linked.laterBranches finds.stack)
      (finds.stack ▸ room)
    refine ⟨finds.trans finds', fun empty => ?_⟩
    rcases vanishes' empty with either | rest
    · rcases PathSet.memUnion.mp either with empty | empty
      · exact .inl empty
      · exact .inr (by rw [Node.anyNullable, vanishes empty, Bool.true_or])
    · exact .inr (by rw [Node.anyNullable, rest, Bool.or_true])

structure Halfway (a : Analyzer) (limit : Nat) (n : Node) (first : Bool) (others : Piece) (leading : Bool) (d : Desk)
    (tail : PathSet) (e : Desk) : Prop where
  before : d.Linked a.grammar first (n.leading a.grammar.nullable.contains)
  finds : d.Finds a.grammar limit e
  vanishes : [] ∈ tail → n.isNullable a.grammar.nullable.contains
  faithful : e.Faithful a
  behind : e.Linked a.grammar leading (others.leading a.grammar.nullable.contains)

section
variable {a : Analyzer} (exact : a.nullable = a.grammar.nullable) (distinct : a.grammar.Distinct) {budget k limit : Nat}
  {n : Node} {rest : List Node} {leading : Bool} {d e : Desk} {acc tail : PathSet} (faithful : d.Faithful a)
  (room : d.stack.length + budget ≤ limit)
include exact distinct faithful room

theorem Expands.halfwayParts {shortest : Nat} (short : shortestBelow k acc = Option.some shortest)
    (first : a.Expands budget (.node n) (k - shortest) (leading && shortest == 0) d tail e)
    (linked : d.Linked a.grammar leading ((Piece.parts (n :: rest) acc).leading a.grammar.nullable.contains)) :
    a.Halfway limit n (leading && shortest == 0) (.parts rest (PathSet.product acc tail k)) leading d tail e := by
  have below := (shortestBelowFound short).1
  have before := linked.firstPart short
  obtain ⟨finds, vanishes⟩ := first.findsWhileLinked exact distinct (by omega) faithful before room
  exact ⟨before, finds, vanishes, (first.keepsFaithful faithful).1, linked.laterParts finds.stack (by omega) vanishes⟩

theorem Expands.halfwayBranches (positive : 0 < k) (first : a.Expands budget (.node n) k leading d tail e)
    (linked : d.Linked a.grammar leading ((Piece.branches (n :: rest) acc).leading a.grammar.nullable.contains)) :
    a.Halfway limit n leading (.branches rest (PathSet.union acc tail)) leading d tail e := by
  obtain ⟨finds, vanishes⟩ := first.findsWhileLinked exact distinct positive faithful linked.firstBranch room
  exact ⟨linked.firstBranch, finds, vanishes, (first.keepsFaithful faithful).1, linked.laterBranches finds.stack⟩

end

end Analyzer

end Packrat

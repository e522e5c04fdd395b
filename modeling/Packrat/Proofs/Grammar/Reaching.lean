import Packrat.Grammar.Conflict
import Packrat.Proofs.Grammar.Lockstep

/-! Rules that can be reached from others. The rules from which a target can be reached are found in so many
passes; and an expansion that only comes to rules which do not lead back to themselves is not cut off. -/
namespace Packrat

namespace Grammar

variable {g : Grammar}

def Refers (g : Grammar) (name other : String) : Prop := ∃ body, g.rule? name = some body ∧ other ∈ body.calls

def ReachedFrom (g : Grammar) (n : Node) (rule : String) : Prop :=
  ∃ name ∈ n.calls, Relation.ReflTransGen g.Refers name rule

theorem ReachedFrom.throughReference {n : Node} {name other : String} (reached : g.ReachedFrom n name)
    (refers : g.Refers name other) :
    g.ReachedFrom n other := by
  obtain ⟨first, member, path⟩ := reached
  exact ⟨first, member, path.tail refers⟩

end Grammar

namespace Conflict

section
variable {rules : List (String × Node)} {found : List String}

theorem refersToIff {n : Node} : refersTo found n ↔ ∃ r ∈ n.calls, r ∈ found := by
  simp [refersTo]

theorem reachingPassAdds (rules : List (String × Node)) {added : List String} (nodup : added.Nodup)
    (targets : List String) :
    ∃ more, reachingPass rules (added ++ targets) = (more ++ added) ++ targets ∧ (more ++ added).Nodup ∧
      ∀ r ∈ more, r ∈ rules.map Prod.fst := by
  induction rules generalizing added with
  | nil => exact ⟨[], rfl, nodup, fun _ member => nomatch member⟩
  | cons e rest ih =>
    unfold reachingPass
    split
    · rename_i new
      simp only [Bool.and_eq_true, Bool.not_eq_true', List.contains_eq_mem, decide_eq_false_iff_not,
        List.mem_append, not_or] at new
      obtain ⟨more, eq, nodup, inside⟩ := ih (List.nodup_cons.mpr ⟨new.1.1, nodup⟩)
      refine ⟨more ++ [e.1], by simpa using eq, by simpa using nodup, fun r member => ?_⟩
      rcases List.mem_append.mp member with later | here
      · exact List.mem_cons_of_mem _ (inside r later)
      · rw [List.mem_singleton.mp here]
        exact List.mem_cons_self
    · obtain ⟨more, eq, nodup, inside⟩ := ih nodup
      exact ⟨more, eq, nodup, fun r member => List.mem_cons_of_mem _ (inside r member)⟩

theorem reachingPassInduction {motive : String → Prop}
    (step : ∀ e ∈ rules, ∀ r ∈ e.2.calls, motive r → motive e.1) (before : ∀ r ∈ found, motive r) :
    ∀ r ∈ reachingPass rules found, motive r := by
  induction rules generalizing found with
  | nil => exact before
  | cons e rest ih =>
    have later := fun e member => step e (List.mem_cons_of_mem _ member)
    unfold reachingPass
    split
    · rename_i new
      obtain ⟨r, called, member⟩ := refersToIff.mp (Bool.and_eq_true_iff.mp new).2
      exact ih later (List.forall_mem_cons.mpr ⟨step e List.mem_cons_self r called (before r member), before⟩)
    · exact ih later before

theorem reachingPassClosed (still : reachingPass rules found = found) :
    ∀ e ∈ rules, refersTo found e.2 → e.1 ∈ found := by
  induction rules with
  | nil => exact fun _ member => nomatch member
  | cons e rest ih =>
    unfold reachingPass at still
    split at still
    · obtain ⟨more, eq, _⟩ := reachingPassAdds rest List.nodup_nil (e.1 :: found)
      have longer := congrArg List.length (eq.symm.trans still)
      simp only [List.append_nil, List.length_append, List.length_cons] at longer
      omega
    · rename_i old
      intro e' member refers
      rcases List.mem_cons.mp member with rfl | later
      · simpa [refers] using old
      · exact ih still e' later refers

end

theorem reachingFromInduction {g : Grammar} {motive : String → Prop} (fuel : Nat) {found : List String}
    (step : ∀ e ∈ g.rules, ∀ r ∈ e.2.calls, motive r → motive e.1) (before : ∀ r ∈ found, motive r) :
    ∀ r ∈ reachingFrom g fuel found, motive r := by
  induction fuel generalizing found with
  | zero => exact before
  | succ fuel ih =>
    simp only [reachingFrom]
    split
    · exact before
    · exact ih (reachingPassInduction step before)

theorem reachingFromClosed {g : Grammar} (targets : List String) (fuel : Nat) {added : List String}
    (nodup : added.Nodup)
    (inside : ∀ r ∈ added, r ∈ g.rules.map Prod.fst) (enough : g.rules.length < fuel + added.length) :
    (∀ r ∈ targets, r ∈ reachingFrom g fuel (added ++ targets)) ∧
      ∀ e ∈ g.rules, refersTo (reachingFrom g fuel (added ++ targets)) e.2 →
        e.1 ∈ reachingFrom g fuel (added ++ targets) := by
  induction fuel generalizing added with
  | zero =>
    have few := (List.subperm_of_subset nodup inside).length_le
    simp only [List.length_map] at few
    omega
  | succ fuel ih =>
    obtain ⟨more, eq, nodup, new⟩ := reachingPassAdds g.rules nodup targets
    simp only [reachingFrom, eq]
    split
    · rename_i same
      have none : more = [] := List.eq_nil_of_length_eq_zero (by simp only [List.length_append] at same; omega)
      subst none
      exact ⟨fun r => List.mem_append_right _, reachingPassClosed eq⟩
    · rename_i differs
      refine ih nodup (List.forall_mem_append.mpr ⟨new, inside⟩) ?_
      simp only [List.length_append] at differs ⊢
      omega

theorem memReaching {g : Grammar} (distinct : g.Distinct) {targets : List String} {name : String} :
    name ∈ reaching g targets ↔ ∃ r ∈ targets, Relation.ReflTransGen g.Refers name r := by
  constructor
  · refine reachingFromInduction (motive := fun name => ∃ r ∈ targets, Relation.ReflTransGen g.Refers name r) _
      (fun e member r called => ?_) (fun r member => ⟨r, member, .refl⟩) name
    rintro ⟨target, inside, path⟩
    exact ⟨target, inside, .head ⟨e.2, distinct.ruleFound member, called⟩ path⟩
  · rintro ⟨target, inside, path⟩
    obtain ⟨targets, closed⟩ := reachingFromClosed (g := g) targets (g.rules.length + 1) List.nodup_nil
      (fun _ member => nomatch member) (by simp)
    induction path using Relation.ReflTransGen.head_induction_on with
    | refl => exact targets target inside
    | head refers _ ih =>
      obtain ⟨body, known, called⟩ := refers
      exact closed _ (Grammar.ruleListed known) (refersToIff.mpr ⟨_, called, ih⟩)

theorem refersToReachingIff {g : Grammar} (distinct : g.Distinct) {targets : List String} {branches : List Node} :
    branches.any (refersTo (reaching g targets)) ↔ ∃ n ∈ branches, ∃ r ∈ targets, g.ReachedFrom n r := by
  simp only [List.any_eq_true, refersToIff, memReaching distinct, Grammar.ReachedFrom]
  grind

end Conflict

namespace Piece

def calls : Piece → List String
  | .rule name => [name]
  | .node n => n.calls
  | .parts rest _ => rest.flatMap Node.calls
  | .branches rest _ => rest.flatMap Node.calls

end Piece

namespace Node

theorem callsInOrder (parts : List Node) (rule : Option String) : (Node.inOrder parts rule).calls =
    parts.flatMap calls := by
  induction parts with
  | nil => rfl
  | cons n rest ih => simpa [calls, nodes, nodesAll] using ih

theorem callsFirstOf (branches : List Node) : (Node.firstOf branches).calls = branches.flatMap calls := by
  induction branches with
  | nil => rfl
  | cons n rest ih => simpa [calls, nodes, nodesAll] using ih

end Node

namespace Analyzer

theorem Expands.cutAt {a : Analyzer} {budget : Nat} {piece : Piece} {k : Nat} {leading : Bool} {d e : Desk}
    {paths : PathSet} (expands : a.Expands budget piece k leading d paths e) (cut : d.cuts < e.cuts) :
    ∃ budget' rule k' d', Relation.ReflTransGen a.Turns ⟨budget, piece, k, leading, d⟩
      ⟨budget', .rule rule, k', true, d'⟩ ∧
      rule ∈ d'.stack := by
  have turned : ∀ {start next : Stage}, a.Turns start next →
      (∃ budget' rule k' d', Relation.ReflTransGen a.Turns next ⟨budget', .rule rule, k', true, d'⟩ ∧ rule ∈ d'.stack) →
      ∃ budget' rule k' d', Relation.ReflTransGen a.Turns start ⟨budget', .rule rule, k', true, d'⟩ ∧
          rule ∈ d'.stack := by
    rintro start next turns ⟨budget', rule, k', d', comes, again⟩
    exact ⟨budget', rule, k', d', .head turns comes, again⟩
  induction expands with
  | cut again => exact ⟨_, _, _, _, .refl, again⟩
  | opened fresh known miss inner ih => exact turned (.opened fresh known miss) (ih cut)
  | call inner ih => exact turned .call (ih cut)
  | inOrder inner ih => exact turned .inOrder (ih cut)
  | firstOf inner ih => exact turned .firstOf (ih cut)
  | optional inner ih => exact turned .optional (ih cut)
  | many inner ih => exact turned .many (ih cut)
  | some inner ih => exact turned .some (ih cut)
  | @part budget n rest k leading d acc shortest tail e paths f short first later ihFirst ihLater =>
    by_cases early : d.cuts < e.cuts
    · exact turned (.part short) (ihFirst early)
    · exact turned (.next short first) (ihLater (by omega))
  | @branch budget n rest k leading d acc other e paths f first later ihFirst ihLater =>
    by_cases early : d.cuts < e.cuts
    · exact turned .branch (ihFirst early)
    · exact turned (.other first) (ihLater (by omega))
  | _ => exact absurd cut (Nat.lt_irrefl _)

structure Confined (a : Analyzer) (allowed : String → Prop) (limit : Nat) (s : Stage) : Prop where
  room : s.desk.stack.length + s.budget ≤ limit
  calls : ∀ r ∈ s.piece.calls, allowed r

section
variable {a : Analyzer} {allowed : String → Prop} {limit : Nat}
  (closed : ∀ name other, allowed name → a.grammar.Refers name other → allowed other)
include closed

theorem Turns.keepConfined {s t : Stage} (turns : a.Turns s t) (confined : a.Confined allowed limit s) :
    a.Confined allowed limit t := by
  obtain ⟨room, calls⟩ := confined
  cases turns with
  | @opened budget rule k leading d body fresh known miss =>
    refine ⟨?_, fun r called => closed rule r (calls rule List.mem_cons_self) ⟨body, known, called⟩⟩
    cases leading <;> simp [Desk.opened] at room ⊢ <;> omega
  | call => exact ⟨room, fun r called => calls r called⟩
  | inOrder => exact ⟨room, fun r called => calls r (by simpa only [Piece.calls, Node.callsInOrder] using called)⟩
  | firstOf => exact ⟨room, fun r called => calls r (by simpa only [Piece.calls, Node.callsFirstOf] using called)⟩
  | optional => exact ⟨room, fun r called => calls r called⟩
  | many => exact ⟨room, fun r called => calls r called⟩
  | some => exact ⟨room, fun r called => calls r called⟩
  | part short => exact ⟨room, fun r called => calls r (List.mem_append_left _ called)⟩
  | next short first =>
    exact ⟨first.restoresStack.1.symm ▸ room, fun r called => calls r (List.mem_append_right _ called)⟩
  | branch => exact ⟨room, fun r called => calls r (List.mem_append_left _ called)⟩
  | other first => exact ⟨first.restoresStack.1.symm ▸ room, fun r called => calls r (List.mem_append_right _ called)⟩

theorem Confined.alongTurns {s t : Stage} (confined : a.Confined allowed limit s)
    (comes : Relation.ReflTransGen a.Turns s t) : a.Confined allowed limit t := by
  induction comes with
  | refl => exact confined
  | tail _ turns ih => exact turns.keepConfined closed ih

theorem Expands.acyclicUncut (exact : a.nullable = a.grammar.nullable) (distinct : a.grammar.Distinct) {budget : Nat}
    {piece : Piece} {k : Nat} {leading : Bool} {d e : Desk} {paths : PathSet}
    (expands : a.Expands budget piece k leading d paths e) (steady : a.Steady ⟨budget, piece, k, leading, d⟩)
    (confined : a.Confined allowed limit ⟨budget, piece, k, leading, d⟩)
    (acyclic : ∀ rule, allowed rule → ∀ n < limit, ¬ a.grammar.Walk (n + 1) rule rule) : e.cuts = d.cuts := by
  refine Nat.le_antisymm (Nat.le_of_not_lt fun cut => ?_) expands.restoresStack.2.1
  obtain ⟨budget', rule, k', d', comes, again⟩ := expands.cutAt cut
  obtain ⟨_, linked, _⟩ := steady.alongTurns exact distinct comes
  obtain ⟨room, calls⟩ := confined.alongTurns closed comes
  obtain ⟨before, rest, _, found⟩ := Desk.dropWhileFirst again
  obtain ⟨n, less, walk⟩ := (linked.closesCycle again (Nat.le_trans (Nat.le_add_right _ _) room)).walkAroundCycle
  have head : Cycle.head ⟨d'.stack.dropWhile (· != rule) ++ [rule]⟩ = rule := by simp [Cycle.head, found]
  rw [head] at walk
  exact acyclic rule (calls rule List.mem_cons_self) n less walk

end

end Analyzer
end Packrat

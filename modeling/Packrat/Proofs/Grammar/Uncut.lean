import Packrat.Proofs.Grammar.Expanding

/-! Expansions in which nothing is cut off. What they give does not depend on the stack or on what
was kept before, and every set that is kept comes from such an expansion. -/
namespace Packrat

structure Whole where
  paths : PathSet
  keys : List DepthKey := []

namespace Whole

mutual

def ofNode (ofRule : String → Nat → Whole) : Node → Nat → Whole
  | .consume token, _ => { paths := [[.token token]] }
  | .call rule, k => ofRule rule k
  | .inOrder parts _, k => ofParts ofRule parts k [[]]
  | .firstOf branches, k => ofBranches ofRule branches k []
  | .optional body, k => { ofNode ofRule body k with paths := PathSet.insert [] (ofNode ofRule body k).paths }
  | .many body, k =>
    let once := ofNode ofRule body k
    { once with paths := PathSet.insert [] (PathSet.close once.paths k k once.paths) }
  | .some body, k =>
    let once := ofNode ofRule body k
    { once with paths := PathSet.close once.paths k k once.paths }

def ofParts (ofRule : String → Nat → Whole) : List Node → Nat → PathSet → Whole
  | [], _, acc => { paths := acc }
  | n :: rest, k, acc =>
    match Analyzer.shortestBelow k acc with
    | none => { paths := acc }
    | some shortest =>
      let tail := ofNode ofRule n (k - shortest)
      let all := ofParts ofRule rest k (PathSet.product acc tail.paths k)
      { all with keys := tail.keys ++ all.keys }

def ofBranches (ofRule : String → Nat → Whole) : List Node → Nat → PathSet → Whole
  | [], _, acc => { paths := acc }
  | n :: rest, k, acc =>
    let other := ofNode ofRule n k
    let all := ofBranches ofRule rest k (PathSet.union acc other.paths)
    { all with keys := other.keys ++ all.keys }

end

def ofRule (a : Analyzer) : Nat → String → Nat → Whole
  | 0, rule, _ => { paths := a.placeholder rule }
  | budget + 1, rule, k =>
    match a.grammar.rule? rule with
    | none => { paths := a.placeholder rule }
    | some body =>
      let all := ofNode (ofRule a budget) body k
      { all with keys := ⟨rule, k, budget + 1⟩ :: all.keys }

end Whole

def Piece.whole (a : Analyzer) (budget : Nat) : Piece → Nat → Whole
  | .rule name, k => .ofRule a budget name k
  | .node n, k => .ofNode (.ofRule a budget) n k
  | .parts rest acc, k => .ofParts (.ofRule a budget) rest k acc
  | .branches rest acc, k => .ofBranches (.ofRule a budget) rest k acc

theorem Whole.ofRuleShut {a : Analyzer} {budget : Nat} {rule : String}
    (shut : a.grammar.rule? rule = none ∨ budget = 0) (k : Nat) :
    Whole.ofRule a budget rule k = { paths := a.placeholder rule } := by
  cases budget with
  | zero => rfl
  | succ budget =>
    have unknown := shut.resolve_right (Nat.succ_ne_zero budget)
    simp [Whole.ofRule, unknown]

theorem Whole.ofRuleOpen {a : Analyzer} {rule : String} {body : Node}
    (known : a.grammar.rule? rule = some body) (budget k : Nat) :
    Whole.ofRule a (budget + 1) rule k =
      { Whole.ofNode (.ofRule a budget) body k with
        keys := ⟨rule, k, budget + 1⟩ :: (Whole.ofNode (.ofRule a budget) body k).keys } := by
  simp [Whole.ofRule, known]

theorem Analyzer.nilMemPlaceholder {a : Analyzer} {rule : String} : [] ∈ a.placeholder rule ↔ rule ∈ a.nullable := by
  unfold placeholder isNullable
  split <;> simp_all

namespace Whole

section
variable {rules : String → Nat → Whole} {nullable : String → Bool} {k : Nat}

theorem nilMemOfParts {parts : List Node} (positive : 0 < k)
    (each : ∀ n ∈ parts, ∀ k, 0 < k → ([] ∈ (ofNode rules n k).paths ↔ n.isNullable nullable)) (acc : PathSet) :
    [] ∈ (ofParts rules parts k acc).paths ↔ [] ∈ acc ∧ Node.allNullable nullable parts := by
  induction parts generalizing acc with
  | nil => simp [ofParts, Node.allNullable]
  | cons n rest ih =>
    unfold ofParts
    split
    · rename_i long
      simp [Analyzer.emptyAbsentWhenLong positive long]
    · rename_i shortest short
      have left : 0 < k - shortest := by
        have := (Analyzer.shortestBelowFound short).1
        omega
      dsimp only
      rw [ih (fun n member => each n (List.mem_cons_of_mem _ member)), PathSet.nilMemProduct positive,
        each n List.mem_cons_self _ left, Node.allNullable, Bool.and_eq_true, and_assoc]

theorem memOfBranches {branches : List Node} {p : Path} (acc : PathSet) :
    p ∈ (ofBranches rules branches k acc).paths ↔ p ∈ acc ∨ ∃ n ∈ branches, p ∈ (ofNode rules n k).paths := by
  induction branches generalizing acc with
  | nil => simp [ofBranches]
  | cons n rest ih => simp [ofBranches, ih, or_assoc]

theorem nilMemOfNode (calls : ∀ rule k, 0 < k → ([] ∈ (rules rule k).paths ↔ nullable rule)) (n : Node)
    (positive : 0 < k) : [] ∈ (ofNode rules n k).paths ↔ n.isNullable nullable := by
  induction n using Node.induction generalizing k with
  | consume token => simp [ofNode, Node.isNullable]
  | inOrder parts rule ih =>
    unfold ofNode Node.isNullable
    rw [nilMemOfParts positive fun n member k positive => ih n member positive]
    simp
  | firstOf branches ih =>
    unfold ofNode Node.isNullable
    rw [memOfBranches, Node.anyNullableIff]
    simp only [List.not_mem_nil, false_or]
    exact exists_congr fun n => and_congr_right fun member => ih n member positive
  | optional body ih => simp [ofNode, Node.isNullable]
  | many body ih => simp [ofNode, Node.isNullable]
  | some body ih =>
    unfold ofNode Node.isNullable
    exact (PathSet.nilMemClose positive k).trans (ih positive)
  | call rule => exact calls rule k positive

end

theorem nilMemOfRule {a : Analyzer} (exact : a.nullable = a.grammar.nullable) (distinct : a.grammar.Distinct)
    (budget : Nat) (rule : String) {k : Nat} (positive : 0 < k) :
    [] ∈ (ofRule a budget rule k).paths ↔ rule ∈ a.grammar.nullable := by
  induction budget generalizing rule k with
  | zero => rw [ofRuleShut (.inr rfl), Analyzer.nilMemPlaceholder, exact]
  | succ budget ih =>
    cases known : a.grammar.rule? rule with
    | none => rw [ofRuleShut (.inl known), Analyzer.nilMemPlaceholder, exact]
    | some body =>
      have calls : ∀ rule k, 0 < k → ([] ∈ (ofRule a budget rule k).paths ↔ a.grammar.nullable.contains rule) :=
        fun rule k positive => by simpa using ih rule positive
      rw [ofRuleOpen known]
      dsimp only
      rw [nilMemOfNode calls body positive]
      constructor
      · exact Grammar.nullableClosed known
      · intro member
        obtain ⟨body', known', vanishes⟩ := Grammar.nullableBody distinct member
        cases known.symm.trans known'
        exact vanishes

end Whole

theorem Analyzer.lookupPutEntry {κ ν : Type} [DecidableEq κ] [BEq κ] [LawfulBEq κ] (key other : κ) (value : ν)
    (entries : List (κ × ν)) :
    (putEntry key value entries).lookup other = if other = key then some value else entries.lookup other := by
  induction entries with
  | nil =>
    by_cases same : other = key
    · simp [putEntry, same]
    · simp [putEntry, List.lookup_cons, same, beq_eq_false_iff_ne.mpr same]
  | cons e rest ih =>
    obtain ⟨k, v⟩ := e
    by_cases here : other = k
    · subst here
      by_cases same : other = key <;> simp [putEntry, same]
    · have differ := beq_eq_false_iff_ne.mpr here
      by_cases same : k = key
      · subst same
        simp [putEntry, List.lookup_cons, differ, here]
      · simp [putEntry, List.lookup_cons, same, differ, ih]

namespace Desk

def Keeps (d : Desk) (key : DepthKey) : Prop := ∃ paths, d.cache.lookup key = some paths

def Faithful (a : Analyzer) (d : Desk) : Prop :=
  ∀ key paths, d.cache.lookup key = some paths →
    paths = (Whole.ofRule a key.budget key.rule key.k).paths ∧
      ∀ other ∈ (Whole.ofRule a key.budget key.rule key.k).keys, d.Keeps other

theorem closedLookup {outer d : Desk} {key : DepthKey} {leading : Bool} {paths : PathSet} (other : DepthKey) :
    (outer.closed key leading paths d).cache.lookup other =
      if d.cuts = outer.cuts ∧ other = key then some paths else d.cache.lookup other := by
  unfold closed
  dsimp only
  split
  · rename_i uncut
    simp [Analyzer.lookupPutEntry, uncut]
  · rename_i cut
    simp [cut]

theorem closedKeeps {outer d : Desk} {key : DepthKey} {leading : Bool} {paths : PathSet} (other : DepthKey) :
    (outer.closed key leading paths d).Keeps other ↔ (d.cuts = outer.cuts ∧ other = key) ∨ d.Keeps other := by
  unfold Keeps
  rw [closedLookup]
  split
  · rename_i own
    simp [own]
  · rename_i differs
    simp [differs]

end Desk

namespace Analyzer

theorem Faithful.afterClosing {a : Analyzer} {outer e : Desk} {rule : String} {body : Node} {k budget : Nat}
    {leading : Bool} {paths : PathSet} (known : a.grammar.rule? rule = some body) (faithful : e.Faithful a)
    (uncut : e.cuts = outer.cuts → paths = (Whole.ofNode (.ofRule a budget) body k).paths ∧
      ∀ key ∈ (Whole.ofNode (.ofRule a budget) body k).keys, e.Keeps key) :
    (outer.closed ⟨rule, k, budget + 1⟩ leading paths e).Faithful a := by
  intro key found kept
  rw [Desk.closedLookup] at kept
  split at kept
  · rename_i own
    obtain ⟨still, rfl⟩ := own
    cases kept
    rw [Whole.ofRuleOpen known]
    refine ⟨(uncut still).1, fun other member => (Desk.closedKeeps other).mpr ?_⟩
    rcases List.mem_cons.mp member with rfl | inside
    · exact .inl ⟨still, rfl⟩
    · exact .inr ((uncut still).2 other inside)
  · obtain ⟨same, keeps⟩ := faithful key found kept
    exact ⟨same, fun other member => (Desk.closedKeeps other).mpr (.inr (keeps other member))⟩

theorem Faithful.withoutChange {a : Analyzer} {d : Desk} (faithful : d.Faithful a) {paths : PathSet} :
    d.Faithful a ∧ d.cuts ≤ d.cuts ∧ (d.cuts = d.cuts →
      paths = paths ∧ ∀ key, d.Keeps key ↔ d.Keeps key ∨ key ∈ ([] : List DepthKey)) :=
  ⟨faithful, Nat.le_refl _, fun _ => ⟨rfl, fun key => by simp⟩⟩

theorem Expands.keepsFaithful {a : Analyzer} {budget : Nat} {piece : Piece} {k : Nat} {leading : Bool} {d e : Desk}
    {paths : PathSet} (expands : a.Expands budget piece k leading d paths e) (faithful : d.Faithful a) :
    e.Faithful a ∧ d.cuts ≤ e.cuts ∧ (e.cuts = d.cuts →
      paths = (piece.whole a budget k).paths ∧
        ∀ key, e.Keeps key ↔ d.Keeps key ∨ key ∈ (piece.whole a budget k).keys) := by
  induction expands with
  | cut again => exact ⟨faithful, Nat.le_succ _, fun uncut => absurd uncut (Nat.succ_ne_self _)⟩
  | stand fresh shut =>
    rw [Piece.whole, Whole.ofRuleShut shut]
    exact Faithful.withoutChange faithful
  | @hit budget rule k leading d body paths fresh known found =>
    obtain ⟨same, keeps⟩ := faithful _ _ found
    refine ⟨faithful, Nat.le_refl _, fun _ => ⟨same, fun key => ⟨.inl, ?_⟩⟩⟩
    rintro (kept | member)
    · exact kept
    · exact keeps key member
  | @opened budget rule k leading d body paths e fresh known miss inner ih =>
    obtain ⟨faithful, more, uncut⟩ := ih faithful
    refine ⟨Faithful.afterClosing known faithful fun still =>
      ⟨(uncut still).1, fun key member => ((uncut still).2 key).mpr (.inr member)⟩, more, fun still => ?_⟩
    obtain ⟨same, keeps⟩ := uncut still
    rw [Piece.whole, Whole.ofRuleOpen known]
    refine ⟨same, fun key => ?_⟩
    rw [Desk.closedKeeps, keeps key]
    have still : e.cuts = d.cuts := still
    simp only [still, true_and, List.mem_cons]
    exact or_left_comm
  | consume => exact Faithful.withoutChange faithful
  | call inner ih => exact ih faithful
  | inOrder inner ih => exact ih faithful
  | firstOf inner ih => exact ih faithful
  | optional inner ih =>
    obtain ⟨faithful, more, uncut⟩ := ih faithful
    exact ⟨faithful, more, fun still => ⟨congrArg _ (uncut still).1, (uncut still).2⟩⟩
  | @many budget body k leading d once e inner ih =>
    obtain ⟨faithful, more, uncut⟩ := ih faithful
    exact ⟨faithful, more, fun still =>
      ⟨congrArg (fun once => PathSet.insert [] (PathSet.close once k k once)) (uncut still).1, (uncut still).2⟩⟩
  | @some budget body k leading d once e inner ih =>
    obtain ⟨faithful, more, uncut⟩ := ih faithful
    exact ⟨faithful, more, fun still =>
      ⟨congrArg (fun once => PathSet.close once k k once) (uncut still).1, (uncut still).2⟩⟩
  | noParts => exact Faithful.withoutChange faithful
  | full long =>
    simp [Piece.whole, Whole.ofParts, long, faithful]
  | @part budget n rest k leading d acc shortest tail e paths f short first later ihFirst ihLater =>
    obtain ⟨faithful, more, uncutFirst⟩ := ihFirst faithful
    obtain ⟨faithful, more', uncutLater⟩ := ihLater faithful
    refine ⟨faithful, Nat.le_trans more more', fun still => ?_⟩
    obtain ⟨rfl, keepsFirst⟩ := uncutFirst (by omega)
    obtain ⟨rfl, keepsLater⟩ := uncutLater (by omega)
    simp only [Piece.whole, Whole.ofParts, short]
    refine ⟨trivial, fun key => ?_⟩
    rw [keepsLater, keepsFirst, List.mem_append, or_assoc]
    rfl
  | noBranches => exact Faithful.withoutChange faithful
  | @branch budget n rest k leading d acc other e paths f first later ihFirst ihLater =>
    obtain ⟨faithful, more, uncutFirst⟩ := ihFirst faithful
    obtain ⟨faithful, more', uncutLater⟩ := ihLater faithful
    refine ⟨faithful, Nat.le_trans more more', fun still => ?_⟩
    obtain ⟨rfl, keepsFirst⟩ := uncutFirst (by omega)
    obtain ⟨rfl, keepsLater⟩ := uncutLater (by omega)
    simp only [Piece.whole, Whole.ofBranches]
    refine ⟨trivial, fun key => ?_⟩
    rw [keepsLater, keepsFirst, List.mem_append, or_assoc]
    rfl

end Analyzer
end Packrat

import Packrat.Grammar.Analyzer
import Packrat.Proofs.Grammar.Nullable
import Packrat.Proofs.Grammar.PathSet

/-! What a depth-first expansion does that ends in time. Everything proved about depth-first answers starts from
this relation. -/
namespace Packrat

structure Desk where
  cache : List (DepthKey × PathSet) := []
  stack : List String := []
  cuts : Nat := 0
  cycles : List Cycle := []

namespace Desk

def cutOff (d : Desk) (rule : String) : Desk :=
  let cycle : Cycle := ⟨d.stack.dropWhile (· != rule) ++ [rule]⟩
  { d with
    cuts := d.cuts + 1
    cycles := if d.cycles.contains cycle then d.cycles else d.cycles ++ [cycle] }

def opened (d : Desk) (rule : String) (leading : Bool) : Desk :=
  { d with stack := if leading then d.stack ++ [rule] else [rule] }

def closed (outer : Desk) (key : DepthKey) (leading : Bool) (paths : PathSet) (d : Desk) : Desk :=
  { d with
    stack := if leading then d.stack.dropLast else outer.stack
    cache := if d.cuts = outer.cuts then Analyzer.putEntry key paths d.cache else d.cache }

def cleared (d : Desk) (cycles : List Cycle) : Desk := { d with stack := [], cycles := cycles }

end Desk

def Findings.desk (f : Findings) : Desk := ⟨f.depthCache, f.leftStack, f.cuts, f.cycles⟩

inductive Piece where
  | rule (name : String)
  | node (n : Node)
  | parts (rest : List Node) (acc : PathSet)
  | branches (rest : List Node) (acc : PathSet)

namespace Analyzer

/- `Expands a budget piece k leading d paths e`: the piece, whose rules may be opened `budget` levels
deep, has the first `k` symbols `paths`, and finding them leads from `d` to `e`. -/
inductive Expands (a : Analyzer) : Nat → Piece → Nat → Bool → Desk → PathSet → Desk → Prop where
  | cut {budget rule k d} (again : rule ∈ d.stack) : Expands a budget (.rule rule) k true d [] (d.cutOff rule)
  | stand {budget rule k leading d} (fresh : leading = true → rule ∉ d.stack)
      (shut : a.grammar.rule? rule = none ∨ budget = 0) :
      Expands a budget (.rule rule) k leading d (a.placeholder rule) d
  | hit {budget rule k leading d body paths} (fresh : leading = true → rule ∉ d.stack)
      (known : a.grammar.rule? rule = Option.some body)
      (found : d.cache.lookup ⟨rule, k, budget + 1⟩ = Option.some paths) :
      Expands a (budget + 1) (.rule rule) k leading d paths d
  | opened {budget rule k leading d body paths e} (fresh : leading = true → rule ∉ d.stack)
      (known : a.grammar.rule? rule = Option.some body) (miss : d.cache.lookup ⟨rule, k, budget + 1⟩ = none)
      (inner : Expands a budget (.node body) k true (d.opened rule leading) paths e) :
      Expands a (budget + 1) (.rule rule) k leading d paths (d.closed ⟨rule, k, budget + 1⟩ leading paths e)
  | consume {budget token k leading d} : Expands a budget (.node (.consume token)) k leading d [[.token token]] d
  | call {budget rule k leading d paths e} (inner : Expands a budget (.rule rule) k leading d paths e) :
      Expands a budget (.node (.call rule)) k leading d paths e
  | inOrder {budget parts rule k leading d paths e} (inner : Expands a budget (.parts parts [[]]) k leading d paths e) :
      Expands a budget (.node (.inOrder parts rule)) k leading d paths e
  | firstOf {budget branches k leading d paths e}
      (inner : Expands a budget (.branches branches []) k leading d paths e) :
      Expands a budget (.node (.firstOf branches)) k leading d paths e
  | optional {budget body k leading d paths e} (inner : Expands a budget (.node body) k leading d paths e) :
      Expands a budget (.node (.optional body)) k leading d (PathSet.insert [] paths) e
  | many {budget body k leading d once e} (inner : Expands a budget (.node body) k leading d once e) :
      Expands a budget (.node (.many body)) k leading d (PathSet.insert [] (PathSet.close once k k once)) e
  | some {budget body k leading d once e} (inner : Expands a budget (.node body) k leading d once e) :
      Expands a budget (.node (.some body)) k leading d (PathSet.close once k k once) e
  | noParts {budget k leading d acc} : Expands a budget (.parts [] acc) k leading d acc d
  | full {budget n rest k leading d acc} (long : shortestBelow k acc = none) :
      Expands a budget (.parts (n :: rest) acc) k leading d acc d
  | part {budget n rest k leading d acc shortest tail e paths f} (short : shortestBelow k acc = Option.some shortest)
      (first : Expands a budget (.node n) (k - shortest) (leading && shortest == 0) d tail e)
      (later : Expands a budget (.parts rest (PathSet.product acc tail k)) k leading e paths f) :
      Expands a budget (.parts (n :: rest) acc) k leading d paths f
  | noBranches {budget k leading d acc} : Expands a budget (.branches [] acc) k leading d acc d
  | branch {budget n rest k leading d acc other e paths f}
      (first : Expands a budget (.node n) k leading d other e)
      (later : Expands a budget (.branches rest (PathSet.union acc other)) k leading e paths f) :
      Expands a budget (.branches (n :: rest) acc) k leading d paths f

theorem shortestBelowFound {k shortest : Nat} {acc : PathSet} (short : shortestBelow k acc = Option.some shortest) :
    shortest < k ∧ (∃ p ∈ acc, p.length = shortest) ∧ ∀ p ∈ acc, shortest ≤ p.length ∨ k ≤ p.length := by
  obtain ⟨member, least⟩ := List.min?_eq_some_iff.mp short
  simp only [List.mem_filter, List.mem_map, decide_eq_true_eq, and_imp, forall_exists_index,
    forall_apply_eq_imp_iff₂] at member least
  refine ⟨member.2, member.1, fun p inside => ?_⟩
  by_cases below : p.length < k
  · exact .inl (least p inside below)
  · exact .inr (Nat.le_of_not_lt below)

theorem shortestBelowAbsent {k : Nat} {acc : PathSet} (long : shortestBelow k acc = none) :
    ∀ p ∈ acc, k ≤ p.length := by
  intro p inside
  have empty := List.min?_eq_none_iff.mp long
  by_contra below
  have : p.length ∈ (acc.map List.length).filter (· < k) :=
    List.mem_filter.mpr ⟨List.mem_map_of_mem inside, by simpa using below⟩
  rw [empty] at this
  exact nomatch this

theorem emptyAbsentWhenLong {k : Nat} {acc : PathSet} (positive : 0 < k) (long : shortestBelow k acc = none) :
    [] ∉ acc := fun empty => absurd (shortestBelowAbsent long [] empty) (Nat.not_le.mpr positive)

theorem shortestZeroIff {k shortest : Nat} {acc : PathSet} (short : shortestBelow k acc = Option.some shortest) :
    shortest = 0 ↔ [] ∈ acc := by
  obtain ⟨below, ⟨p, inside, rfl⟩, least⟩ := shortestBelowFound short
  constructor
  · intro empty
    rwa [List.eq_nil_of_length_eq_zero empty] at inside
  · intro empty
    have := least [] empty
    simp only [List.length_nil] at this
    omega

theorem bindOk {α β : Type} {x : Query α} {next : α → Query β} {f h : Findings} {b : β}
    (ran : (x >>= next) f = .ok b h) : ∃ v g, x f = .ok v g ∧ next v g = .ok b h := by
  simp only [bind, EStateM.bind] at ran
  split at ran
  · exact ⟨_, _, ‹_›, ran⟩
  · cases ran

theorem tickOk {a : Analyzer} {f g : Findings} {u : Unit} (ran : a.tick f = .ok u g) :
    g.desk = f.desk ∧ g.levelCache = f.levelCache := by
  unfold tick at ran
  dsimp only at ran
  split at ran
  · cases ran
  · cases ran
    exact ⟨rfl, rfl⟩

theorem closureOk {a : Analyzer} {once : PathSet} {k : Nat} (rounds : Nat) {acc paths : PathSet} {f g : Findings}
    (ran : a.closure once k rounds acc f = .ok paths g) :
    paths = PathSet.close once k rounds acc ∧ g.desk = f.desk ∧ g.levelCache = f.levelCache := by
  induction rounds generalizing acc f with
  | zero =>
    cases ran
    exact ⟨rfl, rfl, rfl⟩
  | succ rounds ih =>
    obtain ⟨_, h, ticked, ran⟩ := bindOk ran
    obtain ⟨desk, levels⟩ := tickOk ticked
    simp only [PathSet.close]
    by_cases still : PathSet.union (PathSet.product acc once k) acc = acc
    · simp only [if_pos still] at ran ⊢
      cases ran
      exact ⟨rfl, desk, levels⟩
    · simp only [if_neg still] at ran ⊢
      obtain ⟨rfl, desk', levels'⟩ := ih ran
      exact ⟨rfl, desk'.trans desk, levels'.trans levels⟩

section
variable {a : Analyzer} {budget : Nat} {rulePaths : String → Nat → Bool → Query PathSet}

def Follows (a : Analyzer) (budget : Nat) (piece : Piece) (query : Nat → Bool → Query PathSet) : Prop :=
  ∀ k leading f paths g, query k leading f = .ok paths g →
    a.Expands budget piece k leading f.desk paths g.desk ∧ g.levelCache = f.levelCache

theorem followsParts {parts : List Node} (each : ∀ n ∈ parts, a.Follows budget (.node n) (a.nodePaths rulePaths n))
    (acc : PathSet) :
    a.Follows budget (.parts parts acc) fun k leading => a.partsPaths rulePaths parts k leading acc := by
  induction parts generalizing acc with
  | nil =>
    intro k leading f paths g ran
    cases ran
    exact ⟨.noParts, rfl⟩
  | cons n rest ih =>
    intro k leading f paths g ran
    simp only [partsPaths] at ran
    cases short : shortestBelow k acc with
    | none =>
      rw [short] at ran
      cases ran
      exact ⟨.full short, rfl⟩
    | some shortest =>
      rw [short] at ran
      obtain ⟨tail, h, ranFirst, ranLater⟩ := bindOk ran
      obtain ⟨first, levels⟩ := each n List.mem_cons_self _ _ _ _ _ ranFirst
      obtain ⟨later, levels'⟩ := ih (fun n member => each n (List.mem_cons_of_mem _ member)) _ _ _ _ _ _ ranLater
      exact ⟨.part short first later, levels'.trans levels⟩

theorem followsBranches {branches : List Node}
    (each : ∀ n ∈ branches, a.Follows budget (.node n) (a.nodePaths rulePaths n)) (acc : PathSet) :
    a.Follows budget (.branches branches acc) fun k leading => a.branchesPaths rulePaths branches k leading acc := by
  induction branches generalizing acc with
  | nil =>
    intro k leading f paths g ran
    cases ran
    exact ⟨.noBranches, rfl⟩
  | cons n rest ih =>
    intro k leading f paths g ran
    obtain ⟨other, h, ranFirst, ranLater⟩ := bindOk ran
    obtain ⟨first, levels⟩ := each n List.mem_cons_self _ _ _ _ _ ranFirst
    obtain ⟨later, levels'⟩ := ih (fun n member => each n (List.mem_cons_of_mem _ member)) _ _ _ _ _ _ ranLater
    exact ⟨.branch first later, levels'.trans levels⟩

theorem followsNode (calls : ∀ rule, a.Follows budget (.rule rule) (rulePaths rule)) (n : Node) :
    a.Follows budget (.node n) (a.nodePaths rulePaths n) := by
  induction n using Node.induction with
  | consume token =>
    intro k leading f paths g ran
    cases ran
    exact ⟨.consume, rfl⟩
  | inOrder parts rule ih =>
    intro k leading f paths g ran
    exact (followsParts ih _ k leading f paths g ran).imp .inOrder id
  | firstOf branches ih =>
    intro k leading f paths g ran
    exact (followsBranches ih _ k leading f paths g ran).imp .firstOf id
  | optional body ih =>
    intro k leading f paths g ran
    obtain ⟨inner, h, ran, ended⟩ := bindOk ran
    cases ended
    exact (ih _ _ _ _ _ ran).imp .optional id
  | many body ih =>
    intro k leading f paths g ran
    obtain ⟨once, h, first, ran⟩ := bindOk ran
    obtain ⟨all, h', closed, ended⟩ := bindOk ran
    cases ended
    obtain ⟨rfl, desk, levels⟩ := closureOk k closed
    rw [desk, levels]
    exact (ih _ _ _ _ _ first).imp .many id
  | some body ih =>
    intro k leading f paths g ran
    obtain ⟨once, h, first, closed⟩ := bindOk ran
    obtain ⟨rfl, desk, levels⟩ := closureOk k closed
    rw [desk, levels]
    exact (ih _ _ _ _ _ first).imp .some id
  | call rule =>
    intro k leading f paths g ran
    exact (calls rule k leading f paths g ran).imp .call id

theorem cutOffOk {rule : String} {f g : Findings} {paths : PathSet} (ran : cutOff rule f = .ok paths g) :
    paths = [] ∧ g.desk = f.desk.cutOff rule ∧ g.levelCache = f.levelCache := by
  unfold cutOff at ran
  dsimp only at ran
  split at ran
  · rename_i known
    cases ran
    exact ⟨rfl, congrArg (Desk.mk f.depthCache f.leftStack (f.cuts + 1)) (if_pos known).symm, rfl⟩
  · rename_i new
    cases ran
    exact ⟨rfl, congrArg (Desk.mk f.depthCache f.leftStack (f.cuts + 1)) (if_neg new).symm, rfl⟩

theorem expandBodyOk {rule : String} {body : Node} {k : Nat} {leading : Bool} {f g h : Findings}
    {key : DepthKey} {paths kept : PathSet} {before : Nat}
    (follows : a.Follows budget (.node body) (a.nodePaths rulePaths body))
    (ran : expandBody a rulePaths rule body k leading f = .ok paths g)
    (ended : keepUncut key before paths g = .ok kept h) (same : before = f.cuts) :
    kept = paths ∧ h.levelCache = f.levelCache ∧
      ∃ e, a.Expands budget (.node body) k true (f.desk.opened rule leading) paths e ∧
        h.desk = f.desk.closed key leading paths e := by
  unfold expandBody withStack at ran
  dsimp only at ran
  split at ran
  · rename_i value inner eq
    cases ran
    obtain ⟨expands, levels⟩ := follows _ _ _ _ _ eq
    unfold keepUncut at ended
    dsimp only at ended
    split at ended
    · rename_i uncut
      cases ended
      refine ⟨rfl, levels, inner.desk, expands, ?_⟩
      simp only [Findings.desk, Desk.closed, ← same, if_pos uncut]
    · rename_i cut
      cases ended
      refine ⟨rfl, levels, inner.desk, expands, ?_⟩
      simp only [Findings.desk, Desk.closed, ← same, if_neg cut]
  · cases ran

end

theorem followsRule (a : Analyzer) (budget : Nat) (rule : String) :
    a.Follows budget (.rule rule) (a.rulePaths budget rule) := by
  induction budget using Nat.strongRecOn generalizing rule with
  | ind budget ih =>
    intro k leading f paths g ran
    rw [rulePaths] at ran
    obtain ⟨_, f', ticked, ran⟩ := bindOk ran
    rw [← (tickOk ticked).1, ← (tickOk ticked).2]
    obtain ⟨_, _, got, ran⟩ := bindOk ran
    cases got
    split at ran
    · rename_i cut
      obtain ⟨rfl, desk, levels⟩ := cutOffOk ran
      simp only [Bool.and_eq_true, List.contains_eq_mem, decide_eq_true_eq] at cut
      rw [desk, cut.1]
      exact ⟨.cut cut.2, levels⟩
    · rename_i uncut
      have fresh : leading = true → rule ∉ f'.leftStack := by simpa using uncut
      cases known : a.grammar.rule? rule with
      | none =>
        rw [known] at ran
        cases ran
        exact ⟨.stand fresh (.inl known), rfl⟩
      | some body =>
        cases budget with
        | zero =>
          simp only [known] at ran
          cases ran
          exact ⟨.stand fresh (.inr rfl), rfl⟩
        | succ budget =>
          simp only [known] at ran
          cases found : f'.depthCache.lookup ⟨rule, k, budget + 1⟩ with
          | some hit =>
            simp only [found] at ran
            cases ran
            exact ⟨.hit fresh known found, rfl⟩
          | none =>
            simp only [found] at ran
            obtain ⟨_, _, counted, ran⟩ := bindOk ran
            cases counted
            obtain ⟨_, _, ran, ended⟩ := bindOk ran
            obtain ⟨rfl, levels, e, expands, desk⟩ :=
              expandBodyOk (followsNode (ih budget (Nat.lt_succ_self budget)) body) ran ended rfl
            rw [desk]
            exact ⟨.opened fresh known found expands, levels⟩

theorem expandOk {a : Analyzer} {rule : String} {k depth : Nat} {f g : Findings} {paths : PathSet}
    (ran : a.expand rule k depth f = .ok paths g) :
    a.Expands depth (.rule rule) k true (f.desk.cleared f.cycles) paths g.desk ∧ g.levelCache = f.levelCache := by
  obtain ⟨_, _, cleared, ran⟩ := bindOk ran
  cases cleared
  exact followsRule a depth rule _ _ _ _ _ ran

theorem firstOfNodeOk {a : Analyzer} {n : Node} {f g : Findings} {paths : PathSet}
    (ran : a.firstOfNode n f = .ok paths g) :
    a.Expands (a.config.maxDepth - 1) (.node n) a.config.firstK false (f.desk.cleared f.cycles) paths g.desk ∧
      g.levelCache = f.levelCache := by
  obtain ⟨_, _, cleared, ran⟩ := bindOk ran
  cases cleared
  exact followsNode (followsRule a _) n _ _ _ _ _ ran

theorem byDepthOk {a : Analyzer} {rule : String} {f g : Findings} {found : Option Cycle}
    (ran : a.recursionByDepth rule f = .ok found g) :
    found = g.cycles.find? (·.head == rule) ∧ g.levelCache = f.levelCache ∧ ∃ paths,
      a.Expands a.config.maxDepth (.rule rule) a.config.firstK true (f.desk.cleared []) paths g.desk := by
  obtain ⟨_, _, cleared, ran⟩ := bindOk ran
  cases cleared
  obtain ⟨paths, h, expanded, ran⟩ := bindOk ran
  obtain ⟨_, _, got, ran⟩ := bindOk ran
  cases got
  cases ran
  obtain ⟨expands, levels⟩ := expandOk expanded
  exact ⟨rfl, levels, paths, expands⟩

def InTime (a : Analyzer) : Prop := ∀ n, a.clock n ≤ a.config.timeout.toNanos

def Ends {α : Type} (query : Query α) : Prop := ∀ f, ∃ value g, query f = .ok value g

theorem endsPure {α : Type} (value : α) : Ends (pure value : Query α) := fun f => ⟨value, f, rfl⟩

theorem endsBind {α β : Type} {x : Query α} {next : α → Query β} (first : Ends x) (later : ∀ v, Ends (next v)) :
    Ends (x >>= next) := by
  intro f
  obtain ⟨v, g, ran⟩ := first f
  obtain ⟨w, h, ran'⟩ := later v g
  refine ⟨w, h, ?_⟩
  simp only [bind, EStateM.bind, ran, ran']

section
variable {a : Analyzer} (inTime : a.InTime)
include inTime

theorem endsTick : Ends a.tick := by
  intro f
  refine ⟨(), { f with steps := f.steps + 1 }, ?_⟩
  unfold tick
  dsimp only
  rw [if_neg]
  rintro ⟨_, late⟩
  have := inTime (f.steps + 1)
  omega

theorem endsClosure (once : PathSet) (k rounds : Nat) (acc : PathSet) : Ends (a.closure once k rounds acc) := by
  induction rounds generalizing acc with
  | zero => exact endsPure acc
  | succ rounds ih =>
    refine endsBind (endsTick inTime) fun _ => ?_
    dsimp only
    split
    · exact endsPure acc
    · exact ih _

theorem endsNode {rulePaths : String → Nat → Bool → Query PathSet}
    (calls : ∀ rule k leading, Ends (rulePaths rule k leading)) (n : Node) (k : Nat) (leading : Bool) :
    Ends (a.nodePaths rulePaths n k leading) := by
  induction n using Node.induction generalizing k leading with
  | consume token => exact endsPure _
  | inOrder parts rule ih =>
    unfold nodePaths
    generalize ([[]] : PathSet) = acc
    induction parts generalizing acc with
    | nil => exact endsPure acc
    | cons n rest later =>
      unfold partsPaths
      split
      · exact endsPure acc
      · exact endsBind (ih n List.mem_cons_self _ _) fun _ =>
          later (fun n member => ih n (List.mem_cons_of_mem _ member)) _
  | firstOf branches ih =>
    unfold nodePaths
    generalize ([] : PathSet) = acc
    induction branches generalizing acc with
    | nil => exact endsPure acc
    | cons n rest later =>
      unfold branchesPaths
      exact endsBind (ih n List.mem_cons_self _ _) fun _ =>
        later (fun n member => ih n (List.mem_cons_of_mem _ member)) _
  | optional body ih => exact endsBind (ih _ _) fun _ => endsPure _
  | many body ih => exact endsBind (ih _ _) fun _ => endsBind (endsClosure inTime _ _ _ _) fun _ => endsPure _
  | some body ih => exact endsBind (ih _ _) fun _ => endsClosure inTime _ _ _ _
  | call rule => exact calls rule k leading

theorem endsRule (budget : Nat) (rule : String) (k : Nat) (leading : Bool) :
    Ends (a.rulePaths budget rule k leading) := by
  induction budget using Nat.strongRecOn generalizing rule k leading with
  | ind budget ih =>
    rw [rulePaths]
    refine endsBind (endsTick inTime) fun _ => endsBind (fun f => ⟨f, f, rfl⟩) fun f => ?_
    split
    · intro f
      unfold cutOff
      dsimp only
      split <;> exact ⟨_, _, rfl⟩
    · split
      · rename_i body budget _
        dsimp only
        split
        · exact fun _ => ⟨_, _, rfl⟩
        · refine endsBind (fun _ => ⟨_, _, rfl⟩) fun _ => endsBind (fun f => ?_) fun paths f => ?_
          · obtain ⟨value, g, ran⟩ := endsNode inTime (ih budget (Nat.lt_succ_self budget)) body k true
              { f with leftStack := if leading then f.leftStack ++ [rule] else [rule] }
            unfold expandBody withStack
            dsimp only
            rw [ran]
            exact ⟨_, _, rfl⟩
          · unfold keepUncut
            split <;> exact ⟨_, _, rfl⟩
      · exact endsPure _

theorem endsExpand (rule : String) (k depth : Nat) : Ends (a.expand rule k depth) :=
  endsBind (fun _ => ⟨_, _, rfl⟩) fun _ => endsRule inTime depth rule k true

theorem endsByDepth (rule : String) : Ends (a.recursionByDepth rule) :=
  endsBind (fun _ => ⟨_, _, rfl⟩) fun _ => endsBind (endsExpand inTime rule _ _) fun _ =>
    endsBind (fun f => ⟨f, f, rfl⟩) fun _ => endsPure _

end

end Analyzer
end Packrat

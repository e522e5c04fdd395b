import Packrat.Proofs.Grammar.Derivation
import Packrat.Proofs.Grammar.Level

/-! The symbol strings of a grammar whose rules are opened so many levels deep. The uncut first-K sets hold
their first `k` symbols exactly, since each step that makes the sets commutes with cutting. -/
namespace Packrat

namespace Grammar

/-- The strings of a node with `depth` levels to open. A rule that is not opened, because there are no
levels left or it has no body, stands for itself; if it derives nothing it may also vanish. -/
inductive Unfolds (g : Grammar) : Nat → Node → Path → Prop where
  | consume {depth token} : Unfolds g depth (.consume token) [.token token]
  | inside {depth rule body p} (known : g.rule? rule = some body) (inner : Unfolds g depth body p) :
      Unfolds g (depth + 1) (.call rule) p
  | stand {depth rule} (shut : g.rule? rule = none ∨ depth = 0) : Unfolds g depth (.call rule) [.rule rule]
  | vanish {depth rule} (shut : g.rule? rule = none ∨ depth = 0) (empty : g.Derives (.call rule) []) :
      Unfolds g depth (.call rule) []
  | nothing {depth rule} : Unfolds g depth (.inOrder [] rule) []
  | next {depth n rest rule p q} (first : Unfolds g depth n p) (later : Unfolds g depth (.inOrder rest rule) q) :
      Unfolds g depth (.inOrder (n :: rest) rule) (p ++ q)
  | branch {depth n branches p} (member : n ∈ branches) (inner : Unfolds g depth n p) :
      Unfolds g depth (.firstOf branches) p
  | absent {depth body} : Unfolds g depth (.optional body) []
  | present {depth body p} (inner : Unfolds g depth body p) : Unfolds g depth (.optional body) p
  | done {depth body} : Unfolds g depth (.many body) []
  | again {depth body p q} (first : Unfolds g depth body p) (later : Unfolds g depth (.many body) q) :
      Unfolds g depth (.many body) (p ++ q)
  | once {depth body p q} (first : Unfolds g depth body p) (later : Unfolds g depth (.many body) q) :
      Unfolds g depth (.some body) (p ++ q)

end Grammar

namespace Path

def Rounds (lang : Path → Prop) (words : List Path) (p : Path) : Prop := (∀ u ∈ words, lang u) ∧ p = words.flatten

def Firsts (k : Nat) (lang : Path → Prop) (p : Path) : Prop := ∃ u, lang u ∧ p = u.take k

theorem tokensWithoutRules {p : Path} (unbroken : p.hasRules = false) : ∃ w : List String, p = w.map .token := by
  induction p with
  | nil => exact ⟨[], rfl⟩
  | cons symbol p ih =>
    simp only [hasRules, List.any_cons, Bool.or_eq_false_iff] at unbroken ih
    obtain ⟨w, rfl⟩ := ih unbroken.2
    cases symbol with
    | token name => exact ⟨name :: w, rfl⟩
    | rule name => simp [Symbol.isRule] at unbroken

end Path

namespace Grammar

variable {g : Grammar} {depth : Nat} {p : Path}

theorem unfoldsConsume {token : String} : g.Unfolds depth (.consume token) p ↔ p = [.token token] :=
  ⟨fun unfolds => by cases unfolds; rfl, fun eq => eq ▸ .consume⟩

theorem unfoldsKnown {rule : String} {body : Node} (known : g.rule? rule = some body) :
    g.Unfolds (depth + 1) (.call rule) p ↔ g.Unfolds depth body p := by
  constructor
  · intro unfolds
    cases unfolds with
    | inside known' inner =>
      cases known.symm.trans known'
      exact inner
    | stand shut => simp [known] at shut
    | vanish shut _ => simp [known] at shut
  · exact .inside known

theorem unfoldsShut {rule : String} (shut : g.rule? rule = none ∨ depth = 0) :
    g.Unfolds depth (.call rule) p ↔ p = [.rule rule] ∨ p = [] ∧ g.Derives (.call rule) [] := by
  constructor
  · intro unfolds
    cases unfolds with
    | inside known inner => simp [known] at shut
    | stand _ => exact .inl rfl
    | vanish _ empty => exact .inr ⟨rfl, empty⟩
  · rintro (rfl | ⟨rfl, empty⟩)
    · exact .stand shut
    · exact .vanish shut empty

theorem unfoldsNothing {rule : Option String} : g.Unfolds depth (.inOrder [] rule) p ↔ p = [] :=
  ⟨fun unfolds => by cases unfolds; rfl, fun eq => eq ▸ .nothing⟩

theorem unfoldsNext {n : Node} {rest : List Node} {rule : Option String} :
    g.Unfolds depth (.inOrder (n :: rest) rule) p ↔
      Path.Then (g.Unfolds depth n) (g.Unfolds depth (.inOrder rest rule)) p := by
  constructor
  · intro unfolds
    cases unfolds with
    | next first later => exact ⟨_, _, first, later, rfl⟩
  · rintro ⟨u, v, first, later, rfl⟩
    exact .next first later

theorem unfoldsFirstOf {branches : List Node} :
    g.Unfolds depth (.firstOf branches) p ↔ ∃ n ∈ branches, g.Unfolds depth n p := by
  constructor
  · intro unfolds
    cases unfolds with
    | branch member inner => exact ⟨_, member, inner⟩
  · rintro ⟨n, member, inner⟩
    exact .branch member inner

theorem unfoldsOptional {body : Node} : g.Unfolds depth (.optional body) p ↔ p = [] ∨ g.Unfolds depth body p := by
  constructor
  · intro unfolds
    cases unfolds with
    | absent => exact .inl rfl
    | present inner => exact .inr inner
  · rintro (rfl | inner)
    · exact .absent
    · exact .present inner

theorem unfoldsMany {body : Node} :
    g.Unfolds depth (.many body) p ↔ ∃ words, Path.Rounds (g.Unfolds depth body) words p := by
  constructor
  · intro unfolds
    generalize eq : Node.many body = n at unfolds
    induction unfolds with
    | done => exact ⟨[], by simp, rfl⟩
    | @again _ _ u _ first later _ ih =>
      cases eq
      obtain ⟨words, each, rfl⟩ := ih rfl
      exact ⟨u :: words, List.forall_mem_cons.mpr ⟨first, each⟩, rfl⟩
    | _ => exact nomatch eq
  · rintro ⟨words, each, rfl⟩
    induction words with
    | nil => exact .done
    | cons u words ih =>
      rw [List.forall_mem_cons] at each
      exact .again each.1 (ih each.2)

theorem unfoldsSome {body : Node} :
    g.Unfolds depth (.some body) p ↔ ∃ words ≠ [], Path.Rounds (g.Unfolds depth body) words p := by
  constructor
  · intro unfolds
    cases unfolds with
    | @once _ _ u _ first later =>
      obtain ⟨words, each, rfl⟩ := unfoldsMany.mp later
      exact ⟨u :: words, List.cons_ne_nil _ _, List.forall_mem_cons.mpr ⟨first, each⟩, rfl⟩
  · rintro ⟨words, some, each, rfl⟩
    cases words with
    | nil => exact absurd rfl some
    | cons u words =>
      rw [List.forall_mem_cons] at each
      exact .once each.1 (unfoldsMany.mpr ⟨words, each.2, rfl⟩)

theorem Unfolds.derivesSpelling {n : Node} (unfolds : g.Unfolds depth n p) {w : List String}
    (spelt : p = w.map .token) :
    g.Derives n w := by
  induction unfolds generalizing w with
  | consume =>
    obtain ⟨token, rfl, same⟩ := List.map_eq_singleton_iff.mp spelt.symm
    cases same
    exact .consume
  | inside known inner ih => exact .call known (ih spelt)
  | stand shut =>
    obtain ⟨token, rfl, same⟩ := List.map_eq_singleton_iff.mp spelt.symm
    cases same
  | vanish shut empty =>
    rw [List.map_eq_nil_iff.mp spelt.symm]
    exact empty
  | nothing =>
    rw [List.map_eq_nil_iff.mp spelt.symm]
    exact .nothing
  | next first later ihFirst ihLater =>
    obtain ⟨u, v, rfl, left, right⟩ := List.map_eq_append_iff.mp spelt.symm
    exact .next (ihFirst left.symm) (ihLater right.symm)
  | branch member inner ih => exact .branch member (ih spelt)
  | absent =>
    rw [List.map_eq_nil_iff.mp spelt.symm]
    exact .absent
  | present inner ih => exact .present (ih spelt)
  | done =>
    rw [List.map_eq_nil_iff.mp spelt.symm]
    exact .done
  | again first later ihFirst ihLater =>
    obtain ⟨u, v, rfl, left, right⟩ := List.map_eq_append_iff.mp spelt.symm
    exact .again (ihFirst left.symm) (ihLater right.symm)
  | once first later ihFirst ihLater =>
    obtain ⟨u, v, rfl, left, right⟩ := List.map_eq_append_iff.mp spelt.symm
    exact .once (ihFirst left.symm) (ihLater right.symm)

theorem unfoldsParts {parts : List Node} (each : ∀ n ∈ parts, ∃ p, g.Unfolds depth n p) (rule : Option String) :
    ∃ p, g.Unfolds depth (.inOrder parts rule) p := by
  induction parts with
  | nil => exact ⟨_, .nothing⟩
  | cons n rest ih =>
    rw [List.forall_mem_cons] at each
    obtain ⟨p, first⟩ := each.1
    obtain ⟨q, later⟩ := ih each.2
    exact ⟨_, .next first later⟩

theorem unfoldsNode {n : Node} (calls : ∀ rule, ∃ p, g.Unfolds depth (.call rule) p) (branched : n.Branched) :
    ∃ p, g.Unfolds depth n p := by
  induction n using Node.induction with
  | consume token => exact ⟨_, .consume⟩
  | inOrder parts rule ih => exact unfoldsParts (fun n member => ih n member (branched.insideParts n member)) rule
  | firstOf branches ih =>
    obtain ⟨some, each⟩ := branched.insideBranches
    obtain ⟨n, member⟩ := List.exists_mem_of_ne_nil _ some
    obtain ⟨p, inner⟩ := ih n member (each n member)
    exact ⟨p, .branch member inner⟩
  | optional body ih => exact ⟨_, .absent⟩
  | many body ih => exact ⟨_, .done⟩
  | some body ih =>
    obtain ⟨p, inner⟩ := ih (branched.ofFewerNodes fun _ inside => List.mem_cons_of_mem _ inside)
    exact ⟨_, .once inner .done⟩
  | call rule => exact calls rule

theorem unfoldsCall (branched : g.Branched) (depth : Nat) (rule : String) : ∃ p, g.Unfolds depth (.call rule) p := by
  induction depth generalizing rule with
  | zero => exact ⟨_, .stand (.inr rfl)⟩
  | succ depth ih =>
    cases known : g.rule? rule with
    | none => exact ⟨_, .stand (.inl known)⟩
    | some body =>
      obtain ⟨p, inner⟩ := unfoldsNode ih (branched rule body known)
      exact ⟨p, .inside known inner⟩

theorem derivesEmpty {nullable : String → Bool} (calls : ∀ rule, nullable rule → g.Derives (.call rule) []) (n : Node)
    (vanishes : n.isNullable nullable) : g.Derives n [] := by
  induction n using Node.induction with
  | consume token => simp [Node.isNullable] at vanishes
  | inOrder parts rule ih =>
    simp only [Node.isNullable, Node.allNullableIff] at vanishes
    induction parts with
    | nil => exact .nothing
    | cons n rest later =>
      rw [List.forall_mem_cons] at ih vanishes
      exact .next (ih.1 vanishes.1) (later ih.2 vanishes.2)
  | firstOf branches ih =>
    obtain ⟨n, member, vanishes⟩ := Node.anyNullableIff.mp vanishes
    exact .branch member (ih n member vanishes)
  | optional body ih => exact .absent
  | many body ih => exact .done
  | some body ih => exact .once (ih vanishes) .done
  | call rule => exact calls rule vanishes

theorem memNullable (distinct : g.Distinct) {rule : String} : rule ∈ g.nullable ↔ g.Derives (.call rule) [] := by
  constructor
  · intro member
    refine nullableInduction distinct (motive := fun rule => g.Derives (.call rule) []) ?_ member
    intro name body found known before vanishes
    exact .call known (derivesEmpty (fun rule found => before rule (by simpa using found)) body vanishes)
  · intro derives
    simpa [Node.isNullable] using derives.nullableOfEmptyWord rfl

end Grammar

namespace PathSet

def Holds (k : Nat) (paths : PathSet) (lang : Path → Prop) : Prop := ∀ p, p ∈ paths ↔ Path.Firsts k lang p

variable {k m : Nat} {acc tail once : PathSet} {lang later : Path → Prop}

theorem Holds.congr (holds : Holds k acc lang) (same : ∀ p, lang p ↔ later p) : Holds k acc later := by
  intro p
  simp only [holds p, Path.Firsts, same]

theorem Holds.wholeWhenShort (holds : Holds k acc lang) {p : Path} (inside : p ∈ acc) (short : p.length < k) :
    lang p := by
  obtain ⟨u, told, rfl⟩ := (holds p).mp inside
  rw [List.length_take] at short
  rwa [List.take_of_length_le (by omega)]

theorem holdsSingle {p : Path} (short : p.length ≤ k) : Holds k [p] (· = p) := by
  intro q
  simp [Path.Firsts, List.take_of_length_le short]

theorem Holds.withEmptyPath (holds : Holds k acc lang) : Holds k (PathSet.insert [] acc) fun p => p = [] ∨ lang p := by
  intro p
  rw [memInsert, holds p]
  simp [Path.Firsts, or_and_right, exists_or]

theorem Holds.whenFull (holds : Holds k acc lang) (long : ∀ p ∈ acc, k ≤ p.length) (some : ∃ v, later v) :
    Holds k acc (Path.Then lang later) := by
  have cut : ∀ u v, lang u → (u ++ v).take k = u.take k := by
    intro u v told
    have full := long _ ((holds _).mpr ⟨u, told, rfl⟩)
    rw [List.length_take] at full
    exact List.take_append_of_le_length (by omega)
  intro p
  constructor
  · intro inside
    obtain ⟨u, told, rfl⟩ := (holds p).mp inside
    obtain ⟨v, told'⟩ := some
    exact ⟨u ++ v, ⟨u, v, told, told', rfl⟩, (cut u v told).symm⟩
  · rintro ⟨_, ⟨u, v, told, _, rfl⟩, rfl⟩
    exact (holds _).mpr ⟨u, told, cut u v told⟩

theorem takeAppendTake {u v : Path} (room : k ≤ u.length + m) : (u ++ v.take m).take k = (u ++ v).take k := by
  rw [List.take_append, List.take_append, List.take_take, Nat.min_eq_left (by omega)]

theorem Holds.productHolds (holds : Holds k acc lang) (holds' : Holds m tail later) (some : ∃ v, later v)
    (room : ∀ p ∈ acc, p.length < k → k ≤ p.length + m) :
    Holds k (PathSet.product acc tail k) (Path.Then lang later) := by
  intro x
  rw [memProduct]
  constructor
  · rintro ⟨p, inside, ⟨full, rfl⟩ | ⟨short, q, inside', rfl⟩⟩
    · obtain ⟨u, told, rfl⟩ := (holds _).mp inside
      obtain ⟨v, told'⟩ := some
      rw [List.length_take] at full
      exact ⟨u ++ v, ⟨u, v, told, told', rfl⟩, (List.take_append_of_le_length (by omega)).symm⟩
    · obtain ⟨v, told', rfl⟩ := (holds' _).mp inside'
      exact ⟨p ++ v, ⟨p, v, holds.wholeWhenShort inside short, told', rfl⟩, takeAppendTake (room p inside short)⟩
  · rintro ⟨_, ⟨u, v, told, told', rfl⟩, rfl⟩
    refine ⟨u.take k, (holds _).mpr ⟨u, told, rfl⟩, ?_⟩
    by_cases full : k ≤ u.length
    · refine .inl ⟨by rw [List.length_take]; omega, List.take_append_of_le_length full⟩
    · have whole : u.take k = u := List.take_of_length_le (by omega)
      have short : (u.take k).length < k := by rw [whole]; omega
      have lacks := room _ ((holds _).mpr ⟨u, told, rfl⟩) short
      refine .inr ⟨short, v.take m, (holds' _).mpr ⟨v, told', rfl⟩, ?_⟩
      rw [whole] at lacks ⊢
      exact (takeAppendTake lacks).symm

theorem closeSound (holds : Holds k once lang) (words : List Path → Prop) (more : ∀ ws u, words ws → words (ws ++ [u]))
    (rounds : Nat) (sound : ∀ p ∈ acc, Path.Firsts k (fun u => ∃ ws, words ws ∧ Path.Rounds lang ws u) p) :
    ∀ p ∈ close once k rounds acc, Path.Firsts k (fun u => ∃ ws, words ws ∧ Path.Rounds lang ws u) p := by
  induction rounds generalizing acc with
  | zero => exact sound
  | succ rounds ih =>
    simp only [close]
    split
    · exact sound
    · refine ih fun p inside => ?_
      rcases memUnion.mp inside with new | old
      · obtain ⟨q, before, ⟨_, rfl⟩ | ⟨short, r, inside', rfl⟩⟩ := memProduct.mp new
        · exact sound _ before
        · obtain ⟨_, ⟨ws, told, each, rfl⟩, eq⟩ := sound q before
          obtain ⟨u, told', rfl⟩ := (holds r).mp inside'
          rw [eq, List.length_take] at short
          rw [List.take_of_length_le (by omega)] at eq
          refine ⟨_, ⟨ws ++ [u], more ws u told, ?_, rfl⟩, ?_⟩
          · exact List.forall_mem_append.mpr ⟨each, List.forall_mem_singleton.mpr told'⟩
          · rw [List.flatten_append, List.flatten_singleton, eq]
            exact takeAppendTake (Nat.le_add_left _ _)
      · exact sound p old

/- Every round that adds a symbol is one less that is needed, so as many rounds as symbols are missing
are enough. -/
theorem closeComplete (holds : Holds k once lang) {words : List Path} (each : ∀ v ∈ words, lang v) {u : Path}
    (rounds : Nat) (inside : u.take k ∈ acc) (enough : k ≤ u.length + rounds) :
    (u ++ words.flatten).take k ∈ close once k rounds acc := by
  induction words generalizing rounds acc u with
  | nil => simpa using subsetClose rounds inside
  | cons v words ih =>
    rw [List.forall_mem_cons] at each
    rw [List.flatten_cons, ← List.append_assoc]
    by_cases full : k ≤ u.length
    · refine ih each.2 rounds ?_ (by rw [List.length_append]; omega)
      rwa [List.take_append_of_le_length full]
    cases v with
    | nil => simpa using ih each.2 rounds inside enough
    | cons symbol v =>
      obtain ⟨rounds, rfl⟩ : ∃ less, rounds = less + 1 := ⟨rounds - 1, by omega⟩
      have whole : u.take k = u := List.take_of_length_le (by omega)
      rw [closeOneMore]
      refine ih each.2 rounds (memUnion.mpr (.inl (memProduct.mpr ⟨u, whole ▸ inside, .inr ⟨by omega, ?_⟩⟩))) ?_
      · exact ⟨_, (holds _).mpr ⟨_, each.1, rfl⟩, (takeAppendTake (Nat.le_add_left _ _)).symm⟩
      · simp only [List.length_append, List.length_cons]
        omega

theorem Holds.closureHolds (holds : Holds k once lang) :
    Holds k (PathSet.close once k k once) fun p => ∃ words ≠ [], Path.Rounds lang words p := by
  intro p
  constructor
  · refine closeSound holds (· ≠ []) (by simp) k (fun p inside => ?_) p
    obtain ⟨u, told, rfl⟩ := (holds p).mp inside
    exact ⟨u, ⟨[u], List.cons_ne_nil _ _, List.forall_mem_singleton.mpr told, by simp⟩, rfl⟩
  · rintro ⟨_, ⟨words, some, each, rfl⟩, rfl⟩
    cases words with
    | nil => exact absurd rfl some
    | cons u words =>
      rw [List.forall_mem_cons] at each
      exact closeComplete holds each.2 k ((holds _).mpr ⟨u, each.1, rfl⟩) (Nat.le_add_left _ _)

end PathSet

namespace Whole

section
variable {g : Grammar} {rules : String → Nat → Whole} {depth : Nat}

theorem holdsParts {parts : List Node}
    (each : ∀ n ∈ parts, ∀ k, 0 < k → PathSet.Holds k (ofNode rules n k).paths (g.Unfolds depth n))
    (some : ∀ n ∈ parts, ∃ p, g.Unfolds depth n p) (rule : Option String) {k : Nat} {acc : PathSet}
    {before : Path → Prop} (holds : PathSet.Holds k acc before) :
    PathSet.Holds k (ofParts rules parts k acc).paths (Path.Then before (g.Unfolds depth (.inOrder parts rule))) := by
  induction parts generalizing acc before with
  | nil =>
    refine holds.congr fun p => (Path.thenEmpty p).symm.trans (Path.thenCongr (fun _ => ?_) p)
    exact Grammar.unfoldsNothing.symm
  | cons n rest ih =>
    rw [List.forall_mem_cons] at each some
    unfold ofParts
    split
    · rename_i long
      have follows := Grammar.unfoldsParts (List.forall_mem_cons.mpr some) rule
      exact holds.whenFull (Analyzer.shortestBelowAbsent long) follows
    · rename_i shortest short
      obtain ⟨below, _, least⟩ := Analyzer.shortestBelowFound short
      have first := holds.productHolds (each.1 (k - shortest) (by omega)) some.1 fun p inside short => by
        have := least p inside
        omega
      refine (ih each.2 some.2 first).congr fun p => (Path.thenAssoc p).trans (Path.thenCongr (fun _ => ?_) p)
      exact Grammar.unfoldsNext.symm

theorem holdsNode (calls : ∀ rule k, 0 < k → PathSet.Holds k (rules rule k).paths (g.Unfolds depth (.call rule)))
    (some : ∀ rule, ∃ p, g.Unfolds depth (.call rule) p) (n : Node) (branched : n.Branched) {k : Nat}
    (positive : 0 < k) :
    PathSet.Holds k (ofNode rules n k).paths (g.Unfolds depth n) := by
  induction n using Node.induction generalizing k with
  | consume token => exact (PathSet.holdsSingle positive).congr fun _ => Grammar.unfoldsConsume.symm
  | inOrder parts rule ih =>
    have each := fun n member => Grammar.unfoldsNode some (branched.insideParts n member)
    have empty : PathSet.Holds k [[]] (· = []) := PathSet.holdsSingle (Nat.zero_le k)
    have parts := holdsParts (fun n member k positive => ih n member (branched.insideParts n member) positive) each
      rule empty
    exact parts.congr Path.emptyThen
  | firstOf branches ih =>
    intro p
    unfold ofNode
    rw [memOfBranches]
    constructor
    · rintro (never | ⟨n, member, inside⟩)
      · exact absurd never List.not_mem_nil
      · obtain ⟨u, told, rfl⟩ := (ih n member (branched.insideBranches.2 n member) positive p).mp inside
        exact ⟨u, .branch member told, rfl⟩
    · rintro ⟨u, told, rfl⟩
      obtain ⟨n, member, inner⟩ := Grammar.unfoldsFirstOf.mp told
      exact .inr ⟨n, member, (ih n member (branched.insideBranches.2 n member) positive _).mpr ⟨u, inner, rfl⟩⟩
  | optional body ih =>
    have inner := ih (branched.ofFewerNodes fun _ inside => List.mem_cons_of_mem _ inside) positive
    exact inner.withEmptyPath.congr fun _ => Grammar.unfoldsOptional.symm
  | many body ih =>
    have inner := ih (branched.ofFewerNodes fun _ inside => List.mem_cons_of_mem _ inside) positive
    refine inner.closureHolds.withEmptyPath.congr fun p => ?_
    rw [Grammar.unfoldsMany]
    constructor
    · rintro (rfl | ⟨words, _, rounds⟩)
      · exact ⟨[], by simp, rfl⟩
      · exact ⟨words, rounds⟩
    · rintro ⟨words, rounds⟩
      cases words with
      | nil => exact .inl rounds.2
      | cons u words => exact .inr ⟨_, List.cons_ne_nil _ _, rounds⟩
  | some body ih =>
    have inner := ih (branched.ofFewerNodes fun _ inside => List.mem_cons_of_mem _ inside) positive
    exact inner.closureHolds.congr fun _ => Grammar.unfoldsSome.symm
  | call rule => exact calls rule k positive

end

variable {a : Analyzer}

theorem holdsPlaceholder (exact : a.nullable = a.grammar.nullable) (distinct : a.grammar.Distinct) {depth : Nat}
    {rule : String} (shut : a.grammar.rule? rule = none ∨ depth = 0) {k : Nat} (positive : 0 < k) :
    PathSet.Holds k (a.placeholder rule) (a.grammar.Unfolds depth (.call rule)) := by
  have single : PathSet.Holds k [[.rule rule]] (· = [.rule rule]) := PathSet.holdsSingle positive
  have found : a.isNullable rule ↔ a.grammar.Derives (.call rule) [] := by
    rw [← Grammar.memNullable distinct, ← exact]
    simp [Analyzer.isNullable]
  unfold Analyzer.placeholder
  split
  · rename_i vanishes
    refine single.withEmptyPath.congr fun p => ?_
    simp [Grammar.unfoldsShut shut, found.mp vanishes, or_comm]
  · rename_i stays
    refine single.congr fun p => ?_
    simp [Grammar.unfoldsShut shut, mt found.mpr stays]

theorem holdsRule (exact : a.nullable = a.grammar.nullable) (distinct : a.grammar.Distinct)
    (branched : a.grammar.Branched) (budget : Nat) (rule : String) {k : Nat} (positive : 0 < k) :
    PathSet.Holds k (ofRule a budget rule k).paths (a.grammar.Unfolds budget (.call rule)) := by
  induction budget generalizing rule k with
  | zero =>
    rw [ofRuleShut (.inr rfl)]
    exact holdsPlaceholder exact distinct (.inr rfl) positive
  | succ budget ih =>
    cases known : a.grammar.rule? rule with
    | none =>
      rw [ofRuleShut (.inl known)]
      exact holdsPlaceholder exact distinct (.inl known) positive
    | some body =>
      rw [ofRuleOpen known]
      have body := holdsNode (fun rule k positive => ih rule positive) (Grammar.unfoldsCall branched budget) body
        (branched rule body known) positive
      exact body.congr fun _ => (Grammar.unfoldsKnown known).symm

end Whole

end Packrat

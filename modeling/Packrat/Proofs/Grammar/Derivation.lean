import Packrat.Proofs.Grammar.Uncut

/-! The token sequences that a grammar derives, and what the first-K sets say of them. A path either
spells the first tokens of a derived sequence or breaks off, at a rule that was not expanded, after
tokens with which the sequence begins. -/
namespace Packrat

namespace Grammar

inductive Derives (g : Grammar) : Node → List String → Prop where
  | consume {token} : Derives g (.consume token) [token]
  | call {rule body w} (known : g.rule? rule = some body) (inner : Derives g body w) : Derives g (.call rule) w
  | nothing {rule} : Derives g (.inOrder [] rule) []
  | next {n rest rule u v} (first : Derives g n u) (later : Derives g (.inOrder rest rule) v) :
      Derives g (.inOrder (n :: rest) rule) (u ++ v)
  | branch {n branches w} (member : n ∈ branches) (inner : Derives g n w) : Derives g (.firstOf branches) w
  | absent {body} : Derives g (.optional body) []
  | present {body w} (inner : Derives g body w) : Derives g (.optional body) w
  | done {body} : Derives g (.many body) []
  | again {body u v} (first : Derives g body u) (later : Derives g (.many body) v) : Derives g (.many body) (u ++ v)
  | once {body u v} (first : Derives g body u) (later : Derives g (.many body) v) : Derives g (.some body) (u ++ v)

variable {g : Grammar}

theorem Derives.nullableOfEmptyWord {n : Node} {w : List String} (derives : g.Derives n w) (empty : w = []) :
    n.isNullable g.nullable.contains := by
  induction derives with
  | consume => exact nomatch empty
  | call known inner ih => simpa [Node.isNullable] using nullableClosed known (ih empty)
  | nothing => rfl
  | next first later ihFirst ihLater =>
    obtain ⟨left, right⟩ := List.append_eq_nil_iff.mp empty
    simpa [Node.isNullable, Node.allNullable, ihFirst left] using ihLater right
  | branch member inner ih => exact Node.anyNullableIff.mpr ⟨_, member, ih empty⟩
  | absent => rfl
  | present inner ih => rfl
  | done => rfl
  | again first later ihFirst ihLater => rfl
  | once first later ihFirst ihLater => exact ihFirst (List.append_eq_nil_iff.mp empty).1

theorem Derives.wordsOfRounds {body : Node} {w : List String} (derives : g.Derives (.many body) w) :
    ∃ words : List (List String), (∀ u ∈ words, g.Derives body u) ∧ w = words.flatten := by
  generalize eq : Node.many body = n at derives
  induction derives with
  | done => exact ⟨[], by simp, rfl⟩
  | @again _ u v first later ihFirst ihLater =>
    cases eq
    obtain ⟨words, each, rfl⟩ := ihLater rfl
    exact ⟨u :: words, by simpa using ⟨first, each⟩, rfl⟩
  | _ => exact nomatch eq

end Grammar

def Path.Begins (k : Nat) (w : List String) (p : Path) : Prop :=
  p = (w.take k).map .token ∨ ∃ u rule rest, p = u.map .token ++ .rule rule :: rest ∧ u <+: w

@[simp] theorem Path.hasRulesTokens (u : List String) : Path.hasRules (u.map .token) = false := by
  induction u with
  | nil => rfl
  | cons token u ih => simp [Path.hasRules, Symbol.isRule]

theorem Path.hasRulesBroken (u : List String) (rule : String) (rest : Path) :
    Path.hasRules (u.map .token ++ .rule rule :: rest) = true := by
  simp [Path.hasRules, Symbol.isRule]

namespace Path.Begins

variable {k m : Nat} {u v : List String} {p q : Path}

theorem extendedWord (begins : Path.Begins k u p) (settled : k ≤ p.length ∨ p.hasRules) : Path.Begins k (u ++ v) p := by
  rcases begins with rfl | ⟨before, rule, rest, rfl, starts⟩
  · rw [Path.hasRulesTokens, List.length_map, List.length_take] at settled
    have full : k ≤ u.length := by
      rcases settled with long | broken
      · omega
      · exact nomatch broken
    exact .inl (by rw [List.take_append_of_le_length full])
  · exact .inr ⟨before, rule, rest, rfl, starts.trans (List.prefix_append _ _)⟩

theorem spellsWholeWord (begins : Path.Begins k u p) (short : p.length < k) (unbroken : p.hasRules = false) :
    p = u.map .token := by
  rcases begins with rfl | ⟨before, rule, rest, rfl, _⟩
  · simp only [List.length_map, List.length_take] at short
    rw [List.take_of_length_le (by omega)]
  · rw [Path.hasRulesBroken] at unbroken
    exact nomatch unbroken

theorem joinedPaths (first : Path.Begins k u p) (later : Path.Begins m v q) (short : p.length < k)
    (room : k ≤ p.length + m) : Path.Begins k (u ++ v) ((p ++ q).take k) := by
  rcases first with spelt | ⟨before, rule, rest, rfl, starts⟩
  · have all : p = u.map .token := spellsWholeWord (.inl spelt) short (by rw [spelt, Path.hasRulesTokens])
    subst all
    rw [List.length_map] at short room
    rcases later with rfl | ⟨before, rule, rest, rfl, starts⟩
    · left
      rw [← List.map_append, ← List.map_take, List.take_append, List.take_append, List.take_take,
        Nat.min_eq_left (by omega)]
    · obtain ⟨left, rfl⟩ := starts
      rw [← List.append_assoc u, ← List.append_assoc (u.map _), ← List.map_append]
      by_cases full : k ≤ (u ++ before).length
      · left
        rw [List.take_append_of_le_length (by simpa using full), ← List.map_take, List.take_append_of_le_length full]
      · right
        rw [List.take_append, List.take_of_length_le (by rw [List.length_map]; omega), List.length_map]
        obtain ⟨more, eq⟩ : ∃ more, k - (u ++ before).length = more + 1 := ⟨k - (u ++ before).length - 1, by omega⟩
        exact ⟨u ++ before, rule, rest.take more, by rw [eq, List.take_succ_cons], List.prefix_append _ _⟩
  · right
    refine ⟨before, rule, rest ++ q.take (k - (before.map Symbol.token ++ .rule rule :: rest).length), ?_,
      starts.trans (List.prefix_append _ _)⟩
    rw [List.take_append, List.take_of_length_le (Nat.le_of_lt short)]
    simp

end Path.Begins

namespace PathSet

def Covers (k : Nat) (paths : PathSet) (w : List String) : Prop := ∃ p ∈ paths, Path.Begins k w p

section
variable {k m : Nat} {acc tail once : PathSet} {u v : List String}

theorem Covers.productCovers (first : Covers k acc u) (later : Covers m tail v)
    (room : ∀ p ∈ acc, p.length < k → k ≤ p.length + m) : Covers k (PathSet.product acc tail k) (u ++ v) := by
  obtain ⟨p, inside, begins⟩ := first
  obtain ⟨q, inside', begins'⟩ := later
  by_cases full : k ≤ p.length
  · exact ⟨p, memProduct.mpr ⟨p, inside, .inl ⟨full, rfl⟩⟩, begins.extendedWord (.inl full)⟩
  · have short := Nat.lt_of_not_le full
    exact ⟨(p ++ q).take k, memProduct.mpr ⟨p, inside, .inr ⟨short, q, inside', rfl⟩⟩,
      begins.joinedPaths begins' short (room p inside short)⟩

theorem closeWhenStill (still : PathSet.union (PathSet.product acc once k) acc = acc) (rounds : Nat) :
    close once k rounds acc = acc := by
  cases rounds with
  | zero => rfl
  | succ rounds => simp [close, still]

theorem closeOneMore (rounds : Nat) :
    close once k (rounds + 1) acc = close once k rounds (PathSet.union (PathSet.product acc once k) acc) := by
  simp only [close]
  split
  · rename_i still
    rw [still, closeWhenStill still]
  · rfl

/- A path that is neither full nor broken off grows with every round that gives it a symbol, so there
are rounds enough as long as the symbols that are missing are no more than the rounds left. -/
theorem closeCovers {words : List (List String)} (each : ∀ v ∈ words, Covers k once v) {p : Path} (rounds : Nat)
    (inside : p ∈ acc) (begins : Path.Begins k u p) (enough : p.hasRules ∨ k ≤ p.length + rounds) :
    Covers k (close once k rounds acc) (u ++ words.flatten) := by
  induction words generalizing rounds acc u p with
  | nil => exact ⟨p, subsetClose rounds inside, by simpa using begins⟩
  | cons v words ih =>
    have later := fun w member => each w (List.mem_cons_of_mem _ member)
    rw [List.flatten_cons, ← List.append_assoc]
    by_cases settled : k ≤ p.length ∨ p.hasRules
    · exact ih later rounds inside (begins.extendedWord settled) enough
    rw [not_or, Nat.not_le, Bool.not_eq_true] at settled
    obtain ⟨short, unbroken⟩ := settled
    obtain ⟨q, member, begins'⟩ := each v List.mem_cons_self
    cases q with
    | nil =>
      have empty : v = [] := by simpa using begins'.spellsWholeWord (Nat.lt_of_le_of_lt (Nat.zero_le _) short) rfl
      subst empty
      rw [List.append_nil]
      exact ih later rounds inside begins enough
    | cons symbol q =>
      have enough : k ≤ p.length + rounds := enough.resolve_left (by simp [unbroken])
      obtain ⟨rounds, rfl⟩ : ∃ more, rounds = more + 1 := ⟨rounds - 1, by omega⟩
      rw [closeOneMore]
      refine ih later rounds (p := (p ++ symbol :: q).take k) ?_
        (begins.joinedPaths begins' short (Nat.le_add_left _ _)) ?_
      · exact memUnion.mpr (.inl (memProduct.mpr ⟨p, inside, .inr ⟨short, _, member, rfl⟩⟩))
      · right
        simp only [List.length_take, List.length_append, List.length_cons]
        omega

end

end PathSet

namespace Whole

section
variable {g : Grammar} {rules : String → Nat → Whole}

theorem coversParts {parts : List Node}
    (each : ∀ n ∈ parts, ∀ k w, 0 < k → g.Derives n w → PathSet.Covers k (ofNode rules n k).paths w)
    {k : Nat} {rule : Option String} {acc : PathSet} {u v : List String} (covered : PathSet.Covers k acc u)
    (derives : g.Derives (.inOrder parts rule) v) : PathSet.Covers k (ofParts rules parts k acc).paths (u ++ v) := by
  induction parts generalizing acc u v with
  | nil =>
    cases derives
    simpa [ofParts] using covered
  | cons n rest ih =>
    unfold ofParts
    split
    · rename_i long
      obtain ⟨p, inside, begins⟩ := covered
      exact ⟨p, inside, begins.extendedWord (.inl (Analyzer.shortestBelowAbsent long p inside))⟩
    · rename_i shortest short
      obtain ⟨below, _, least⟩ := Analyzer.shortestBelowFound short
      cases derives with
      | @next _ _ _ x y first later =>
        rw [← List.append_assoc]
        refine ih (fun n member => each n (List.mem_cons_of_mem _ member)) ?_ later
        refine covered.productCovers (each n List.mem_cons_self _ _ (by omega) first) fun p inside short => ?_
        have := least p inside
        omega

theorem coversRounds {body : Node} (inner : ∀ {k w}, 0 < k → g.Derives body w →
    PathSet.Covers k (ofNode rules body k).paths w)
    {k : Nat} (positive : 0 < k) {u : List String} {words : List (List String)} (first : g.Derives body u)
    (each : ∀ v ∈ words, g.Derives body v) :
    PathSet.Covers k (PathSet.close (ofNode rules body k).paths k k (ofNode rules body k).paths)
        (u ++ words.flatten) := by
  obtain ⟨p, inside, begins⟩ := inner positive first
  exact PathSet.closeCovers (fun v member => inner positive (each v member)) k inside begins
    (.inr (Nat.le_add_left _ _))

theorem coversNode (calls : ∀ rule k w, 0 < k → g.Derives (.call rule) w → PathSet.Covers k (rules rule k).paths w)
    (n : Node) {k : Nat} {w : List String} (positive : 0 < k) (derives : g.Derives n w) :
    PathSet.Covers k (ofNode rules n k).paths w := by
  induction n using Node.induction generalizing k w with
  | consume token =>
    cases derives
    exact ⟨_, List.mem_singleton_self _, .inl (by rw [List.take_of_length_le positive]; rfl)⟩
  | inOrder parts rule ih =>
    have covered : PathSet.Covers k [[]] [] := ⟨[], List.mem_singleton_self _, .inl (by simp)⟩
    exact coversParts (fun n member k w positive derives => ih n member positive derives) covered derives
  | firstOf branches ih =>
    cases derives with
    | branch member inner =>
      obtain ⟨p, inside, begins⟩ := ih _ member positive inner
      exact ⟨p, (memOfBranches []).mpr (.inr ⟨_, member, inside⟩), begins⟩
  | optional body ih =>
    cases derives with
    | absent => exact ⟨[], PathSet.memInsert.mpr (.inl rfl), .inl (by simp)⟩
    | present inner =>
      obtain ⟨p, inside, begins⟩ := ih positive inner
      exact ⟨p, PathSet.memInsert.mpr (.inr inside), begins⟩
  | many body ih =>
    obtain ⟨words, each, rfl⟩ := derives.wordsOfRounds
    cases words with
    | nil => exact ⟨[], PathSet.memInsert.mpr (.inl rfl), .inl (by simp)⟩
    | cons u words =>
      obtain ⟨p, inside, begins⟩ := coversRounds ih positive (each u List.mem_cons_self)
        (fun v member => each v (List.mem_cons_of_mem _ member))
      exact ⟨p, PathSet.memInsert.mpr (.inr inside), begins⟩
  | some body ih =>
    cases derives with
    | once first later =>
      obtain ⟨words, each, rfl⟩ := later.wordsOfRounds
      exact coversRounds ih positive first each
  | call rule => exact calls rule k w positive derives

theorem coversRule {a : Analyzer} (budget : Nat) (rule : String) {k : Nat} {w : List String} (positive : 0 < k)
    (derives : a.grammar.Derives (.call rule) w) : PathSet.Covers k (ofRule a budget rule k).paths w := by
  induction budget generalizing rule k w with
  | zero =>
    refine ⟨[.rule rule], ?_, .inr ⟨[], rule, [], rfl, List.nil_prefix⟩⟩
    rw [ofRuleShut (.inr rfl), Analyzer.placeholder]
    split <;> simp
  | succ budget ih =>
    cases derives with
    | call known inner =>
      rw [ofRuleOpen known]
      exact coversNode (fun rule k w positive derives => ih rule positive derives) _ positive inner

end

end Whole

end Packrat

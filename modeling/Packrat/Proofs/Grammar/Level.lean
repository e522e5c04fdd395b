import Packrat.Grammar.Analyzer
import Packrat.Proofs.Grammar.Nullable

/-! Levels of a grammar. Level by level, every rule in a path is replaced by a path of its body; after
`d` levels the rules that can stand first are those that are `d` steps away at first position. -/
namespace Packrat

def Path.Then (first later : Path → Prop) (p : Path) : Prop := ∃ u v, first u ∧ later v ∧ p = u ++ v

namespace Path

theorem thenEmpty {first : Path → Prop} (p : Path) : Then first (· = []) p ↔ first p := by
  simp [Then]

theorem emptyThen {later : Path → Prop} (p : Path) : Then (· = []) later p ↔ later p := by
  simp [Then]

theorem thenAssoc {first middle last : Path → Prop} (p : Path) :
    Then (Then first middle) last p ↔ Then first (Then middle last) p := by
  constructor
  · rintro ⟨_, w, ⟨u, v, told, told', rfl⟩, told'', rfl⟩
    exact ⟨u, v ++ w, told, ⟨v, w, told', told'', rfl⟩, List.append_assoc ..⟩
  · rintro ⟨u, _, told, ⟨v, w, told', told'', rfl⟩, rfl⟩
    exact ⟨u ++ v, w, ⟨u, v, told, told', rfl⟩, told'', (List.append_assoc ..).symm⟩

theorem thenCongr {first later later' : Path → Prop} (same : ∀ p, later p ↔ later' p) (p : Path) :
    Then first later p ↔ Then first later' p := by
  simp only [Then, same]

end Path

inductive Node.Spells : Node → Path → Prop where
  | consume {token} : Spells (.consume token) [.token token]
  | call {rule} : Spells (.call rule) [.rule rule]
  | nothing {rule} : Spells (.inOrder [] rule) []
  | next {n rest rule p q} (first : Spells n p) (later : Spells (.inOrder rest rule) q) :
      Spells (.inOrder (n :: rest) rule) (p ++ q)
  | branch {n branches p} (member : n ∈ branches) (inner : Spells n p) : Spells (.firstOf branches) p
  | absent {body} : Spells (.optional body) []
  | present {body p} (inner : Spells body p) : Spells (.optional body) p
  | never {body} : Spells (.many body) []
  | once {body p} (inner : Spells body p) : Spells (.many body) p
  | some {body p} (inner : Spells body p) : Spells (.some body) p

namespace Node

theorem spellsOfConsume {token : String} {p : Path} : (Node.consume token).Spells p ↔ p = [.token token] :=
  ⟨fun spells => by cases spells; rfl, fun eq => eq ▸ .consume⟩

theorem spellsOfCall {rule : String} {p : Path} : (Node.call rule).Spells p ↔ p = [.rule rule] :=
  ⟨fun spells => by cases spells; rfl, fun eq => eq ▸ .call⟩

theorem spellsOfNothing {rule : Option String} {p : Path} : (Node.inOrder [] rule).Spells p ↔ p = [] :=
  ⟨fun spells => by cases spells; rfl, fun eq => eq ▸ .nothing⟩

theorem spellsOfNext {n : Node} {rest : List Node} {rule : Option String} {p : Path} :
    (Node.inOrder (n :: rest) rule).Spells p ↔ Path.Then n.Spells (Node.inOrder rest rule).Spells p := by
  constructor
  · intro spells
    cases spells with
    | next first later => exact ⟨_, _, first, later, rfl⟩
  · rintro ⟨u, v, first, later, rfl⟩
    exact .next first later

theorem spellsOfFirstOf {branches : List Node} {p : Path} :
    (Node.firstOf branches).Spells p ↔ ∃ n ∈ branches, n.Spells p := by
  constructor
  · intro spells
    cases spells with
    | branch member inner => exact ⟨_, member, inner⟩
  · rintro ⟨n, member, inner⟩
    exact .branch member inner

theorem spellsOfOptional {body : Node} {p : Path} : (Node.optional body).Spells p ↔ p = [] ∨ body.Spells p := by
  constructor
  · intro spells
    cases spells with
    | absent => exact .inl rfl
    | present inner => exact .inr inner
  · rintro (rfl | inner)
    · exact .absent
    · exact .present inner

theorem spellsOfMany {body : Node} {p : Path} : (Node.many body).Spells p ↔ p = [] ∨ body.Spells p := by
  constructor
  · intro spells
    cases spells with
    | never => exact .inl rfl
    | once inner => exact .inr inner
  · rintro (rfl | inner)
    · exact .never
    · exact .once inner

theorem spellsOfSome {body : Node} {p : Path} : (Node.some body).Spells p ↔ body.Spells p :=
  ⟨fun spells => by cases spells; assumption, .some⟩

end Node

inductive Path.Fills (level : String → Path → Prop) : Path → Path → Prop where
  | nil : Fills level [] []
  | token {name p q} (rest : Fills level p q) : Fills level (.token name :: p) (.token name :: q)
  | rule {name u p q} (first : level name u) (rest : Fills level p q) : Fills level (.rule name :: p) (u ++ q)

namespace Path.Fills

variable {level : String → Path → Prop}

theorem ofSingleRule {rule : String} {p : Path} : Path.Fills level [.rule rule] p ↔ level rule p := by
  constructor
  · intro fills
    cases fills with
    | rule first rest =>
      cases rest
      rwa [List.append_nil]
  · intro filled
    have fills := Fills.rule filled .nil
    rwa [List.append_nil] at fills

theorem fillsNil {q : Path} : Path.Fills level [] q ↔ q = [] :=
  ⟨fun fills => by cases fills; rfl, fun eq => by rw [eq]; exact .nil⟩

theorem fillsToken {name : String} {p q : Path} :
    Path.Fills level (.token name :: p) q ↔ Path.Then (· = [.token name]) (Path.Fills level p) q := by
  constructor
  · intro fills
    cases fills with
    | token rest => exact ⟨[.token name], _, rfl, rest, rfl⟩
  · rintro ⟨_, v, rfl, rest, rfl⟩
    exact .token rest

theorem fillsRule {name : String} {p q : Path} :
    Path.Fills level (.rule name :: p) q ↔ Path.Then (level name) (Path.Fills level p) q := by
  constructor
  · intro fills
    cases fills with
    | rule first rest => exact ⟨_, _, first, rest, rfl⟩
  · rintro ⟨u, v, first, rest, rfl⟩
    exact .rule first rest

theorem appendedPaths {p p' q q' : Path} (first : Path.Fills level p q) (later : Path.Fills level p' q') :
    Path.Fills level (p ++ p') (q ++ q') := by
  induction first with
  | nil => exact later
  | token rest ih => exact .token ih
  | rule first rest ih =>
    rw [List.append_assoc]
    exact .rule first ih

theorem splitPath {p p' x : Path} (fills : Path.Fills level (p ++ p') x) :
    ∃ q q', x = q ++ q' ∧ Path.Fills level p q ∧ Path.Fills level p' q' := by
  induction p generalizing x with
  | nil => exact ⟨[], x, rfl, .nil, fills⟩
  | cons symbol p ih =>
    cases fills with
    | token rest =>
      obtain ⟨q, q', rfl, first, later⟩ := ih rest
      exact ⟨_, q', rfl, .token first, later⟩
    | rule filled rest =>
      obtain ⟨q, q', rfl, first, later⟩ := ih rest
      exact ⟨_, q', (List.append_assoc ..).symm, .rule filled first, later⟩

theorem composedLevels {inner outer : String → Path → Prop}
    (each : ∀ rule p, level rule p ↔ ∃ q, inner rule q ∧ Path.Fills outer q p) {p x : Path} :
    Path.Fills level p x ↔ ∃ q, Path.Fills inner p q ∧ Path.Fills outer q x := by
  constructor
  · intro fills
    induction fills with
    | nil => exact ⟨[], .nil, .nil⟩
    | token rest ih =>
      obtain ⟨q, first, later⟩ := ih
      exact ⟨_, .token first, .token later⟩
    | rule filled rest ih =>
      obtain ⟨u, first, later⟩ := (each _ _).mp filled
      obtain ⟨q, first', later'⟩ := ih
      exact ⟨u ++ q, .rule first first', later.appendedPaths later'⟩
  · rintro ⟨q, first, later⟩
    induction first generalizing x with
    | nil =>
      cases later
      exact .nil
    | token rest ih =>
      cases later with
      | token later => exact .token (ih later)
    | rule filled rest ih =>
      obtain ⟨x, x', rfl, first, later⟩ := later.splitPath
      exact .rule ((each _ _).mpr ⟨_, filled, first⟩) (ih later)

end Path.Fills

namespace Grammar

def Level (g : Grammar) : Nat → String → Path → Prop
  | 0, rule, p => p = [.rule rule]
  | depth + 1, rule, p =>
    match g.rule? rule with
    | none => p = [.rule rule]
    | some body => ∃ q, body.Spells q ∧ Path.Fills (g.Level depth) q p

variable {g : Grammar}

theorem levelZero {rule : String} {p : Path} : g.Level 0 rule p ↔ p = [.rule rule] := Iff.rfl

theorem levelUnknown {rule : String} (unknown : g.rule? rule = none) (depth : Nat) {p : Path} :
    g.Level depth rule p ↔ p = [.rule rule] := by
  cases depth with
  | zero => rfl
  | succ depth => simp [Level, unknown]

theorem levelKnown {rule : String} {body : Node} (known : g.rule? rule = some body) {depth : Nat} {p : Path} :
    g.Level (depth + 1) rule p ↔ ∃ q, body.Spells q ∧ Path.Fills (g.Level depth) q p := by
  simp [Level, known]

theorem fillsZero {p q : Path} : Path.Fills (g.Level 0) p q ↔ q = p := by
  induction p generalizing q with
  | nil => exact Path.Fills.fillsNil
  | cons symbol p ih =>
    cases symbol with
    | token name => simp [Path.Fills.fillsToken, Path.Then, ih]
    | rule name => simp [Path.Fills.fillsRule, Path.Then, ih, levelZero]

theorem levelOne {rule : String} {body : Node} {p : Path} (known : g.rule? rule = some body) :
    g.Level 1 rule p ↔ body.Spells p := by
  rw [levelKnown known]
  simp only [fillsZero, exists_eq_right']

theorem levelAdd (m n : Nat) (rule : String) (p : Path) :
    g.Level (m + n) rule p ↔ ∃ q, g.Level m rule q ∧ Path.Fills (g.Level n) q p := by
  induction m generalizing rule p with
  | zero => simp [Level, Path.Fills.ofSingleRule]
  | succ m ih =>
    cases known : g.rule? rule with
    | none => simp [levelUnknown known, Path.Fills.ofSingleRule]
    | some body =>
      rw [Nat.succ_add, levelKnown known]
      simp only [levelKnown known, Path.Fills.composedLevels ih]
      constructor
      · rintro ⟨s, spells, q, first, later⟩
        exact ⟨q, ⟨s, spells, first⟩, later⟩
      · rintro ⟨q, ⟨s, spells, first⟩, later⟩
        exact ⟨s, spells, q, first, later⟩

end Grammar

namespace Path

def Vanishes (nullable : String → Bool) : Path → Prop
  | [] => True
  | .token _ :: _ => False
  | .rule name :: rest => nullable name ∧ Vanishes nullable rest

def Fronts (nullable : String → Bool) (rule : String) : Path → Prop
  | [] => False
  | .token _ :: _ => False
  | .rule name :: rest => name = rule ∨ nullable name ∧ Fronts nullable rule rest

variable {nullable : String → Bool}

theorem vanishesAppend {p q : Path} : Vanishes nullable (p ++ q) ↔ Vanishes nullable p ∧ Vanishes nullable q := by
  induction p with
  | nil => simp [Vanishes]
  | cons symbol p ih =>
    cases symbol with
    | token name => simp [Vanishes]
    | rule name => simp [Vanishes, ih, and_assoc]

theorem frontsAppend {rule : String} {p q : Path} :
    Fronts nullable rule (p ++ q) ↔ Fronts nullable rule p ∨ Vanishes nullable p ∧ Fronts nullable rule q := by
  induction p with
  | nil => simp [Fronts, Vanishes]
  | cons symbol p ih =>
    cases symbol with
    | token name => simp [Fronts, Vanishes]
    | rule name =>
      simp only [List.cons_append, Fronts, Vanishes, ih, and_assoc]
      grind

section
variable {level : String → Path → Prop} {p q : Path}

theorem Fills.keepsVanishing (sound : ∀ rule u, level rule u → Vanishes nullable u → nullable rule)
    (fills : Fills level q p) (vanishes : Vanishes nullable p) : Vanishes nullable q := by
  induction fills with
  | nil => trivial
  | token rest ih => exact vanishes
  | rule first rest ih =>
    obtain ⟨empty, later⟩ := vanishesAppend.mp vanishes
    exact ⟨sound _ _ first empty, ih later⟩

theorem Fills.keepsFront (sound : ∀ rule u, level rule u → Vanishes nullable u → nullable rule) {rule : String}
    (fills : Fills level q p) (fronts : Fronts nullable rule p) :
    ∃ name u, Fronts nullable name q ∧ level name u ∧ Fronts nullable rule u := by
  induction fills with
  | nil => exact fronts.elim
  | token rest ih => exact fronts.elim
  | @rule name u _ _ first rest ih =>
    rcases frontsAppend.mp fronts with here | ⟨empty, later⟩
    · exact ⟨name, u, .inl rfl, first, here⟩
    · obtain ⟨other, v, leads, filled, found⟩ := ih later
      exact ⟨other, v, .inr ⟨sound _ _ first empty, leads⟩, filled, found⟩

theorem fillsVanishing (complete : ∀ rule, nullable rule → ∃ u, level rule u ∧ Vanishes nullable u)
    (vanishes : Vanishes nullable q) : ∃ p, Fills level q p ∧ Vanishes nullable p := by
  induction q with
  | nil => exact ⟨[], .nil, trivial⟩
  | cons symbol q ih =>
    cases symbol with
    | token name => exact vanishes.elim
    | rule name =>
      obtain ⟨u, first, empty⟩ := complete name vanishes.1
      obtain ⟨p, fills, rest⟩ := ih vanishes.2
      exact ⟨u ++ p, .rule first fills, vanishesAppend.mpr ⟨empty, rest⟩⟩

theorem fillsSome (each : ∀ rule, ∃ u, level rule u) (q : Path) : ∃ p, Fills level q p := by
  induction q with
  | nil => exact ⟨[], .nil⟩
  | cons symbol q ih =>
    obtain ⟨p, fills⟩ := ih
    cases symbol with
    | token name => exact ⟨_, .token fills⟩
    | rule name =>
      obtain ⟨u, first⟩ := each name
      exact ⟨u ++ p, .rule first fills⟩

theorem fillsFronting (complete : ∀ rule, nullable rule → ∃ u, level rule u ∧ Vanishes nullable u)
    (each : ∀ rule, ∃ u, level rule u) {name rule : String} {u : Path} (fronts : Fronts nullable name q)
    (filled : level name u) (found : Fronts nullable rule u) : ∃ p, Fills level q p ∧ Fronts nullable rule p := by
  induction q with
  | nil => exact fronts.elim
  | cons symbol q ih =>
    cases symbol with
    | token other => exact fronts.elim
    | rule other =>
      rcases fronts with rfl | ⟨empty, fronts⟩
      · obtain ⟨p, fills⟩ := fillsSome each q
        exact ⟨u ++ p, .rule filled fills, frontsAppend.mpr (.inl found)⟩
      · obtain ⟨v, first, empty⟩ := complete other empty
        obtain ⟨p, fills, later⟩ := ih fronts
        exact ⟨v ++ p, .rule first fills, frontsAppend.mpr (.inr ⟨empty, later⟩)⟩

end

end Path

namespace Node

variable {nullable : String → Bool}

theorem Spells.nullableOfVanishingPath {n : Node} {p : Path} (spells : n.Spells p) (vanishes : p.Vanishes nullable) :
    n.isNullable nullable := by
  induction spells with
  | consume => exact vanishes.elim
  | call => exact vanishes.1
  | nothing => rfl
  | next first later ihFirst ihLater =>
    obtain ⟨left, right⟩ := Path.vanishesAppend.mp vanishes
    simpa [isNullable, allNullable, ihFirst left] using ihLater right
  | branch member inner ih => exact anyNullableIff.mpr ⟨_, member, ih vanishes⟩
  | some inner ih => exact ih vanishes
  | _ => rfl

theorem Spells.leadingOfFront {n : Node} {p : Path} {rule : String} (spells : n.Spells p)
    (fronts : p.Fronts nullable rule) : rule ∈ n.leading nullable := by
  induction spells with
  | consume => exact fronts.elim
  | call =>
    rcases fronts with rfl | ⟨_, never⟩
    · exact List.mem_singleton_self _
    · exact never.elim
  | nothing => exact fronts.elim
  | next first later ihFirst ihLater =>
    unfold Node.leading leadingParts
    rcases Path.frontsAppend.mp fronts with here | ⟨empty, later⟩
    · exact List.mem_append_left _ (ihFirst here)
    · rw [if_pos (first.nullableOfVanishingPath empty)]
      exact List.mem_append_right _ (ihLater later)
  | branch member inner ih => exact memLeadingAny.mpr ⟨_, member, ih fronts⟩
  | absent => exact fronts.elim
  | present inner ih => exact ih fronts
  | never => exact fronts.elim
  | once inner ih => exact ih fronts
  | some inner ih => exact ih fronts

theorem spellsVanishing {n : Node} (vanishes : n.isNullable nullable) :
    ∃ p, n.Spells p ∧ p.Vanishes nullable := by
  induction n using Node.induction with
  | consume token => simp [isNullable] at vanishes
  | inOrder parts rule ih =>
    simp only [isNullable, allNullableIff] at vanishes
    induction parts with
    | nil => exact ⟨[], .nothing, trivial⟩
    | cons n rest later =>
      rw [List.forall_mem_cons] at ih vanishes
      obtain ⟨p, spells, empty⟩ := ih.1 vanishes.1
      obtain ⟨q, spells', empty'⟩ := later ih.2 vanishes.2
      exact ⟨p ++ q, .next spells spells', Path.vanishesAppend.mpr ⟨empty, empty'⟩⟩
  | firstOf branches ih =>
    obtain ⟨n, member, vanishes⟩ := anyNullableIff.mp vanishes
    obtain ⟨p, spells, empty⟩ := ih n member vanishes
    exact ⟨p, .branch member spells, empty⟩
  | optional body ih => exact ⟨[], .absent, trivial⟩
  | many body ih => exact ⟨[], .never, trivial⟩
  | some body ih =>
    obtain ⟨p, spells, empty⟩ := ih vanishes
    exact ⟨p, .some spells, empty⟩
  | call rule => exact ⟨[.rule rule], .call, vanishes, trivial⟩

theorem memNodesAll {nodes : List Node} {m : Node} : m ∈ nodesAll nodes ↔ ∃ n ∈ nodes, m ∈ n.nodes := by
  induction nodes with
  | nil => simp [nodesAll]
  | cons n rest ih => simp [nodesAll, ih]

def Branched (n : Node) : Prop := [] ∉ n.choices

theorem Branched.ofFewerNodes {n m : Node} (branched : n.Branched) (inside : ∀ x ∈ m.nodes, x ∈ n.nodes) :
    m.Branched := by
  intro empty
  unfold choices at empty
  obtain ⟨x, member, found⟩ := List.mem_filterMap.mp empty
  exact branched (List.mem_filterMap.mpr ⟨x, inside x member, found⟩)

theorem Branched.insideParts {parts : List Node} {rule : Option String}
    (branched : (Node.inOrder parts rule).Branched) :
    ∀ n ∈ parts, n.Branched := fun n member =>
  branched.ofFewerNodes fun _ inside => List.mem_cons_of_mem _ (memNodesAll.mpr ⟨n, member, inside⟩)

theorem Branched.insideBranches {branches : List Node} (branched : (Node.firstOf branches).Branched) :
    branches ≠ [] ∧ ∀ n ∈ branches, n.Branched := by
  refine ⟨?_, fun n member => branched.ofFewerNodes fun x inside =>
    List.mem_cons_of_mem _ (memNodesAll.mpr ⟨n, member, inside⟩)⟩
  rintro rfl
  exact branched (by simp [choices, nodes])

theorem spellsParts {parts : List Node} (each : ∀ n ∈ parts, ∃ p, n.Spells p) (rule : Option String) :
    ∃ p, (Node.inOrder parts rule).Spells p := by
  induction parts with
  | nil => exact ⟨_, .nothing⟩
  | cons n rest ih =>
    rw [List.forall_mem_cons] at each
    obtain ⟨p, spells⟩ := each.1
    obtain ⟨q, spells'⟩ := ih each.2
    exact ⟨p ++ q, .next spells spells'⟩

theorem spellsSome {n : Node} (branched : n.Branched) : ∃ p, n.Spells p := by
  induction n using Node.induction with
  | consume token => exact ⟨_, .consume⟩
  | inOrder parts rule ih =>
    exact spellsParts (fun n member => ih n member (branched.insideParts n member)) rule
  | firstOf branches ih =>
    obtain ⟨some, each⟩ := branched.insideBranches
    obtain ⟨n, member⟩ := List.exists_mem_of_ne_nil _ some
    obtain ⟨p, spells⟩ := ih n member (each n member)
    exact ⟨p, .branch member spells⟩
  | optional body ih => exact ⟨_, .absent⟩
  | many body ih => exact ⟨_, .never⟩
  | some body ih =>
    obtain ⟨p, spells⟩ := ih (branched.ofFewerNodes fun _ inside => List.mem_cons_of_mem _ inside)
    exact ⟨p, .some spells⟩
  | call rule => exact ⟨_, .call⟩

theorem spellsLeading {n : Node} {rule : String} (branched : n.Branched) (leads : rule ∈ n.leading nullable) :
    ∃ p, n.Spells p ∧ p.Fronts nullable rule := by
  induction n using Node.induction with
  | consume token => exact nomatch leads
  | inOrder parts name ih =>
    have each := branched.insideParts
    clear branched
    induction parts with
    | nil => exact nomatch leads
    | cons n rest later =>
      rw [List.forall_mem_cons] at ih each
      rcases List.mem_append.mp leads with here | there
      · obtain ⟨p, spells, fronts⟩ := ih.1 each.1 here
        obtain ⟨q, spells'⟩ := spellsParts (fun n member => spellsSome (each.2 n member)) name
        exact ⟨p ++ q, .next spells spells', Path.frontsAppend.mpr (.inl fronts)⟩
      · split at there
        · rename_i vanishes
          obtain ⟨p, spells, empty⟩ := spellsVanishing vanishes
          obtain ⟨q, spells', fronts⟩ := later ih.2 there each.2
          exact ⟨p ++ q, .next spells spells', Path.frontsAppend.mpr (.inr ⟨empty, fronts⟩)⟩
        · exact nomatch there
  | firstOf branches ih =>
    obtain ⟨n, member, leads⟩ := memLeadingAny.mp leads
    obtain ⟨p, spells, fronts⟩ := ih n member (branched.insideBranches.2 n member) leads
    exact ⟨p, .branch member spells, fronts⟩
  | optional body ih =>
    obtain ⟨p, spells, fronts⟩ := ih (branched.ofFewerNodes fun _ inside => List.mem_cons_of_mem _ inside) leads
    exact ⟨p, .present spells, fronts⟩
  | many body ih =>
    obtain ⟨p, spells, fronts⟩ := ih (branched.ofFewerNodes fun _ inside => List.mem_cons_of_mem _ inside) leads
    exact ⟨p, .once spells, fronts⟩
  | some body ih =>
    obtain ⟨p, spells, fronts⟩ := ih (branched.ofFewerNodes fun _ inside => List.mem_cons_of_mem _ inside) leads
    exact ⟨p, .some spells, fronts⟩
  | call name =>
    rw [List.mem_singleton.mp leads]
    exact ⟨_, .call, .inl rfl⟩

end Node

namespace Grammar

variable {g : Grammar}

theorem levelVanishes {depth : Nat} {rule : String} {p : Path} (level : g.Level depth rule p)
    (vanishes : p.Vanishes g.nullable.contains) : g.nullable.contains rule := by
  induction depth generalizing rule p with
  | zero =>
    cases level
    exact vanishes.1
  | succ depth ih =>
    cases known : g.rule? rule with
    | none =>
      rw [(levelUnknown known _).mp level] at vanishes
      exact vanishes.1
    | some body =>
      obtain ⟨q, spells, fills⟩ := (levelKnown known).mp level
      have empty := fills.keepsVanishing (fun _ _ level vanishes => ih level vanishes) vanishes
      simpa using nullableClosed known (spells.nullableOfVanishingPath empty)

theorem levelVanishing (distinct : g.Distinct) (depth : Nat) {rule : String} (vanishes : g.nullable.contains rule) :
    ∃ p, g.Level depth rule p ∧ p.Vanishes g.nullable.contains := by
  induction depth generalizing rule with
  | zero => exact ⟨_, rfl, vanishes, trivial⟩
  | succ depth ih =>
    obtain ⟨body, known, vanishes⟩ := nullableBody distinct (by simpa using vanishes)
    obtain ⟨q, spells, empty⟩ := Node.spellsVanishing vanishes
    obtain ⟨p, fills, empty⟩ := Path.fillsVanishing (fun rule vanishes => ih vanishes) empty
    exact ⟨p, (levelKnown known).mpr ⟨q, spells, fills⟩, empty⟩

def Branched (g : Grammar) : Prop := ∀ rule body, g.rule? rule = some body → body.Branched

theorem levelSome (branched : g.Branched) (depth : Nat) (rule : String) : ∃ p, g.Level depth rule p := by
  induction depth generalizing rule with
  | zero => exact ⟨_, rfl⟩
  | succ depth ih =>
    cases known : g.rule? rule with
    | none => exact ⟨_, (levelUnknown known _).mpr rfl⟩
    | some body =>
      obtain ⟨q, spells⟩ := Node.spellsSome (branched rule body known)
      obtain ⟨p, fills⟩ := Path.fillsSome ih q
      exact ⟨p, (levelKnown known).mpr ⟨q, spells, fills⟩⟩

theorem walkOfLevel {depth : Nat} {rule other : String} {body : Node} {p : Path} (defined : g.rule? other = some body)
    (level : g.Level depth rule p) (fronts : p.Fronts g.nullable.contains other) : g.Walk depth rule other := by
  induction depth generalizing rule p with
  | zero =>
    cases level
    exact fronts.elim id fun none => none.2.elim
  | succ depth ih =>
    cases known : g.rule? rule with
    | none =>
      rw [(levelUnknown known _).mp level] at fronts
      rcases fronts with rfl | ⟨_, never⟩
      · rw [known] at defined
        exact nomatch defined
      · exact never.elim
    | some body =>
      obtain ⟨q, spells, fills⟩ := (levelKnown known).mp level
      obtain ⟨next, u, leads, level, fronts⟩ := fills.keepsFront (fun _ _ => levelVanishes) fronts
      exact ⟨next, by rw [Leads, startsOfBody known]; exact spells.leadingOfFront leads, ih level fronts⟩

theorem levelOfWalk (distinct : g.Distinct) (branched : g.Branched) {depth : Nat} {rule other : String}
    (walk : g.Walk depth rule other) : ∃ p, g.Level depth rule p ∧ p.Fronts g.nullable.contains other := by
  induction depth generalizing rule with
  | zero => exact ⟨_, rfl, .inl walk⟩
  | succ depth ih =>
    obtain ⟨next, leads, walk⟩ := walk
    obtain ⟨body, known⟩ := leads.fromDefined
    rw [Leads, startsOfBody known] at leads
    obtain ⟨q, spells, front⟩ := Node.spellsLeading (branched rule body known) leads
    obtain ⟨u, level, found⟩ := ih walk
    obtain ⟨p, fills, fronts⟩ := Path.fillsFronting (fun _ => levelVanishing distinct depth)
      (levelSome branched depth) front level found
    exact ⟨p, (levelKnown known).mpr ⟨q, spells, fills⟩, fronts⟩

end Grammar

end Packrat

import Mathlib.Data.List.Nodup
import Mathlib.Data.List.Perm.Subperm
import Mathlib.Logic.Relation
import Packrat.Grammar

/-! Which rules can match nothing. The passes over a grammar end in a set that no pass adds to, and from it
follows which rules a body can come to before it has taken a token. -/
namespace Packrat
namespace Node

@[elab_as_elim]
theorem induction {motive : Node → Prop} (n : Node)
    (consume : ∀ token, motive (.consume token))
    (inOrder : ∀ parts rule, (∀ n ∈ parts, motive n) → motive (.inOrder parts rule))
    (firstOf : ∀ branches, (∀ n ∈ branches, motive n) → motive (.firstOf branches))
    (optional : ∀ body, motive body → motive (.optional body))
    (many : ∀ body, motive body → motive (.many body))
    (some : ∀ body, motive body → motive (.some body))
    (call : ∀ rule, motive (.call rule)) : motive n :=
  @Node.rec motive (fun nodes => ∀ n ∈ nodes, motive n) consume inOrder firstOf optional many some call
    (fun _ member => nomatch member)
    (fun first rest head tail n member => by
      rcases List.mem_cons.mp member with rfl | member
      · exact head
      · exact tail n member)
    n

theorem allNullableIff {nullable : String → Bool} {parts : List Node} :
    allNullable nullable parts ↔ ∀ n ∈ parts, n.isNullable nullable := by
  induction parts with
  | nil => simp [allNullable]
  | cons n rest ih => simp [allNullable, ih]

theorem anyNullableIff {nullable : String → Bool} {branches : List Node} :
    anyNullable nullable branches ↔ ∃ n ∈ branches, n.isNullable nullable := by
  induction branches with
  | nil => simp [anyNullable]
  | cons n rest ih => simp [anyNullable, ih]

theorem isNullableMono {nullable larger : String → Bool} (grows : ∀ r, nullable r → larger r) (n : Node)
    (vanishes : n.isNullable nullable) : n.isNullable larger := by
  induction n using Node.induction with
  | consume token => simp [isNullable] at vanishes
  | inOrder parts rule ih =>
    simp only [isNullable, allNullableIff] at vanishes ⊢
    exact fun n member => ih n member (vanishes n member)
  | firstOf branches ih =>
    simp only [isNullable, anyNullableIff] at vanishes ⊢
    obtain ⟨n, member, vanishes⟩ := vanishes
    exact ⟨n, member, ih n member vanishes⟩
  | optional body ih => rfl
  | many body ih => rfl
  | some body ih => exact ih vanishes
  | call rule => exact grows rule vanishes

mutual

def leading (nullable : String → Bool) : Node → List String
  | .consume _ => []
  | .call rule => [rule]
  | .inOrder parts _ => leadingParts nullable parts
  | .firstOf branches => leadingAny nullable branches
  | .optional body => body.leading nullable
  | .many body => body.leading nullable
  | .some body => body.leading nullable

def leadingParts (nullable : String → Bool) : List Node → List String
  | [] => []
  | n :: rest => n.leading nullable ++ if n.isNullable nullable then leadingParts nullable rest else []

def leadingAny (nullable : String → Bool) : List Node → List String
  | [] => []
  | n :: rest => n.leading nullable ++ leadingAny nullable rest

end

theorem memLeadingAny {nullable : String → Bool} {branches : List Node} {r : String} :
    r ∈ leadingAny nullable branches ↔ ∃ n ∈ branches, r ∈ n.leading nullable := by
  induction branches with
  | nil => simp [leadingAny]
  | cons n rest ih => simp [leadingAny, ih]

end Node

namespace Grammar

theorem ruleListed {g : Grammar} {name : String} {body : Node} (found : g.rule? name = some body) :
    (name, body) ∈ g.rules := by
  obtain ⟨before, after, eq, _⟩ := List.lookup_eq_some_iff.mp found
  simp [eq]

def Distinct (g : Grammar) : Prop := (g.rules.map Prod.fst).Nodup

theorem lookupListed {rules : List (String × Node)} (distinct : (rules.map Prod.fst).Nodup) {name : String}
    {body : Node} (member : (name, body) ∈ rules) : rules.lookup name = some body := by
  induction rules with
  | nil => exact nomatch member
  | cons e rest ih =>
    obtain ⟨n, b⟩ := e
    rw [List.map_cons, List.nodup_cons] at distinct
    rcases List.mem_cons.mp member with same | later
    · cases same
      simp
    · have other : (name == n) = false := by
        rw [beq_eq_false_iff_ne]
        rintro rfl
        exact distinct.1 (List.mem_map.mpr ⟨_, later, rfl⟩)
      rw [List.lookup_cons, other]
      exact ih distinct.2 later

theorem Distinct.ruleFound {g : Grammar} (distinct : g.Distinct) {name : String} {body : Node}
    (member : (name, body) ∈ g.rules) : g.rule? name = some body := lookupListed distinct member

section
variable {rules : List (String × Node)} {found : List String}

theorem nullablePassKeeps (rules : List (String × Node)) (found : List String) :
    found <+: nullablePass rules found := by
  induction rules generalizing found with
  | nil => exact List.prefix_refl _
  | cons e rest ih =>
    unfold nullablePass
    split
    · exact (List.prefix_append _ _).trans (ih _)
    · exact ih _

theorem nullablePassNodup (nodup : found.Nodup) : (nullablePass rules found).Nodup := by
  induction rules generalizing found with
  | nil => exact nodup
  | cons e rest ih =>
    unfold nullablePass
    split
    · rename_i added
      simp only [Bool.and_eq_true, Bool.not_eq_true', List.contains_eq_mem, decide_eq_false_iff_not] at added
      refine ih (List.Nodup.append nodup (List.nodup_singleton _) ?_)
      simpa using added.1
    · exact ih nodup

theorem nullablePassInduction {motive : String → Prop}
    (step : ∀ e ∈ rules, ∀ found : List String, (∀ r ∈ found, motive r) → e.2.isNullable found.contains → motive e.1)
    (before : ∀ r ∈ found, motive r) : ∀ r ∈ nullablePass rules found, motive r := by
  induction rules generalizing found with
  | nil => exact before
  | cons e rest ih =>
    have later := fun e member => step e (List.mem_cons_of_mem _ member)
    unfold nullablePass
    split
    · rename_i added
      rw [Bool.and_eq_true] at added
      refine ih later fun r member => ?_
      rcases List.mem_append.mp member with old | new
      · exact before r old
      · rw [List.mem_singleton.mp new]
        exact step e List.mem_cons_self found before added.2
    · exact ih later before

theorem nullablePassClosed (still : nullablePass rules found = found) :
    ∀ e ∈ rules, e.2.isNullable found.contains → e.1 ∈ found := by
  induction rules with
  | nil => exact fun _ member => nomatch member
  | cons e rest ih =>
    unfold nullablePass at still
    split at still
    · have kept := (nullablePassKeeps rest (found ++ [e.1])).length_le
      rw [still, List.length_append, List.length_singleton] at kept
      omega
    · rename_i old
      intro e' member vanishes
      rcases List.mem_cons.mp member with rfl | later
      · simpa [vanishes] using old
      · exact ih still e' later vanishes

end

theorem nullableFromInduction {g : Grammar} {motive : String → Prop} (fuel : Nat) {found : List String}
    (step : ∀ e ∈ g.rules, ∀ found : List String, (∀ r ∈ found, motive r) → e.2.isNullable found.contains → motive e.1)
    (before : ∀ r ∈ found, motive r) : ∀ r ∈ g.nullableFrom fuel found, motive r := by
  induction fuel generalizing found with
  | zero => exact before
  | succ fuel ih =>
    simp only [nullableFrom]
    split
    · exact before
    · exact ih (nullablePassInduction step before)

/- Each pass but the last adds a rule, so the passes are enough. -/
theorem nullableFromClosed {g : Grammar} (fuel : Nat) {found : List String} (nodup : found.Nodup)
    (inside : ∀ r ∈ found, r ∈ g.rules.map Prod.fst) (enough : g.rules.length < fuel + found.length) :
    ∀ e ∈ g.rules, e.2.isNullable (g.nullableFrom fuel found).contains → e.1 ∈ g.nullableFrom fuel found := by
  induction fuel generalizing found with
  | zero =>
    have few := (List.subperm_of_subset nodup inside).length_le
    simp only [List.length_map] at few
    omega
  | succ fuel ih =>
    simp only [nullableFrom]
    have kept := nullablePassKeeps g.rules found
    split
    · rename_i same
      exact nullablePassClosed (kept.eq_of_length same.symm).symm
    · rename_i more
      have longer := kept.length_le
      refine ih (nullablePassNodup nodup) (nullablePassInduction ?_ inside) (by omega)
      exact fun e member _ _ _ => List.mem_map_of_mem member

variable {g : Grammar}

theorem nullableClosed {name : String} {body : Node} (rule : g.rule? name = some body)
    (vanishes : body.isNullable g.nullable.contains) : name ∈ g.nullable :=
  nullableFromClosed _ List.nodup_nil (fun _ member => nomatch member) (by simp) _ (ruleListed rule) vanishes

@[elab_as_elim]
theorem nullableInduction (distinct : g.Distinct) {motive : String → Prop}
    (step : ∀ name body (found : List String), g.rule? name = some body → (∀ r ∈ found, motive r) →
      body.isNullable found.contains → motive name) {name : String} (member : name ∈ g.nullable) : motive name := by
  refine nullableFromInduction _ ?_ (fun _ member => nomatch member) name member
  exact fun e member found before vanishes => step e.1 e.2 found (distinct.ruleFound member) before vanishes

theorem nullableBody (distinct : g.Distinct) {name : String} (member : name ∈ g.nullable) :
    ∃ body, g.rule? name = some body ∧ body.isNullable g.nullable.contains := by
  have found : name ∈ g.nullable ∧ ∃ body, g.rule? name = some body ∧ body.isNullable g.nullable.contains := by
    refine nullableInduction distinct (motive := fun name => name ∈ g.nullable ∧ ∃ body,
      g.rule? name = some body ∧ body.isNullable g.nullable.contains) ?_ member
    intro name body found rule before vanishes
    have vanishes : body.isNullable g.nullable.contains :=
      body.isNullableMono (fun r member => by simpa using (before r (by simpa using member)).1) vanishes
    exact ⟨nullableClosed rule vanishes, body, rule, vanishes⟩
  exact found.2

def starts (g : Grammar) (name : String) : List String :=
  match g.rule? name with
  | some body => body.leading g.nullable.contains
  | none => []

def Leads (g : Grammar) (name other : String) : Prop := other ∈ g.starts name

def Walk (g : Grammar) : Nat → String → String → Prop
  | 0, name, other => name = other
  | n + 1, name, other => ∃ next, g.Leads name next ∧ g.Walk n next other

def LeftRecursive (g : Grammar) (name : String) : Prop := Relation.TransGen g.Leads name name

theorem startsOfBody {name : String} {body : Node} (rule : g.rule? name = some body) :
    g.starts name = body.leading g.nullable.contains := by
  simp [starts, rule]

theorem Walk.trans {m n : Nat} {name other last : String} (walk : g.Walk m name other) (later : g.Walk n other last) :
    g.Walk (m + n) name last := by
  induction m generalizing name with
  | zero =>
    cases walk
    rwa [Nat.zero_add]
  | succ m ih =>
    obtain ⟨next, first, rest⟩ := walk
    rw [Nat.succ_add]
    exact ⟨next, first, ih rest⟩

theorem transGenIffWalk {name other : String} :
    Relation.TransGen g.Leads name other ↔ ∃ n, g.Walk (n + 1) name other := by
  constructor
  · intro path
    induction path with
    | single leads => exact ⟨0, _, leads, rfl⟩
    | tail _ leads ih =>
      obtain ⟨n, walk⟩ := ih
      exact ⟨n + 1, walk.trans ⟨_, leads, rfl⟩⟩
  · rintro ⟨n, walk⟩
    induction n generalizing name with
    | zero =>
      obtain ⟨next, leads, rfl⟩ := walk
      exact .single leads
    | succ n ih =>
      obtain ⟨next, leads, rest⟩ := walk
      exact .head leads (ih rest)

theorem Leads.fromDefined {name other : String} (leads : g.Leads name other) : ∃ body, g.rule? name = some body := by
  unfold Leads starts at leads
  split at leads
  · exact ⟨_, ‹_›⟩
  · exact nomatch leads

end Grammar
end Packrat

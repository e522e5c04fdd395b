import Packrat.Session.Run

/-! Induction over bodies, and what can be read off a table of rules before it is run: which
rules a body invokes, and whether it goes on after an error. -/
namespace Packrat

@[elab_as_elim]
theorem Body.induction {motive : Body → Prop} (b : Body)
    (consume : ∀ token goal, motive (.consume token goal))
    (inOrder : ∀ parts, (∀ b ∈ parts, motive b) → motive (.inOrder parts))
    (call : ∀ name rule, motive (.call name rule))
    (firstOf : ∀ branches, (∀ b ∈ branches, motive b) → motive (.firstOf branches))
    (many : ∀ body, motive body → motive (.many body))
    (some : ∀ body, motive body → motive (.some body))
    (optional : ∀ body, motive body → motive (.optional body))
    (notAhead : ∀ token goal, motive (.notAhead token goal))
    (sameLine : motive .sameLine)
    (mismatch : motive .mismatch)
    (raise : ∀ error, motive (.raise error))
    (whenRecording : ∀ recorded parsed, motive parsed → motive (.whenRecording recorded parsed))
    (attempt : ∀ body, motive body → motive (.attempt body)) : motive b :=
  @Body.rec motive (fun bodies => ∀ b ∈ bodies, motive b) consume inOrder call firstOf many some optional
    notAhead sameLine mismatch raise (fun recorded parsed _ => whenRecording recorded parsed) attempt
    (fun _ member => nomatch member)
    (fun first rest head tail b member => by
      rcases List.mem_cons.mp member with rfl | member
      · exact head
      · exact tail b member)
    b

mutual

def Body.calls : Body → List (String × String)
  | .call name rule => [(name, rule)]
  | .inOrder parts => Body.callsAll parts
  | .firstOf branches => Body.callsAll branches
  | .many body => body.calls
  | .some body => body.calls
  | .optional body => body.calls
  | .whenRecording _ parsed => parsed.calls
  | .attempt body => body.calls
  | .consume _ _ => []
  | .notAhead _ _ => []
  | .sameLine => []
  | .mismatch => []
  | .raise _ => []

def Body.callsAll : List Body → List (String × String)
  | [] => []
  | b :: rest => b.calls ++ Body.callsAll rest

end

mutual

def Body.swallows : Body → Bool
  | .attempt _ => true
  | .inOrder parts => Body.swallowsAny parts
  | .firstOf branches => Body.swallowsAny branches
  | .many body => body.swallows
  | .some body => body.swallows
  | .optional body => body.swallows
  | .whenRecording _ parsed => parsed.swallows
  | .call _ _ => false
  | .consume _ _ => false
  | .notAhead _ _ => false
  | .sameLine => false
  | .mismatch => false
  | .raise _ => false

def Body.swallowsAny : List Body → Bool
  | [] => false
  | b :: rest => b.swallows || Body.swallowsAny rest

end

theorem Body.memCallsAll {bodies : List Body} {c : String × String} :
    c ∈ Body.callsAll bodies ↔ ∃ b ∈ bodies, c ∈ b.calls := by
  induction bodies with
  | nil => simp [Body.callsAll]
  | cons b rest ih => simp [Body.callsAll, ih]

theorem Body.swallowsAnyFalseIff {bodies : List Body} :
    Body.swallowsAny bodies = false ↔ ∀ b ∈ bodies, b.swallows = false := by
  induction bodies with
  | nil => simp [Body.swallowsAny]
  | cons b rest ih => simp [Body.swallowsAny, ih]

def Rules.Strict (rules : Rules) : Prop := ∀ rule, (rules.body rule).swallows = false

theorem Rules.bodyFrom {motive : Body → Prop} {rules : Rules} (nothing : motive .mismatch)
    (each : ∀ e ∈ rules, motive e.2) (rule : String) : motive (rules.body rule) := by
  unfold Rules.body
  split
  · rename_i body found
    obtain ⟨before, after, eq, _⟩ := List.lookup_eq_some_iff.mp found
    exact each (rule, body) (by simp [eq])
  · exact nothing

theorem Rules.strictOf {rules : Rules} (each : ∀ e ∈ rules, e.2.swallows = false) : rules.Strict :=
  Rules.bodyFrom (motive := fun b => b.swallows = false) rfl each

def Rules.Invokes (rules : Rules) (name rule : String) (c : String × String) : Prop :=
  c = (name, rule) ∨ ∃ r, c ∈ (rules.body r).calls

def Rules.NamesAgree (rules : Rules) (name rule : String) : Prop :=
  ∀ c c', rules.Invokes name rule c → rules.Invokes name rule c' →
    c.1 = c'.1 → rules.body c.2 = rules.body c'.2

theorem Rules.namesAgreeOf {rules : Rules} (each : ∀ e ∈ rules, ∀ c ∈ e.2.calls, c.1 = c.2) (name : String) :
    rules.NamesAgree name name := by
  have own : ∀ c, rules.Invokes name name c → c.1 = c.2 := by
    rintro c (rfl | ⟨r, called⟩)
    · rfl
    · exact Rules.bodyFrom (motive := fun b => ∀ c ∈ b.calls, c.1 = c.2) (fun _ member => nomatch member)
        each r c called
  intro c c' invoked invoked' same
  rw [← own c invoked, ← own c' invoked', same]

structure Rules.Denote (rules : Rules) (invoked : String × String → Prop) (table : String → Body) :
    Prop where
  body : ∀ c, invoked c → rules.body c.2 = table c.1
  within : ∀ r, ∀ c ∈ (rules.body r).calls, invoked c

theorem Rules.NamesAgree.denoteTable {rules : Rules} {name rule : String} (agree : rules.NamesAgree name rule) :
    ∃ table, rules.Denote (rules.Invokes name rule) table := by
  classical
  refine ⟨fun n => if h : ∃ c, rules.Invokes name rule c ∧ c.1 = n then rules.body h.choose.2 else .mismatch,
    fun c invoked => ?_, fun r c member => .inr ⟨r, member⟩⟩
  have known : ∃ c', rules.Invokes name rule c' ∧ c'.1 = c.1 := ⟨c, invoked, rfl⟩
  rw [dif_pos known]
  exact agree c _ invoked known.choose_spec.1 known.choose_spec.2.symm

theorem Session.execAllAsMap (env : Setup) (call : String → String → Action) (bodies : List Body) :
    Session.execAll env call bodies = bodies.map (Session.exec env call) := by
  induction bodies with
  | nil => rfl
  | cons b rest ih => simp [Session.execAll, ih]

end Packrat

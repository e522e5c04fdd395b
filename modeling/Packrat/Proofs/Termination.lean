import Mathlib.Data.List.ProdSigma
import Packrat.Proofs.Grammar.Recording
import Packrat.Proofs.Session.Halting
import Packrat.Proofs.Undo

/-! Every parse terminates, whatever its rules are. No rule is opened twice at one offset, no body goes back
behind where it started, and every round that goes on moves the offset. -/
namespace Packrat

def Task.calls : Task → List (String × String)
  | .body b => b.calls
  | .rounds b _ _ => b.calls
  | .recover _ => []
  | .skip _ => []

namespace Session

variable {env : Setup} {rules : Rules} {entry : String × String} {depth d : Nat} {task k k' : Task}
  {first s t : Session}

theorem Starts.callsAmong {call : String → String → Action} (starts : Starts env call k s k' t) :
    ∀ c ∈ k'.calls, c ∈ k.calls := by
  cases starts with
  | first => exact fun _ member => List.mem_append_left _ member
  | next _ => exact fun _ member => List.mem_append_right _ member
  | branch => exact fun _ member => List.mem_append_left _ member
  | other _ => exact fun _ member => List.mem_append_right _ member
  | recover _ _ => exact nofun
  | _ => exact fun _ member => member

theorem Reached.callsReached (reached : Reached env rules depth task first d k t)
    (start : ∀ c ∈ task.calls, rules.Reaches entry c) : ∀ c ∈ k.calls, rules.Reaches entry c := by
  induction reached with
  | start => exact start
  | within _ starts ih => exact fun c member => ih c (starts.callsAmong c member)
  | enter _ _ _ ih => exact fun c member => .call (ih _ List.mem_cons_self) member

structure Nests (env : Setup) (rules : Rules) (entry : String × String) (s : Session) : Prop where
  distinct : s.ruleStack.Nodup
  inside : ∀ e ∈ s.ruleStack, e.1 ∈ rules.names entry ∧ e.2 ≤ byteLength env.source

namespace Nests

theorem sameStack (h : s.Nests env rules entry) (stack : t.ruleStack = s.ruleStack) : t.Nests env rules entry :=
  ⟨stack ▸ h.distinct, stack ▸ h.inside⟩

theorem whenEntered {name : String} (h : s.Nests env rules entry) (sound : s.Sound env) (enters : s.Enters env name)
    (named : name ∈ rules.names entry) : (opened env name s (s.asked env name)).Nests env rules entry := by
  have fresh : s.here name ∉ s.ruleStack := by
    rw [← sound.active, ← List.contains_iff_mem]
    exact enters.1
  constructor
  · rw [openedRuleStack]
    exact List.nodup_cons.mpr ⟨fresh, h.distinct⟩
  · rw [openedRuleStack]
    exact List.forall_mem_cons.mpr ⟨⟨named, sound.inside⟩, h.inside⟩

theorem stackBounded (h : s.Nests env rules entry) :
    s.ruleStack.length ≤ (rules.callCount + 1) * (byteLength env.source + 1) := by
  have subset : s.ruleStack ⊆ rules.names entry ×ˢ List.range (byteLength env.source + 1) := by
    intro e member
    obtain ⟨named, inside⟩ := h.inside e member
    exact List.mem_product.mpr ⟨named, List.mem_range.mpr (Nat.lt_succ_of_le inside)⟩
  calc s.ruleStack.length
      ≤ (rules.names entry ×ˢ List.range (byteLength env.source + 1)).length :=
        (List.subperm_of_subset h.distinct subset).length_le
    _ = (rules.names entry).length * (byteLength env.source + 1) := by
        rw [List.length_product, List.length_range]
    _ ≤ (rules.callCount + 1) * (byteLength env.source + 1) :=
        Nat.mul_le_mul_right _ (rules.namesWithinCount entry)

end Nests

theorem Reached.keepsNests (reached : Reached env rules depth task first d k t) (h : first.Sound env)
    (calls : ∀ c ∈ task.calls, rules.Reaches entry c) (start : first.Nests env rules entry) :
    t.Nests env rules entry := by
  induction reached with
  | start => exact start
  | within before starts ih => exact ih.sameStack (starts.startProceeds before (before.keepsSound h)).stack
  | enter before enters _ ih =>
    exact ih.whenEntered (before.keepsSound h) enters (before.callsReached calls _ List.mem_cons_self).nameListed

theorem Passes.keepsNests (passes : Passes env rules depth task first t) (h : first.Sound env)
    (calls : ∀ c ∈ task.calls, rules.Reaches entry c) (start : first.Nests env rules entry) :
    t.Nests env rules entry := by
  obtain ⟨d, k, u, reached, rfl | rfl⟩ := passes
  · exact reached.keepsNests h calls start
  · exact (reached.keepsNests h calls start).sameStack (reached.finishingProceeds h).stack

end Session

namespace Parser

theorem terminates {source : String} {definitions : List Definition} {p : Parser}
    (reachable : Reachable source definitions p) (rules : Rules) (name rule : String) :
    (∃ r, (∀ r', Session.Ends p.setup rules (.body (.call name rule)) p.session.reset r' ↔ r' = r) ∧
      ∃ stats, (p.parse rules name rule).1 =
        (Session.concluded p.setup r).map fun output => { output with stats := stats }) ∧
    (∀ goal prev cursor rest found, dropBytes? p.setup.source cursor.offset = some rest →
      (p.setup.lexer.Finds goal prev rest cursor false found ↔
        found = p.setup.lexer.readToken p.setup.source cursor goal prev)) ∧
    (∀ t, Session.Passes p.setup rules p.config.maxRuleDepth (.body (.call name rule)) p.session.reset t →
      t.ruleStack.Nodup ∧ t.ruleStack.length ≤ (rules.callCount + 1) * (byteLength p.setup.source + 1)) ∧
    (∀ d b t, Session.Reached p.setup rules p.config.maxRuleDepth (.body (.call name rule)) p.session.reset d
        (.body b) t →
      t.state.offset ≤ (Session.exec p.setup (Session.invoke p.setup rules d) b t).2.state.offset) ∧
    ∀ d k b fuel done t u,
      Session.Reached p.setup rules p.config.maxRuleDepth (.body (.call name rule)) p.session.reset d k t →
      Session.Starts p.setup (Session.invoke p.setup rules d) k t (.rounds b fuel done) u →
      k ≠ .body (.many b) → t.state.offset < u.state.offset := by
  have sound := Session.soundReset reachable.sourceAndSound.2
  have entry : ∀ c ∈ (Task.body (.call name rule)).calls, rules.Reaches (name, rule) c :=
    fun c member => List.mem_singleton.mp member ▸ .entry
  have start : p.session.reset.Nests p.setup rules (name, rule) := ⟨List.nodup_nil, nofun⟩
  have ends : Session.Ends p.setup rules (.body (.call name rule)) p.session.reset
      (Session.invoke p.setup rules p.config.maxRuleDepth name rule p.session.reset) :=
    Session.concludesCall _ name rule _ ⟨sound, Nat.le_add_right _ _, trivial⟩
  refine ⟨⟨_, fun r' => ⟨fun other => other.oneEnd ends, fun same => same ▸ ends⟩,
    Session.parseRuleConcludes p.setup rules name rule p.session⟩, ?_, ?_, ?_, ?_⟩
  · exact fun goal prev cursor rest found left => Lexer.findsIff left
  · intro t passes
    have nests := passes.keepsNests sound entry start
    exact ⟨nests.distinct, nests.stackBounded⟩
  · intro d b t reached
    obtain ⟨_, _, grows⟩ := (reached.keepsSound sound).runGrows rules d b
    exact grows.covers.spotLeads.offsetLe
  · intro d k b fuel done t u reached starts later
    exact starts.roundsFurther later (reached.keepsSound sound)

namespace Sample

def looping : Rules := [("A", .many (.attempt (.call "B" "A")))]

end Sample

theorem terminatesOnLoop :
    Reachable "ca;b" Sample.definitions Sample.parser ∧ Sample.parser.config.maxRuleDepth = 1000 ∧
      (∃ r, Session.Ends Sample.parser.setup Sample.looping (.body (.call "A" "A")) Sample.parser.session.reset r) ∧
      (Sample.parser.parse Sample.looping "A" "A").1.isOk = false ∧
      ∀ t, Session.Passes Sample.parser.setup Sample.looping 1000 (.body (.call "A" "A"))
        Sample.parser.session.reset t → t.ruleStack.length ≤ 10 := by
  have reachable : Reachable "ca;b" Sample.definitions Sample.parser :=
    (Reachable.new (Parser.ofDefinitionsOfOption _)).configured _
  obtain ⟨⟨r, ends, _⟩, _, nests, _⟩ := terminates reachable Sample.looping "A" "A"
  refine ⟨reachable, rfl, ⟨r, (ends r).mpr rfl⟩, by decide +kernel, fun t passes => ?_⟩
  exact Nat.le_trans (nests t passes).2 (by decide +kernel)

end Parser
end Packrat

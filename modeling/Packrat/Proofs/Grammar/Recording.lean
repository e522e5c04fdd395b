import Mathlib.Data.List.Nodup
import Mathlib.Data.List.Perm.Subperm
import Packrat.Grammar.Recording
import Packrat.Proofs.Grammar.Nullable
import Packrat.Proofs.Rule

/-! What recording makes of rules. A body of plain combinators is recorded part by part, and every
rule that can be reached from the entry is recorded once, with the structure of its body. -/
namespace Packrat

mutual

def Body.plain : Body → Bool
  | .consume _ _ => true
  | .inOrder parts => Body.plainAll parts
  | .call _ _ => true
  | .firstOf branches => Body.plainAll branches
  | .many body => body.plain
  | .some body => body.plain
  | .optional body => body.plain
  | .notAhead _ _ => true
  | .sameLine => true
  | .mismatch => false
  | .raise _ => false
  | .whenRecording _ _ => false
  | .attempt _ => false

def Body.plainAll : List Body → Bool
  | [] => true
  | b :: rest => b.plain && Body.plainAll rest

end

mutual

def Body.outline : Body → List Node
  | .consume token _ => [.consume token]
  | .inOrder parts => Body.outlineAll parts
  | .call name _ => [.call name]
  | .firstOf branches => [.firstOf (Body.outlineEach branches)]
  | .many body => [.many (.inOrder body.outline none)]
  | .some body => [.some (.inOrder body.outline none)]
  | .optional body => [.optional (.inOrder body.outline none)]
  | .notAhead _ _ => []
  | .sameLine => []
  | .mismatch => []
  | .raise _ => []
  | .whenRecording _ _ => []
  | .attempt _ => []

def Body.outlineAll : List Body → List Node
  | [] => []
  | b :: rest => b.outline ++ Body.outlineAll rest

def Body.outlineEach : List Body → List Node
  | [] => []
  | b :: rest => .inOrder b.outline none :: Body.outlineEach rest

end

theorem Body.plainAllIff {bodies : List Body} : Body.plainAll bodies ↔ ∀ b ∈ bodies, b.plain := by
  induction bodies with
  | nil => simp [Body.plainAll]
  | cons b rest ih => simp [Body.plainAll, ih]

theorem Body.memOutlineEach {branches : List Body} {n : Node} :
    n ∈ Body.outlineEach branches ↔ ∃ b ∈ branches, n = .inOrder b.outline none := by
  induction branches with
  | nil => simp [Body.outlineEach]
  | cons b rest ih => simp [Body.outlineEach, ih]

theorem Body.callsWithinCount (b : Body) : b.calls.length ≤ b.callCount := by
  have all : ∀ bodies : List Body, (∀ b ∈ bodies, b.calls.length ≤ b.callCount) →
      (Body.callsAll bodies).length ≤ Body.callCountAll bodies := by
    intro bodies each
    induction bodies with
    | nil => exact Nat.le_refl _
    | cons b rest ih =>
      rw [List.forall_mem_cons] at each
      rw [Body.callsAll, List.length_append]
      exact Nat.add_le_add each.1 (ih each.2)
  induction b using Body.induction with
  | inOrder parts ih => exact all parts ih
  | firstOf branches ih => exact all branches ih
  | call name rule => exact Nat.le_refl _
  | many body ih => exact ih
  | some body ih => exact ih
  | optional body ih => exact ih
  | whenRecording recorded parsed ih => exact Nat.le_trans ih (Nat.le_add_left _ _)
  | attempt body ih => exact ih
  | _ => exact Nat.zero_le _

def Rules.Plain (rules : Rules) : Prop := ∀ e ∈ rules, e.2.plain

theorem Rules.Plain.bodyPlain {rules : Rules} (plain : rules.Plain) (rule : String) :
    rules.body rule = .mismatch ∨ (rules.body rule).plain := by
  refine Rules.bodyFrom (motive := fun b => b = .mismatch ∨ b.plain) (.inl rfl) (fun e member => ?_) rule
  exact .inr (plain e member)

namespace Recorder

def queueAll (r : Recorder) (calls : List (String × String)) : Recorder :=
  calls.foldl (fun r c => r.queue c.1 c.2) r

theorem queueAllAppend (r : Recorder) (calls more : List (String × String)) :
    r.queueAll (calls ++ more) = (r.queueAll calls).queueAll more := List.foldl_append

theorem recordPartsPlain {parts : List Body} (each : ∀ b ∈ parts, ∀ r, record b r =
    (.ok, b.outline, r.queueAll b.calls))
    (r : Recorder) : recordParts parts r = (.ok, Body.outlineAll parts, r.queueAll (Body.callsAll parts)) := by
  induction parts generalizing r with
  | nil => rfl
  | cons b rest ih =>
    rw [List.forall_mem_cons] at each
    simp only [recordParts, each.1, ih each.2, Body.outlineAll, Body.callsAll, queueAllAppend]

theorem recordBranchesPlain {branches : List Body}
    (each : ∀ b ∈ branches, ∀ r, record b r = (.ok, b.outline, r.queueAll b.calls)) (r : Recorder) :
    recordBranches branches r = (Body.outlineEach branches, r.queueAll (Body.callsAll branches)) := by
  induction branches generalizing r with
  | nil => rfl
  | cons b rest ih =>
    rw [List.forall_mem_cons] at each
    simp only [recordBranches, each.1, close, ih each.2, Body.outlineEach, Body.callsAll, queueAllAppend]

theorem recordPlain (b : Body) (plain : b.plain) (r : Recorder) :
    record b r = (.ok, b.outline, r.queueAll b.calls) := by
  induction b using Body.induction generalizing r with
  | consume token goal => rfl
  | inOrder parts ih =>
    rw [Body.plain, Body.plainAllIff] at plain
    exact recordPartsPlain (fun b member => ih b member (plain b member)) r
  | call name rule => rfl
  | firstOf branches ih =>
    rw [Body.plain, Body.plainAllIff] at plain
    simp only [record, recordBranchesPlain fun b member => ih b member (plain b member), Body.outline, Body.calls]
  | many body ih => simp [record, ih plain, close, Body.outline, Body.calls]
  | some body ih => simp [record, ih plain, close, Body.outline, Body.calls]
  | optional body ih => simp [record, ih plain, close, Body.outline, Body.calls]
  | notAhead token goal => rfl
  | sameLine => rfl
  | mismatch => exact nomatch plain
  | raise error => exact nomatch plain
  | whenRecording recorded parsed ih => exact nomatch plain
  | attempt body ih => exact nomatch plain

theorem recordRule {rules : Rules} (plain : rules.Plain) (name rule : String) (r : Recorder) :
    ∃ verdict, record (rules.body rule) r =
        (verdict, (rules.body rule).outline, r.queueAll (rules.body rule).calls) ∧
      ∀ parts (r : Recorder), r.close (some name) verdict parts = (.inOrder parts (some name), r) := by
  rcases plain.bodyPlain rule with absent | plain
  · rw [absent]
    exact ⟨.mismatch, rfl, fun _ _ => rfl⟩
  · exact ⟨.ok, recordPlain _ plain r, fun _ _ => rfl⟩

theorem queueAllAdds (calls : List (String × String)) (r : Recorder) (nodup : r.seen.Nodup) :
    ∃ new, (∀ c ∈ new, c ∈ calls) ∧ (r.queueAll calls).pending = r.pending ++ new ∧
      (r.queueAll calls).seen.Perm (r.seen ++ new.map Prod.fst) ∧ (r.queueAll calls).seen.Nodup ∧
      ∀ c ∈ calls, c.1 ∈ (r.queueAll calls).seen := by
  induction calls generalizing r with
  | nil => exact ⟨[], nofun, by simp [queueAll], by simp [queueAll], nodup, nofun⟩
  | cons c calls ih =>
    have step : r.queueAll (c :: calls) = (r.queue c.1 c.2).queueAll calls := rfl
    rw [step]
    by_cases known : c.1 ∈ r.seen
    · have same : r.queue c.1 c.2 = r := by simp [queue, known]
      rw [same]
      obtain ⟨new, among, pending, seen, nodup, told⟩ := ih r nodup
      refine ⟨new, fun c member => List.mem_cons_of_mem _ (among c member), pending, seen, nodup, ?_⟩
      exact List.forall_mem_cons.mpr ⟨seen.mem_iff.mpr (List.mem_append_left _ known), told⟩
    · have added : r.queue c.1 c.2 = { r with pending := r.pending ++ [c], seen := c.1 :: r.seen } := by
        simp [queue, known]
      rw [added]
      obtain ⟨new, among, pending, seen, nodup, told⟩ :=
        ih { r with pending := r.pending ++ [c], seen := c.1 :: r.seen } (List.nodup_cons.mpr ⟨known, nodup⟩)
      refine ⟨c :: new, ?_, by rw [pending]; simp, seen.trans ?_, nodup, ?_⟩
      · exact List.forall_mem_cons.mpr ⟨List.mem_cons_self, fun c member => List.mem_cons_of_mem _ (among c member)⟩
      · rw [List.map_cons]
        exact List.perm_middle.symm
      · exact List.forall_mem_cons.mpr ⟨seen.mem_iff.mpr (by simp), told⟩

end Recorder

inductive Rules.Reaches (rules : Rules) (entry : String × String) : String × String → Prop where
  | entry : Reaches rules entry entry
  | call {c c'} (before : Reaches rules entry c) (called : c' ∈ (rules.body c.2).calls) : Reaches rules entry c'

theorem Rules.Reaches.isInvoked {rules : Rules} {name rule : String} {c : String × String}
    (reaches : rules.Reaches (name, rule) c) : rules.Invokes name rule c := by
  cases reaches with
  | entry => exact .inl rfl
  | call before called => exact .inr ⟨_, called⟩

def Rules.names (rules : Rules) (entry : String × String) : List String :=
  entry.1 :: (Body.callsAll (rules.map Prod.snd)).map Prod.fst

theorem Rules.namesWithinCount (rules : Rules) (entry : String × String) :
    (rules.names entry).length ≤ rules.callCount + 1 := by
  have calls := Body.callsWithinCount (.inOrder (rules.map Prod.snd))
  rw [names, List.length_cons, List.length_map]
  exact Nat.succ_le_succ calls

theorem Rules.Reaches.nameListed {rules : Rules} {entry c : String × String} (reaches : rules.Reaches entry c) :
    c.1 ∈ rules.names entry := by
  cases reaches with
  | entry => exact List.mem_cons_self
  | @call before _ _ called =>
    refine List.mem_cons_of_mem _ (List.mem_map_of_mem (Body.memCallsAll.mpr ?_))
    exact Rules.bodyFrom (motive := fun b => c ∈ b.calls → ∃ b ∈ rules.map Prod.snd, c ∈ b.calls) nofun
      (fun e member called => ⟨e.2, List.mem_map_of_mem member, called⟩) before.2 called

namespace Grammar

theorem insertIntoFresh {name : String} {body : Node} {rules : List (String × Node)}
    (new : name ∉ rules.map Prod.fst) : insertInto name body rules = rules ++ [(name, body)] := by
  induction rules with
  | nil => rfl
  | cons e rest ih =>
    rw [List.map_cons, List.mem_cons, not_or] at new
    simp [insertInto, Ne.symm new.1, ih new.2]

theorem Distinct.afterInsert {g : Grammar} (distinct : g.Distinct) (name : String) (body : Node) :
    (g.insert name body).Distinct := by
  by_cases known : name ∈ g.rules.map Prod.fst
  · have names : ∀ rules : List (String × Node), name ∈ rules.map Prod.fst →
        (insertInto name body rules).map Prod.fst = rules.map Prod.fst := by
      intro rules known
      induction rules with
      | nil => exact nomatch known
      | cons e rest ih =>
        by_cases same : e.1 = name
        · simp [insertInto, same]
        · have later := (List.mem_cons.mp known).resolve_left (Ne.symm same)
          simp [insertInto, same, ih later]
    unfold Distinct Grammar.insert
    rw [names _ known]
    exact distinct
  · unfold Distinct Grammar.insert
    rw [insertIntoFresh known, List.map_append]
    exact List.Nodup.append distinct (List.nodup_singleton _) (by simpa using known)

end Grammar

namespace Recorder

structure Collecting (rules : Rules) (entry : String × String) (g : Grammar) (r : Recorder) : Prop where
  nodup : r.seen.Nodup
  split : r.seen.Perm (g.rules.map Prod.fst ++ r.pending.map Prod.fst)
  first : entry.1 ∈ r.seen
  waiting : ∀ c ∈ r.pending, rules.Reaches entry c
  recorded : ∀ e ∈ g.rules, ∃ rule, rules.Reaches entry (e.1, rule) ∧
    e.2 = .inOrder (rules.body rule).outline (some e.1) ∧ ∀ c ∈ (rules.body rule).calls, c.1 ∈ r.seen

variable {rules : Rules} {entry : String × String} {g : Grammar} {r : Recorder}

theorem startCollecting (rules : Rules) (name entry : String) (tokens : List Definition) :
    Collecting rules (name, entry) { entry := name, tokens := tokens }
        { pending := [(name, entry)], seen := [name] } := by
  refine ⟨List.nodup_singleton _, List.Perm.refl _, List.mem_singleton_self _, fun c member => ?_, nofun⟩
  rw [List.mem_singleton.mp member]
  exact .entry

theorem Collecting.afterTurn (collecting : Collecting rules entry g r) {name rule : String}
    {rest : List (String × String)} (pending : r.pending = (name, rule) :: rest) :
    Collecting rules entry (g.insert name (.inOrder (rules.body rule).outline (some name)))
        (({ r with pending := rest } : Recorder).queueAll (rules.body rule).calls) ∧
      (g.insert name (.inOrder (rules.body rule).outline (some name))).rules.length = g.rules.length + 1 := by
  obtain ⟨nodup, split, first, waiting, recorded⟩ := collecting
  have here : rules.Reaches entry (name, rule) := waiting _ (by simp [pending])
  have new : name ∉ g.rules.map Prod.fst := by
    have apart := List.nodup_append.mp (split.nodup_iff.mp nodup)
    exact fun member => apart.2.2 name member name (by simp [pending]) rfl
  have inserted : (g.insert name (.inOrder (rules.body rule).outline (some name))).rules =
      g.rules ++ [(name, .inOrder (rules.body rule).outline (some name))] := Grammar.insertIntoFresh new
  obtain ⟨queued, among, pending', seen', nodup', told⟩ :=
    queueAllAdds (rules.body rule).calls { r with pending := rest } nodup
  have more : ∀ x ∈ r.seen, x ∈ (({ r with pending := rest } : Recorder).queueAll (rules.body rule).calls).seen :=
    fun x member => seen'.mem_iff.mpr (List.mem_append_left _ member)
  refine ⟨⟨nodup', ?_, more _ first, ?_, ?_⟩, by rw [inserted]; simp⟩
  · refine seen'.trans ((split.append_right _).trans (List.Perm.of_eq ?_))
    rw [inserted, pending', pending]
    simp
  · intro c member
    rw [pending', List.mem_append] at member
    rcases member with old | new
    · exact waiting c (by rw [pending]; exact List.mem_cons_of_mem _ old)
    · exact .call here (among c new)
  · intro e member
    rw [inserted, List.mem_append] at member
    rcases member with old | new
    · obtain ⟨rule, reaches, body, calls⟩ := recorded e old
      exact ⟨rule, reaches, body, fun c called => more _ (calls c called)⟩
    · cases List.mem_singleton.mp new
      exact ⟨rule, here, rfl, told⟩

theorem Collecting.afterNote (collecting : Collecting rules entry g r) (level : Level) (text : String) :
    Collecting rules entry g (r.note level text) :=
  ⟨collecting.nodup, collecting.split, collecting.first, collecting.waiting, collecting.recorded⟩

theorem Collecting.seenBounded (collecting : Collecting rules entry g r) : r.seen.length ≤ rules.callCount + 1 := by
  have inside : ∀ x ∈ r.seen, x ∈ rules.names entry := by
    intro x member
    rcases List.mem_append.mp (collecting.split.mem_iff.mp member) with old | waits
    · obtain ⟨e, recorded, rfl⟩ := List.mem_map.mp old
      obtain ⟨rule, reaches, _⟩ := collecting.recorded e recorded
      exact reaches.nameListed
    · obtain ⟨c, pending, rfl⟩ := List.mem_map.mp waits
      exact (collecting.waiting c pending).nameListed
  exact Nat.le_trans (List.subperm_of_subset collecting.nodup inside).length_le (rules.namesWithinCount entry)

theorem drainCollects (plain : rules.Plain) (fuel : Nat) (collecting : Collecting rules entry g r)
    (enough : rules.callCount + 1 ≤ fuel + g.rules.length) :
    ∃ r', Collecting rules entry (drain rules fuel g r).1 r' ∧ r'.pending = [] := by
  induction fuel generalizing g r with
  | zero =>
    refine ⟨r, collecting, List.eq_nil_of_length_eq_zero ?_⟩
    have few := collecting.seenBounded
    have split := collecting.split.length_eq
    simp only [List.length_append, List.length_map] at split
    omega
  | succ fuel ih =>
    unfold drain
    split
    · exact ⟨r, collecting, ‹_›⟩
    · rename_i name rule rest pending
      obtain ⟨verdict, recorded, closes⟩ := recordRule plain name rule { r with pending := rest }
      obtain ⟨collecting, longer⟩ := collecting.afterTurn pending
      simp only [recorded, closes]
      exact ih (collecting.afterNote _ _) (by omega)

theorem drainDistinct (rules : Rules) (fuel : Nat) (r : Recorder) (distinct : g.Distinct) :
    (drain rules fuel g r).1.Distinct := by
  induction fuel generalizing g r with
  | zero => exact distinct
  | succ fuel ih =>
    unfold drain
    split
    · exact distinct
    · exact ih _ (distinct.afterInsert _ _)

end Recorder

namespace Grammar

theorem collectDistinct (rules : Rules) (name entry : String) (tokens : List Definition) :
    (collect rules name entry tokens).1.Distinct :=
  Recorder.drainDistinct rules (rules.callCount + 1) { pending := [(name, entry)], seen := [name] } List.nodup_nil

section
variable {rules : Rules} (plain : rules.Plain) (name entry : String) (tokens : List Definition)
include plain

theorem collectingUntilDone :
    ∃ r, Recorder.Collecting rules (name, entry) (collect rules name entry tokens).1 r ∧ r.pending = [] :=
  Recorder.drainCollects plain (rules.callCount + 1) (Recorder.startCollecting rules name entry tokens) (Nat.le_refl _)

theorem collectRule (agree : rules.NamesAgree name entry) {c : String × String}
    (reaches : rules.Reaches (name, entry) c) :
    (collect rules name entry tokens).1.rule? c.1 = some (.inOrder (rules.body c.2).outline (some c.1)) := by
  have distinct := collectDistinct rules name entry tokens
  obtain ⟨r, collecting, drained⟩ := collectingUntilDone plain name entry tokens
  have known : ∀ c, rules.Reaches (name, entry) c → c.1 ∈ r.seen →
      (c.1, .inOrder (rules.body c.2).outline (some c.1)) ∈ (collect rules name entry tokens).1.rules ∧
        ∀ c' ∈ (rules.body c.2).calls, c'.1 ∈ r.seen := by
    intro c reaches seen
    have member := collecting.split.mem_iff.mp seen
    rw [drained, List.map_nil, List.append_nil] at member
    obtain ⟨⟨_, body⟩, member, rfl⟩ := List.mem_map.mp member
    obtain ⟨rule, reaches', same, calls⟩ := collecting.recorded _ member
    rw [agree c _ reaches.isInvoked reaches'.isInvoked rfl]
    exact ⟨same ▸ member, calls⟩
  have seen : c.1 ∈ r.seen := by
    induction reaches with
    | entry => exact collecting.first
    | call before called ih => exact (known _ before ih).2 _ called
  exact distinct.ruleFound (known c reaches seen).1

end

end Grammar

end Packrat

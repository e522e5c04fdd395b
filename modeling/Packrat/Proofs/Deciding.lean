import Packrat.Proofs.Grammar.Unfolding
import Packrat.Proofs.Session.Foretelling
import Packrat.Proofs.Session.Tracking

/-! What the first tokens decide. A body that matches has read tokens that its grammar derives, and some bodies
do not fail where only the first `k` tokens are those of one of their strings. -/
namespace Packrat

def Setup.Reads (env : Setup) : Spot → List String → Spot → Prop
  | p, [], q => q = p
  | p, name :: rest, q => ∃ broken next, env.look defaultGoal p = .token name broken next ∧ env.Reads next rest q

namespace Setup

variable {env : Setup} {p q r : Spot} {u v : List String}

theorem readsAppend : env.Reads p (u ++ v) r ↔ ∃ q, env.Reads p u q ∧ env.Reads q v r := by
  induction u generalizing p with
  | nil => simp [Reads]
  | cons name u ih =>
    simp only [List.cons_append, Reads, ih]
    constructor
    · rintro ⟨broken, next, found, q, first, later⟩
      exact ⟨q, ⟨broken, next, found, first⟩, later⟩
    · rintro ⟨q, ⟨broken, next, found, first⟩, later⟩
      exact ⟨broken, next, found, q, first, later⟩

theorem readsFront {k : Nat} {x y : Path} (reads : env.Reads p u q) (spelt : (x ++ y).take k = u.map .token) :
    x.take k = (u.take x.length).map .token ∧
      ∃ r, env.Reads p (u.take x.length) r ∧ env.Reads r (u.drop x.length) q := by
  constructor
  · rw [List.map_take, ← spelt, List.take_take, Nat.min_comm, ← List.take_take, List.take_left]
  · rw [← List.take_append_drop x.length u] at reads
    exact readsAppend.mp reads

theorem readsUnique (first : env.Reads p u q) (other : env.Reads p v r) (same : u.length = v.length) :
    u = v ∧ q = r := by
  induction u generalizing p v with
  | nil =>
    obtain rfl := List.length_eq_zero_iff.mp same.symm
    exact ⟨rfl, Eq.trans first (Eq.symm other)⟩
  | cons name u ih =>
    cases v with
    | nil => exact nomatch same
    | cons name' v =>
      obtain ⟨_, _, found, first⟩ := first
      obtain ⟨_, _, found', other⟩ := other
      cases found.symm.trans found'
      obtain ⟨rfl, rfl⟩ := ih first other (Nat.succ.inj same)
      exact ⟨rfl, rfl⟩

end Setup

namespace Path.Begins

variable {u v : List String} {p q : Path}

theorem appendedPaths (first : Path.Begins u.length u p) (later : Path.Begins v.length v q) :
    Path.Begins (u ++ v).length (u ++ v) (p ++ q) := by
  rcases first with rfl | ⟨before, rule, rest, rfl, starts⟩
  · rw [List.take_length]
    rcases later with rfl | ⟨before, rule, rest, rfl, starts⟩
    · rw [List.take_length]
      exact .inl (by rw [List.take_length, List.map_append])
    · refine .inr ⟨u ++ before, rule, rest, ?_, (List.prefix_append_right_inj u).mpr starts⟩
      rw [List.map_append, List.append_assoc]
  · exact .inr ⟨before, rule, rest ++ q, by simp, starts.trans (List.prefix_append u v)⟩

theorem tokensInFront (begins : Path.Begins u.length u p) {k : Nat} (unbroken : Path.hasRules (p.take k) = false) :
    p.take k = (u.take k).map .token := by
  rcases begins with rfl | ⟨before, rule, rest, rfl, more, rfl⟩
  · rw [List.take_length, List.map_take]
  · by_cases short : k ≤ before.length
    · rw [List.take_append_of_le_length (by simpa using short), List.take_append_of_le_length short, List.map_take]
    · obtain ⟨further, eq⟩ : ∃ n, k - before.length = n + 1 := ⟨k - before.length - 1, by omega⟩
      rw [List.take_append, List.length_map, eq, List.take_succ_cons, List.take_of_length_le (by simp; omega),
        Path.hasRulesBroken] at unbroken
      exact nomatch unbroken

end Path.Begins

namespace Grammar

variable {g : Grammar} {depth : Nat} {nodes more : List Node} {n : Node} {u : Path}

theorem unfoldsSingle : g.Unfolds depth (.inOrder [n] none) u ↔ g.Unfolds depth n u := by
  rw [unfoldsNext]
  constructor
  · rintro ⟨u, v, first, later, rfl⟩
    rw [unfoldsNothing.mp later, List.append_nil]
    exact first
  · exact fun unfolds => ⟨u, [], unfolds, .nothing, (List.append_nil u).symm⟩

theorem unfoldsAppend : g.Unfolds depth (.inOrder (nodes ++ more) none) u ↔
    Path.Then (g.Unfolds depth (.inOrder nodes none)) (g.Unfolds depth (.inOrder more none)) u := by
  induction nodes generalizing u with
  | nil =>
    constructor
    · exact fun unfolds => ⟨[], u, .nothing, unfolds, rfl⟩
    · rintro ⟨_, v, nothing, unfolds, rfl⟩
      rw [unfoldsNothing.mp nothing]
      exact unfolds
  | cons n rest ih =>
    rw [List.cons_append, unfoldsNext]
    constructor
    · rintro ⟨u, _, first, later, rfl⟩
      obtain ⟨v, w, rest, more, rfl⟩ := ih.mp later
      exact ⟨u ++ v, w, .next first rest, more, (List.append_assoc ..).symm⟩
    · rintro ⟨_, w, front, more, rfl⟩
      obtain ⟨u, v, first, rest, rfl⟩ := unfoldsNext.mp front
      exact ⟨u, v ++ w, first, ih.mpr ⟨v, w, rest, more, rfl⟩, List.append_assoc ..⟩

theorem Derives.withoutName {rule : Option String} {w : List String} (derives : g.Derives (.inOrder nodes rule) w) :
    g.Yields nodes w := by
  induction nodes generalizing w with
  | nil =>
    cases derives
    exact .nothing
  | cons n rest ih =>
    cases derives with
    | next first later => exact .next first (ih later)

theorem Unfolds.withoutName {rule : Option String} (unfolds : g.Unfolds depth (.inOrder nodes rule) u) :
    g.Unfolds depth (.inOrder nodes none) u := by
  induction nodes generalizing u with
  | nil =>
    cases unfolds
    exact .nothing
  | cons n rest ih =>
    cases unfolds with
    | next first later => exact .next first (ih later)

theorem Derives.unfoldsToBeginning {w : List String} (derives : g.Derives n w) (depth : Nat) :
    ∃ u, g.Unfolds depth n u ∧ Path.Begins w.length w u := by
  induction derives generalizing depth with
  | consume => exact ⟨_, .consume, .inl rfl⟩
  | @call rule body w known inner ih =>
    cases depth with
    | zero => exact ⟨_, .stand (.inr rfl), .inr ⟨[], rule, [], rfl, List.nil_prefix⟩⟩
    | succ depth =>
      obtain ⟨u, unfolds, begins⟩ := ih depth
      exact ⟨u, .inside known unfolds, begins⟩
  | nothing => exact ⟨_, .nothing, .inl rfl⟩
  | next first later ihFirst ihLater =>
    obtain ⟨u, unfolds, begins⟩ := ihFirst depth
    obtain ⟨v, unfolds', begins'⟩ := ihLater depth
    exact ⟨_, .next unfolds unfolds', begins.appendedPaths begins'⟩
  | branch member inner ih =>
    obtain ⟨u, unfolds, begins⟩ := ih depth
    exact ⟨u, .branch member unfolds, begins⟩
  | absent => exact ⟨_, .absent, .inl rfl⟩
  | present inner ih =>
    obtain ⟨u, unfolds, begins⟩ := ih depth
    exact ⟨u, .present unfolds, begins⟩
  | done => exact ⟨_, .done, .inl rfl⟩
  | again first later ihFirst ihLater =>
    obtain ⟨u, unfolds, begins⟩ := ihFirst depth
    obtain ⟨v, unfolds', begins'⟩ := ihLater depth
    exact ⟨_, .again unfolds unfolds', begins.appendedPaths begins'⟩
  | once first later ihFirst ihLater =>
    obtain ⟨u, unfolds, begins⟩ := ihFirst depth
    obtain ⟨v, unfolds', begins'⟩ := ihLater depth
    exact ⟨_, .once unfolds unfolds', begins.appendedPaths begins'⟩

end Grammar

structure Rules.Follows (rules : Rules) (entry : String × String) (b : Body) : Prop extends rules.Carries entry b where
  goals : b.inDefaultGoal

namespace Rules

variable {rules : Rules} {entry : String × String} {b : Body} {rest : List Body}

theorem Carries.headAndTail (carries : rules.Carries entry (.inOrder (b :: rest))) :
    rules.Carries entry b ∧ rules.Carries entry (.inOrder rest) := by
  have each := carries.insideParts
  rw [List.forall_mem_cons] at each
  exact ⟨each.1, carriesAll each.2⟩

theorem Follows.headAndTail (follows : rules.Follows entry (.inOrder (b :: rest))) :
    rules.Follows entry b ∧ rules.Follows entry (.inOrder rest) := by
  obtain ⟨carries, goals⟩ := follows
  rw [Body.inDefaultGoal, Body.inDefaultGoalAll, Bool.and_eq_true] at goals
  exact ⟨⟨carries.headAndTail.1, goals.1⟩, ⟨carries.headAndTail.2, goals.2⟩⟩

theorem followsFirstOf : rules.Follows entry (.firstOf rest) ↔ rules.Follows entry (.inOrder rest) :=
  ⟨fun h => ⟨carriesFirstOf.mp h.toCarries, h.goals⟩, fun h => ⟨carriesFirstOf.mpr h.toCarries, h.goals⟩⟩

theorem Follows.insideOptional (follows : rules.Follows entry (.optional b)) : rules.Follows entry b :=
  ⟨⟨follows.unguarded, follows.calls⟩, follows.goals⟩

theorem Follows.insideMany (follows : rules.Follows entry (.many b)) : rules.Follows entry b :=
  ⟨⟨follows.unguarded, follows.calls⟩, follows.goals⟩

theorem Follows.insideSome (follows : rules.Follows entry (.some b)) :
    rules.Follows entry b ∧ rules.Follows entry (.many b) :=
  ⟨⟨⟨follows.unguarded, follows.calls⟩, follows.goals⟩, ⟨⟨follows.unguarded, follows.calls⟩, follows.goals⟩⟩

theorem Follows.insideParts (follows : rules.Follows entry (.inOrder rest)) : ∀ b ∈ rest, rules.Follows entry b := by
  induction rest with
  | nil => exact fun _ member => nomatch member
  | cons b rest ih => exact List.forall_mem_cons.mpr ⟨follows.headAndTail.1, ih follows.headAndTail.2⟩

theorem Unguarded.bodyFollows (unguarded : rules.Unguarded entry) (goals : ∀ e ∈ rules, e.2.inDefaultGoal)
    {c : String × String} (reaches : rules.Reaches entry c) : rules.Follows entry (rules.body c.2) :=
  ⟨unguarded.bodyCarries reaches, Rules.bodyFrom (motive := fun b => b.inDefaultGoal) rfl goals c.2⟩

end Rules

namespace Body

variable {env : Setup} {g : Grammar} {rules : Rules} {entry : String × String} {b : Body} {p q : Spot} {o : Option Spot}
  {w : List String}

section
variable (describes : g.Describes rules entry) (unguarded : rules.Unguarded entry)
include describes unguarded

theorem Ends.readsWhatIsYielded (goals : ∀ e ∈ rules, e.2.inDefaultGoal) (ends : b.Ends env rules p o)
    (follows : rules.Follows entry b) : ∀ q ∈ o, ∃ w, g.Yields b.outline w ∧ env.Reads p w q := by
  induction ends with
  | @taken token goal broken p q found =>
    rintro _ ⟨⟩
    obtain rfl : goal = defaultGoal := beq_iff_eq.mp follows.goals
    exact ⟨[token], Grammar.yieldsSingle.mpr .consume, broken, q, found, rfl⟩
  | nothing =>
    rintro _ ⟨⟩
    exact ⟨[], Grammar.yieldsNil.mpr rfl, rfl⟩
  | next first later ihFirst ihLater =>
    intro q matched
    obtain ⟨head, rest⟩ := follows.headAndTail
    obtain ⟨u, yields, reads⟩ := ihFirst head _ rfl
    obtain ⟨v, yields', reads'⟩ := ihLater rest q matched
    exact ⟨u ++ v, Grammar.yieldsAppend.mpr ⟨u, v, rfl, yields, yields'⟩, Setup.readsAppend.mpr ⟨_, reads, reads'⟩⟩
  | @call name rule p r body ih =>
    intro q matched
    have reaches := follows.calls (name, rule) List.mem_cons_self
    obtain ⟨w, yields, reads⟩ := ih (unguarded.bodyFollows goals reaches) q matched
    exact ⟨w, Grammar.yieldsSingle.mpr (describes.derivesCall reaches yields), reads⟩
  | branch first ih =>
    intro q matched
    obtain ⟨w, yields, reads⟩ := ih (Rules.followsFirstOf.mp follows).headAndTail.1 q matched
    exact ⟨w, Grammar.yieldsSingle.mpr (.branch List.mem_cons_self yields), reads⟩
  | other first later ihFirst ihLater =>
    intro q matched
    obtain ⟨w, yields, reads⟩ := ihLater (Rules.followsFirstOf.mpr (Rules.followsFirstOf.mp follows).headAndTail.2) q
      matched
    cases Grammar.yieldsSingle.mp yields with
    | branch member inner => exact ⟨w, Grammar.yieldsSingle.mpr (.branch (List.mem_cons_of_mem _ member) inner), reads⟩
  | present body ih =>
    intro q matched
    obtain ⟨w, yields, reads⟩ := ih follows.insideOptional q matched
    exact ⟨w, Grammar.yieldsSingle.mpr (.present yields), reads⟩
  | absent body ih =>
    rintro _ ⟨⟩
    exact ⟨[], Grammar.yieldsSingle.mpr .absent, rfl⟩
  | done body ih =>
    rintro _ ⟨⟩
    exact ⟨[], Grammar.yieldsSingle.mpr .done, rfl⟩
  | again body later ihBody ihLater =>
    intro q matched
    obtain ⟨u, yields, reads⟩ := ihBody follows.insideMany _ rfl
    obtain ⟨v, yields', reads'⟩ := ihLater follows q matched
    exact ⟨u ++ v, Grammar.yieldsSingle.mpr (.again yields (Grammar.yieldsSingle.mp yields')),
      Setup.readsAppend.mpr ⟨_, reads, reads'⟩⟩
  | once first later ihFirst ihLater =>
    intro q matched
    obtain ⟨u, yields, reads⟩ := ihFirst follows.insideSome.1 _ rfl
    obtain ⟨v, yields', reads'⟩ := ihLater follows.insideSome.2 q matched
    exact ⟨u ++ v, Grammar.yieldsSingle.mpr (.once yields (Grammar.yieldsSingle.mp yields')),
      Setup.readsAppend.mpr ⟨_, reads, reads'⟩⟩
  | _ => exact fun _ never => nomatch never

theorem Ends.failsUnlessNullable (distinct : g.Distinct) (ends : b.Ends env rules p o) (carries : rules.Carries entry b)
    (failed : o = .none) : ¬ Node.allNullable g.nullable.contains b.outline := by
  induction ends with
  | refused others => simp [outline, Node.allNullable, Node.isNullable]
  | next first later ihFirst ihLater =>
    intro vanishes
    have each := Session.allNullableOutlineAll.mp vanishes
    rw [List.forall_mem_cons] at each
    exact ihLater carries.headAndTail.2 failed (Session.allNullableOutlineAll.mpr each.2)
  | stuck first ih =>
    intro vanishes
    exact ih carries.headAndTail.1 rfl (Session.allNullableOutlineAll.mp vanishes _ List.mem_cons_self)
  | @call name rule _ _ body ih =>
    intro vanishes
    have reaches := carries.calls (name, rule) List.mem_cons_self
    refine ih (unguarded.bodyCarries reaches) failed (Session.vanishingBody describes distinct reaches ?_)
    simpa [outline, Node.allNullable, Node.isNullable] using vanishes
  | exhausted => simp [outline, outlineEach, Node.allNullable, Node.isNullable, Node.anyNullable]
  | other first later ihFirst ihLater =>
    obtain ⟨head, tail⟩ := (Rules.carriesFirstOf.mp carries).headAndTail
    have here := ihFirst head rfl
    have there := ihLater (Rules.carriesFirstOf.mpr tail) failed
    simpa [outline, outlineEach, Node.allNullable, Node.isNullable, Node.anyNullable, here] using there
  | again body later ihBody ihLater => exact ihLater carries failed
  | @once b _ _ _ first later ihFirst ihLater =>
    exact absurd rfl (ihLater ⟨carries.unguarded, carries.calls⟩ failed)
  | @missing b _ first ih =>
    simpa [outline, Node.allNullable, Node.isNullable] using ih ⟨carries.unguarded, carries.calls⟩ rfl
  | _ => cases failed

end

inductive Spans (rules : Rules) : Body → Nat → Prop where
  | consume {token goal} : Spans rules (.consume token goal) 1
  | nothing : Spans rules (.inOrder []) 0
  | next {b rest m n} (first : Spans rules b m) (later : Spans rules (.inOrder rest) n) :
      Spans rules (.inOrder (b :: rest)) (m + n)
  | call {name rule n} (body : Spans rules (rules.body rule) n) : Spans rules (.call name rule) n
  | firstOf {branches n} (each : ∀ b ∈ branches, Spans rules b n) : Spans rules (.firstOf branches) n

/-- The first `k` tokens tell that a body does not fail: those with which one of its strings begins, as far as
`k` symbols go. What is behind a part has to be decided by the tokens that the part leaves, and then all that the
part matches must have the same number of them, or it must not fail at all. -/
inductive Decided (g : Grammar) (rules : Rules) : Nat → Body → Prop where
  | vanishes {k b} (empty : Node.allNullable g.nullable.contains b.outline) : Decided g rules k b
  | consume {k token goal} (positive : 0 < k) : Decided g rules k (.consume token goal)
  | call {k name rule} (body : Decided g rules k (rules.body rule)) : Decided g rules k (.call name rule)
  | firstOf {k branches} (each : ∀ b ∈ branches, Decided g rules k b) : Decided g rules k (.firstOf branches)
  | some {k b} (body : Decided g rules k b) : Decided g rules k (.some b)
  | next {k m b rest} (first : Decided g rules k b) (spans : b.Spans rules m) (short : m ≤ k)
      (later : Decided g rules (k - m) (.inOrder rest)) : Decided g rules k (.inOrder (b :: rest))
  | front {k b rest} (first : Decided g rules k b) (empty : Node.allNullable g.nullable.contains (outlineAll rest)) :
      Decided g rules k (.inOrder (b :: rest))

section
variable (describes : g.Describes rules entry)
include describes

theorem Spans.yieldLength {n : Nat} (spans : b.Spans rules n) (calls : ∀ c ∈ b.calls, rules.Reaches entry c)
    (yields : g.Yields b.outline w) : w.length = n := by
  induction spans generalizing w with
  | consume =>
    cases Grammar.yieldsSingle.mp yields
    rfl
  | nothing =>
    rw [Grammar.yieldsNil.mp yields]
    rfl
  | next first later ihFirst ihLater =>
    obtain ⟨u, v, rfl, head, tail⟩ := Grammar.yieldsAppend.mp yields
    obtain ⟨front, behind⟩ := List.forall_mem_append.mp calls
    rw [List.length_append, ihFirst front head, ihLater behind tail]
  | @call name rule _ body ih =>
    have reaches := calls (name, rule) List.mem_cons_self
    cases Grammar.yieldsSingle.mp yields with
    | call known inner =>
      cases (describes.recorded _ reaches).symm.trans known
      exact ih (fun c called => .call reaches called) inner.withoutName
  | firstOf each ih =>
    cases Grammar.yieldsSingle.mp yields with
    | branch member inner =>
      obtain ⟨b, inside, rfl⟩ := memOutlineEach.mp member
      exact ih b inside (fun c called => calls c (memCallsAll.mpr ⟨b, inside, called⟩)) inner

theorem Spans.leadingTokensFit {n depth : Nat} {u rest : Path} (spans : b.Spans rules n)
    (calls : ∀ c ∈ b.calls, rules.Reaches entry c) (unfolds : g.Unfolds depth (.inOrder b.outline none) u)
    (spelt : u = w.map .token ++ rest) : w.length ≤ n := by
  induction spans generalizing depth u w rest with
  | consume =>
    have length := congrArg List.length spelt
    rw [Grammar.unfoldsConsume.mp (Grammar.unfoldsSingle.mp unfolds), List.length_append, List.length_map,
      List.length_singleton] at length
    exact Nat.le.intro length.symm
  | nothing =>
    rw [Grammar.unfoldsNothing.mp unfolds] at spelt
    rw [List.map_eq_nil_iff.mp (List.append_eq_nil_iff.mp spelt.symm).1]
    exact Nat.le_refl 0
  | next first later ihFirst ihLater =>
    obtain ⟨front, behind⟩ := List.forall_mem_append.mp calls
    obtain ⟨p, q, head, tail, rfl⟩ := Grammar.unfoldsAppend.mp unfolds
    rcases List.append_eq_append_iff.mp spelt with ⟨more, tokens, rfl⟩ | ⟨more, rfl, _⟩
    · obtain ⟨u, v, rfl, rfl, rfl⟩ := List.map_eq_append_iff.mp tokens
      rw [List.length_append]
      exact Nat.add_le_add (ihFirst front head (List.append_nil _).symm) (ihLater behind tail rfl)
    · exact Nat.le_trans (ihFirst front head rfl) (Nat.le_add_right _ _)
  | @call name rule _ body ih =>
    have reaches := calls (name, rule) List.mem_cons_self
    cases w with
    | nil => exact Nat.zero_le _
    | cons token w =>
      cases Grammar.unfoldsSingle.mp unfolds with
      | inside known inner =>
        cases (describes.recorded _ reaches).symm.trans known
        exact ih (fun c called => .call reaches called) inner.withoutName spelt
      | stand _ => exact nomatch (List.cons.inj spelt).1
      | vanish _ _ => exact nomatch spelt
  | firstOf each ih =>
    obtain ⟨_, member, inner⟩ := Grammar.unfoldsFirstOf.mp (Grammar.unfoldsSingle.mp unfolds)
    obtain ⟨b, inside, rfl⟩ := memOutlineEach.mp member
    exact ih b inside (fun c called => calls c (memCallsAll.mpr ⟨b, inside, called⟩)) inner spelt

variable (unguarded : rules.Unguarded entry) (goals : ∀ e ∈ rules, e.2.inDefaultGoal)
include unguarded goals

theorem Spans.tokensBehindAreRead {k m depth : Nat} {x y : Path} {r : Spot} (spans : b.Spans rules m) (short : m ≤ k)
    (follows : rules.Follows entry b) (unfolds : g.Unfolds depth (.inOrder b.outline none) x)
    (spelt : (x ++ y).take k = w.map .token) (reads : env.Reads p w q) (matched : b.Ends env rules p (.some r)) :
    ∃ v q', y.take (k - m) = v.map .token ∧ env.Reads r v q' := by
  obtain ⟨front, stop, readsFirst, readsLater⟩ := Setup.readsFront reads spelt
  by_cases fits : x.length ≤ k
  · have whole : x = (w.take x.length).map .token := (List.take_of_length_le fits).symm.trans front
    have length : (w.take x.length).length = m :=
      spans.yieldLength describes follows.calls (unfolds.derivesSpelling whole)
    have same : x.length = m := by rw [← length, ← List.length_map (f := Symbol.token), ← whole]
    obtain ⟨w', yields, reads'⟩ := matched.readsWhatIsYielded describes unguarded goals follows r rfl
    obtain ⟨_, rfl⟩ :=
      Setup.readsUnique reads' readsFirst ((spans.yieldLength describes follows.calls yields).trans length.symm)
    have left := congrArg (List.drop x.length) spelt
    rw [List.drop_take, List.drop_left, ← List.map_drop, same] at left
    exact ⟨_, q, left, same ▸ readsLater⟩
  · -- the tokens that tell are all in front, so none is left
    have all : x.take k = w.map .token := (List.take_append_of_le_length (by omega)).symm.trans spelt
    have length : w.length = k := by
      rw [← List.length_map (f := Symbol.token), ← all, List.length_take]
      omega
    have split : x = w.map .token ++ x.drop k := by rw [← all, List.take_append_drop]
    have least := spans.leadingTokensFit describes follows.calls unfolds split
    obtain rfl : m = k := by omega
    exact ⟨[], r, by rw [Nat.sub_self]; rfl, rfl⟩

variable (distinct : g.Distinct) (branched : g.Branched)
include distinct branched

theorem Decided.doesNotFail {k depth : Nat} {u : Path} (decided : b.Decided g rules k) (follows : rules.Follows entry b)
    (unfolds : g.Unfolds depth (.inOrder b.outline none) u) (spelt : u.take k = w.map .token)
    (reads : env.Reads p w q) : ¬ b.Ends env rules p .none := by
  induction decided generalizing depth u w p q with
  | vanishes empty =>
    exact fun ends => ends.failsUnlessNullable describes unguarded distinct follows.toCarries rfl empty
  | @consume k token goal positive =>
    intro ends
    obtain rfl : goal = defaultGoal := beq_iff_eq.mp follows.goals
    rw [Grammar.unfoldsConsume.mp (Grammar.unfoldsSingle.mp unfolds), List.take_of_length_le positive] at spelt
    obtain ⟨_, rfl, same⟩ := List.map_eq_singleton_iff.mp spelt.symm
    cases same
    obtain ⟨broken, next, found, _⟩ := reads
    cases ends with
    | refused others => exact others broken next found
  | @call k name rule body ih =>
    intro ends
    have reaches := follows.calls (name, rule) List.mem_cons_self
    have known := describes.recorded _ reaches
    cases ends with
    | call ends =>
      cases Grammar.unfoldsSingle.mp unfolds with
      | inside known' inner =>
        cases known.symm.trans known'
        exact ih (unguarded.bodyFollows goals reaches) inner.withoutName spelt reads ends
      | stand _ =>
        cases k with
        | zero =>
          obtain ⟨u, inside⟩ := Grammar.unfoldsCall branched 1 name
          have inner := (Grammar.unfoldsKnown known).mp inside
          exact ih (unguarded.bodyFollows goals reaches) inner.withoutName (w := []) rfl rfl ends
        | succ k =>
          rw [List.take_succ_cons, List.take_nil] at spelt
          obtain ⟨_, _, same⟩ := List.map_eq_singleton_iff.mp spelt.symm
          exact nomatch same
      | vanish _ empty =>
        have vanishes := Session.vanishingBody describes distinct reaches ((Grammar.memNullable distinct).mpr empty)
        exact ends.failsUnlessNullable describes unguarded distinct (unguarded.bodyCarries reaches) rfl vanishes
  | firstOf each ih =>
    intro ends
    obtain ⟨_, member, inner⟩ := Grammar.unfoldsFirstOf.mp (Grammar.unfoldsSingle.mp unfolds)
    obtain ⟨b, inside, rfl⟩ := memOutlineEach.mp member
    exact ih b inside ((Rules.followsFirstOf.mp follows).insideParts b inside) inner spelt reads
      (ends.eachBranchFails b inside)
  | some body ih =>
    intro ends
    cases Grammar.unfoldsSingle.mp unfolds with
    | once first later =>
      obtain ⟨spelt, _, reads, _⟩ := Setup.readsFront reads spelt
      cases ends with
      | missing failed => exact ih follows.insideSome.1 first spelt reads failed
      | once _ ends =>
        exact ends.failsUnlessNullable describes unguarded distinct follows.insideSome.2.toCarries rfl rfl
  | next first spans short later ihFirst ihLater =>
    intro ends
    obtain ⟨head, tail⟩ := follows.headAndTail
    obtain ⟨x, y, inFirst, inLater, rfl⟩ := Grammar.unfoldsAppend.mp unfolds
    cases ends with
    | stuck failed =>
      obtain ⟨front, _, reads, _⟩ := Setup.readsFront reads spelt
      exact ihFirst head inFirst front reads failed
    | next matched failed =>
      obtain ⟨v, _, left, onward⟩ := spans.tokensBehindAreRead describes unguarded goals short head inFirst spelt
        reads matched
      exact ihLater tail inLater left onward failed
  | front first empty ih =>
    intro ends
    obtain ⟨head, tail⟩ := follows.headAndTail
    obtain ⟨x, y, inFirst, inLater, rfl⟩ := Grammar.unfoldsAppend.mp unfolds
    obtain ⟨front, _, reads, _⟩ := Setup.readsFront reads spelt
    cases ends with
    | stuck failed => exact ih head inFirst front reads failed
    | next _ failed => exact failed.failsUnlessNullable describes unguarded distinct tail.toCarries rfl empty

end

end Body
end Packrat

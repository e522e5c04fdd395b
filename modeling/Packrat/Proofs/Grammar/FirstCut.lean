import Packrat.Proofs.Grammar.Cycles

/-! Where a depth-first search is first cut off. Until then it follows the rules at first position one by one,
so the place of the first cut can be told from the grammar alone. -/
namespace Packrat

/- Follows rules at first position, with the rules above them on a stack, and tells which of them is
the first to be met again. -/
inductive Grammar.Meets (g : Grammar) : List String → List String → Option String → Prop where
  | done {stack} : Meets g stack [] none
  | again {stack rule rest} (known : rule ∈ stack) : Meets g stack (rule :: rest) (some rule)
  | inside {stack rule rest met} (fresh : rule ∉ stack) (inner : Meets g (stack ++ [rule]) (g.starts rule) (some met)) :
      Meets g stack (rule :: rest) (some met)
  | past {stack rule rest met} (fresh : rule ∉ stack) (inner : Meets g (stack ++ [rule]) (g.starts rule) none)
      (later : Meets g stack rest met) : Meets g stack (rule :: rest) met

namespace Grammar.Meets

variable {g : Grammar} {stack todo rest : List String} {met met' : Option String} {rule : String}

theorem atMostOne (meets : g.Meets stack todo met) (meets' : g.Meets stack todo met') : met = met' := by
  induction meets generalizing met' with
  | done =>
    cases meets'
    rfl
  | again known =>
    cases meets' with
    | again => rfl
    | inside fresh => exact absurd known fresh
    | past fresh => exact absurd known fresh
  | inside fresh inner ih =>
    cases meets' with
    | again known => exact absurd known fresh
    | inside fresh inner' => exact ih inner'
    | past fresh inner' => exact nomatch ih inner'
  | past fresh inner later ih ihLater =>
    cases meets' with
    | again known => exact absurd known fresh
    | inside fresh inner' => exact nomatch ih inner'
    | past fresh inner' later' => exact ihLater later'

theorem thenRest (meets : g.Meets stack todo none) (later : g.Meets stack rest met) :
    g.Meets stack (todo ++ rest) met := by
  generalize eq : (none : Option String) = met' at meets
  induction meets with
  | done => exact later
  | again => exact nomatch eq
  | inside => exact nomatch eq
  | past fresh inner _ _ ih => exact .past fresh inner (ih later eq)

theorem beforeRest (meets : g.Meets stack todo (some rule)) : g.Meets stack (todo ++ rest) (some rule) := by
  generalize eq : some rule = met' at meets
  induction meets with
  | done => exact nomatch eq
  | again known =>
    cases eq
    exact .again known
  | inside fresh inner _ =>
    cases eq
    exact .inside fresh inner
  | past fresh inner _ _ ih => exact .past fresh inner (ih eq)

theorem walksAvoidStack (meets : g.Meets stack todo none) {name other : String} (member : name ∈ todo) {n : Nat}
    (walk : g.Walk n name other) : other ∉ stack := by
  generalize eq : (none : Option String) = met' at meets
  induction meets generalizing name other n with
  | done => exact nomatch member
  | again => exact nomatch eq
  | inside => exact nomatch eq
  | @past stack rule rest _ fresh inner later ih ihLater =>
    rcases List.mem_cons.mp member with rfl | member
    · cases n with
      | zero =>
        cases walk
        exact fresh
      | succ n =>
        obtain ⟨next, leads, walk⟩ := walk
        exact fun onStack => ih leads walk rfl (List.mem_append_left _ onStack)
    · exact ihLater member walk eq

theorem noWalkToItself (meets : g.Meets [] [rule] none) (n : Nat) : ¬ g.Walk (n + 1) rule rule := by
  rintro ⟨next, leads, walk⟩
  cases meets with
  | past _ inner _ => exact inner.walksAvoidStack leads walk (by simp)

theorem aboveBottom (meets : g.Meets stack todo met) {bottom : List String}
    (apart : ∀ name ∈ todo, ∀ n other, g.Walk n name other → other ∉ bottom) :
    g.Meets (bottom ++ stack) todo met := by
  induction meets with
  | done => exact .done
  | again known => exact .again (List.mem_append_right _ known)
  | @inside stack rule rest _ fresh inner ih =>
    rw [List.forall_mem_cons] at apart
    refine .inside (by simpa [fresh] using apart.1 0 rule rfl) ?_
    rw [List.append_assoc]
    exact ih fun name leads n other walk => apart.1 (n + 1) other ⟨name, leads, walk⟩
  | @past stack rule rest _ fresh inner later ih ihLater =>
    rw [List.forall_mem_cons] at apart
    refine .past (by simpa [fresh] using apart.1 0 rule rfl) ?_ (ihLater apart.2)
    rw [List.append_assoc]
    exact ih fun name leads n other walk => apart.1 (n + 1) other ⟨name, leads, walk⟩

theorem withoutBottom {bottom : List String} (meets : g.Meets (bottom ++ stack) todo met)
    (here : ∀ rule, met = some rule → rule ∈ stack) : g.Meets stack todo met := by
  generalize eq : bottom ++ stack = whole at meets
  induction meets generalizing stack with
  | done => exact .done
  | again known => exact .again (here _ rfl)
  | inside fresh inner ih =>
    subst eq
    refine .inside (fun member => fresh (List.mem_append_right _ member)) (ih ?_ ?_)
    · exact fun rule met => List.mem_append_left _ (here rule met)
    · exact (List.append_assoc ..).symm
  | @past whole name _ _ fresh _ _ ih ihLater =>
    subst eq
    refine .past (fun member => fresh (List.mem_append_right _ member)) ?_ (ihLater here rfl)
    exact ih (fun _ none => nomatch none) (List.append_assoc ..).symm

theorem onStackOrOwnCycle (meets : g.Meets stack todo (some rule)) : rule ∈ stack ∨ g.Meets [] [rule] (some rule) := by
  generalize eq : some rule = met' at meets
  induction meets with
  | done => exact nomatch eq
  | again known =>
    cases eq
    exact .inl known
  | @inside stack name rest _ fresh inner ih =>
    cases eq
    rcases ih rfl with known | found
    · rcases List.mem_append.mp known with onStack | here
      · exact .inl onStack
      · rw [← List.mem_singleton.mp here] at inner fresh
        refine .inr (.inside (List.not_mem_nil) (withoutBottom inner ?_))
        rintro _ ⟨⟩
        exact List.mem_singleton_self _
    · exact .inr found
  | past fresh inner later _ ih => exact ih eq

end Grammar.Meets

namespace Analyzer

variable {a : Analyzer} {budget : Nat} {piece : Piece} {k : Nat} {leading : Bool} {d e : Desk} {paths : PathSet}

theorem Expands.keptKeysBounded (expands : a.Expands budget piece k leading d paths e) {key : DepthKey}
    (kept : e.Keeps key) :
    d.Keeps key ∨ key.k ≤ k := by
  induction expands with
  | opened fresh known miss inner ih =>
    rcases (Desk.closedKeeps key).mp kept with ⟨_, rfl⟩ | kept
    · exact .inr (Nat.le_refl _)
    · exact ih kept
  | call inner ih => exact ih kept
  | inOrder inner ih => exact ih kept
  | firstOf inner ih => exact ih kept
  | optional inner ih => exact ih kept
  | many inner ih => exact ih kept
  | some inner ih => exact ih kept
  | part short first later ihFirst ihLater =>
    rcases ihLater kept with kept | less
    · exact (ihFirst kept).imp id fun less => Nat.le_trans less (Nat.sub_le _ _)
    · exact .inr less
  | branch first later ihFirst ihLater => exact (ihLater kept).elim ihFirst .inr
  | _ => exact .inl kept

def Settles (a : Analyzer) (k : Nat) (d : Desk) : Prop :=
  ∀ key, d.Keeps key → key.k = k → a.grammar.Meets [] [key.rule] none

structure Poised (a : Analyzer) (limit k budget : Nat) (next : List String) (d : Desk) : Prop where
  faithful : d.Faithful a
  settles : a.Settles k d
  linked : d.Linked a.grammar true next
  known : ∀ r ∈ d.stack, ∃ body, a.grammar.rule? r = Option.some body
  nodup : d.stack.Nodup
  room : d.stack.length + budget = limit

section
variable {limit : Nat} {next : List String} {rule : String} {body : Node}

theorem Poised.afterReturn {next' : List String} (poised : a.Poised limit k budget next d) (faithful : e.Faithful a)
    (settles : a.Settles k e) (stack : e.stack = d.stack) (linked : e.Linked a.grammar true next') :
    a.Poised limit k budget next' e where
  faithful := faithful
  settles := settles
  linked := linked
  known := stack ▸ poised.known
  nodup := stack ▸ poised.nodup
  room := stack ▸ poised.room

theorem Poised.whenOpened (poised : a.Poised limit k (budget + 1) [rule] d) (fresh : rule ∉ d.stack)
    (known : a.grammar.rule? rule = Option.some body) :
    a.Poised limit k budget (body.leading a.grammar.nullable.contains) (d.opened rule true) where
  faithful := poised.faithful
  settles := poised.settles
  linked := poised.linked.whenOpened known
  known r inside := by
    rcases List.mem_append.mp inside with below | top
    · exact poised.known r below
    · rw [List.mem_singleton.mp top]
      exact ⟨body, known⟩
  nodup := List.Nodup.append poised.nodup (List.nodup_singleton _) (by simpa using fresh)
  room := by
    have := poised.room
    simp only [Desk.opened, if_true, List.length_append, List.length_singleton]
    omega

theorem Poised.roomLeft (poised : a.Poised limit k budget next d) (enough : a.grammar.rules.length ≤ limit)
    (fresh : rule ∉ d.stack) (known : a.grammar.rule? rule = Option.some body) : 0 < budget := by
  have inside : ∀ r ∈ rule :: d.stack, r ∈ a.grammar.rules.map Prod.fst := by
    intro r member
    obtain ⟨body, known⟩ : ∃ body, a.grammar.rule? r = Option.some body := by
      rcases List.mem_cons.mp member with rfl | below
      · exact ⟨body, known⟩
      · exact poised.known r below
    exact List.mem_map_of_mem (Grammar.ruleListed known)
  have few := (List.subperm_of_subset (List.nodup_cons.mpr ⟨fresh, poised.nodup⟩) inside).length_le
  have room := poised.room
  simp only [List.length_cons, List.length_map] at few
  omega

theorem Poised.meetsKept (poised : a.Poised limit k budget [rule] d) (meets : a.grammar.Meets [] [rule] none) :
    a.grammar.Meets d.stack [rule] none := by
  have widened : a.grammar.Meets (d.stack ++ []) [rule] none := meets.aboveBottom fun name here n other walk below => by
    rw [List.mem_singleton.mp here] at walk
    obtain ⟨m, back⟩ := poised.linked.walkFromBelow below
    exact meets.noWalkToItself (n + m) (walk.trans back)
  rwa [List.append_nil] at widened

end

structure Told (d e : Desk) (met : Option String) (vanishes : Prop) (paths : PathSet) : Prop where
  whole : met = none → vanishes → [] ∈ paths
  cut : ∀ rule, met = Option.some rule → d.cuts < e.cuts ∧ ∃ c ∈ e.cycles, c.head = rule

theorem toldNothing {vanishes : Prop} (whole : vanishes → [] ∈ paths) : Told d e none vanishes paths :=
  ⟨fun _ => whole, nofun⟩

theorem Told.ofBothHalves {f : Desk} {limit : Nat} {met met' : Option String} {vanishes vanishes' : Prop}
    {tail : PathSet}
    {todo rest rest' : List String} (told : Told d e met vanishes tail) (told' : Told e f met' vanishes' paths)
    (finds : d.Finds a.grammar limit e) (finds' : e.Finds a.grammar limit f)
    (meets : a.grammar.Meets d.stack todo met) (meets' : a.grammar.Meets e.stack rest met')
    (same : met = none → rest' = rest) {all : Prop} (whole : met = none → all → vanishes') :
    ∃ met, a.grammar.Meets d.stack (todo ++ rest') met ∧ Told d f met all paths := by
  cases met with
  | none =>
    rw [same rfl]
    refine ⟨met', meets.thenRest (finds.stack ▸ meets'), fun none vanishes => told'.whole none (whole rfl vanishes),
      fun rule met => ?_⟩
    obtain ⟨more, found⟩ := told'.cut rule met
    exact ⟨Nat.lt_of_le_of_lt finds.more more, found⟩
  | some rule =>
    refine ⟨Option.some rule, meets.beforeRest, nofun, fun rule met => ?_⟩
    obtain ⟨more, c, member, head⟩ := told.cut rule met
    exact ⟨Nat.lt_of_lt_of_le more finds'.more, c, finds'.kept c member, head⟩

theorem Settles.afterShorter {shorter : Nat} (settles : a.Settles k d) (less : shorter < k)
    (expands : a.Expands budget piece shorter leading d paths e) : a.Settles k e := by
  rintro key kept rfl
  rcases expands.keptKeysBounded kept with kept | short
  · exact settles key kept rfl
  · exact absurd less (Nat.not_lt.mpr short)

theorem cutOffHead {rule : String} (again : rule ∈ d.stack) : ∃ c ∈ (d.cutOff rule).cycles, c.head = rule := by
  obtain ⟨before, rest, _, found⟩ := Desk.dropWhileFirst again
  exact ⟨_, Desk.memCutOff.mpr (.inr rfl), by simp [Cycle.head, found]⟩

theorem Settles.afterClosing {rule : String} {key : DepthKey} (settles : a.Settles k e)
    (own : e.cuts = d.cuts → a.grammar.Meets (d.stack ++ [rule]) (a.grammar.starts rule) none)
    (same : key.rule = rule) : a.Settles k (d.closed key true paths e) := by
  intro other kept length
  rcases (Desk.closedKeeps other).mp kept with ⟨uncut, rfl⟩ | kept
  · rw [same]
    exact .past List.not_mem_nil ((own uncut).withoutBottom (fun _ none => nomatch none)) .done
  · exact settles other kept length

theorem Expands.tellsFirstMet (exact : a.nullable = a.grammar.nullable) (distinct : a.grammar.Distinct) {limit : Nat}
    (enough : a.grammar.rules.length ≤ limit) (expands : a.Expands budget piece k leading d paths e)
    (positive : 0 < k) (leads : leading = true)
    (poised : a.Poised limit k budget (piece.leading a.grammar.nullable.contains) d) :
    a.Settles k e ∧ ∃ met, a.grammar.Meets d.stack (piece.leading a.grammar.nullable.contains) met ∧
      Told d e met (piece.Vanishes a.grammar.nullable.contains) paths := by
  induction expands with
  | @cut budget rule k d again =>
    refine ⟨poised.settles, Option.some rule, .again again, by simp, fun met eq => ?_⟩
    cases eq
    exact ⟨Nat.lt_succ_self _, cutOffHead again⟩
  | @stand budget rule k leading d fresh shut =>
    have unknown : a.grammar.rule? rule = none := by
      rcases shut with unknown | rfl
      · exact unknown
      · by_contra defined
        obtain ⟨body, known⟩ := Option.ne_none_iff_exists'.mp defined
        exact absurd (poised.roomLeft enough (fresh leads) known) (Nat.lt_irrefl 0)
    have inner : a.grammar.Meets (d.stack ++ [rule]) (a.grammar.starts rule) none := by
      simp only [Grammar.starts, unknown]
      exact .done
    refine ⟨poised.settles, none, .past (fresh leads) inner .done, toldNothing fun vanishes => ?_⟩
    rw [nilMemPlaceholder, exact]
    simpa [Piece.Vanishes] using vanishes
  | @hit budget rule k leading d body paths fresh known found =>
    have meets := poised.settles ⟨rule, k, budget + 1⟩ ⟨_, found⟩ rfl
    refine ⟨poised.settles, none, poised.meetsKept meets, toldNothing fun vanishes => ?_⟩
    rw [(poised.faithful _ _ found).1, Whole.nilMemOfRule exact distinct _ _ positive]
    simpa [Piece.Vanishes] using vanishes
  | @opened budget rule k leading d body paths e fresh known miss inner ih =>
    subst leads
    obtain ⟨settles, met, meets, told⟩ := ih positive rfl (poised.whenOpened (fresh rfl) known)
    have meets : a.grammar.Meets (d.stack ++ [rule]) (a.grammar.starts rule) met := Grammar.startsOfBody known ▸ meets
    refine ⟨settles.afterClosing (fun uncut => ?_) rfl, met, ?_, fun none vanishes => told.whole none ?_, told.cut⟩
    · cases met with
      | none => exact meets
      | some rule => exact absurd (told.cut rule rfl).1 (Nat.not_lt.mpr (Nat.le_of_eq uncut))
    · cases met with
      | none => exact .past (fresh rfl) meets .done
      | some rule => exact .inside (fresh rfl) meets
    · obtain ⟨body', known', vanishes⟩ := Grammar.nullableBody distinct (by simpa [Piece.Vanishes] using vanishes)
      cases known.symm.trans known'
      exact vanishes
  | consume =>
    exact ⟨poised.settles, none, .done, toldNothing fun never => by simp [Piece.Vanishes, Node.isNullable] at never⟩
  | call inner ih => exact ih positive leads poised
  | inOrder inner ih =>
    simpa [Piece.leading, Piece.Vanishes, Node.leading, Node.isNullable] using ih positive leads
      (poised.afterReturn poised.faithful poised.settles rfl poised.linked.partsOf)
  | firstOf inner ih =>
    simpa [Piece.leading, Piece.Vanishes, Node.leading, Node.isNullable] using ih positive leads poised
  | optional inner ih =>
    obtain ⟨settles, met, meets, told⟩ := ih positive leads poised
    exact ⟨settles, met, meets, fun _ _ => PathSet.memInsert.mpr (.inl rfl), told.cut⟩
  | many inner ih =>
    obtain ⟨settles, met, meets, told⟩ := ih positive leads poised
    exact ⟨settles, met, meets, fun _ _ => PathSet.memInsert.mpr (.inl rfl), told.cut⟩
  | some inner ih =>
    obtain ⟨settles, met, meets, told⟩ := ih positive leads poised
    exact ⟨settles, met, meets, fun none vanishes => (PathSet.nilMemClose positive _).mpr (told.whole none vanishes),
      told.cut⟩
  | noParts =>
    refine ⟨poised.settles, none, ?_, toldNothing fun vanishes => vanishes.1⟩
    simp only [Piece.leading, Node.leadingParts, ite_self]
    exact .done
  | full long =>
    have full := emptyAbsentWhenLong positive long
    refine ⟨poised.settles, none, ?_, toldNothing fun vanishes => absurd vanishes.1 full⟩
    simp only [Piece.leading, if_neg full]
    exact .done
  | @part budget n rest k leading d acc shortest tail e paths f short first later ihFirst ihLater =>
    subst leads
    have half := first.halfwayParts exact distinct poised.faithful (Nat.le_of_eq poised.room) short poised.linked
    rcases Nat.eq_zero_or_pos shortest with rfl | some
    · have empty : [] ∈ acc := (shortestZeroIff short).mp rfl
      obtain ⟨settles, met, meets, told⟩ := ihFirst positive rfl
        (poised.afterReturn poised.faithful poised.settles rfl half.before)
      have poisedLater := poised.afterReturn half.faithful settles half.finds.stack half.behind
      obtain ⟨settles, met', meets', told'⟩ := ihLater positive rfl poisedLater
      obtain ⟨finds', _⟩ := later.findsWhileLinked exact distinct positive poisedLater.faithful poisedLater.linked
        (Nat.le_of_eq poisedLater.room)
      have both : met = none → ([] ∈ PathSet.product acc tail k ↔ n.isNullable a.grammar.nullable.contains) :=
        fun none =>
        (PathSet.nilMemProduct positive).trans
          ⟨fun found => half.vanishes found.2, fun vanishes => ⟨empty, told.whole none vanishes⟩⟩
      simp only [Piece.leading, Piece.Vanishes, if_pos empty, Node.leadingParts] at meets meets' told told' ⊢
      refine ⟨settles, told.ofBothHalves told' half.finds finds' meets meets' (fun none => ?_) fun none all => ?_⟩
      · simp only [both none]
      · rw [Node.allNullable, Bool.and_eq_true] at all
        exact ⟨(both none).mpr all.2.1, all.2.2⟩
    · -- something stands before the part, so neither it nor what follows is at first position
      have full : [] ∉ acc := fun empty => Nat.ne_of_gt some ((shortestZeroIff short).mpr empty)
      have full' : [] ∉ PathSet.product acc tail k := fun empty => full ((PathSet.nilMemProduct positive).mp empty).1
      have below := (shortestBelowFound short).1
      have poisedLater := poised.afterReturn half.faithful
        (poised.settles.afterShorter (by omega) first) half.finds.stack half.behind
      simp only [Piece.leading, if_neg full, if_neg full'] at ihLater poisedLater ⊢
      exact ⟨(ihLater positive trivial poisedLater).1, none, .done, toldNothing fun all => absurd all.1 full⟩
  | noBranches =>
    exact ⟨poised.settles, none, .done, toldNothing fun vanishes => vanishes.resolve_right (by simp [Node.anyNullable])⟩
  | @branch budget n rest k leading d acc other e paths f first later ihFirst ihLater =>
    subst leads
    have half := first.halfwayBranches exact distinct poised.faithful (Nat.le_of_eq poised.room) positive poised.linked
    obtain ⟨settles, met, meets, told⟩ := ihFirst positive rfl
      (poised.afterReturn poised.faithful poised.settles rfl half.before)
    have poisedLater := poised.afterReturn half.faithful settles half.finds.stack half.behind
    obtain ⟨settles, met', meets', told'⟩ := ihLater positive rfl poisedLater
    obtain ⟨finds', _⟩ := later.findsWhileLinked exact distinct positive poisedLater.faithful poisedLater.linked
      (Nat.le_of_eq poisedLater.room)
    refine ⟨settles, told.ofBothHalves told' half.finds finds' meets meets' (fun _ => rfl) fun none vanishes => ?_⟩
    rcases vanishes with empty | some
    · exact .inl (PathSet.memUnion.mpr (.inl empty))
    · rw [Node.anyNullable, Bool.or_eq_true] at some
      exact some.imp (fun here => PathSet.memUnion.mpr (.inr (told.whole none here))) id

end Analyzer

end Packrat

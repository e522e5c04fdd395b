import Packrat.Proofs.Grammar.Reaching
import Packrat.Proofs.Grammar.Recording

/-! The order in which rules are found. Recording with a queue comes to the order by distance: level by level,
each rule where the levels before mention it first. -/
namespace Packrat

def unseen : List String → List (String × String) → List (String × String)
  | _, [] => []
  | known, c :: rest => if c.1 ∈ known then unseen known rest else c :: unseen (c.1 :: known) rest

section
variable {known other : List String} {calls more : List (String × String)}

theorem unseenCongr (same : ∀ x, x ∈ known ↔ x ∈ other) : unseen known calls = unseen other calls := by
  induction calls generalizing known other with
  | nil => rfl
  | cons c rest ih =>
    have later : ∀ x, x ∈ c.1 :: known ↔ x ∈ c.1 :: other := fun x => by simp [same]
    simp only [unseen, same, ih same, ih later]

theorem unseenAppend : unseen known (calls ++ more) =
    unseen known calls ++ unseen (known ++ (unseen known calls).map Prod.fst) more := by
  induction calls generalizing known with
  | nil => simp [unseen]
  | cons c rest ih =>
    by_cases old : c.1 ∈ known
    · simp [unseen, old, ih]
    · simp only [List.cons_append, unseen, if_neg old, ih, List.map_cons]
      congr 2
      exact unseenCongr fun x => by
        simp only [List.mem_append, List.mem_cons]
        rw [or_left_comm]

theorem memUnseen {c : String × String} (member : c ∈ unseen known calls) : c ∈ calls ∧ c.1 ∉ known := by
  induction calls generalizing known with
  | nil => exact nomatch member
  | cons d rest ih =>
    rw [unseen] at member
    split at member
    · exact (ih member).imp_left (List.mem_cons_of_mem _)
    · rcases List.mem_cons.mp member with rfl | later
      · exact ⟨List.mem_cons_self, ‹_›⟩
      · obtain ⟨inside, new⟩ := ih later
        exact ⟨List.mem_cons_of_mem _ inside, fun old => new (List.mem_cons_of_mem _ old)⟩

theorem toldUnseen {c : String × String} (member : c ∈ calls) :
    c.1 ∈ known ∨ c.1 ∈ (unseen known calls).map Prod.fst := by
  induction calls generalizing known with
  | nil => exact nomatch member
  | cons d rest ih =>
    rw [unseen]
    rcases List.mem_cons.mp member with rfl | later
    · split
      · exact .inl ‹_›
      · exact .inr List.mem_cons_self
    · split
      · exact ih later
      · have told : c.1 ∈ d.1 :: known ∨ c.1 ∈ (unseen (d.1 :: known) rest).map Prod.fst := ih later
        rcases told with old | new
        · rcases List.mem_cons.mp old with same | old
          · exact .inr (List.mem_map.mpr ⟨d, List.mem_cons_self, same.symm⟩)
          · exact .inl old
        · exact .inr (List.mem_cons_of_mem _ new)

theorem unseenNil (all : ∀ c ∈ calls, c.1 ∈ known) : unseen known calls = [] := by
  rw [List.eq_nil_iff_forall_not_mem]
  intro c member
  obtain ⟨inside, new⟩ := memUnseen member
  exact new (all c inside)

theorem unseenNodup : ((unseen known calls).map Prod.fst).Nodup := by
  induction calls generalizing known with
  | nil => exact List.nodup_nil
  | cons c rest ih =>
    rw [unseen]
    split
    · exact ih
    · refine List.nodup_cons.mpr ⟨fun again => ?_, ih⟩
      obtain ⟨d, member, same⟩ := List.mem_map.mp again
      exact (memUnseen member).2 (same ▸ List.mem_cons_self)

end

def Rules.calls (rules : Rules) (c : String × String) : List (String × String) := (rules.body c.2).calls

def Rules.within (rules : Rules) (entry : String × String) : Nat → List (String × String)
  | 0 => [entry]
  | n + 1 => rules.within entry n ++ unseen ((rules.within entry n).map Prod.fst)
      ((rules.within entry n).flatMap rules.calls)

inductive Rules.Away (rules : Rules) (entry : String × String) : Nat → String × String → Prop where
  | entry {n} : Away rules entry n entry
  | call {n c c'} (before : Away rules entry n c) (called : c' ∈ rules.calls c) : Away rules entry (n + 1) c'

namespace Rules

variable {rules : Rules} {entry : String × String} {n : Nat}

theorem Away.oneFurther {c : String × String} (away : rules.Away entry n c) : rules.Away entry (n + 1) c := by
  induction away with
  | entry => exact .entry
  | call _ called ih => exact .call ih called

theorem withinNodup (n : Nat) : ((rules.within entry n).map Prod.fst).Nodup := by
  induction n with
  | zero => exact List.nodup_singleton _
  | succ n ih =>
    rw [within, List.map_append]
    refine List.Nodup.append ih unseenNodup fun x old new => ?_
    obtain ⟨c, member, rfl⟩ := List.mem_map.mp new
    exact (memUnseen member).2 old

theorem awayWithin (n : Nat) : ∀ c ∈ rules.within entry n, rules.Away entry n c := by
  induction n with
  | zero =>
    intro c member
    rw [List.mem_singleton.mp member]
    exact .entry
  | succ n ih =>
    intro c member
    rcases List.mem_append.mp member with near | new
    · exact (ih c near).oneFurther
    · obtain ⟨before, near, called⟩ := List.mem_flatMap.mp (memUnseen new).1
      exact .call (ih before near) called

theorem withinCalls {c c' : String × String} (near : c ∈ rules.within entry n) (called : c' ∈ rules.calls c) :
    c'.1 ∈ (rules.within entry (n + 1)).map Prod.fst := by
  rw [within, List.map_append, List.mem_append]
  exact toldUnseen (List.mem_flatMap.mpr ⟨c, near, called⟩)

theorem Away.isReached {c : String × String} (away : rules.Away entry n c) : rules.Reaches entry c := by
  induction away with
  | entry => exact .entry
  | call _ called ih => exact .call ih called

theorem entryWithin (n : Nat) : entry ∈ rules.within entry n := by
  induction n with
  | zero => exact List.mem_singleton_self _
  | succ n ih => exact List.mem_append_left _ ih

theorem Away.namesakeWithin {name rule : String} (agree : rules.NamesAgree name rule) {c : String × String}
    (away : rules.Away (name, rule) n c) :
    ∃ c' ∈ rules.within (name, rule) n, c'.1 = c.1 ∧ rules.body c'.2 = rules.body c.2 := by
  induction away with
  | entry => exact ⟨_, entryWithin _, rfl, rfl⟩
  | @call n c d before called ih =>
    obtain ⟨c', near, _, same⟩ := ih
    have called' : d ∈ rules.calls c' := by
      rw [calls, same]
      exact called
    obtain ⟨d', member, named⟩ := List.mem_map.mp (withinCalls near called')
    have reached := (awayWithin _ d' member).isReached
    exact ⟨d', member, named, agree _ _ reached.isInvoked (Away.call before called).isReached.isInvoked named⟩

theorem withinStable (last : rules.within entry (n + 1) = rules.within entry n) {m : Nat} (le : n ≤ m) :
    rules.within entry m = rules.within entry n := by
  induction m, le using Nat.le_induction with
  | base => rfl
  | succ m _ ih => rw [Rules.within, ih, ← Rules.within, last]

end Rules

namespace Recorder

inductive Drains (rules : Rules) : Grammar → Recorder → Grammar → Recorder → Prop where
  | done {g r} (nothing : r.pending = []) : Drains rules g r g r
  | turn {g r g' r' name rule rest verdict parts body closed} {mid : Recorder}
    (waits : r.pending = (name, rule) :: rest)
      (recorded : record (rules.body rule) { r with pending := rest } = (verdict, parts, mid))
      (closes : mid.close (some name) verdict parts = (body, closed))
      (later : Drains rules (g.insert name body)
        (closed.note .trace ("recorded " ++ name ++ " := " ++ body.render)) g' r') : Drains rules g r g' r'

variable {rules : Rules} {entry : String × String} {g g' : Grammar} {r r' : Recorder}

theorem drainDrains (plain : rules.Plain) (fuel : Nat) (collecting : Collecting rules entry g r)
    (enough : rules.callCount + 1 ≤ fuel + g.rules.length) :
    Drains rules g r (drain rules fuel g r).1 (drain rules fuel g r).2 := by
  induction fuel generalizing g r with
  | zero =>
    have few := collecting.seenBounded
    have split := collecting.split.length_eq
    simp only [List.length_append, List.length_map] at split
    exact .done (List.eq_nil_of_length_eq_zero (by omega))
  | succ fuel ih =>
    unfold drain
    split
    · exact .done ‹_›
    · rename_i name rule rest pending
      obtain ⟨verdict, recorded, closes⟩ := recordRule plain name rule { r with pending := rest }
      obtain ⟨collecting, longer⟩ := collecting.afterTurn pending
      simp only [recorded, closes]
      exact .turn pending recorded (closes _ _) (ih (collecting.afterNote _ _) (by omega))

theorem queueAllPending (calls : List (String × String)) (r : Recorder) :
    (r.queueAll calls).pending = r.pending ++ unseen r.seen calls := by
  induction calls generalizing r with
  | nil => simp [queueAll, unseen]
  | cons c rest ih =>
    have step : r.queueAll (c :: rest) = (r.queue c.1 c.2).queueAll rest := rfl
    rw [step, ih]
    by_cases known : c.1 ∈ r.seen <;> simp [queue, unseen, known]

theorem memQueueAllSeen (calls : List (String × String)) (r : Recorder) (x : String) :
    x ∈ (r.queueAll calls).seen ↔ x ∈ r.seen ∨ x ∈ calls.map Prod.fst := by
  induction calls generalizing r with
  | nil => simp [queueAll]
  | cons c rest ih =>
    have step : r.queueAll (c :: rest) = (r.queue c.1 c.2).queueAll rest := rfl
    rw [step, ih]
    by_cases known : c.1 ∈ r.seen
    · have same : r.queue c.1 c.2 = r := by simp [queue, known]
      rw [same, List.map_cons, List.mem_cons]
      rw [or_left_comm, iff_or_self]
      rintro rfl
      exact .inl known
    · have added : (r.queue c.1 c.2).seen = c.1 :: r.seen := by simp [queue, known]
      rw [added, List.map_cons, List.mem_cons, List.mem_cons, or_left_comm, or_assoc]

def entryOf (rules : Rules) (c : String × String) : String × Node :=
  (c.1, .inOrder (rules.body c.2).outline (some c.1))

/-- Where recording stands in the order by distance: of the level reached some rules have been recorded, the
rest of it waits, and behind it what the recorded ones mention first. -/
structure Discovering (rules : Rules) (entry : String × String) (n : Nat) (done near : List (String × String))
    (g : Grammar) (r : Recorder) : Prop where
  level : rules.within entry n = done ++ near
  recorded : g.rules = done.map (entryOf rules)
  waits : r.pending = near ++ unseen ((rules.within entry n).map Prod.fst) (done.flatMap rules.calls)
  seen : ∀ x, x ∈ r.seen ↔ x ∈ g.rules.map Prod.fst ++ r.pending.map Prod.fst

theorem startDiscovering (rules : Rules) (name entry : String) (tokens : List Definition) :
    Discovering rules (name, entry) 0 [] [(name, entry)] { entry := name, tokens := tokens }
      { pending := [(name, entry)], seen := [name] } :=
  ⟨rfl, rfl, rfl, fun _ => Iff.rfl⟩

namespace Discovering

variable {n : Nat} {done near : List (String × String)} {c : String × String}

theorem nextLevel (discovering : Discovering rules entry n done [] g r) :
    Discovering rules entry (n + 1) done r.pending g r := by
  obtain ⟨level, recorded, waits, seen⟩ := discovering
  rw [List.append_nil] at level
  rw [List.nil_append, level] at waits
  have within : rules.within entry (n + 1) = done ++ r.pending := by rw [Rules.within, level, waits]
  refine ⟨within, recorded, ?_, seen⟩
  rw [unseenNil, List.append_nil]
  intro c' called
  obtain ⟨c, member, called⟩ := List.mem_flatMap.mp called
  exact Rules.withinCalls (level ▸ member) called

theorem afterTurn (discovering : Discovering rules entry n done (c :: near) g r) {rest : List (String × String)}
    (pending : r.pending = c :: rest) :
    Discovering rules entry n (done ++ [c]) near (g.insert c.1 (entryOf rules c).2)
      (({ r with pending := rest } : Recorder).queueAll (rules.calls c)) := by
  obtain ⟨level, recorded, waits, seen⟩ := discovering
  have waits : rest = near ++ unseen ((rules.within entry n).map Prod.fst) (done.flatMap rules.calls) :=
    (List.cons.inj (pending.symm.trans waits)).2
  have names : g.rules.map Prod.fst = done.map Prod.fst := by
    rw [recorded, List.map_map]
    rfl
  have new : c.1 ∉ g.rules.map Prod.fst := by
    have nodup : ((rules.within entry n).map Prod.fst).Nodup := Rules.withinNodup n
    rw [level, List.map_append] at nodup
    exact fun old => (List.nodup_append.mp nodup).2.2 _ (names ▸ old) _ List.mem_cons_self rfl
  have inserted : (g.insert c.1 (entryOf rules c).2).rules = g.rules ++ [entryOf rules c] := Grammar.insertIntoFresh new
  have known : ∀ x, x ∈ r.seen ↔ x ∈ (rules.within entry n).map Prod.fst ++
      (unseen ((rules.within entry n).map Prod.fst) (done.flatMap rules.calls)).map Prod.fst := by
    intro x
    rw [seen, names, pending, waits, level]
    simp only [List.map_append, List.map_cons, List.mem_append, List.mem_cons, or_assoc]
  refine ⟨by rw [level, List.append_assoc]; rfl, by rw [inserted, recorded, List.map_append]; rfl, ?_, fun x => ?_⟩
  · rw [queueAllPending, List.flatMap_append, List.flatMap_singleton, unseenAppend, ← List.append_assoc, ← waits,
      unseenCongr known]
  · rw [memQueueAllSeen, queueAllPending, inserted, seen, pending]
    have told : x ∈ (rules.calls c).map Prod.fst → x ∈ r.seen ∨ x ∈ (unseen r.seen (rules.calls c)).map Prod.fst := by
      intro mentioned
      obtain ⟨c', called, rfl⟩ := List.mem_map.mp mentioned
      exact toldUnseen called
    have mentioned : x ∈ (unseen r.seen (rules.calls c)).map Prod.fst → x ∈ (rules.calls c).map Prod.fst := by
      intro new
      obtain ⟨c', member, rfl⟩ := List.mem_map.mp new
      exact List.mem_map_of_mem (memUnseen member).1
    have before : x ∈ r.seen ↔ x ∈ g.rules.map Prod.fst ∨ x = c.1 ∨ x ∈ rest.map Prod.fst := by
      rw [seen, pending]
      simp only [List.map_cons, List.mem_append, List.mem_cons]
    have entry : (entryOf rules c).1 = c.1 := rfl
    simp only [List.map_append, List.map_cons, List.map_nil, List.mem_append, List.mem_cons, List.not_mem_nil, or_false,
      entry]
    grind

theorem afterNote (discovering : Discovering rules entry n done near g r) (level : Level) (text : String) :
    Discovering rules entry n done near g (r.note level text) :=
  ⟨discovering.level, discovering.recorded, discovering.waits, discovering.seen⟩

end Discovering

theorem Drains.drainedRulesByLevel (plain : rules.Plain) (drains : Drains rules g r g' r') {n : Nat}
    {done near : List (String × String)} (discovering : Discovering rules entry n done near g r) :
    ∃ m, g'.rules = (rules.within entry m).map (entryOf rules) ∧ rules.within entry (m + 1) = rules.within entry m := by
  induction drains generalizing n done near with
  | done nothing =>
    obtain ⟨level, recorded, waits, -⟩ := discovering
    rw [nothing] at waits
    obtain ⟨rfl, last⟩ := List.append_eq_nil_iff.mp waits.symm
    rw [List.append_nil] at level
    rw [level] at last
    exact ⟨n, by rw [level, recorded], by rw [Rules.within, level, last, List.append_nil]⟩
  | @turn g r g' r' name rule rest verdict parts body closed mid pending recorded closes later ih =>
    obtain ⟨verdict', recorded', closes'⟩ := recordRule plain name rule { r with pending := rest }
    cases recorded.symm.trans recorded'
    cases closes.symm.trans (closes' _ _)
    have onward : ∀ {n done near}, Discovering rules entry n done ((name, rule) :: near) g r → _ := fun here =>
      ih ((here.afterTurn pending).afterNote _ _)
    cases near with
    | nil =>
      have next := discovering.nextLevel
      rw [pending] at next
      exact onward next
    | cons c near =>
      have same : c = (name, rule) := (List.cons.inj (discovering.waits.symm.trans pending)).1
      exact onward (same ▸ discovering)

end Recorder

namespace Body

theorem memOutlineAll {parts : List Body} {n : Node} : n ∈ outlineAll parts ↔ ∃ b ∈ parts, n ∈ b.outline := by
  induction parts with
  | nil => simp [outlineAll]
  | cons b rest ih => simp [outlineAll, ih]

theorem callsOutline (b : Body) : ∀ n ∈ b.outline, ∀ name ∈ n.calls, name ∈ b.calls.map Prod.fst := by
  have among : ∀ {bodies : List Body} {b : Body} {name : String}, b ∈ bodies → name ∈ b.calls.map Prod.fst →
      name ∈ (callsAll bodies).map Prod.fst := by
    rintro bodies b name inside called
    obtain ⟨c, member, rfl⟩ := List.mem_map.mp called
    exact List.mem_map_of_mem (memCallsAll.mpr ⟨b, inside, member⟩)
  have loop : ∀ {b : Body}, (∀ n ∈ b.outline, ∀ name ∈ n.calls, name ∈ b.calls.map Prod.fst) →
      ∀ name ∈ (Node.inOrder b.outline none).calls, name ∈ b.calls.map Prod.fst := by
    intro b ih name refers
    rw [Node.callsInOrder] at refers
    obtain ⟨n, member, refers⟩ := List.mem_flatMap.mp refers
    exact ih n member name refers
  induction b using Body.induction with
  | inOrder parts ih =>
    intro n member name refers
    obtain ⟨b, inside, member⟩ := memOutlineAll.mp member
    exact among inside (ih b inside n member name refers)
  | call name rule =>
    intro n member called refers
    rw [List.mem_singleton.mp member] at refers
    exact refers
  | firstOf branches ih =>
    intro n member name refers
    rw [List.mem_singleton.mp member, Node.callsFirstOf] at refers
    obtain ⟨n, member, refers⟩ := List.mem_flatMap.mp refers
    obtain ⟨b, inside, rfl⟩ := memOutlineEach.mp member
    exact among inside (loop (ih b inside) name refers)
  | many body ih =>
    intro n member name refers
    rw [List.mem_singleton.mp member] at refers
    exact loop ih name refers
  | some body ih =>
    intro n member name refers
    rw [List.mem_singleton.mp member] at refers
    exact loop ih name refers
  | optional body ih =>
    intro n member name refers
    rw [List.mem_singleton.mp member] at refers
    exact loop ih name refers
  | consume token goal =>
    intro n member name refers
    rw [List.mem_singleton.mp member] at refers
    exact nomatch refers
  | _ => exact nofun

end Body

namespace Grammar

theorem collectMirrors {rules : Rules} (plain : rules.Plain) {name entry : String} (agree : rules.NamesAgree name entry)
    (tokens : List Definition) : ∃ n r,
      Recorder.Drains rules { entry := name, tokens := tokens } { pending := [(name, entry)], seen := [name] }
        (collect rules name entry tokens).1 r ∧
      (collect rules name entry tokens).1.rules = (rules.within (name, entry) n).map (Recorder.entryOf rules) ∧
      (∀ m, n ≤ m → rules.within (name, entry) m = rules.within (name, entry) n) ∧
      (∀ m x, x ∈ (rules.within (name, entry) m).map Prod.fst ↔ ∃ rule, rules.Away (name, entry) m (x, rule)) ∧
      ((collect rules name entry tokens).1.rules.map Prod.fst).Nodup ∧
      (∀ e, e ∈ (collect rules name entry tokens).1.rules ↔
        ∃ c, rules.Reaches (name, entry) c ∧ e = Recorder.entryOf rules c) ∧
      ∀ e ∈ (collect rules name entry tokens).1.rules, ∀ called ∈ e.2.calls,
        called ∈ (collect rules name entry tokens).1.rules.map Prod.fst := by
  obtain ⟨r, drains⟩ : ∃ r, Recorder.Drains rules { entry := name, tokens := tokens }
      { pending := [(name, entry)], seen := [name] } (collect rules name entry tokens).1 r :=
    ⟨_, Recorder.drainDrains plain _ (Recorder.startCollecting rules name entry tokens) (Nat.le_refl _)⟩
  obtain ⟨n, recorded, last⟩ := drains.drainedRulesByLevel plain (Recorder.startDiscovering rules name entry tokens)
  have names : (collect rules name entry tokens).1.rules.map Prod.fst =
      (rules.within (name, entry) n).map Prod.fst := by
    rw [recorded, List.map_map]
    rfl
  refine ⟨n, r, drains, recorded, fun m le => Rules.withinStable last le, fun m x => ⟨fun member => ?_, ?_⟩, ?_,
    fun e => ⟨fun member => ?_, ?_⟩, fun e member called refers => ?_⟩
  · obtain ⟨c, near, rfl⟩ := List.mem_map.mp member
    exact ⟨c.2, Rules.awayWithin m c near⟩
  · rintro ⟨rule, away⟩
    obtain ⟨c, near, named, _⟩ := away.namesakeWithin agree
    exact List.mem_map.mpr ⟨c, near, named⟩
  · rw [names]
    exact Rules.withinNodup n
  · rw [recorded] at member
    obtain ⟨c, near, rfl⟩ := List.mem_map.mp member
    exact ⟨c, (Rules.awayWithin n c near).isReached, rfl⟩
  · rintro ⟨c, reaches, rfl⟩
    obtain ⟨before, after, split, _⟩ := List.lookup_eq_some_iff.mp (collectRule plain name entry tokens agree reaches)
    rw [split]
    exact List.mem_append_right _ List.mem_cons_self
  · rw [recorded] at member
    obtain ⟨c, near, rfl⟩ := List.mem_map.mp member
    rw [Recorder.entryOf, Node.callsInOrder] at refers
    obtain ⟨part, inside, refers⟩ := List.mem_flatMap.mp refers
    obtain ⟨c', mentioned, rfl⟩ := List.mem_map.mp ((rules.body c.2).callsOutline part inside called refers)
    rw [names, ← last]
    exact Rules.withinCalls near mentioned

namespace Sample

def listing : Rules :=
  [("L", .inOrder [.call "I" "I", .many (.inOrder [.firstOf [.consume "," defaultGoal, .consume ";" defaultGoal],
      .call "I" "I"]), .optional (.call "E" "E")]),
    ("I", .firstOf [.inOrder [.notAhead "x" defaultGoal, .consume "a" defaultGoal],
      .inOrder [.consume "(" defaultGoal, .call "L" "L", .call "E" "E"]]),
    ("E", .some (.inOrder [.sameLine, .consume "." defaultGoal, .call "I" "I"]))]

end Sample

theorem collectMirrorsListing :
    Sample.listing.Plain ∧ Sample.listing.NamesAgree "L" "L" ∧ ∃ n,
      (collect Sample.listing "L" "L" []).1.rules =
        (Sample.listing.within ("L", "L") n).map (Recorder.entryOf Sample.listing) ∧
      (Sample.listing.within ("L", "L") n).map Prod.fst = ["L", "I", "E"] ∧
      ∀ e ∈ (collect Sample.listing "L" "L" []).1.rules, ∀ called ∈ e.2.calls, called ∈ ["L", "I", "E"] := by
  have plain : Sample.listing.Plain := by unfold Rules.Plain; decide
  have agree : Sample.listing.NamesAgree "L" "L" := Rules.namesAgreeOf (by decide) "L"
  obtain ⟨n, _, _, recorded, _, _, _, _, closed⟩ := collectMirrors plain agree []
  have names : (collect Sample.listing "L" "L" []).1.rules.map Prod.fst = ["L", "I", "E"] := by decide +kernel
  rw [names] at closed
  refine ⟨plain, agree, n, recorded, ?_, closed⟩
  rw [recorded, List.map_map] at names
  exact names

end Grammar
end Packrat

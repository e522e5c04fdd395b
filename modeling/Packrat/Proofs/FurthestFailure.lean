import Mathlib.Data.List.MinMax
import Packrat.Proofs.Session.Missed
import Packrat.Proofs.Session.Proper

/-! The failure that a parse reports is the furthest of the whole run: the first miss at the furthest offset,
with all that was expected there, however often failures were put aside and merged. -/
namespace Packrat

theorem addNamesEraseDups (names : List String) : addNames [] names = names.eraseDups := by
  induction names using List.reverseRecOn with
  | nil => rfl
  | append_singleton names name ih =>
    rw [addNamesAppend, ih, List.eraseDups_append, addNamesCons, addNamesNil]
    have same : names.eraseDups.contains name = names.contains name := by simp
    rw [same]
    by_cases present : names.contains name
    · rw [if_pos present]
      simp [List.removeAll, List.contains_iff_mem.mp present]
    · rw [if_neg present]
      simp [List.removeAll, mt List.contains_iff_mem.mpr present, List.eraseDups_cons]

namespace Miss

variable {misses rest : List Miss} {first : Miss}

theorem tallyBelow {i : Nat} (short : ∀ m ∈ misses, m.offset < i) : ∀ j, (tally misses).offset = some j → j < i := by
  induction misses using List.reverseRecOn with
  | nil => exact fun j none => nomatch none
  | append_singleton misses m ih =>
    have before := ih fun m member => short m (List.mem_append_left _ member)
    have last := short m (by simp)
    intro j told
    rw [tallyAppend, tallySingle] at told
    cases offset : (tally misses).offset with
    | none =>
      rw [Failure.nowhereMerge offset rfl] at told
      cases told
      exact last
    | some k =>
      rw [Failure.mergeOffset offset rfl] at told
      cases told
      exact Nat.max_lt.mpr ⟨before k offset, last⟩

theorem tallyAtFurthest {i : Nat} (furthest : ∀ m ∈ misses, m.offset ≤ i)
    (there : misses.filter (·.offset = i) = first :: rest) :
    tally misses = { first.failure with expected := ((first :: rest).map token).eraseDups } := by
  induction misses using List.reverseRecOn generalizing first rest with
  | nil => exact nomatch there
  | append_singleton misses m ih =>
    have before : ∀ m ∈ misses, m.offset ≤ i := fun m member => furthest m (List.mem_append_left _ member)
    have last : m.offset ≤ i := furthest m (by simp)
    rw [List.filter_append] at there
    rw [tallyAppend, tallySingle]
    cases earlier : misses.filter (·.offset = i) with
    | nil =>
      have short : ∀ m ∈ misses, m.offset < i := fun m member =>
        Nat.lt_of_le_of_ne (before m member) (by simpa using List.filter_eq_nil_iff.mp earlier m member)
      by_cases here : m.offset = i
      · obtain ⟨rfl, rfl⟩ : m = first ∧ [] = rest := by simpa [earlier, here] using there
        have alone : (tally misses).merge m.failure = m.failure := by
          cases offset : (tally misses).offset with
          | none => exact Failure.nowhereMerge offset rfl
          | some j => exact Failure.mergeBeyond offset rfl (here.symm ▸ tallyBelow short j offset)
        rw [alone]
        rfl
      · rw [earlier] at there
        simp [here] at there
    | cons first' rest' =>
      have told := ih before earlier
      have offset : first'.offset = i := by
        have member : first' ∈ misses.filter (·.offset = i) := earlier ▸ List.mem_cons_self
        simpa using (List.mem_filter.mp member).2
      have tallied : (tally misses).offset = some i := by
        rw [told]
        exact congrArg some offset
      rw [earlier] at there
      by_cases here : m.offset = i
      · obtain ⟨rfl, rfl⟩ : first' = first ∧ rest' ++ [m] = rest := by simpa [here] using there
        rw [Failure.mergeSame tallied (here ▸ rfl), told, ← addNamesEraseDups, ← addNamesEraseDups]
        show ({ first'.failure with expected := _ } : Failure) = _
        rw [← List.cons_append, List.map_append, addNamesAppend]
        rfl
      · obtain ⟨rfl, rfl⟩ : first' = first ∧ rest' = rest := by simpa [here] using there
        rw [Failure.mergeBefore tallied rfl (Nat.lt_of_le_of_ne last here), told]

theorem furthestOf (some : misses ≠ []) :
    ∃ first rest, (∀ m ∈ misses, m.offset ≤ first.offset) ∧ misses.filter (·.offset = first.offset) =
        first :: rest := by
  cases far : misses.argmax offset with
  | none => exact absurd (List.argmax_eq_none.mp far) some
  | some m =>
    have furthest : ∀ n ∈ misses, n.offset ≤ m.offset := fun n member => List.le_of_mem_argmax member far
    cases there : misses.filter (·.offset = m.offset) with
    | nil =>
      exact absurd (decide_eq_true rfl) (List.filter_eq_nil_iff.mp there m (List.argmax_mem far))
    | cons first rest =>
      have member : first ∈ misses.filter (·.offset = m.offset) := there ▸ List.mem_cons_self
      have same : first.offset = m.offset := by simpa using (List.mem_filter.mp member).2
      exact ⟨first, rest, same ▸ furthest, same ▸ there⟩

def error (env : Setup) (m : Miss) (names : List String) : ParseError :=
  let expected := names.map env.lexer.displayName
  let texts := names.map fun name => (env.lexer.literalText name).getD name
  match m.found with
  | .token t _ =>
    .syntaxError t.range t.start expected (t.name ++ " '" ++ t.text ++ "'") m.path (suggestFix texts (some t.text))
  | .ended cursor => .unexpectedEnd (.point cursor.offset) cursor.position expected m.path (suggestFix texts none)
  | .unrecognized cursor c =>
    .syntaxError (.ofOffsets cursor.offset (cursor.offset + c.utf8Size)) cursor.position expected
      ("unrecognized character " ++ Quoted.char c) m.path none

theorem errorFromFailure (env : Setup) (s : Session) (m : Miss) (names : List String) :
    s.errorFrom env { m.failure with expected := names } = m.error env names := by
  obtain ⟨token, found, path⟩ := m
  cases found <;> rfl

end Miss

namespace Session

def StopsShort (env : Setup) (rules : Rules) (name rule : String) (s : Session) : Prop :=
  ∃ t, invoke env rules env.config.maxRuleDepth name rule s.reset = (.mismatch, t) ∨
    (invoke env rules env.config.maxRuleDepth name rule s.reset = (.ok, t) ∧
      ∀ cursor, (t.scan env defaultGoal).1 ≠ .ended cursor)

def missesParse (env : Setup) (rules : Rules) (name rule : String) : Account := fun s =>
  missesInvoke env rules env.config.maxRuleDepth name rule s.reset ++
    match invoke env rules env.config.maxRuleDepth name rule s.reset with
    | (.ok, t) =>
      match (t.scan env defaultGoal).1 with
      | .ended _ => []
      | found => [⟨endOfInput, found, t.path⟩]
    | _ => []

variable {env : Setup} {rules : Rules} {name rule : String} {s : Session}

theorem shortOfMismatch (failed : (invoke env rules env.config.maxRuleDepth name rule s.reset).1 = .mismatch) :
    s.StopsShort env rules name rule := ⟨_, .inl (Prod.ext failed rfl)⟩

theorem concludedShort (off : env.config.memoize = false) (short : s.StopsShort env rules name rule) :
    ∃ t : Session, concluded env (invoke env rules env.config.maxRuleDepth name rule s.reset) =
      .error (t.errorFrom env (Miss.tally (missesParse env rules name rule s))) := by
  have recorded := (addsInvoke off rules env.config.maxRuleDepth name rule).fromNothing (s := s.reset) rfl
  obtain ⟨t, ran | ⟨ran, left⟩⟩ := short
  · rw [ran] at recorded
    simp only [missesParse, ran, List.append_nil, ← recorded]
    exact ⟨t, rfl⟩
  · obtain ⟨found, scans, scan⟩ := scanChangesScans env defaultGoal t
    rw [ran] at recorded
    have missed : Miss.tally (missesInvoke env rules env.config.maxRuleDepth name rule s.reset ++
        [⟨endOfInput, found, t.path⟩]) = t.furthest.expecting endOfInput found t.path := by
      rw [Miss.tallyAppend, ← recorded]
      rfl
    simp only [scan] at left
    simp only [missesParse, ran, concluded, finish, scan]
    cases found with
    | ended cursor => exact absurd rfl (left cursor)
    | token token next =>
      rw [missed]
      exact ⟨_, rfl⟩
    | unrecognized cursor c =>
      rw [missed]
      exact ⟨_, rfl⟩

theorem Adds.runsApartFromFailure {a : Action} {account : Account} (adds : Adds a account) (s : Session) :
    a s = ((a (s.failing {})).1,
      (a (s.failing {})).2.failing (s.furthest.merge (a (s.failing {})).2.furthest)) := by
  have inPlace := (adds s s.furthest).1
  have aside := (adds s {}).1
  rw [failingOwnFurthest] at inPlace
  rw [aside, Failure.emptyMerge (Miss.tallyProper _)]
  exact inPlace

end Session

namespace Parser

theorem furthestReported {source : String} {definitions : List Definition} {p : Parser}
    (reachable : Reachable source definitions p) (off : p.config.memoize = false) (rules : Rules) :
    (∀ name rule, p.session.StopsShort p.setup rules name rule →
      p.session.missesParse p.setup rules name rule ≠ [] →
      ∃ first rest, (∀ m ∈ p.session.missesParse p.setup rules name rule, m.offset ≤ first.offset) ∧
        (p.session.missesParse p.setup rules name rule).filter (·.offset = first.offset) = first :: rest ∧
        (p.parse rules name rule).1 =
          .error (first.error p.setup ((first :: rest).map Miss.token).eraseDups)) ∧
    (∀ name rule m, m ∈ Session.missesInvoke p.setup rules p.config.maxRuleDepth name rule p.session.reset ↔
      Session.Missed p.setup rules p.config.maxRuleDepth (.body (.call name rule)) p.session.reset m) ∧
    (∀ f g h : Failure, (f.merge g).merge h = f.merge (g.merge h)) ∧
    (p.session.furthest.merge {} = p.session.furthest ∧
      ({} : Failure).merge p.session.furthest = p.session.furthest) ∧
    ∀ depth body s, ∃ verdict t,
      Session.exec p.setup (Session.invoke p.setup rules depth) body (s.failing {}) = (verdict, t) ∧
        Session.exec p.setup (Session.invoke p.setup rules depth) body s =
          (verdict, t.failing (s.furthest.merge t.furthest)) := by
  refine ⟨fun name rule short some => ?_, fun name rule m => ?_, Failure.mergeAssoc, ⟨Failure.mergeEmpty _,
    Failure.emptyMerge reachable.isRecorded.furthest⟩, fun depth body s => ⟨_, _, rfl, ?_⟩⟩
  · obtain ⟨first, rest, furthest, there⟩ := Miss.furthestOf some
    refine ⟨first, rest, furthest, there, ?_⟩
    obtain ⟨stats, eq⟩ := Session.parseRuleConcludes p.setup rules name rule p.session
    obtain ⟨t, told⟩ := Session.concludedShort off short
    rw [show (p.parse rules name rule).1 = _ from eq, told, Miss.tallyAtFurthest furthest there, Miss.errorFromFailure]
    rfl
  · exact Session.memMissesExec rules p.config.maxRuleDepth (.call name rule) p.session.reset
  · exact (Session.addsExec (Session.addsInvoke off rules depth) body).runsApartFromFailure s

namespace Sample

def branching : Rules :=
  [("R", .firstOf [.inOrder [.consume "c" defaultGoal, .consume "b" defaultGoal],
      .inOrder [.consume "c" defaultGoal, .many (.consume "b" defaultGoal), .call "X" "X"]]),
    ("X", .firstOf [.consume "b" defaultGoal, .consume "S" defaultGoal])]

def uncached : Parser := parser.setCache false

def missed : List Miss := uncached.session.missesParse uncached.setup branching "R" "R"

end Sample

theorem furthestReportedBranching :
    Reachable "ca;b" Sample.definitions Sample.uncached ∧ Sample.uncached.config.memoize = false ∧
      Sample.uncached.session.StopsShort Sample.uncached.setup Sample.branching "R" "R" ∧
      Sample.missed.map (fun m => (m.offset, m.token, m.path)) =
        [(1, "b", ["R"]), (1, "b", ["R"]), (1, "b", ["R", "X"]), (1, "S", ["R", "X"])] ∧
      ∃ first : Miss, first.offset = 1 ∧ first.path = ["R"] ∧
        (Sample.uncached.parse Sample.branching "R" "R").1 = .error (first.error Sample.uncached.setup ["b", "S"]) := by
  have sample : Reachable "ca;b" Sample.definitions Sample.parser :=
    (Reachable.new (Parser.ofDefinitionsOfOption _)).configured _
  have reachable : Reachable "ca;b" Sample.definitions Sample.uncached := sample.adjusted ({ · with memoize := false })
  have off : Sample.uncached.config.memoize = false := rfl
  have short : Sample.uncached.session.StopsShort Sample.uncached.setup Sample.branching "R" "R" :=
    Session.shortOfMismatch (by decide +kernel)
  have seen : Sample.missed.map (fun m => (m.offset, m.token, m.path)) =
      [(1, "b", ["R"]), (1, "b", ["R"]), (1, "b", ["R", "X"]), (1, "S", ["R", "X"])] := by decide +kernel
  have some : Sample.missed ≠ [] := fun none => by simp [none] at seen
  obtain ⟨first, rest, _, there, told⟩ := (furthestReported reachable off Sample.branching).1 "R" "R" short some
  have all : ∀ m ∈ Sample.missed, m.offset = 1 := by decide +kernel
  have member : first ∈ Sample.missed.filter (·.offset = first.offset) := there ▸ List.mem_cons_self
  have offset : first.offset = 1 := all first (List.mem_filter.mp member).1
  have whole : Sample.missed = first :: rest := by
    refine (List.filter_eq_self.mpr fun m member => ?_).symm.trans there
    exact decide_eq_true ((all m member).trans offset.symm)
  have ordered := seen
  rw [whole] at ordered
  have names : ((first :: rest).map Miss.token).eraseDups = ["b", "S"] := by
    have tokens := congrArg (List.map fun e : Nat × String × List String => e.2.1) ordered
    rw [List.map_map] at tokens
    rw [show (first :: rest).map Miss.token = ["b", "b", "b", "S"] from tokens]
    decide
  have path : first.path = ["R"] := congrArg (·.2.2) (List.cons.inj ordered).1
  refine ⟨reachable, off, short, seen, first, offset, path, ?_⟩
  rw [told, names]

end Parser
end Packrat

import Packrat.Proofs.Budget
import Packrat.Proofs.Undo

/-! Tree, tokens and recoveries of a parser agree. Between any two calls the nodes that have been built have the
tokens as leaves and the recoveries as error nodes, in order. -/
namespace Packrat

inductive Parser.Building (source : String) (definitions : List Definition) : Parser → Prop where
  | new {p} (made : Parser.ofDefinitions source definitions = .ok p) : Building source definitions p
  | reset {p} (before : Parser.Reachable source definitions p) :
      Building source definitions { p with session := p.session.reset }
  | configured {p} (before : Building source definitions p) (config : ParserConfig) :
      Building source definitions (p.withConfig config)
  | adjusted {p} (before : Building source definitions p) (f : ParserConfig → ParserConfig) :
      Building source definitions (p.mapConfig f)
  | ran {p} (before : Building source definitions p) (rules : Rules) (body : Body) :
      Building source definitions (p.run rules body).2
  | running {p t} (before : Building source definitions p) (rules : Rules) (body : Body)
      (pauses : Session.Pauses p.setup rules p.config.maxRuleDepth (.body body) p.session t) :
      Building source definitions { p with session := t }

namespace Session

variable {env : Setup} {s t : Session} {g : Growth}

def forest (s : Session) : List Tree := s.root ++ s.frames.reverse.flatten

def taken (s : Session) : List Token := s.tokens.take s.state.tokenIndex

theorem forestOfLevels (s : Session) : s.forest = s.levels.reverse.flatten := by
  simp [forest, levels]

theorem Grows.forestGrows (h : s.Grows g t) : t.forest = s.forest ++ g.nodes := by
  rw [forestOfLevels, forestOfLevels, h.levels, s.levelsByChildren]
  simp

structure Accords (s : Session) : Prop where
  numbered : renumber 0 s.taken = s.taken
  tidy : (⟨s.forest, s.taken, s.recoveries⟩ : Growth).Tidy Spot.first s.state.spot

theorem Sound.takenLength (h : s.Sound env) : s.taken.length = s.state.tokenIndex := by
  rw [taken, List.length_take]
  exact Nat.min_eq_left h.index

theorem Accords.afterGrowth (h : s.Accords) (sound : s.Sound env) (grows : s.Grows g t) : t.Accords := by
  have taken : t.taken = s.taken ++ renumber s.state.tokenIndex g.tokens := grows.taken
  refine ⟨?_, ?_⟩
  · rw [taken, renumberAppend, h.numbered, sound.takenLength, renumberRenumber, Nat.zero_add]
  · rw [taken, grows.forestGrows, grows.recoveries]
    exact h.tidy.thenTidy (grows.tidy.whenRenumbered s.state.tokenIndex)

theorem Accords.whenOpened {name : String} {memo : Cache MemoKey Memo} (h : s.Accords) :
    (opened env name s memo).Accords := by
  have view := openedView env name s memo
  simp only [Session.view, View.mk.injEq] at view
  obtain ⟨state, levels, _, _, tokens, recoveries⟩ := view
  have forest : (Session.opened env name s memo).forest = s.forest := by
    rw [forestOfLevels, forestOfLevels, levels]
    simp
  have taken : (Session.opened env name s memo).taken = s.taken := by
    rw [Session.taken, state, tokens]
    rfl
  refine ⟨?_, ?_⟩
  · rw [taken]
    exact h.numbered
  · rw [forest, taken, recoveries, state]
    exact h.tidy

def according (env : Setup) : Invariant := ⟨fun s => s.Sound env ∧ s.Accords, (growing env).along⟩

theorem accordingUpheld (env : Setup) : (according env).Upheld env := by
  have growing := growingUpheld env
  have step : ∀ {s t}, (according env).holds s → (Session.growing env).Step s t → (according env).Step s t := by
    rintro s t ⟨sound, accords⟩ ⟨after, g, grows⟩
    exact ⟨⟨after, accords.afterGrowth sound grows⟩, g, grows⟩
  exact {
    refl := growing.refl
    trans := growing.trans
    scan := fun goal h => step h (growing.scan goal h.1)
    consume := fun token goal h => step h (growing.consume token goal h.1)
    recover := fun failure h => step h (growing.recover failure h.1)
    rewound := fun h after => step h (growing.rewound h.1 ⟨after.1.1, after.2⟩)
    isolated := fun h => ⟨growing.isolated h.1, h.2.numbered, h.2.tidy⟩
    rejoined := fun h after => step h (growing.rejoined h.1 ⟨after.1.1, after.2⟩)
    opened := fun h miss => ⟨h.1.whenOpened miss, h.2.whenOpened⟩
    closed := fun verdict h after => step h (growing.closed verdict h.1 ⟨after.1.1, after.2⟩) }

theorem accordsAnswer {rules : Rules} {depth : Nat} {task : Task} {first : Session} {name : String} {memo : Memo}
    (answers : Answers env rules depth task first name s memo) (h : (according env).holds s)
    (cache : Cache MemoKey Memo) (log : List Message) (subset : ∀ e ∈ cache.entries, e ∈ s.memo.entries) :
    (according env).Step s (({ s with memo := cache, log := log } : Session).replay memo).2 := by
  obtain ⟨after, g, grows⟩ := growsAnswer answers h.1 cache log subset
  exact ⟨⟨after, h.2.afterGrowth h.1 grows⟩, g, grows⟩

end Session

theorem Parser.Building.soundAndAccords {source : String} {definitions : List Definition} {p : Parser}
    (building : Parser.Building source definitions p) :
    p.setup.source = source.toList ∧ p.session.Sound p.setup ∧ p.session.Accords := by
  induction building with
  | @new p made =>
    obtain ⟨text, sound⟩ := (Parser.Reachable.new made).sourceAndSound
    obtain ⟨lexer, rfl⟩ := Parser.ofDefinitionsMade made
    exact ⟨text, sound, rfl, Growth.Tidy.refl Spot.first⟩
  | reset before =>
    exact ⟨before.sourceAndSound.1, Session.soundReset before.sourceAndSound.2, rfl, Growth.Tidy.refl Spot.first⟩
  | configured _ config ih =>
    obtain ⟨text, sound, accords⟩ := ih
    exact ⟨text, (sound.whenResized _).whenConfigured config, accords.numbered, accords.tidy⟩
  | adjusted _ f ih => exact ⟨ih.1, ih.2.1.whenConfigured _, ih.2.2⟩
  | ran _ rules body ih =>
    obtain ⟨text, sound, accords⟩ := ih
    obtain ⟨after, g, grows⟩ := sound.runGrows rules _ body
    exact ⟨text, after, accords.afterGrowth sound grows⟩
  | running _ rules body pauses ih =>
    obtain ⟨text, holds⟩ := ih
    exact ⟨text, (Session.accordingUpheld _).holdsAtPauses Session.accordsAnswer holds pauses⟩

namespace Session

section
variable {env : Setup} {s t : Session} {rules : Rules} {name rule : String}

theorem parseRuleOk {output : Output} (succeeds : (s.parseRule env rules name rule).1 = .ok output) :
    ∃ t root, invoke env rules env.config.maxRuleDepth name rule s.reset = (.ok, t) ∧
      t.root.getLast? = Option.some root ∧ output.root = root ∧ output.tokens = t.taken ∧
      output.fragments = root.topErrors ∧
      output.errors = root.topErrors.filterMap (fun node => (t.recoveries.find? (·.1 == node.range)).map (·.2)) ∧
      output.stats.errorsRecovered = t.recoveries.length ∧
      ∃ cursor, (t.scan env defaultGoal).1 = .ended cursor := by
  unfold parseRule at succeeds
  cases ran : invoke env rules env.config.maxRuleDepth name rule s.reset with
  | mk verdict t =>
    rw [ran] at succeeds
    cases verdict with
    | ok =>
      obtain ⟨found, scans, scan⟩ := scanChangesScans env defaultGoal t
      simp only [finish, scan] at succeeds
      cases found with
      | ended cursor =>
        cases last : t.root.getLast? with
        | none =>
          simp only [last] at succeeds
          cases succeeds
        | some root =>
          simp only [last] at succeeds
          cases succeeds
          exact ⟨t, root, rfl, last, rfl, rfl, rfl, rfl, rfl, cursor, congrArg Prod.fst scan⟩
      | token token next => cases succeeds
      | unrecognized cursor c => cases succeeds
    | mismatch => cases succeeds
    | fatal error => cases succeeds

theorem closedNode {memo : Cache MemoKey Memo} {r : Verdict × Session}
    (step : (growing env).Step (opened env name s memo) r.2) (ok : closed env name s r = (.ok, t)) :
    ∃ children, t.levels =
      (s.children ++ [Tree.ofRule name children s.state.offset s.state.position]) :: s.levels.tail := by
  obtain ⟨verdict, u⟩ := r
  obtain ⟨_, g, grows⟩ := step
  have framed : Framed name s g u := grows.framedByRule
  cases verdict with
  | ok =>
    obtain ⟨stats, log, eq⟩ := closedOk env name s u framed.inFrame
    rw [eq] at ok
    cases ok
    refine ⟨u.children, pushChildLevels ?_ _⟩
    exact framed.outer
  | mismatch =>
    obtain ⟨log, eq⟩ := closedMismatch env name s u
    rw [eq] at ok
    cases ok
  | fatal error =>
    obtain ⟨log, eq⟩ := closedFatal env name s u error
    rw [eq] at ok
    cases ok

theorem rememberedReset (env : Setup) (name : String) (s : Session) : s.reset.remembered env name = none := by
  unfold remembered
  split <;> rfl

theorem subruleEntry {body : Action}
    (fresh : (growing env).Step (opened env name s.reset (s.reset.asked env name))
      (body (opened env name s.reset (s.reset.asked env name))).2)
    (ok : subrule env name body s.reset = (.ok, t)) :
    ∃ children, t.root = [Tree.ofRule name children 0 LineCol.first] ∧ t.frames = [] := by
  have notOpen : ¬ s.reset.active.contains (s.reset.here name) := Bool.false_ne_true
  by_cases deep : env.config.maxRuleDepth ≤ s.reset.ruleStack.length
  · rw [subruleDeep body notOpen deep] at ok
    cases ok
  · rw [subruleFresh body ⟨notOpen, Nat.not_le.mp deep⟩ (rememberedReset env name s)] at ok
    obtain ⟨children, levels⟩ := closedNode fresh ok
    have levels : t.frames ++ [t.root] = [[Tree.ofRule name children 0 LineCol.first]] := levels
    rcases List.append_eq_singleton_iff.mp levels with ⟨frames, root⟩ | ⟨_, none⟩
    · exact ⟨children, (List.cons.inj root).1, frames⟩
    · exact absurd none (List.cons_ne_nil _ _)

theorem invokeEntry {depth : Nat} (h : s.Sound env) (ok : invoke env rules depth name rule s.reset = (.ok, t)) :
    ∃ children, t.root = [Tree.ofRule name children 0 LineCol.first] ∧ t.frames = [] := by
  have opened := (soundReset h).whenOpened (rememberedReset env name s)
  cases depth with
  | zero => exact subruleEntry ((growingUpheld env).stepToItself opened) ok
  | succ depth => exact subruleEntry (opened.runGrows rules depth (rules.body rule)) ok

structure Yields (env : Setup) (name : String) (output : Output) (t : Session) : Prop where
  sound : t.Sound env
  accords : t.Accords
  root : output.root.name = name
  forest : t.forest = [output.root]
  tokens : output.tokens = t.taken
  fragments : output.fragments = Tree.topErrorsAll t.forest
  errors : output.errors = output.fragments.filterMap fun node =>
    (t.recoveries.find? (·.1 == node.range)).map (·.2)
  recovered : output.stats.errorsRecovered = t.recoveries.length

theorem parseYields {output : Output} (h : s.Sound env) (succeeds : (s.parseRule env rules name rule).1 = .ok output) :
    ∃ t, Yields env name output t ∧ t.recoveries = (s.parseRule env rules name rule).2.recoveries := by
  obtain ⟨t, root, ran, last, rfl, tokens, fragments, errors, recovered, _⟩ := parseRuleOk succeeds
  obtain ⟨children, shown, frames⟩ := invokeEntry h ran
  have node : output.root = Tree.ofRule name children 0 LineCol.first := by
    rw [shown] at last
    exact (Option.some.inj last).symm
  have forest : t.forest = [output.root] := by
    rw [Session.forest, frames, shown, node]
    rfl
  have reset := soundReset h
  obtain ⟨sound, g, grows⟩ := reset.runGrows rules env.config.maxRuleDepth (.call name rule)
  rw [show exec env _ (.call name rule) s.reset = _ from ran] at sound grows
  have empty : s.reset.Accords := ⟨rfl, Growth.Tidy.refl Spot.first⟩
  have accords : t.Accords := empty.afterGrowth reset grows
  refine ⟨t, ⟨sound, accords, ?_, forest, tokens, ?_, ?_, recovered⟩, ?_⟩
  · rw [node]
    rfl
  · rw [fragments, forest, Tree.topErrorsAllSingleton]
  · rw [errors, fragments]
  · rw [parseRuleRecoveries, ran]

end
end Session

theorem findOwn {α β : Type} [BEq α] [LawfulBEq α] {entries : List (α × β)}
    (distinct : (entries.map Prod.fst).Nodup) {e : α × β} (member : e ∈ entries) :
    entries.find? (·.1 == e.1) = some e := by
  induction entries with
  | nil => exact nomatch member
  | cons first rest ih =>
    rw [List.map_cons, List.nodup_cons] at distinct
    rcases List.mem_cons.mp member with rfl | member
    · exact List.find?_cons_of_pos (beq_self_eq_true _)
    · have other : (first.1 == e.1) = false :=
        beq_false_of_ne fun same => distinct.1 (same ▸ List.mem_map_of_mem member)
      simp only [List.find?_cons, other]
      exact ih distinct.2 member

theorem pairedByKey {α β : Type} [BEq α] [LawfulBEq α] {entries : List (α × β)}
    (distinct : (entries.map Prod.fst).Nodup) :
    (entries.map Prod.fst).filterMap (fun key => (entries.find? (·.1 == key)).map (·.2)) = entries.map Prod.snd := by
  rw [List.filterMap_map, ← List.filterMap_eq_map]
  refine List.filterMap_congr fun e member => ?_
  simp only [Function.comp_apply, findOwn distinct member]
  rfl

theorem Spaced.rangesNodup {start stop : Nat} {ranges : List TextRange} (h : Spaced start ranges stop)
    (small : stop ≤ maxOffset) : ranges.Nodup := by
  obtain ⟨wide, ordered⟩ := h.rangesApart small
  refine List.pairwise_iff_forall_sublist.mpr ?_
  rintro r later sub rfl
  have behind := List.pairwise_iff_forall_sublist.mp ordered sub
  have := (wide r (sub.subset List.mem_cons_self)).2
  omega

namespace Parser

section
variable {source : String} {definitions : List Definition}

theorem treeAgrees (small : byteLength source.toList ≤ maxOffset) :
    (∀ p : Parser, Building source definitions p →
      Tree.leavesAll p.session.forest = p.session.taken.map Tree.ofToken ∧
      p.session.taken.length = p.session.state.tokenIndex ∧
      (∀ i (t : Token), p.session.taken[i]? = some t → t.index = i) ∧
      p.session.state.prev = p.session.taken.getLast?.map Token.kind ∧
      p.session.state.offset = (p.session.taken.getLast?.map (·.range.stop)).getD 0) ∧
    (∀ p : Parser, Reachable source definitions p → ∀ rules name rule output,
      (p.parse rules name rule).1 = .ok output →
      output.root.name = name ∧ output.root.leaves = output.tokens.map Tree.ofToken) := by
  refine ⟨fun p building => ?_, fun p reachable rules name rule output succeeds => ?_⟩
  · obtain ⟨text, sound, accords⟩ := building.soundAndAccords
    have tidy := accords.tidy
    have held : p.session.state.offset ≤ maxOffset := Nat.le_trans sound.inside (text ▸ small)
    refine ⟨tidy.leaves, sound.takenLength, fun i t found => ?_, ?_, ?_⟩
    · rw [← accords.numbered, Session.renumber, List.getElem?_mapIdx] at found
      obtain ⟨u, _, rfl⟩ := Option.map_eq_some_iff.mp found
      exact Nat.zero_add i
    · cases last : p.session.taken.getLast? with
      | none => exact congrArg Spot.prev (tidy.covers.still (List.getLast?_eq_none_iff.mp last))
      | some t => exact (tidy.covers.last t last).1
    · cases last : p.session.taken.getLast? with
      | none => exact congrArg Spot.offset (tidy.covers.still (List.getLast?_eq_none_iff.mp last))
      | some t =>
        have stop := (tidy.covers.last t last).2
        exact (stop.trans (clampOffsetWithin held)).symm
  · obtain ⟨t, yields, _⟩ := Session.parseYields reachable.sourceAndSound.2 succeeds
    have leaves := yields.accords.tidy.leaves
    refine ⟨yields.root, ?_⟩
    rw [yields.tokens, ← Tree.leavesAllSingleton, ← yields.forest]
    exact leaves

theorem treeAgreesInsideParse :
    Building "ca;b" Sample.definitions Sample.inside ∧ Sample.inside.session.state.tokenIndex = 1 ∧
      Tree.leavesAll Sample.inside.session.forest = Sample.inside.session.taken.map Tree.ofToken ∧
      ∃ output, (Sample.parser.parse Sample.rules "R" "R").1 = .ok output ∧ output.root.name = "R" ∧
        output.root.leaves = output.tokens.map Tree.ofToken := by
  have building : Building "ca;b" Sample.definitions Sample.inside :=
    ((Building.new (Parser.ofDefinitionsOfOption _)).configured _).ran _ _
  have reachable : Reachable "ca;b" Sample.definitions Sample.parser :=
    (Reachable.new (Parser.ofDefinitionsOfOption _)).configured _
  have small : byteLength "ca;b".toList ≤ maxOffset := by decide
  refine ⟨building, by decide +kernel, ((treeAgrees small).1 _ building).1, ?_⟩
  have succeeds : (Sample.parser.parse Sample.rules "R" "R").1.isOk := by decide +kernel
  cases result : (Sample.parser.parse Sample.rules "R" "R").1 with
  | error error =>
    rw [result] at succeeds
    exact nomatch succeeds
  | ok output => exact ⟨output, rfl, (treeAgrees small).2 _ reachable _ _ _ _ result⟩

theorem fragmentsTold (small : byteLength source.toList ≤ maxOffset) :
    (∀ p : Parser, Building source definitions p →
      (Tree.errorsAll p.session.forest).map Tree.told = p.session.recoveries.map Recovery.told) ∧
    (∀ p : Parser, Reachable source definitions p → ∀ rules name rule output,
      (p.parse rules name rule).1 = .ok output →
      output.errors.length = output.fragments.length ∧
      output.fragments.length = output.stats.errorsRecovered ∧
      output.fragments.map Tree.value = output.errors.map (fun error => some error.message) ∧
      (output.fragments.map Tree.range).zip output.errors = (p.parse rules name rule).2.session.recoveries ∧
      output.fragments.Pairwise fun fragment later => fragment.range.stop ≤ later.range.start) := by
  refine ⟨fun p building => ?_, fun p reachable rules name rule output succeeds => ?_⟩
  · obtain ⟨_, _, accords⟩ := building.soundAndAccords
    rw [accords.tidy.flat]
    exact accords.tidy.told
  · obtain ⟨text, sound⟩ := reachable.sourceAndSound
    obtain ⟨t, yields, recoveries⟩ := Session.parseYields sound succeeds
    have tidy := yields.accords.tidy
    have told : output.fragments.map Tree.told = t.recoveries.map Recovery.told := by
      rw [yields.fragments]
      exact tidy.told
    have ranges : output.fragments.map Tree.range = t.recoveries.map Prod.fst := by
      have := congrArg (List.map Prod.fst) told
      simpa [Tree.told, Recovery.told, Function.comp_def] using this
    have held : t.state.offset ≤ maxOffset := Nat.le_trans yields.sound.inside (text ▸ small)
    have errors : output.errors = t.recoveries.map Prod.snd := by
      rw [yields.errors, ← pairedByKey (tidy.spaced.rangesNodup held), ← ranges, List.filterMap_map]
      rfl
    refine ⟨?_, ?_, ?_, ?_, ?_⟩
    · rw [errors, List.length_map, ← List.length_map (f := Tree.range), ranges, List.length_map]
    · rw [yields.recovered, ← List.length_map (f := Tree.range), ranges, List.length_map]
    · have := congrArg (List.map Prod.snd) told
      rw [errors]
      simpa [Tree.told, Recovery.told, Function.comp_def] using this
    · rw [ranges, errors, ← List.zip_of_prod rfl rfl]
      exact recoveries
    · have ordered := (tidy.spaced.rangesApart held).2
      rw [show List.map Prod.fst _ = _ from ranges.symm] at ordered
      exact List.pairwise_map.mp ordered

theorem fragmentsToldOfOne :
    ∃ output, (Sample.parser.parse Sample.rules "R" "R").1 = .ok output ∧ output.fragments.length = 1 ∧
      output.errors.length = output.fragments.length ∧ output.fragments.length = output.stats.errorsRecovered ∧
      output.fragments.map Tree.value = output.errors.map fun error => some error.message := by
  have reachable : Reachable "ca;b" Sample.definitions Sample.parser :=
    (Reachable.new (Parser.ofDefinitionsOfOption _)).configured _
  have small : byteLength "ca;b".toList ≤ maxOffset := by decide
  have told := (fragmentsTold small).2 _ reachable Sample.rules "R" "R"
  have one : (Sample.parser.parse Sample.rules "R" "R").1.toOption.map (·.fragments.length) = some 1 := by
    decide +kernel
  cases result : (Sample.parser.parse Sample.rules "R" "R").1 with
  | error error =>
    rw [result] at one
    exact nomatch one
  | ok output =>
    obtain ⟨errors, recovered, values, _⟩ := told output result
    rw [result] at one
    exact ⟨output, rfl, Option.some.inj one, errors, recovered, values⟩

end
end Parser
end Packrat

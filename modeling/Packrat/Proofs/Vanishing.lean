import Packrat.Proofs.Grammar.Agreement
import Packrat.Proofs.LeftRecursion
import Packrat.Proofs.Session.Lenient

/-! What can vanish, in the grammar and in a parse. A nullable rule does not fail, and a rule that matches
without a token is nullable; so a branch that is reported to match nothing decides its choice. -/
namespace Packrat

namespace Node

theorem nodesAllAsFlatMap (nodes : List Node) : nodesAll nodes = nodes.flatMap Node.nodes := by
  induction nodes with
  | nil => rfl
  | cons n rest ih => simp [nodesAll, ih]

@[simp] theorem choicesInOrder (parts : List Node) (rule : Option String) :
    choices (.inOrder parts rule) = parts.flatMap choices := by
  simp only [choices, nodes, nodesAllAsFlatMap, List.filterMap_cons, List.filterMap_flatMap]
  rfl

@[simp] theorem choicesFirstOf (branches : List Node) :
    choices (.firstOf branches) = branches :: branches.flatMap choices := by
  simp only [choices, nodes, nodesAllAsFlatMap, List.filterMap_cons, List.filterMap_flatMap]
  rfl

@[simp] theorem choicesMany (body : Node) : choices (.many body) = body.choices := by
  simp [choices, nodes]

@[simp] theorem choicesSome (body : Node) : choices (.some body) = body.choices := by
  simp [choices, nodes]

@[simp] theorem choicesOptional (body : Node) : choices (.optional body) = body.choices := by
  simp [choices, nodes]

end Node

namespace Body

mutual

def choices : Body → List (List Body)
  | .inOrder parts => choicesAll parts
  | .firstOf branches => branches :: choicesAll branches
  | .many body => body.choices
  | .some body => body.choices
  | .optional body => body.choices
  | .consume _ _ => []
  | .call _ _ => []
  | .notAhead _ _ => []
  | .sameLine => []
  | .mismatch => []
  | .raise _ => []
  | .whenRecording _ _ => []
  | .attempt _ => []

def choicesAll : List Body → List (List Body)
  | [] => []
  | b :: rest => b.choices ++ choicesAll rest

end

theorem memChoicesAll {bodies : List Body} {branches : List Body} :
    branches ∈ choicesAll bodies ↔ ∃ b ∈ bodies, branches ∈ b.choices := by
  induction bodies with
  | nil => simp [choicesAll]
  | cons b rest ih => simp [choicesAll, ih]

theorem outlineEachAsMap (branches : List Body) :
    outlineEach branches = branches.map fun b => .inOrder b.outline none := by
  induction branches with
  | nil => rfl
  | cons b rest ih => simp [outlineEach, ih]

theorem choicesOutline (b : Body) : b.outline.flatMap Node.choices = b.choices.map outlineEach := by
  induction b using Body.induction with
  | inOrder parts ih =>
    rw [outline, choices]
    induction parts with
    | nil => rfl
    | cons b rest each =>
      rw [List.forall_mem_cons] at ih
      simp [outlineAll, choicesAll, ih.1, each ih.2]
  | firstOf branches ih =>
    have below : (outlineEach branches).flatMap Node.choices = (choicesAll branches).map outlineEach := by
      induction branches with
      | nil => rfl
      | cons b rest each =>
        rw [List.forall_mem_cons] at ih
        simp [outlineEach, choicesAll, ih.1, each ih.2]
    simp [outline, choices, below]
  | many body ih => simp [outline, choices, ih]
  | some body ih => simp [outline, choices, ih]
  | optional body ih => simp [outline, choices, ih]
  | _ => rfl

end Body

theorem Body.inChoices {motive : Body → Prop} (parts : ∀ bodies, motive (.inOrder bodies) → ∀ b ∈ bodies, motive b)
    (branches : ∀ bodies, motive (.firstOf bodies) → ∀ b ∈ bodies, motive b)
    (many : ∀ b, motive (.many b) → motive b) (once : ∀ b, motive (.some b) → motive b)
    (optional : ∀ b, motive (.optional b) → motive b) {b : Body} (holds : motive b) {bodies : List Body}
    (member : bodies ∈ b.choices) : ∀ b ∈ bodies, motive b := by
  induction b using Body.induction with
  | inOrder all ih =>
    obtain ⟨b, inside, member⟩ := Body.memChoicesAll.mp member
    exact ih b inside (parts all holds b inside) member
  | firstOf all ih =>
    have each := branches all holds
    rcases List.mem_cons.mp member with rfl | deeper
    · exact each
    · obtain ⟨b, inside, member⟩ := Body.memChoicesAll.mp deeper
      exact ih b inside (each b inside) member
  | many body ih => exact ih (many body holds) member
  | some body ih => exact ih (once body holds) member
  | optional body ih => exact ih (optional body holds) member
  | _ => exact nomatch member

theorem Rules.Carries.insideChoice {rules : Rules} {entry : String × String} {b : Body}
    (carries : rules.Carries entry b)
    {branches : List Body} (member : branches ∈ b.choices) : ∀ b ∈ branches, rules.Carries entry b :=
  Body.inChoices (fun _ carries => carries.insideParts) (fun _ carries => (Rules.carriesFirstOf.mp carries).insideParts)
    (fun _ carries => ⟨carries.unguarded, carries.calls⟩) (fun _ carries => ⟨carries.unguarded, carries.calls⟩)
    (fun _ carries => ⟨carries.unguarded, carries.calls⟩) carries member

theorem Grammar.recordedChoice {rules : Rules} {name entry : String} (plain : rules.Plain) {tokens : List Definition}
    {r : String × Node} (held : r ∈ (collect rules name entry tokens).1.rules) {n : Nat} {nodes : List Node}
    (choice : r.2.choices[n]? = some nodes) :
    ∃ own branches, rules.Reaches (name, entry) (r.1, own) ∧ (rules.body own).choices[n]? = some branches ∧
      nodes = branches.map fun b => .inOrder b.outline none := by
  obtain ⟨_, collecting, _⟩ := collectingUntilDone plain name entry tokens
  obtain ⟨own, reaches, body, _⟩ := collecting.recorded r held
  rw [body, Node.choicesInOrder, Body.choicesOutline, List.getElem?_map, Option.map_eq_some_iff] at choice
  obtain ⟨branches, choice, rfl⟩ := choice
  exact ⟨own, branches, reaches, choice, Body.outlineEachAsMap branches⟩

def Finding.PointsTo (x : Finding) (rules : Rules) (entry : String × String) (branches : List Body) (i : Nat) : Prop :=
  ∃ c n, rules.Reaches entry c ∧ x.rule = c.1 ∧ (rules.body c.2).choices[n]? = some branches ∧ x.choice = some n ∧
    x.branches = [i] ∧ i + 1 < branches.length

theorem Validation.emptyBranch {rules : Rules} {name entry : String} (plain : rules.Plain) {tokens : List Definition}
    {g : Grammar} (recorded : g = (Grammar.collect rules name entry tokens).1) {config : AnalyzerConfig}
    {clock : Nat → Nat} {x : Finding} (reported : x ∈ (validate g config clock).1.findings)
    (empty : x.kind = .emptyPath) :
    ∃ branches i b, x.PointsTo rules (name, entry) branches i ∧ branches[i]? = some b ∧
      Node.allNullable g.nullable.contains b.outline := by
  obtain ⟨r, held, n, _, i, _, known, at', less, vanishes, rule, number, which⟩ := validateEmpty reported empty
  subst recorded
  obtain ⟨own, branches, reaches, choice, rfl⟩ := Grammar.recordedChoice plain held known
  rw [List.getElem?_map, Option.map_eq_some_iff] at at'
  obtain ⟨b, at', rfl⟩ := at'
  rw [List.length_map] at less
  exact ⟨branches, i, b, ⟨(r.1, own), n, reaches, rule, choice, number, which, less⟩, at', vanishes⟩

namespace Session

variable {env : Setup} {g : Grammar} {rules : Rules} {entry : String × String} {s t : Session} {n : Nat}

theorem firstOfDecidedAppend {call : String → String → Action} {branches : List Body} (more : List Body)
    (decided : (exec env call (.firstOf branches) s).1 ≠ .mismatch) :
    exec env call (.firstOf (branches ++ more)) s = exec env call (.firstOf branches) s := by
  simp only [exec, execAllAsMap, List.map_append] at decided ⊢
  exact firstOfAppend _ decided

theorem Complies.branchDecides {call : String → String → Action} (complies : Complies env g rules entry n call)
    {branches : List Body} (carries : ∀ b ∈ branches, rules.Carries entry b) {i : Nat} {b : Body}
    (here : branches[i]? = Option.some b) (vanishes : Node.allNullable g.nullable.contains b.outline)
    (h : s.Recalls env g.Lenient n) (more : List Body) :
    Session.exec env call (.firstOf (branches.take (i + 1) ++ more)) s =
      Session.exec env call (.firstOf branches) s := by
  have member : b ∈ branches.take (i + 1) := by
    refine List.mem_of_getElem? (i := i) ?_
    rw [List.getElem?_take_of_lt (Nat.lt_succ_self i)]
    exact here
  have front : rules.Carries entry (.firstOf (branches.take (i + 1))) :=
    Rules.carriesFirstOf.mpr (Rules.carriesAll fun b inside => carries b (List.mem_of_mem_take inside))
  have decided : (Session.exec env call (.firstOf (branches.take (i + 1))) s).1 ≠ .mismatch := by
    refine complies.firmExec _ front ?_ s h
    simp only [Body.outline, Node.allNullable, Node.isNullable, Bool.and_true, Node.anyNullableIff]
    exact ⟨_, Body.memOutlineEach.mpr ⟨b, member, rfl⟩, vanishes⟩
  calc Session.exec env call (.firstOf (branches.take (i + 1) ++ more)) s
      = Session.exec env call (.firstOf (branches.take (i + 1))) s := firstOfDecidedAppend more decided
    _ = Session.exec env call (.firstOf (branches.take (i + 1) ++ branches.drop (i + 1))) s :=
        (firstOfDecidedAppend _ decided).symm
    _ = Session.exec env call (.firstOf branches) s := by rw [List.take_append_drop]

theorem vanishedIsNullable (describes : g.Describes rules entry) (sound : s.Sound env) (knows : s.Knows env g) {d : Nat}
    {c : String × String} (reaches : rules.Reaches entry c) (ran : invoke env rules d c.1 c.2 s = (.ok, t))
    (still : t.state.tokenIndex = s.state.tokenIndex) : c.1 ∈ g.nullable := by
  have here : Reached env rules d (.body (.call c.1 c.2)) s d (.body (.call c.1 c.2)) s := .start
  have conforms := conformsInvoke describes d reaches s here sound knows
  rw [ran] at conforms
  obtain ⟨_, growth, grows⟩ := conforms.step
  have none : growth.tokens = [] := by
    have index : t.state.tokenIndex = s.state.tokenIndex + growth.tokens.length := grows.index
    exact List.eq_nil_of_length_eq_zero (by omega)
  simpa [Node.allNullable, Node.isNullable] using conforms.vanishesWhenStill sound
    (grows.covers.standsStillIff.mpr none)

end Session

namespace Parser

theorem nullableExact {rules : Rules} {name entry : String} (unguarded : rules.Unguarded (name, entry))
    (agree : rules.NamesAgree name entry) {tokens : List Definition} {g : Grammar}
    (recorded : g = (Grammar.collect rules name entry tokens).1)
    {source : String} {definitions : List Definition} {p : Parser} (reachable : Reachable source definitions p)
    {first : String × String} (begins : rules.Reaches (name, entry) first) {t : Session}
    (passes : Session.Passes p.setup rules p.config.maxRuleDepth (.body (.call first.1 first.2)) p.session.reset t)
    {d : Nat} (levels : p.config.maxRuleDepth ≤ d + t.ruleStack.length) :
    (∀ c, rules.Reaches (name, entry) c → c.1 ∈ g.nullable →
      (Session.invoke p.setup rules d c.1 c.2 t).1 ≠ .mismatch) ∧
    (∀ b, rules.Carries (name, entry) b → Node.allNullable g.nullable.contains b.outline →
      (Session.exec p.setup (Session.invoke p.setup rules d) b t).1 ≠ .mismatch) ∧
    (∀ config clock, ∀ x ∈ (Validation.validate g config clock).1.findings, x.kind = .emptyPath →
      ∃ branches i, x.PointsTo rules (name, entry) branches i ∧ ∀ more,
        Session.exec p.setup (Session.invoke p.setup rules d) (.firstOf (branches.take (i + 1) ++ more)) t =
          Session.exec p.setup (Session.invoke p.setup rules d) (.firstOf branches) t) ∧
    (∀ c u, rules.Reaches (name, entry) c → Session.invoke p.setup rules d c.1 c.2 t = (.ok, u) →
      u.state.tokenIndex = t.state.tokenIndex → c.1 ∈ g.nullable) := by
  have describes : g.Describes rules (name, entry) := recorded ▸ Grammar.collectDescribes unguarded.isPlain agree tokens
  have distinct : g.Distinct := recorded ▸ Grammar.collectDistinct rules name entry tokens
  have sound := Session.soundReset reachable.sourceAndSound.2
  have carries : rules.Carries (name, entry) (.call first.1 first.2) :=
    ⟨rfl, fun _ called => List.mem_singleton.mp called ▸ begins⟩
  have lenient := passes.memoLenient describes distinct unguarded carries (n := 0) (Nat.le_refl _)
    ⟨sound, (fun _ member => nomatch member), Nat.le_refl _⟩
  have here : t.Recalls p.setup g.Lenient t.ruleStack.length := ⟨passes.keepsSound sound, lenient, Nat.le_refl _⟩
  have complies : Session.Complies p.setup g rules (name, entry) t.ruleStack.length (Session.invoke p.setup rules d) :=
    Session.invokeComplies describes distinct unguarded d levels
  refine ⟨fun c reaches vanishes => complies.firm c reaches vanishes t here,
    fun b carries vanishes => complies.firmExec b carries vanishes t here, fun config clock x reported empty => ?_,
    fun c u reaches ran still => ?_⟩
  · obtain ⟨branches, i, b, points, at', vanishes⟩ := Validation.emptyBranch unguarded.isPlain recorded reported empty
    refine ⟨branches, i, points, complies.branchDecides ?_ at' vanishes here⟩
    obtain ⟨c, n, reaches, _, choice, _⟩ := points
    exact (unguarded.bodyCarries reaches).insideChoice (List.mem_of_getElem? choice)
  · have knows := passes.knowsGrammar describes sound (Session.nestedCall begins p.setup g p.session)
    exact Session.vanishedIsNullable describes here.sound knows reaches ran still

namespace Sample

def masking : Rules :=
  [("E", .inOrder [.consume "a" defaultGoal, .firstOf [.call "N" "N", .consume "b" defaultGoal]]),
    ("N", .firstOf [.inOrder [.consume "c" defaultGoal, .call "E" "E"], .many (.consume "S" defaultGoal)])]

def masked : Parser := (Parser.ofDefinitions "ab" definitions).toOption.get (by decide +kernel)

def maskedGrammar : Grammar := (Grammar.collect masking "E" "E" definitions).1

def inMasked : Session :=
  Session.opened masked.setup "E" masked.session.reset (masked.session.reset.asked masked.setup "E")

def beforeChoice : Session :=
  (Session.exec masked.setup (Session.invoke masked.setup masking 999) (.consume "a" defaultGoal) inMasked).2

end Sample

theorem nullableExactMasked :
    (Session.invoke Sample.masked.setup Sample.masking 999 "N" "N" Sample.beforeChoice).1 = .ok ∧
      (Session.invoke Sample.masked.setup Sample.masking 999 "N" "N" Sample.beforeChoice).2.state.tokenIndex =
        Sample.beforeChoice.state.tokenIndex ∧
      "N" ∈ Sample.maskedGrammar.nullable ∧
      ∃ x ∈ (Validation.validate Sample.maskedGrammar {} fun _ => 0).1.findings, x.kind = .emptyPath ∧
        ∃ branches i, x.PointsTo Sample.masking ("E", "E") branches i ∧ ∀ more,
          Session.exec Sample.masked.setup (Session.invoke Sample.masked.setup Sample.masking 999)
              (.firstOf (branches.take (i + 1) ++ more)) Sample.beforeChoice =
            Session.exec Sample.masked.setup (Session.invoke Sample.masked.setup Sample.masking 999)
              (.firstOf branches) Sample.beforeChoice := by
  have unguarded : Sample.masking.Unguarded ("E", "E") := ⟨by decide, Rules.presentOf (by decide) (by decide)⟩
  have agree : Sample.masking.NamesAgree "E" "E" := Rules.namesAgreeOf (by decide) "E"
  have reachable : Reachable "ab" Sample.definitions Sample.masked := .new (Parser.ofDefinitionsOfOption _)
  have body : Sample.masking.body "E" =
      .inOrder [.consume "a" defaultGoal, .firstOf [.call "N" "N", .consume "b" defaultGoal]] := by
    simp [Rules.body, Sample.masking]
  have limit : Sample.masked.config.maxRuleDepth = 1000 := by decide +kernel
  have entered : Session.Reached Sample.masked.setup Sample.masking 1000 (.body (.call "E" "E"))
      Sample.masked.session.reset 999 (.body (Sample.masking.body "E")) Sample.inMasked :=
    .enter .start ⟨by decide +kernel, by decide +kernel⟩ (Option.isNone_iff_eq_none.mp (by decide +kernel))
  have passes : Session.Passes Sample.masked.setup Sample.masking 1000 (.body (.call "E" "E"))
      Sample.masked.session.reset Sample.beforeChoice :=
    ⟨999, _, _, .within (body ▸ entered) (.next (Prod.ext (by decide +kernel) rfl)), .inl rfl⟩
  obtain ⟨_, _, decides, vanishes⟩ := nullableExact unguarded agree (g := Sample.maskedGrammar) rfl reachable .entry
    (limit ▸ passes) (d := 999) (by decide +kernel)
  have matched : (Session.invoke Sample.masked.setup Sample.masking 999 "N" "N" Sample.beforeChoice).1 = .ok := by
    decide +kernel
  have still : (Session.invoke Sample.masked.setup Sample.masking 999 "N" "N" Sample.beforeChoice).2.state.tokenIndex =
      Sample.beforeChoice.state.tokenIndex := by decide +kernel
  have reaches : Sample.masking.Reaches ("E", "E") ("N", "N") := .call .entry (by rw [body]; decide)
  have reported : (Validation.validate Sample.maskedGrammar {} fun _ => 0).1.findings.any (·.kind == .emptyPath) := by
    decide +kernel
  obtain ⟨x, member, empty⟩ := List.any_eq_true.mp reported
  have empty : x.kind = .emptyPath := by simpa using empty
  exact ⟨matched, still, vanishes ("N", "N") _ reaches (Prod.ext matched rfl) still, x, member, empty,
    decides {} (fun _ => 0) x member empty⟩

end Parser
end Packrat

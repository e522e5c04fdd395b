import Packrat.Proofs.Session.Spelling

/-! Line breaks before tokens. Each token of a parse tells whether a line ends in the gap before it, but for
those that recovery makes of characters no definition fits. -/
namespace Packrat

inductive Laid : Nat → List Char → List (List Char × Token) → Prop where
  | nil {offset rest} : Laid offset rest []
  | cons {offset gap text rest t laid} (some : text ≠ []) (same : t.text = String.ofList text)
      (range : t.range = .ofOffsets (offset + byteLength gap) (offset + byteLength gap + byteLength text))
      (later : Laid (offset + byteLength gap + byteLength text) rest laid) :
      Laid offset (gap ++ (text ++ rest)) ((gap, t) :: laid)

theorem Spelled.laidOut {env : Setup} {m n : Nat} {tokens : List Token} (h : Spelled env m tokens n)
    {before rest : List Char} (whole : env.source = before ++ rest) (length : byteLength before = m) :
    ∃ laid : List (List Char × Token), laid.map Prod.snd = tokens ∧ Laid m rest laid ∧
      ∀ e ∈ laid, e.2.TellsBreak env e.1 := by
  induction h generalizing before rest with
  | nil => exact ⟨[], rfl, .nil, fun _ member => nomatch member⟩
  | @cons start gap t stop tokens last behind tells _ ih =>
    obtain ⟨before', text, after, cut, length', stops, some, same⟩ := behind.cut
    obtain rfl : before = before' := prefixOfLength (whole.symm.trans cut) (length.trans length'.symm)
    obtain rfl : rest = gap ++ (text ++ after) := List.append_cancel_left (whole.symm.trans cut)
    subst stops
    have further : env.source = (before ++ (gap ++ text)) ++ after := by simp [cut]
    have reached : byteLength (before ++ (gap ++ text)) = start + byteLength gap + byteLength text := by
      rw [byteLengthAppend, byteLengthAppend, length, Nat.add_assoc]
    obtain ⟨laid, tokens', later, all⟩ := ih further reached
    refine ⟨(gap, t) :: laid, congrArg (t :: ·) tokens', .cons some same behind.range later, fun e member => ?_⟩
    rcases List.mem_cons.mp member with rfl | member
    · exact tells
    · exact all e member

theorem Token.Unrecognized.breakSilent {env : Setup} {t : Token} (h : t.Unrecognized env) : t.breakBefore = false := by
  obtain ⟨_, _, stop, c, _, same⟩ := h
  rw [same]
  rfl

theorem Token.TellsBreak.breakToldIff {env : Setup} {t : Token} {gap : List Char} (h : t.TellsBreak env gap) :
    t.breakBefore = true ↔ gap.any isTerminator = true ∧ ¬ t.Unrecognized env := by
  constructor
  · intro told
    have known : ¬ t.Unrecognized env := fun unrecognized => nomatch unrecognized.breakSilent.symm.trans told
    rcases h with same | ⟨_, unrecognized⟩
    · exact ⟨same.symm.trans told, known⟩
    · exact absurd unrecognized known
  · rintro ⟨ends, known⟩
    rcases h with same | ⟨_, unrecognized⟩
    · exact same.trans ends
    · exact absurd unrecognized known

namespace Parser

theorem breaksTold {source : String} {definitions : List Definition} {p : Parser}
    (reachable : Reachable source definitions p) {rules : Rules} {name rule : String} {output : Output}
    (succeeds : (p.parse rules name rule).1 = .ok output) :
    ∃ laid : List (List Char × Token), laid.map Prod.snd = output.tokens ∧ Laid 0 source.toList laid ∧
      ∀ gap t, (gap, t) ∈ laid →
        (t.breakBefore = true ↔ gap.any isTerminator = true ∧ ¬ t.Unrecognized p.setup) ∧
        (p.config.recover = false → t.breakBefore = gap.any isTerminator) := by
  obtain ⟨text, sound⟩ := reachable.sourceAndSound
  obtain ⟨t, _, ran, _, _, tokens, _⟩ := Session.parseRuleOk succeeds
  have fresh : (Session.spelling p.setup).holds p.session.reset :=
    ⟨Session.soundReset sound, fun _ member => nomatch member⟩
  obtain ⟨_, _, read, spells⟩ := (Session.spellingNested p.setup).invokeObeys Session.spellsAnswer
    (Session.spellingTaking rules p.config.maxRuleDepth (.call name rule) p.session.reset)
    p.config.maxRuleDepth name rule p.session.reset .start fresh
  rw [show Session.invoke p.setup rules p.config.maxRuleDepth name rule p.session.reset = _ from ran] at spells
  have taken : output.tokens = Session.renumber 0 read := tokens.trans spells.taken
  have whole : p.setup.source = [] ++ source.toList := text
  obtain ⟨laid, same, covered, tells⟩ := (spells.spelled.whenRenumbered 0).laidOut whole rfl
  refine ⟨laid, same.trans taken.symm, covered, fun gap t member => ?_⟩
  have told := tells _ member
  refine ⟨told.breakToldIff, fun off => ?_⟩
  rcases told with same | ⟨on, _⟩
  · exact same
  · exact nomatch off.symm.trans on

namespace Sample

def endings : List Definition :=
  [{ name := "a", shape := .literal "a" }, { name := "S", shape := .literal ";" },
    { name := "Break", shape := .literal "\n", skip := true }]

def statements : Rules := [("R", .many (.inOrder [.consume "a" defaultGoal, .consume "S" defaultGoal]))]

def stray : Parser :=
  ((Parser.ofDefinitions "a\n@\n;" endings).toOption.get (by decide +kernel)).withConfig
    { recover := true, syncTokens := ["S"] }

end Sample

theorem breaksToldAroundStray :
    ∃ output laid, (Sample.stray.parse Sample.statements "R" "R").1 = .ok output ∧
      laid.map Prod.snd = output.tokens ∧ Laid 0 "a\n@\n;".toList laid ∧
      output.tokens.map Token.breakBefore = [false, false, true] ∧
      ∀ gap t, (gap, t) ∈ laid →
        (t.breakBefore = true ↔ gap.any isTerminator = true ∧ ¬ t.Unrecognized Sample.stray.setup) := by
  have reachable : Reachable "a\n@\n;" Sample.endings Sample.stray :=
    (Reachable.new (Parser.ofDefinitionsOfOption _)).configured _
  have flags : (Sample.stray.parse Sample.statements "R" "R").1.toOption.map (·.tokens.map Token.breakBefore) =
      some [false, false, true] := by
    decide +kernel
  cases result : (Sample.stray.parse Sample.statements "R" "R").1 with
  | error error =>
    rw [result] at flags
    exact nomatch flags
  | ok output =>
    rw [result] at flags
    obtain ⟨laid, tokens, covered, told⟩ := breaksTold reachable result
    exact ⟨output, laid, rfl, tokens, covered, Option.some.inj flags, fun gap t member => (told gap t member).1⟩

theorem breakUntoldAtStray :
    ∃ output t made rest, (Sample.stray.parse Sample.statements "R" "R").1 = .ok output ∧
      output.tokens = t :: made :: rest ∧
      (TextRange.slice ⟨t.range.stop, made.range.start⟩ "a\n@\n;".toList).any isTerminator = true ∧
      made.breakBefore = false := by
  have told : (Sample.stray.parse Sample.statements "R" "R").1.toOption.map
      (·.tokens.map fun t => (t.range, t.breakBefore)) =
        some [(⟨0, 1⟩, false), (⟨2, 3⟩, false), (⟨4, 5⟩, true)] := by
    decide +kernel
  cases result : (Sample.stray.parse Sample.statements "R" "R").1 with
  | error error =>
    rw [result] at told
    exact nomatch told
  | ok output =>
    rw [result] at told
    obtain ⟨t, _, tokens, first, later⟩ := List.map_eq_cons_iff.mp (Option.some.inj told)
    obtain ⟨made, rest, rfl, second, _⟩ := List.map_eq_cons_iff.mp later
    obtain ⟨range, _⟩ := Prod.mk.inj first
    obtain ⟨range', silent⟩ := Prod.mk.inj second
    refine ⟨output, t, made, rest, rfl, tokens, ?_, silent⟩
    rw [range, range']
    decide

end Parser
end Packrat

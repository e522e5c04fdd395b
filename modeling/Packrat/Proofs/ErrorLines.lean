import Packrat.Proofs.ErrorSpans

/-! The line of an error. The excerpt is cut out at line feeds, so it shows the line and column that an error
reports exactly if no other line end stands in what it prints. -/
namespace Packrat

def linesOf (text : List Char) : List (List Char) := text.splitOnP isTerminator

def lineBefore (before : List Char) : List Char := before.rtakeWhile (!isTerminator ·)

def lineBehind (rest : List Char) : List Char := rest.takeWhile (!isTerminator ·)

theorem lineBeforeConcat (before : List Char) (c : Char) :
    lineBefore (before ++ [c]) = if isTerminator c then [] else lineBefore before ++ [c] := by
  rw [lineBefore, List.rtakeWhile_concat]
  cases isTerminator c <;> rfl

theorem linesOfCons (c : Char) (rest : List Char) :
    linesOf (c :: rest) = if isTerminator c then [] :: linesOf rest else (linesOf rest).modifyHead (c :: ·) :=
  List.splitOnP_cons_eq_if_modifyHead c rest

theorem linesOfByFirst (rest : List Char) : linesOf rest = lineBehind rest :: (linesOf rest).tail := by
  induction rest with
  | nil => rfl
  | cons c rest ih =>
    rw [linesOfCons, lineBehind]
    by_cases ends : isTerminator c
    · simp [ends]
    · rw [if_neg ends, ih]
      simp [ends, lineBehind]

theorem linesOfAppend (before rest : List Char) :
    (linesOf (before ++ rest)).drop (before.countP isTerminator) =
      (lineBefore before ++ lineBehind rest) :: (linesOf rest).tail := by
  induction before using List.reverseRecOn generalizing rest with
  | nil => exact linesOfByFirst rest
  | append_singleton before c ih =>
    have behind := ih (c :: rest)
    rw [linesOfCons] at behind
    rw [List.append_assoc, List.singleton_append, List.countP_append, List.countP_singleton, lineBeforeConcat]
    by_cases ends : isTerminator c
    · rw [if_pos ends] at behind
      rw [if_pos ends, if_pos ends, ← List.drop_drop, behind]
      exact linesOfByFirst rest
    · rw [if_neg ends] at behind
      rw [if_neg ends, if_neg ends, Nat.add_zero, behind, linesOfByFirst rest]
      simp [lineBehind, ends]

theorem LineCol.afterFirstLine {text : List Char} (whole : NoPairs text) :
    after text .first = ⟨text.countP isTerminator + 1, (lineBefore text).length⟩ := by
  rw [afterFold whole]
  clear whole
  induction text using List.reverseRecOn with
  | nil => rfl
  | append_singleton text c ih =>
    rw [List.foldl_append, ih, List.countP_append, List.countP_singleton, lineBeforeConcat]
    show past _ c = _
    unfold past
    split
    · simp
    · simp

theorem takeWhileNarrower {p q : Char → Bool} {text : List Char} (narrower : ∀ c, q c = false → p c = false)
    (all : ∀ c ∈ text.takeWhile q, p c = true) : text.takeWhile p = text.takeWhile q := by
  induction text with
  | nil => rfl
  | cons c rest ih =>
    cases goes : q c with
    | false =>
      rw [List.takeWhile_cons, List.takeWhile_cons, goes, narrower c goes]
      rfl
    | true =>
      rw [List.takeWhile_cons, goes, if_pos rfl, List.forall_mem_cons] at all
      rw [List.takeWhile_cons, List.takeWhile_cons, goes, all.1, if_pos rfl, if_pos rfl, ih all.2]

theorem feedEnds (c : Char) (feed : (c != '\n') = false) : (!isTerminator c) = false := by
  obtain rfl : c = '\n' := by simpa using feed
  rfl

theorem lineBeforePlain {before : List Char} (plain : ∀ c ∈ lastLine before, isTerminator c = false) :
    lineBefore before = lastLine before := by
  refine congrArg List.reverse (takeWhileNarrower feedEnds fun c member => ?_)
  rw [plain c (List.mem_reverse.mpr member)]
  rfl

theorem lineBehindPlain {rest : List Char} (plain : ∀ c ∈ rest.takeWhile (· != '\n'), isTerminator c = false) :
    lineBehind rest = rest.takeWhile (· != '\n') := by
  refine takeWhileNarrower feedEnds fun c member => ?_
  rw [plain c member]
  rfl

theorem lineAroundPlain {before rest : List Char} {c : Char} (member : c ∈ lineBefore before ++ lineBehind rest) :
    isTerminator c = false := by
  rcases List.mem_append.mp member with member | member
  · simpa using List.mem_rtakeWhile_imp member
  · simpa using List.mem_takeWhile_imp member

theorem printedSingle (before rest : List Char) : '\n' ∉ lastLine before ++ rest.takeWhile (· != '\n') := by
  intro member
  rcases List.mem_append.mp member with member | member
  · exact absurd (List.mem_takeWhile_imp (List.mem_reverse.mp member)) (by decide)
  · exact absurd (List.mem_takeWhile_imp member) (by decide)

namespace ParseError

def Shows (e : ParseError) (source line : List Char) (column : Nat) : Prop :=
  e.excerpt source = e.shown line column (max (e.span.slice source).length 1)

instance (e : ParseError) (source line : List Char) (column : Nat) : Decidable (e.Shows source line column) := by
  unfold Shows; infer_instance

theorem shownInjective {e : ParseError} {line other : List Char} {column column' width : Nat} (single : '\n' ∉ line)
    (single' : '\n' ∉ other) (same : e.shown line column width = e.shown other column' width) :
    line = other ∧ column = column' := by
  have upToFeed : ∀ {text more : List Char}, '\n' ∉ text → (text ++ '\n' :: more).takeWhile (· != '\n') = text := by
    intro text more single
    rw [List.takeWhile_append_of_pos fun c member => by simpa using ne_of_mem_of_not_mem member single]
    simp
  have texts := congrArg String.toList same
  simp only [shown, String.toList_append, String.toList_ofList, List.append_assoc, List.append_cancel_left_eq] at texts
  have lines : line = other := by
    have cut := congrArg (List.takeWhile (· != '\n')) texts
    rwa [show "\n  | ".toList = '\n' :: "  | ".toList from rfl, List.cons_append, List.cons_append, upToFeed single,
      upToFeed single'] at cut
  subst lines
  refine ⟨rfl, ?_⟩
  have lengths := congrArg List.length texts
  simp only [List.length_append, List.length_replicate] at lengths
  omega

theorem showsIff {source before rest : List Char} {e : ParseError} {position : LineCol} (whole : NoPairs source)
    (cut : before ++ rest = source) (start : e.span.start = byteLength before)
    (counted : CountedBehind before position) : ∃ line, (linesOf source)[position.line - 1]? = some line ∧
      position = LineCol.after before .first ∧
      e.Shows source (lastLine before ++ rest.takeWhile (· != '\n')) (lastLine before).length ∧
      (e.Shows source line position.column ↔
        ∀ c ∈ lastLine before ++ rest.takeWhile (· != '\n'), isTerminator c = false) := by
  have whole' : NoPairs before := whole.withinPart (cut ▸ (List.prefix_append before rest).isInfix)
  have shows : e.Shows source (lastLine before ++ rest.takeWhile (· != '\n')) (lastLine before).length := by
    rw [← cut]
    exact e.excerptShowsLine start
  obtain rfl : position = LineCol.after before .first := by
    obtain ⟨extra, few, same⟩ := counted
    rw [whole'.pairsNone, Nat.le_zero] at few
    rw [same, few]
    rfl
  rw [LineCol.afterFirstLine whole', Nat.add_sub_cancel]
  refine ⟨lineBefore before ++ lineBehind rest, ?_, rfl, shows, ?_⟩
  · rw [← cut, ← List.head?_drop, linesOfAppend, List.head?_cons]
  constructor
  · intro right c member
    have single : '\n' ∉ lineBefore before ++ lineBehind rest := fun member =>
      absurd (lineAroundPlain member) (by decide)
    obtain ⟨same, _⟩ := shownInjective (printedSingle before rest) single (shows.symm.trans right)
    exact lineAroundPlain (same ▸ member)
  · intro plain
    rw [List.forall_mem_append] at plain
    rw [lineBeforePlain plain.1, lineBehindPlain plain.2]
    exact shows

end ParseError

namespace Parser

theorem excerptsPoint {source : String} {definitions : List Definition} {p : Parser}
    (reachable : Reachable source definitions p) (whole : NoPairs source.toList) {rules : Rules} {name rule : String}
    {error : ParseError} (fails : (p.parse rules name rule).1 = .error error) {position : LineCol}
    (told : error.position? = some position) (held : error.span.start < maxOffset) :
    p.Raises rules name rule error ∨ ∃ before rest line, before ++ rest = source.toList ∧
      error.span.start = byteLength before ∧ position = LineCol.after before .first ∧
      error.Shows source.toList (lastLine before ++ rest.takeWhile (· != '\n')) (lastLine before).length ∧
      (linesOf source.toList)[position.line - 1]? = some line ∧
      (error.Shows source.toList line position.column ↔
        ∀ c ∈ lastLine before ++ rest.takeWhile (· != '\n'), isTerminator c = false) := by
  refine ((reachable.errorsLocated rules name rule).1 error fails).imp_right ?_
  rintro ⟨before, text, about⟩
  obtain ⟨rest, cut⟩ := about.cut
  rw [List.append_assoc] at cut
  have start : error.span.start = byteLength before := by
    have span : error.span.start = min (byteLength before) maxOffset := congrArg TextRange.start about.span
    omega
  obtain ⟨line, there, same, shows, iff⟩ := ParseError.showsIff whole cut start (about.position position told)
  exact ⟨before, text ++ rest, line, cut, start, same, shows, there, iff⟩

theorem errorOf {α : Type} {result : Except ParseError Output} {f : ParseError → α} {a : α}
    (told : (result.mapError f).map (fun _ => ()) = .error a) : ∃ error, result = .error error ∧ f error = a := by
  cases result with
  | ok => cases told
  | error error => exact ⟨error, rfl, Except.error.inj told⟩

namespace Sample

def late : Parser := (Parser.ofDefinitions "a;\na@" endings).toOption.get (by decide +kernel)

end Sample

theorem excerptsPointLate :
    NoPairs "a;\na@".toList ∧ ∃ error, (Sample.late.parse Sample.statements "R" "R").1 = .error error ∧
      error.position? = some ⟨2, 1⟩ ∧ error.span.start < maxOffset ∧ error.Shows "a;\na@".toList "a@".toList 1 := by
  have whole : NoPairs "a;\na@".toList := by decide
  have reachable : Reachable "a;\na@" Sample.endings Sample.late := .new (Parser.ofDefinitionsOfOption _)
  have told : ((Sample.late.parse Sample.statements "R" "R").1.mapError fun e => (e.position?, e.span)).map
      (fun _ => ()) =
      .error (some ⟨2, 1⟩, ⟨4, 5⟩) := by
    decide +kernel
  obtain ⟨error, result, shown⟩ := errorOf told
  obtain ⟨position, span⟩ := Prod.mk.inj shown
  have held : error.span.start < maxOffset := by
    rw [span]
    decide
  refine ⟨whole, error, result, position, held, ?_⟩
  rcases excerptsPoint reachable whole result position held with raised
    | ⟨before, rest, line, cut, start, _, _, there, iff⟩
  · exact absurd raised (Session.notRaised (by decide +kernel) error)
  · obtain rfl : "a@".toList = line := Option.some.inj there
    refine iff.mpr ?_
    obtain rfl : before = "a;\na".toList := by
      have same : byteLength before = byteLength "a;\na".toList := by
        rw [← start, span]
        rfl
      exact prefixOfLength (cut : before ++ rest = "a;\na".toList ++ ['@']) same
    obtain rfl : rest = ['@'] := List.append_cancel_left cut
    have plain : (lastLine "a;\na".toList ++ ['@'].takeWhile (· != '\n')).any isTerminator = false := by decide
    exact fun c member => eq_false_of_ne_true (List.any_eq_false.mp plain c member)

namespace Sample

def required : Rules := [("R", .inOrder [.consume "a" defaultGoal, .consume "S" defaultGoal])]

def carriages : List Definition :=
  [{ name := "a", shape := .literal "a" }, { name := "S", shape := .literal ";" },
    { name := "Break", shape := .literal "\r", skip := true }]

def returned : Parser := (Parser.ofDefinitions "a\rb" carriages).toOption.get (by decide +kernel)

end Sample

theorem excerptMissesPastReturn : ¬ ∀ source definitions p, Reachable source definitions p → NoPairs source.toList →
    ∀ rules name rule error position line, (p.parse rules name rule).1 = .error error →
      ¬ p.Raises rules name rule error → error.expected?.isSome → error.position? = some position →
      (linesOf source.toList)[position.line - 1]? = some line → error.Shows source.toList line position.column := by
  intro points
  have reachable : Reachable "a\rb" Sample.carriages Sample.returned := .new (Parser.ofDefinitionsOfOption _)
  have seen : ((Sample.returned.parse Sample.required "R" "R").1.mapError fun e =>
      (e.expected?.isSome, e.position?, decide (e.Shows "a\rb".toList ['b'] 0))).map (fun _ => ()) =
        .error (true, some ⟨2, 0⟩, false) := by
    decide +kernel
  obtain ⟨error, result, told⟩ := errorOf seen
  obtain ⟨expected, told⟩ := Prod.mk.inj told
  obtain ⟨position, apart⟩ := Prod.mk.inj told
  exact of_decide_eq_false apart (points _ _ _ reachable (by decide) Sample.required "R" "R" error ⟨2, 0⟩ ['b'] result
    (Session.notRaised (by decide +kernel) error) expected position (by decide))

end Parser
end Packrat

import Packrat.Proofs.Session.Counting

/-! What a parser remembers of the text ahead. A scan is the reading that counts the text before in one pass,
moved down by a line for some of its line ends of two characters. -/
namespace Packrat

namespace Session

variable {env : Setup} {s : Session}

theorem Counted.whenConfigured (h : s.Counted env) (config : ParserConfig) : s.Counted { env with config := config } :=
  ⟨h.here, h.scans, h.memo⟩

theorem countedReset (h : s.Counted env) : s.reset.Counted env :=
  ⟨Cursor.firstCounted _, h.scans, fun _ member => nomatch member⟩

theorem Counted.whenFinished (h : s.Counted env) : (finish env s).2.Counted env := by
  obtain ⟨found, scans, scan, _, known⟩ := h.afterScan defaultGoal
  obtain ⟨root, furthest, tokens, left, _⟩ := finishSession env s
  rw [left, scan]
  exact ⟨known.here, known.scans, known.memo⟩

theorem countedDurable (source : List Char) : Durable source fun env s => s.Counted env where
  new := fun _ => ⟨Cursor.firstCounted _, fun _ member => (nomatch member), fun _ member => nomatch member⟩
  reset := countedReset
  passes := fun h passes => (countingKept _).holdsInPasses countsAnswer h passes
  finished := Counted.whenFinished
  told := fun h _ _ => ⟨h.here, h.scans, h.memo⟩
  configured := Counted.whenConfigured
  resized := fun h _ => ⟨h.here, h.scans, fun e member => h.memo e (List.mem_of_mem_take member)⟩

def inOnePass (env : Setup) (goal : Goal) (before : List Char) (s : Session) : Scan :=
  env.lexer.readToken env.source { Cursor.first.advance before with depth := s.state.depth } goal s.state.prev

theorem Counted.scanBelow (h : s.Counted env) (goal : Goal) {before rest : List Char}
    (cut : before ++ rest = env.source) (offset : s.state.offset = byteLength before) :
    (∃ kept ≤ pairs before, (s.scan env goal).1 = (s.inOnePass env goal before).below kept) ∧
      ∃ due ≤ pairs before, env.lexer.readToken env.source s.state.cursor goal s.state.prev =
        (s.inOnePass env goal before).below due := by
  have counted : ∀ {c : Cursor}, c.Counted env.source → c.offset = s.state.offset → c.depth = s.state.depth →
      ∃ extra ≤ pairs before, env.lexer.readToken env.source c goal s.state.prev =
        (s.inOnePass env goal before).below extra := by
    rintro c ⟨other, more, here⟩ same depth
    obtain rfl : other = before :=
      prefixOfLength (here.cut.trans cut.symm) (here.offset.symm.trans (same.trans offset))
    obtain ⟨extra, few, eq⟩ := here.equalBelow
    refine ⟨extra, few, ?_⟩
    rw [eq, depth, Lexer.readTokenBelow]
    rfl
  obtain ⟨found, scans, scan, ⟨cursor, known, same, depth, read⟩, _⟩ := h.afterScan goal
  refine ⟨?_, counted h.here rfl rfl⟩
  obtain ⟨kept, few, eq⟩ := counted known same depth
  exact ⟨kept, few, by rw [scan, ← eq]; exact read⟩

end Session

namespace Parser

section
variable {source : String} {definitions : List Definition} {p : Parser}

theorem Reachable.isCounted (reachable : Reachable source definitions p) : p.session.Counted p.setup :=
  reachable.durableHolds (Session.countedDurable _)

theorem scansAgree (reachable : Reachable source definitions p) (goal : Goal) : ∃ before rest kept due,
    before ++ rest = source.toList ∧ byteLength before = p.session.state.offset ∧
      kept ≤ pairs before ∧ due ≤ pairs before ∧
      (p.session.scan p.setup goal).1 = (p.session.inOnePass p.setup goal before).below kept ∧
      p.setup.lexer.readToken source.toList p.session.state.cursor goal p.session.state.prev =
        (p.session.inOnePass p.setup goal before).below due ∧
      ((p.session.scan p.setup goal).1 =
        p.setup.lexer.readToken source.toList p.session.state.cursor goal p.session.state.prev ↔ kept = due) ∧
      (NoPairs before → (p.session.scan p.setup goal).1 =
        p.setup.lexer.readToken source.toList p.session.state.cursor goal p.session.state.prev) := by
  have counted := reachable.isCounted
  obtain ⟨before, rest, here⟩ := counted.here
  obtain ⟨⟨kept, fewKept, scan⟩, due, fewDue, read⟩ := counted.scanBelow goal here.cut here.offset
  obtain ⟨text, _⟩ := reachable.sourceAndSound
  rw [text] at read
  refine ⟨before, rest, kept, due, here.cut.trans text, here.offset.symm, fewKept, fewDue, scan, read, ?_, ?_⟩
  · rw [scan, read]
    exact Scan.belowInjective
  · intro whole
    have none := whole.pairsNone
    rw [scan, read, Scan.belowInjective]
    omega

end

namespace Sample

def breaks : List Definition :=
  [{ name := "half", shape := .literal "\r", goals := some [defaultGoal] },
    { name := "break", shape := .literal "\n", goals := some [defaultGoal] },
    { name := "break", shape := .literal "\r\n", goals := some ["Whole"] },
    { name := "a", shape := .literal "a" }, { name := "b", shape := .literal "b" }]

def eitherWay : Body :=
  .firstOf [.inOrder [.consume "half" defaultGoal, .consume "break" defaultGoal, .consume "b" defaultGoal],
    .consume "break" "Whole"]

def broken : Parser := (Parser.ofDefinitions "\r\na" breaks).toOption.get (by decide +kernel)

def joined : Parser := (broken.run [] eitherWay).2

end Sample

theorem scansAgreeWithinPair : Reachable "\r\na" Sample.breaks Sample.joined ∧ ∃ before rest kept due,
    before ++ rest = "\r\na".toList ∧ byteLength before = 2 ∧ kept ≤ pairs before ∧ due ≤ pairs before ∧
      (Sample.joined.session.scan Sample.joined.setup defaultGoal).1 =
        (Sample.joined.session.inOnePass Sample.joined.setup defaultGoal before).below kept ∧ kept ≠ due := by
  have reachable : Reachable "\r\na" Sample.breaks Sample.joined :=
    (Reachable.new (Parser.ofDefinitionsOfOption _)).ran _ _
  obtain ⟨before, rest, kept, due, cut, offset, fewKept, fewDue, scan, _, same, _⟩ := scansAgree reachable defaultGoal
  refine ⟨reachable, before, rest, kept, due, cut, ?_, fewKept, fewDue, scan, fun alike => ?_⟩
  · rw [offset]
    decide +kernel
  · exact absurd (same.mpr alike) (by decide +kernel)

theorem scansDifferWithinPair : ¬ ∀ p : Parser, Reachable "\r\na" Sample.breaks p → ∀ goal,
    (p.session.scan p.setup goal).1 =
      p.setup.lexer.readToken "\r\na".toList p.session.state.cursor goal p.session.state.prev := by
  intro transparent
  have reachable : Reachable "\r\na" Sample.breaks Sample.joined :=
    (Reachable.new (Parser.ofDefinitionsOfOption _)).ran _ _
  have lines : Sample.joined.session.state.cursor.position = ⟨2, 0⟩ ∧
      (Sample.joined.session.scan Sample.joined.setup defaultGoal).1.position = ⟨3, 0⟩ := by
    decide +kernel
  have same := transparent _ reachable defaultGoal
  rw [same] at lines
  exact absurd lines (by decide +kernel)

end Parser
end Packrat

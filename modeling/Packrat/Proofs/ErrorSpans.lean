import Mathlib.Data.List.DropRight
import Packrat.Error.Excerpt
import Packrat.Proofs.Session.Locating
import Packrat.Proofs.TreeRanges

/-! The spans of errors. Wherever an error of the parser comes from, its span is one that can be cut out of the
source, and so are the line it lies in, what stands before it there and everything else of which an excerpt is
made. -/
namespace Packrat

theorem cutAtAppended (before rest : List Char) : cutAt (before ++ rest) (byteLength before) = (before, rest) := by
  induction before with
  | nil =>
    cases rest with
    | nil => rfl
    | cons c rest => exact if_neg (Nat.not_le.mpr (Char.utf8Size_pos c))
  | cons c before ih =>
    have fits : c.utf8Size ≤ byteLength (c :: before) := Nat.le_add_right _ _
    have left : byteLength (c :: before) - c.utf8Size = byteLength before := Nat.add_sub_cancel_left _ _
    rw [List.cons_append, cutAt, if_pos fits, left, ih]

theorem sliceOfCut {source before text rest : List Char} {start stop : Nat} (cut : before ++ (text ++ rest) = source)
    (starts : byteLength before = start) (stops : byteLength (before ++ text) = stop) :
    slice? source start stop = some text := by
  rw [← cut, ← starts, ← stops, byteLengthAppend]
  exact sliceAppend before text rest

namespace ParseError

def shown (e : ParseError) (line : List Char) (column width : Nat) : String :=
  let help := match e.suggestion? with
    | some s => "\n  = help: " ++ s
    | none => ""
  "error: " ++ e.message ++ "\n  | " ++ String.ofList line ++ "\n  | "
    ++ String.ofList (List.replicate column ' ' ++ List.replicate width '^') ++ help

theorem excerptShowsLine (e : ParseError) {before rest : List Char} (start : e.span.start = byteLength before) :
    e.excerpt (before ++ rest) = e.shown (lastLine before ++ rest.takeWhile (· != '\n')) (lastLine before).length
      (max (e.span.slice (before ++ rest)).length 1) := by
  unfold excerpt
  rw [start, cutAtAppended]
  rfl

def excerpt? (e : ParseError) (source : List Char) : Option String := do
  let start := min e.span.start (byteLength source)
  let ahead ← slice? source 0 start
  let behind ← slice? source start (byteLength source)
  let lineStart := byteLength (ahead.rdropWhile (· != '\n'))
  let lineStop := start + byteLength (behind.takeWhile (· != '\n'))
  let line ← slice? source lineStart lineStop
  let before ← slice? source lineStart start
  let marked ← slice? source e.span.start e.span.stop
  pure (e.shown line before.length (max marked.length 1))

structure Sliceable (source : List Char) (e : ParseError) : Prop where
  ordered : e.span.start ≤ e.span.stop
  inside : e.span.stop ≤ byteLength source
  start : Boundary source e.span.start
  stop : Boundary source e.span.stop
  excerpt : e.excerpt? source = some (e.excerpt source)

theorem excerptSucceeds {source before text rest : List Char} {e : ParseError} (cut : before ++ (text ++ rest) = source)
    (span : e.span = ⟨byteLength before, byteLength before + byteLength text⟩) :
    e.excerpt? source = some (e.excerpt source) := by
  have fits : byteLength before ≤ byteLength source := by
    rw [← cut, byteLengthAppend]
    exact Nat.le_add_right _ _
  have marked : slice? source (byteLength before) (byteLength before + byteLength text) = some text :=
    sliceOfCut cut rfl (byteLengthAppend before text)
  have ahead : slice? source 0 (byteLength before) = some before := by
    have cut : [] ++ (before ++ (text ++ rest)) = source := cut
    exact sliceOfCut cut rfl rfl
  have behind : slice? source (byteLength before) (byteLength source) = some (text ++ rest) := by
    have cut : before ++ ((text ++ rest) ++ []) = source := by rw [List.append_nil, cut]
    refine sliceOfCut cut rfl ?_
    rw [← cut, List.append_nil]
  have parts : before.rdropWhile (· != '\n') ++ lastLine before = before := List.rdropWhile_append_rtakeWhile
  have rests : (text ++ rest).takeWhile (· != '\n') ++ (text ++ rest).dropWhile (· != '\n') = text ++ rest :=
    List.takeWhile_append_dropWhile
  have front : slice? source (byteLength (before.rdropWhile (· != '\n'))) (byteLength before) =
      some (lastLine before) := by
    have cut : before.rdropWhile (· != '\n') ++ (lastLine before ++ (text ++ rest)) = source := by
      rw [← List.append_assoc, parts, cut]
    exact sliceOfCut cut rfl (congrArg byteLength parts)
  have line : slice? source (byteLength (before.rdropWhile (· != '\n')))
      (byteLength before + byteLength ((text ++ rest).takeWhile (· != '\n'))) =
        some (lastLine before ++ (text ++ rest).takeWhile (· != '\n')) := by
    have cut : before.rdropWhile (· != '\n') ++ ((lastLine before ++ (text ++ rest).takeWhile (· != '\n')) ++
        (text ++ rest).dropWhile (· != '\n')) = source := by
      rw [List.append_assoc, rests, ← List.append_assoc, parts, cut]
    refine sliceOfCut cut rfl ?_
    rw [← List.append_assoc, parts, byteLengthAppend]
  have told : e.span.slice source = text := by
    rw [span, TextRange.slice, marked]
    rfl
  rw [← cut, excerptShowsLine e (congrArg TextRange.start span), cut, told]
  simp only [excerpt?, span, Nat.min_eq_left fits, ahead, behind, line, front, marked, Option.bind_eq_bind,
    Option.bind_some, Option.pure_def]

theorem About.excerptSliceable {source before text : List Char} {e : ParseError} (about : e.About source before text)
    (small : byteLength source ≤ maxOffset) : e.Sliceable source := by
  obtain ⟨rest, cut⟩ := about.cut
  have inside : byteLength (before ++ text) ≤ byteLength source := by
    rw [← cut, byteLengthAppend (before ++ text)]
    exact Nat.le_add_right _ _
  have span : e.span = ⟨byteLength before, byteLength before + byteLength text⟩ := by
    rw [byteLengthAppend] at inside
    rw [about.span, byteLengthAppend, TextRange.ofOffsets, clampOffsetWithin (by omega), clampOffsetWithin (by omega)]
  rw [List.append_assoc] at cut
  refine ⟨?_, ?_, ?_, ?_, excerptSucceeds cut span⟩ <;> rw [span]
  · exact Nat.le_add_right _ _
  · rwa [byteLengthAppend] at inside
  · exact ⟨before, text ++ rest, cut.symm, rfl⟩
  · exact ⟨before ++ text, rest, by rw [List.append_assoc, cut], byteLengthAppend before text⟩

end ParseError

namespace Parser

def Raises (p : Parser) (rules : Rules) (name rule : String) (error : ParseError) : Prop :=
  Session.RaisedBy p.setup rules p.config.maxRuleDepth (.body (.call name rule)) p.session.reset error

variable {source : String} {definitions : List Definition} {p : Parser}

theorem Reachable.errorsLocated (reachable : Reachable source definitions p) (rules : Rules) (name rule : String) :
    (∀ error, (p.parse rules name rule).1 = .error error →
      p.Raises rules name rule error ∨ error.Located source.toList) ∧
    (∀ output, (p.parse rules name rule).1 = .ok output → ∀ error ∈ output.errors, error.Located source.toList) := by
  obtain ⟨text, _⟩ := reachable.sourceAndSound
  have located := Session.concludedLocated rules name rule reachable.isCounted
  obtain ⟨stats, eq⟩ := Session.parseRuleConcludes p.setup rules name rule p.session
  rw [show (p.parse rules name rule).1 = _ from eq]
  cases ended : Session.concluded p.setup
      (Session.invoke p.setup rules p.setup.config.maxRuleDepth name rule p.session.reset) with
  | error error =>
    simp only [ended, Session.Blamed, text] at located
    exact ⟨fun _ same => Except.error.inj same ▸ located, fun _ same => nomatch same⟩
  | ok output =>
    simp only [ended, text] at located
    exact ⟨fun _ same => (nomatch same), fun _ same => Except.ok.inj same ▸ located⟩

theorem errorsSliceable (reachable : Reachable source definitions p) (small : byteLength source.toList ≤ maxOffset)
    (rules : Rules) (name rule : String) :
    (∀ error, (p.parse rules name rule).1 = .error error →
      p.Raises rules name rule error ∨ error.Sliceable source.toList) ∧
    (∀ output, (p.parse rules name rule).1 = .ok output → ∀ error ∈ output.errors, error.Sliceable source.toList) := by
  have sliceable : ∀ {error : ParseError}, error.Located source.toList → error.Sliceable source.toList :=
    fun ⟨_, _, about⟩ => about.excerptSliceable small
  obtain ⟨fails, recovers⟩ := reachable.errorsLocated rules name rule
  exact ⟨fun error ended => (fails error ended).imp_right sliceable,
    fun output ended error member => sliceable (recovers output ended error member)⟩

namespace Sample

def umlauts : List Definition := [{ name := "a", shape := .literal "ä" }, { name := "S", shape := .literal ";" }]

def foreign : Parser :=
  ((Parser.ofDefinitions "ä€;" umlauts).toOption.get (by decide +kernel)).withConfig
    { recover := true, syncTokens := ["S"] }

end Sample

theorem errorsSliceableForeign :
    byteLength "ä€;".toList ≤ maxOffset ∧ ∃ output, (Sample.foreign.parse Sample.statements "R" "R").1 = .ok output ∧
      output.errors.map ParseError.span = [⟨2, 5⟩] ∧ ∀ error ∈ output.errors, error.Sliceable "ä€;".toList := by
  have small : byteLength "ä€;".toList ≤ maxOffset := by decide
  have shown : (Sample.foreign.parse Sample.statements "R" "R").1.toOption.map (·.errors.map ParseError.span) =
      some [⟨2, 5⟩] := by
    decide +kernel
  cases result : (Sample.foreign.parse Sample.statements "R" "R").1 with
  | error error =>
    rw [result] at shown
    exact nomatch shown
  | ok output =>
    rw [result] at shown
    have reachable : Reachable "ä€;" Sample.umlauts Sample.foreign :=
      (Reachable.new (Parser.ofDefinitionsOfOption _)).configured _
    exact ⟨small, output, rfl, Option.some.inj shown,
      (errorsSliceable reachable small Sample.statements "R" "R").2 output result⟩

end Parser
end Packrat

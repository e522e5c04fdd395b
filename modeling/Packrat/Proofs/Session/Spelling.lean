import Packrat.Proofs.Accord
import Packrat.Proofs.Lexing.Chain

/-! The text between tokens. Whatever is taken lies behind the token before it, and the text between the two is
what its line break was told from. -/
namespace Packrat

structure Token.Behind (source : List Char) (t : Token) (start : Nat) (gap : List Char) (stop : Nat) : Prop where
  cut : ∃ before text after, source = before ++ (gap ++ (text ++ after)) ∧ byteLength before = start ∧
    stop = start + byteLength gap + byteLength text ∧ text ≠ [] ∧ t.text = String.ofList text
  range : t.range = .ofOffsets (start + byteLength gap) stop

def Token.Unrecognized (env : Setup) (t : Token) : Prop := ∃ start prev stop c,
  env.lexer.readToken env.source start defaultGoal prev = .unrecognized stop c ∧
    t = { (unrecognizedToken stop c).1 with index := t.index }

def Token.TellsBreak (env : Setup) (t : Token) (gap : List Char) : Prop :=
  t.breakBefore = gap.any isTerminator ∨ env.config.recover = true ∧ t.Unrecognized env

inductive Spelled (env : Setup) : Nat → List Token → Nat → Prop where
  | nil {n} : Spelled env n [] n
  | cons {start gap t stop tokens last} (behind : t.Behind env.source start gap stop)
      (tells : t.TellsBreak env gap) (later : Spelled env stop tokens last) : Spelled env start (t :: tokens) last

section
variable {env : Setup} {m n k : Nat} {tokens more : List Token} {t : Token} {gap : List Char}

theorem Spelled.singleToken (behind : t.Behind env.source m gap n) (tells : t.TellsBreak env gap) :
    Spelled env m [t] n :=
  .cons behind tells .nil

theorem Spelled.thenSpelled (first : Spelled env m tokens n) (later : Spelled env n more k) :
    Spelled env m (tokens ++ more) k := by
  induction first with
  | nil => exact later
  | cons behind tells _ ih => exact .cons behind tells (ih later)

theorem Spelled.whenRenumbered (h : Spelled env m tokens n) (first : Nat) :
    Spelled env m (Session.renumber first tokens) n := by
  induction h generalizing first with
  | nil => exact .nil
  | @cons start gap t stop tokens last behind tells _ ih =>
    rw [← List.singleton_append, Session.renumberAppend]
    refine .cons ⟨behind.cut, behind.range⟩ (tells.imp_right fun ⟨on, start, prev, stop, c, read, eq⟩ => ?_) (ih _)
    exact ⟨on, start, prev, stop, c, read, congrArg (fun u : Token => { u with index := first + 0 }) eq⟩

end

theorem Lexing.brokenAsWritten (p : Lexing) : p.broken = (written p.trivia).any isTerminator := by
  simp only [broken, containsTerminatorAsAny, written, List.any_flatMap]

section
variable {env : Setup} {cursor stop : Cursor} {goal : Goal} {prev : Option Kind} {t : Token} {c : Char}

theorem Setup.readsBehind {found : Scan} (read : env.lexer.readToken env.source cursor goal prev = found)
    (some : ∀ stop, found ≠ .ended stop) : ∃ before q, env.source = before ++ (written q.pieces ++ q.rest) ∧
      byteLength before = cursor.offset ∧ q.cursor.offset = cursor.offset + byteLength (written q.pieces) ∧
      q.pieces = q.trivia ∧ env.lexer.Finishes q found := by
  cases cut : dropBytes? env.source cursor.offset with
  | none =>
    rw [Lexer.readToken, cut] at read
    exact absurd read.symm (some cursor)
  | some rest =>
    obtain ⟨⟨before, _⟩, split, rfl⟩ := Option.map_eq_some_iff.mp cut
    obtain ⟨whole, length⟩ := splitBytesParts split
    have finds : env.lexer.Finds goal prev _ cursor false _ := Lexer.readTokenFinds cut
    rw [read] at finds
    obtain ⟨q, trails, finishes⟩ := finds.trailFinishes (.fresh _ cursor goal prev) rfl rfl rfl rfl
    have behind := Lexer.Steps.keepBehind trails.steps
    have fresh : q.pieces = q.trivia := by
      have none : q.readings = [] := trails.readings
      rw [Lexing.pieces, none]
      rfl
    refine ⟨before, q, ?_, length, behind.offset, fresh, finishes⟩
    rw [← whole]
    exact congrArg _ behind.rest

theorem Setup.tokenBehind {next : Cursor} (read : env.lexer.readToken env.source cursor goal prev = .token t next) :
    ∃ gap, t.Behind env.source cursor.offset gap next.offset ∧ t.breakBefore = gap.any isTerminator := by
  obtain ⟨before, q, whole, length, offset, fresh, finishes⟩ := readsBehind read (fun _ => nofun)
  cases finishes with
  | @token piece more wins kept =>
    have next : (q.reading piece).next.offset = q.cursor.offset + byteLength piece.text :=
      (Nesting.applyOffset _ _).trans (Cursor.advanceOffset _ _)
    rw [fresh] at whole offset
    refine ⟨written q.trivia, ⟨⟨before, piece.text, more, ?_, length, ?_, wins.textNonempty, rfl⟩, ?_⟩,
      q.brokenAsWritten⟩
    · rw [wins.cut]
      exact whole
    · rw [next, offset]
    · show TextRange.ofOffsets q.cursor.offset (q.cursor.advance piece.text).offset = _
      rw [next, Cursor.advanceOffset, offset]

theorem Setup.unrecognizedBehind
    (read : env.lexer.readToken env.source cursor goal prev = .unrecognized stop c) :
    ∃ gap, (unrecognizedToken stop c).1.Behind env.source cursor.offset gap (unrecognizedToken stop c).2.offset := by
  obtain ⟨before, q, whole, length, offset, fresh, finishes⟩ := readsBehind read (fun _ => nofun)
  cases finishes with
  | @unrecognized _ more left stuck =>
    have next : (unrecognizedToken q.cursor c).2.offset = q.cursor.offset + byteLength [c] := Cursor.advanceOffset _ _
    rw [fresh] at whole offset
    refine ⟨written q.trivia, ⟨⟨before, [c], more, ?_, length, ?_, List.cons_ne_nil _ _, rfl⟩, ?_⟩⟩
    · rw [whole, left]
      rfl
    · rw [next, offset]
    · show TextRange.ofOffsets q.cursor.offset (q.cursor.advance [c]).offset = _
      rw [next, Cursor.advanceOffset, offset]

end

def Memo.Spells (env : Setup) (key : MemoKey) : Memo → Prop
  | .success stop _ tokens _ => Spelled env key.offset tokens stop.offset
  | .failure _ => True

namespace Session

structure Spells (env : Setup) (s : Session) (tokens : List Token) (t : Session) : Prop extends Takes s tokens t where
  spelled : Spelled env s.state.offset tokens t.state.offset

def spelling (env : Setup) : Invariant :=
  ⟨fun s => s.Sound env ∧ ∀ e ∈ s.memo.entries, e.2.Spells env e.1,
    fun s t => (growing env).along s t ∧ ∃ tokens, s.Spells env tokens t⟩

variable {env : Setup} {s t u : Session} {tokens more : List Token}

theorem Spells.trans (st : s.Spells env tokens t) (tu : t.Spells env more u) : s.Spells env (tokens ++ more) u :=
  ⟨st.toTakes.trans tu.toTakes, st.spelled.thenSpelled tu.spelled⟩

theorem Returned.spellsNothing (h : s.Returned t) : s.Spells env [] t :=
  ⟨h.growsByNothing.toTakes, by rw [h.state]; exact .nil⟩

theorem Spells.sameTokens {s' t' : Session} (h : s.Spells env tokens t) (state : s'.state = s.state)
    (taken : s'.tokens = s.tokens) (state' : t'.state = t.state) (taken' : t'.tokens = t.tokens) :
    s'.Spells env tokens t' := by
  obtain ⟨⟨index, taking, covers⟩, spelled⟩ := h
  rw [← state, ← state'] at index covers spelled
  rw [← state, ← state', ← taken, ← taken'] at taking
  exact ⟨⟨index, taking, covers⟩, spelled⟩

theorem Spells.pushChild (h : s.Spells env tokens t) (node : Tree) : s.Spells env tokens (t.pushChild node) :=
  h.sameTokens rfl rfl (pushChildState t node) (congrArg View.tokens (pushChildView t node))

theorem commitSpells {token : Token} {next : Cursor} {gap : List Char}
    (behind : token.Behind env.source s.state.offset gap next.offset) (tells : token.TellsBreak env gap) :
    s.Spells env [token] (s.commit token next) := by
  obtain ⟨_, text, _, _, _, stop, some, _⟩ := behind.cut
  have wide := byteLengthPositive some
  exact ⟨commitTakes s (Nat.le_add_right _ (byteLength gap)) (by omega) behind.range, .singleToken behind tells⟩

theorem tokenSpells {key : ScanKey} {token : Token} {next : Cursor}
    (read : (Scan.token token next).ReadAt env key) (here : key.offset = s.state.offset) :
    s.Spells env [token] (s.commit token next) := by
  obtain ⟨cursor, offset, _, read⟩ := read
  obtain ⟨gap, behind, tells⟩ := Setup.tokenBehind read.symm
  rw [offset, here] at behind
  exact commitSpells behind (.inl tells)

theorem unrecognizedSpells (on : env.config.recover = true) {stop : Cursor} {c : Char}
    (read : (Scan.unrecognized stop c).ReadAt env (s.scanKey defaultGoal)) :
    s.Spells env [(unrecognizedToken stop c).1]
      (s.commit (unrecognizedToken stop c).1 (unrecognizedToken stop c).2) := by
  obtain ⟨cursor, offset, _, read⟩ := read
  obtain ⟨gap, behind⟩ := Setup.unrecognizedBehind read.symm
  rw [offset] at behind
  exact commitSpells behind (.inr ⟨on, cursor, s.state.prev, stop, c, read.symm, rfl⟩)

theorem spellsConsume (token : String) (goal : Goal) (h : s.Sound env) :
    ∃ tokens, s.Spells env tokens (consume env token goal s).2 := by
  obtain ⟨found, scans, scan, read, _⟩ := h.afterScan goal
  have still : ∀ found, ∃ tokens, s.Spells env tokens (({ s with scans := scans } : Session).expect token found) :=
    fun _ => ⟨[], Returned.spellsNothing ⟨rfl, rfl, rfl, rfl, rfl, rfl⟩⟩
  simp only [consume, scan]
  cases found with
  | token t next =>
    simp only
    split
    · have taken := tokenSpells (s := { s with scans := scans }) read rfl
      refine ⟨[t], Spells.pushChild ?_ _⟩
      exact taken.sameTokens rfl rfl rfl rfl
    · exact still _
  | ended cursor => exact still _
  | unrecognized cursor c => exact still _

theorem spellsSkip (on : env.config.recover = true) (fuel : Nat) (h : s.Sound env) :
    ∃ tokens, s.Spells env tokens (s.skip env fuel).2 := by
  induction fuel generalizing s with
  | zero => exact ⟨[], Returned.spellsNothing ⟨rfl, rfl, rfl, rfl, rfl, rfl⟩⟩
  | succ fuel ih =>
    obtain ⟨found, scans, scan, read, sound⟩ := h.afterScan defaultGoal
    have within := read.isWithin
    simp only [skip, scan]
    cases found with
    | token t next =>
      obtain ⟨_, _, _, inside, _⟩ := within
      have taken := tokenSpells (s := { s with scans := scans }) read rfl
      simp only
      split
      · exact ⟨[t], taken.sameTokens rfl rfl rfl rfl⟩
      · obtain ⟨tokens, later⟩ := ih (sound.afterCommit t inside)
        exact ⟨t :: tokens, (taken.trans later).sameTokens rfl rfl rfl rfl⟩
    | ended cursor => exact ⟨[], Returned.spellsNothing ⟨rfl, rfl, rfl, rfl, rfl, rfl⟩⟩
    | unrecognized cursor c =>
      have taken := unrecognizedSpells (s := { s with scans := scans }) on read
      obtain ⟨tokens, later⟩ := ih (sound.afterCommit _ (unrecognizedOffset cursor c ▸ within.2))
      exact ⟨_, (taken.trans later).sameTokens rfl rfl rfl rfl⟩

theorem spellsRecover (on : env.config.recover = true) (failure : Failure) (h : s.Sound env) :
    ∃ tokens, s.Spells env tokens (s.recover env failure).2 := by
  obtain ⟨tokens, skipped⟩ := spellsSkip on (env.source.length + 1) h
  unfold recover
  split
  · exact ⟨[], Returned.spellsNothing ⟨rfl, rfl, rfl, rfl, rfl, rfl⟩⟩
  · cases ran : s.skip env (env.source.length + 1) with
    | mk nodes t =>
      rw [ran] at skipped
      simp only
      split
      · exact ⟨tokens, skipped⟩
      · refine ⟨tokens, Spells.pushChild ?_ _⟩
        exact skipped.sameTokens rfl rfl rfl rfl

theorem Spells.whenRemembered {name : String} (h : s.Spells env tokens t) (sound : s.Sound env) :
    (successOf name s t).Spells env (MemoKey.of name s.state) := by
  have taken : t.taken = s.taken ++ renumber s.state.tokenIndex tokens := h.taken
  show Spelled env s.state.offset (t.taken.drop s.state.tokenIndex) t.state.offset
  rw [taken, List.drop_left' sound.takenLength]
  exact h.spelled.whenRenumbered _

theorem spellsClosed {name : String} (verdict : Verdict) (h : (spelling env).holds s)
    (step : (spelling env).Step (opened env name s (s.asked env name)) t) :
    (spelling env).Step s (closed env name s (verdict, t)).2 := by
  obtain ⟨sound, _⟩ := h
  obtain ⟨⟨sound', memo⟩, ⟨g, grows⟩, tokens, spells⟩ := step
  obtain ⟨after, along⟩ := growsClosed verdict sound ⟨sound', g, grows⟩
  have framed := grows.framedByRule
  have inner : s.Spells env tokens t :=
    spells.sameTokens (openedState env name s _).symm (openedTokens env name s _).symm rfl rfl
  suffices (∀ e ∈ (closed env name s (verdict, t)).2.memo.entries, e.2.Spells env e.1) ∧
      ∃ tokens, s.Spells env tokens (closed env name s (verdict, t)).2 from ⟨⟨after, this.1⟩, along, this.2⟩
  cases verdict with
  | ok =>
    obtain ⟨stats, log, eq⟩ := closedOk env name s t framed.inFrame
    rw [eq]
    refine ⟨fun e member => ?_, tokens, Spells.pushChild ?_ _⟩
    · rw [pushChildMemo] at member
      rcases memRemembering member with rfl | old
      · exact inner.whenRemembered sound
      · exact memo e old
    · exact inner.sameTokens rfl rfl rfl rfl
  | mismatch =>
    obtain ⟨log, eq⟩ := closedMismatch env name s t
    rw [eq]
    have back := framed.returnedByCut sound.index (max s.highWater t.highWater) (s.furthest.merge t.furthest)
      (remembering env t.memo (MemoKey.of name s.state) (failureOf s t)) log
    refine ⟨fun e member => ?_, [], back.spellsNothing⟩
    rcases memRemembering member with rfl | old
    · trivial
    · exact memo e old
  | fatal error =>
    obtain ⟨log, eq⟩ := closedFatal env name s t error
    rw [eq]
    have back := framed.returnedByCut sound.index (max s.highWater t.highWater) (s.furthest.merge t.furthest) t.memo log
    exact ⟨memo, [], back.spellsNothing⟩

theorem spellingNested (env : Setup) : (spelling env).Nested env where
  refl := fun s => ⟨(growingUpheld env).refl s, [], Returned.spellsNothing ⟨rfl, rfl, rfl, rfl, rfl, rfl⟩⟩
  trans := by
    rintro s t u ⟨st, _, first⟩ ⟨tu, _, later⟩
    exact ⟨(growingUpheld env).trans st tu, _, first.trans later⟩
  scan := by
    rintro s goal ⟨sound, memo⟩
    obtain ⟨sound', grows⟩ := (growingUpheld env).scan goal sound
    obtain ⟨found, scans, scan, _⟩ := sound.afterScan goal
    rw [scan] at sound' grows ⊢
    exact ⟨⟨sound', memo⟩, grows, [], Returned.spellsNothing ⟨rfl, rfl, rfl, rfl, rfl, rfl⟩⟩
  rewound := by
    rintro s t ⟨sound, _⟩ ⟨⟨sound', memo⟩, ⟨g, grows⟩, _⟩
    obtain ⟨after, along⟩ := growsRewound sound ⟨sound', g, grows⟩
    exact ⟨⟨after, rewindMemo t s.mark ▸ memo⟩, along, [], (grows.returnedByRewind sound).spellsNothing⟩
  isolated := fun h => ⟨(growingUpheld env).isolated h.1, h.2⟩
  rejoined := by
    rintro s t ⟨sound, _⟩ ⟨⟨sound', memo⟩, grows, tokens, spells⟩
    obtain ⟨after, along⟩ := (growingUpheld env).rejoined sound ⟨sound', grows⟩
    exact ⟨⟨after, memo⟩, along, tokens, spells.sameTokens rfl rfl rfl rfl⟩
  opened := by
    rintro s name ⟨sound, memo⟩ miss
    refine ⟨sound.whenOpened miss, ?_⟩
    obtain ⟨log, eq⟩ := openedAsUpdate env name s (s.asked env name)
    rw [eq]
    exact fun e member => memo e (askedEntries miss ▸ member)
  closed := spellsClosed

theorem spellsAnswer {rules : Rules} {depth : Nat} {task : Task} {first : Session} {name : String} {memo : Memo}
    (answers : Answers env rules depth task first name s memo) (h : (spelling env).holds s)
    (cache : Cache MemoKey Memo) (log : List Message) (subset : ∀ e ∈ cache.entries, e ∈ s.memo.entries) :
    (spelling env).Step s (({ s with memo := cache, log := log } : Session).replay memo).2 := by
  obtain ⟨sound, known⟩ := h
  obtain ⟨after, along⟩ := growsAnswer answers sound cache log subset
  suffices ∃ tokens, s.Spells env tokens (({ s with memo := cache, log := log } : Session).replay memo).2 by
    refine ⟨⟨after, fun e member => ?_⟩, along, this⟩
    rw [replayMemo] at member
    exact known e (subset e member)
  cases memo with
  | success stop node tokens attempt =>
    obtain ⟨tidy, _⟩ := sound.memo _ answers.memoStored
    have length : (s.taken ++ renumber s.state.tokenIndex tokens).length = s.state.tokenIndex + tokens.length := by
      rw [List.length_append, sound.takenLength, lengthRenumber]
    refine ⟨tokens, Spells.pushChild ?_ _⟩
    exact ⟨⟨rfl, List.take_of_length_le (Nat.le_of_eq length), tidy.covers⟩, known _ answers.memoStored⟩
  | failure attempt => exact ⟨[], ⟨rfl, (List.append_nil _).symm, Covers.refl _⟩, .nil⟩

theorem Reached.recoveryEnabled {rules : Rules} {depth d : Nat} {b : Body} {failure : Failure}
    (reached : Reached env rules depth (.body b) s d (.recover failure) t) : env.config.recover = true := by
  cases reached with
  | within _ starts =>
    cases starts with
    | recover _ moved => exact (Bool.and_eq_true_iff.mp moved).1

theorem spellingTaking (rules : Rules) (depth : Nat) (b : Body) (first : Session) (d : Nat) :
    (spelling env).Taking env (Reached env rules depth (.body b) first d) where
  consume := by
    rintro s token goal _ ⟨sound, memo⟩
    obtain ⟨sound', grows⟩ := growsConsume token goal sound
    exact ⟨⟨sound', consumeMemo env token goal s ▸ memo⟩, grows, spellsConsume token goal sound⟩
  recover := by
    rintro s failure reached ⟨sound, memo⟩
    obtain ⟨sound', grows⟩ := growsRecover failure sound
    exact ⟨⟨sound', recoverMemo env failure s ▸ memo⟩, grows, spellsRecover reached.recoveryEnabled failure sound⟩

end Session
end Packrat

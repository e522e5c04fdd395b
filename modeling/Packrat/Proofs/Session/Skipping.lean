import Packrat.Proofs.Scanning
import Packrat.Proofs.Session.Halting

/-! What skipping takes: the tokens of the default goal, one behind the other, up to the first synchronization
token or the end of the source. They may be some lines off. -/
namespace Packrat

def Scan.piece? : Scan → Option (Token × Cursor)
  | .token t next => some (t, next)
  | .unrecognized cursor c => some (unrecognizedToken cursor c)
  | .ended _ => none

def Cursor.Alike (lines : Nat) (c d : Cursor) : Prop :=
  ∃ base : Cursor, ∃ k ≤ lines, ∃ l ≤ lines, c = base.below k ∧ d = base.below l

def Token.Alike (lines : Nat) (t u : Token) : Prop :=
  ∃ base : Token, ∃ k ≤ lines, ∃ l ≤ lines, t = base.below k ∧ u = base.below l

def Scan.Alike (lines : Nat) (a b : Scan) : Prop :=
  ∃ base : Scan, ∃ k ≤ lines, ∃ l ≤ lines, a = base.below k ∧ b = base.below l

theorem Cursor.Alike.cursorsEqual {c d : Cursor} (alike : c.Alike 0 d) : c = d := by
  obtain ⟨base, k, few, l, few', rfl, rfl⟩ := alike
  rw [Nat.le_zero.mp few, Nat.le_zero.mp few']

theorem Token.Alike.tokensEqual {t u : Token} (alike : t.Alike 0 u) : t = u := by
  obtain ⟨base, k, few, l, few', rfl, rfl⟩ := alike
  rw [Nat.le_zero.mp few, Nat.le_zero.mp few']

theorem Token.Alike.sameName {lines : Nat} {t u : Token} (alike : t.Alike lines u) : t.name = u.name := by
  obtain ⟨base, k, _, l, _, rfl, rfl⟩ := alike
  rfl

theorem Token.Alike.sameKind {lines : Nat} {t u : Token} (alike : t.Alike lines u) : t.kind = u.kind := by
  obtain ⟨base, k, _, l, _, rfl, rfl⟩ := alike
  rfl

theorem Cursor.Alike.sameSpot {lines : Nat} {c d : Cursor} (alike : c.Alike lines d) :
    c.offset = d.offset ∧ c.depth = d.depth := by
  obtain ⟨base, k, _, l, _, rfl, rfl⟩ := alike
  exact ⟨rfl, rfl⟩

namespace Scan

theorem pieceBelow (found : Scan) (lines : Nat) :
    (found.below lines).piece? = found.piece?.map fun piece => (piece.1.below lines, piece.2.below lines) := by
  cases found with
  | token t next => rfl
  | ended cursor => rfl
  | unrecognized cursor c =>
    simp only [below, piece?, Option.map_some, unrecognizedToken, Cursor.belowAdvance]
    rfl

theorem Alike.pieceAlike {lines : Nat} {found read : Scan} (alike : found.Alike lines read) {t : Token} {next : Cursor}
    (taken : found.piece? = some (t, next)) :
    ∃ u next', read.piece? = some (u, next') ∧ t.Alike lines u ∧ next.Alike lines next' := by
  obtain ⟨base, k, few, l, few', rfl, rfl⟩ := alike
  rw [pieceBelow] at taken
  obtain ⟨⟨t', next'⟩, found, same⟩ := Option.map_eq_some_iff.mp taken
  obtain ⟨rfl, rfl⟩ := Prod.mk.inj same
  refine ⟨t'.below l, next'.below l, by rw [pieceBelow, found]; rfl, ?_, ?_⟩
  · exact ⟨t', k, few, l, few', rfl, rfl⟩
  · exact ⟨next', k, few, l, few', rfl, rfl⟩

theorem Alike.endedAlike {lines : Nat} {found read : Scan} (alike : found.Alike lines read)
    (ended : found.piece? = none) :
    read.piece? = none := by
  obtain ⟨base, k, _, l, _, rfl, rfl⟩ := alike
  rw [pieceBelow] at ended ⊢
  rw [Option.map_eq_none_iff.mp ended]
  rfl

theorem Within.pieceWithin {bytes start : Nat} {found : Scan} {t : Token} {next : Cursor}
    (within : found.Within bytes start)
    (taken : found.piece? = some (t, next)) : ∃ first, start ≤ first ∧ first < next.offset ∧
      next.offset ≤ bytes ∧ t.range = .ofOffsets first next.offset := by
  cases found with
  | token u next' =>
    cases taken
    exact within
  | ended cursor => exact nomatch taken
  | unrecognized cursor c =>
    cases taken
    have offset : (unrecognizedToken cursor c).2.offset = cursor.offset + c.utf8Size :=
      Session.unrecognizedOffset cursor c
    exact ⟨cursor.offset, within.1, offset ▸ Nat.lt_add_of_pos_right (Char.utf8Size_pos c), offset ▸ within.2, rfl⟩

theorem Counted.pieceCounted {source : List Char} {found : Scan} {t : Token} {next : Cursor}
    (counted : found.Counted source) (taken : found.piece? = some (t, next)) : next.Counted source := by
  cases found with
  | token u next' =>
    cases taken
    exact counted
  | ended cursor => exact nomatch taken
  | unrecognized cursor c =>
    cases taken
    exact counted

end Scan

theorem Cursor.Counted.alikeAtSamePlace {source : List Char} {c d : Cursor} (here : c.Counted source)
    (there : d.Counted source)
    (offset : c.offset = d.offset) (depth : c.depth = d.depth) : c.Alike (pairs source) d := by
  obtain ⟨before, rest, here⟩ := here
  obtain ⟨before', rest', there⟩ := there
  obtain rfl : before = before' :=
    prefixOfLength (here.cut.trans there.cut.symm) (here.offset.symm.trans (offset.trans there.offset))
  obtain ⟨k, few, eq⟩ := here.equalBelow
  obtain ⟨l, few', eq'⟩ := there.equalBelow
  have inside : pairs before ≤ pairs source := by
    rw [← here.cut, pairsAppend]
    omega
  rw [← depth] at eq'
  exact ⟨_, k, Nat.le_trans few inside, l, Nat.le_trans few' inside, eq, eq'⟩

theorem Cursor.Alike.readAlike {lines : Nat} {c d : Cursor} (alike : c.Alike lines d) (lx : Lexer) (source : List Char)
    (goal : Goal) (prev : Option Kind) :
    (lx.readToken source c goal prev).Alike lines (lx.readToken source d goal prev) := by
  obtain ⟨base, k, few, l, few', rfl, rfl⟩ := alike
  exact ⟨_, k, few, l, few', Lexer.readTokenBelow .., Lexer.readTokenBelow ..⟩

inductive Lexer.Onward (lx : Lexer) (source : List Char) :
    Cursor → Option Kind → List Token → Cursor → Option Kind → Prop where
  | here {cursor prev} : Onward lx source cursor prev [] cursor prev
  | next {cursor prev t next tokens stop last}
      (read : (lx.readToken source cursor defaultGoal prev).piece? = some (t, next))
      (later : Onward lx source next (some t.kind) tokens stop last) :
      Onward lx source cursor prev (t :: tokens) stop last

structure UpTo (sort : Token → Bool) (tokens : List Token) (ended : Prop) : Prop where
  before : ∀ t ∈ tokens.dropLast, sort t = false
  last : (∃ t, tokens.getLast? = some t ∧ sort t = true) ∨ ended

namespace UpTo

variable {sort : Token → Bool} {t : Token} {tokens : List Token} {ended : Prop}

theorem whenEnded (done : ended) : UpTo sort [] ended := ⟨fun _ member => (nomatch member), .inr done⟩

theorem atFirst (is : sort t = true) : UpTo sort [t] ended := ⟨fun _ member => (nomatch member), .inl ⟨t, rfl, is⟩⟩

theorem afterOthers (isNot : sort t = false) (later : UpTo sort tokens ended) : UpTo sort (t :: tokens) ended := by
  cases tokens with
  | nil =>
    refine ⟨fun _ member => (nomatch member), later.last.imp_left ?_⟩
    rintro ⟨u, none, _⟩
    exact nomatch none
  | cons u rest =>
    refine ⟨fun v member => ?_, ?_⟩
    · rw [List.dropLast_cons_cons] at member
      rcases List.mem_cons.mp member with rfl | member
      · exact isNot
      · exact later.before v member
    · rw [List.getLast?_cons_cons]
      exact later.last

end UpTo

namespace Session

variable {env : Setup} {s t : Session} {nodes : List Tree} {tokens read : List Token} {c stop : Cursor}

structure Sweeps (env : Setup) (s : Session) (c : Cursor) (nodes : List Tree) (t : Session) (tokens read : List Token)
    (stop : Cursor) : Prop where
  nodes : nodes = tokens.map Tree.ofToken
  passed : Passed env s tokens t
  onward : env.lexer.Onward env.source c s.state.prev read stop t.state.prev
  tokens : List.Forall₂ (Token.Alike (pairs env.source)) tokens read
  behind : t.state.cursor.Alike (pairs env.source) stop

structure Poised (env : Setup) (s : Session) (c : Cursor) : Prop where
  sound : s.Sound env
  counted : s.Counted env
  cursor : c.Counted env.source
  alike : s.state.cursor.Alike (pairs env.source) c

theorem Poised.afterScan (poised : Poised env s c) {found : Scan} (scan : s.scan env defaultGoal = (found, t)) :
    (∃ scans, t = { s with scans := scans }) ∧ Poised env t c ∧ found.Within (byteLength env.source) s.state.offset ∧
      found.Counted env.source ∧
      found.Alike (pairs env.source) (env.lexer.readToken env.source c defaultGoal s.state.prev) := by
  obtain ⟨found', scans, scan', read, sound⟩ := poised.sound.afterScan defaultGoal
  obtain ⟨found'', scans'', scan'', ⟨cursor, here, offset, depth, rfl⟩, counted⟩ := poised.counted.afterScan defaultGoal
  cases scan.symm.trans scan'
  cases scan.symm.trans scan''
  have same := poised.alike.sameSpot
  refine ⟨⟨scans, rfl⟩, ⟨sound, counted, poised.cursor, poised.alike⟩, read.isWithin, ?_, ?_⟩
  · exact Lexer.readTokenCounted here _ _ _
  · exact (here.alikeAtSamePlace poised.cursor (offset.trans same.1) (depth.trans same.2)).readAlike ..

theorem Poised.afterCommit (poised : Poised env s c) {found : Scan} (scan : s.scan env defaultGoal = (found, t))
    {token : Token} {next : Cursor} (taken : found.piece? = Option.some (token, next)) :
    ∃ u next', (env.lexer.readToken env.source c defaultGoal s.state.prev).piece? = Option.some (u, next') ∧
      token.Alike (pairs env.source) u ∧ Poised env (t.commit token next) next' ∧
      ∀ {nodes v tokens read stop}, Sweeps env (t.commit token next) next' nodes v tokens read stop →
        Sweeps env s c (.ofToken token :: nodes) v (token :: tokens) (u :: read) stop := by
  obtain ⟨⟨scans, rfl⟩, ⟨sound, counted, _, _⟩, within, come, alike⟩ := poised.afterScan scan
  obtain ⟨u, next', reads, same, behind⟩ := alike.pieceAlike taken
  obtain ⟨first, start, wide, inside, range⟩ := within.pieceWithin taken
  refine ⟨u, next', reads, same, ⟨sound.afterCommit token inside, ?_, ?_, behind⟩, fun later => ?_⟩
  · exact ⟨come.pieceCounted taken, counted.scans, counted.memo⟩
  · exact (Lexer.readTokenCounted poised.cursor _ _ _).pieceCounted reads
  · refine ⟨congrArg _ later.nodes, ?_, .next reads ?_, .cons same later.tokens, later.behind⟩
    · exact (Passed.afterCommit (s := { s with scans := scans }) start wide range later.passed).withoutScans
    · rw [← same.sameKind]
      exact later.onward

theorem Poised.sweepsNothing (poised : Poised env s c) : Sweeps env s c [] s [] [] c :=
  ⟨rfl, passedNothing poised.sound, .here, .nil, poised.alike⟩

theorem SkipEnds.sweepsAlong (apart : env.config.isSync unrecognizedName = false) (skips : SkipEnds env s nodes t)
    (poised : Poised env s c) : ∃ tokens read stop, Sweeps env s c nodes t tokens read stop ∧
      UpTo (env.config.isSync ·.name) read
        ((env.lexer.readToken env.source stop defaultGoal t.state.prev).piece? = none) := by
  induction skips generalizing c with
  | sync found on =>
    obtain ⟨u, next, _, alike, poised', onward⟩ := poised.afterCommit found rfl
    exact ⟨_, _, _, onward poised'.sweepsNothing, .atFirst (alike.sameName ▸ on)⟩
  | token found off _ ih =>
    obtain ⟨u, next, _, alike, poised', onward⟩ := poised.afterCommit found rfl
    obtain ⟨tokens, read, stop, sweeps, upTo⟩ := ih poised'
    exact ⟨_, _, _, onward sweeps, .afterOthers (alike.sameName ▸ off) upTo⟩
  | unrecognized found _ ih =>
    obtain ⟨u, next, _, alike, poised', onward⟩ := poised.afterCommit found rfl
    obtain ⟨tokens, read, stop, sweeps, upTo⟩ := ih poised'
    exact ⟨_, _, _, onward sweeps, .afterOthers (alike.sameName ▸ apart) upTo⟩
  | ended found =>
    obtain ⟨⟨scans, rfl⟩, poised', _, _, alike⟩ := poised.afterScan found
    have stays := poised'.sweepsNothing
    exact ⟨[], [], c, ⟨rfl, stays.passed.withoutScans, .here, .nil, stays.behind⟩, .whenEnded (alike.endedAlike rfl)⟩

end Session
end Packrat

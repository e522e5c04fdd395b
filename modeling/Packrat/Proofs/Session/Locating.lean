import Packrat.Proofs.Budget
import Packrat.Proofs.Scanning
import Packrat.Proofs.Session.Proper
import Packrat.Proofs.Session.Raising

/-! Errors have a place in the source. Every error that the parser makes is told of a piece of it, which may be
empty, at the line and column of the text before. -/
namespace Packrat

def CountedBehind (before : List Char) (position : LineCol) : Prop :=
  ∃ extra ≤ pairs before, position = (LineCol.after before .first).below extra

def Found.Spans (offset : Option Nat) (before text : List Char) : Found → Prop
  | .nothing => False
  | .token _ _ range => range = .ofOffsets (byteLength before) (byteLength (before ++ text))
  | .unrecognized c => offset = some (byteLength before) ∧ text = [c]
  | .ended => offset = some (byteLength before) ∧ text = []

def Failure.Located (source : List Char) (f : Failure) : Prop :=
  (f.offset = none ∧ f.found = .nothing) ∨ ∃ before text rest, before ++ text ++ rest = source ∧
    CountedBehind before f.position ∧ f.found.Spans f.offset before text

structure ParseError.About (source before text : List Char) (e : ParseError) : Prop where
  cut : before ++ text <+: source
  span : e.span = .ofOffsets (byteLength before) (byteLength (before ++ text))
  position : ∀ position, e.position? = some position → CountedBehind before position

def ParseError.Located (source : List Char) (e : ParseError) : Prop := ∃ before text, e.About source before text

mutual

def Body.raises : Body → List ParseError
  | .raise error => [error]
  | .inOrder parts => Body.raisesAll parts
  | .firstOf branches => Body.raisesAll branches
  | .many body => body.raises
  | .some body => body.raises
  | .optional body => body.raises
  | .whenRecording _ parsed => parsed.raises
  | .attempt body => body.raises
  | .consume _ _ => []
  | .call _ _ => []
  | .notAhead _ _ => []
  | .sameLine => []
  | .mismatch => []

def Body.raisesAll : List Body → List ParseError
  | [] => []
  | b :: rest => b.raises ++ Body.raisesAll rest

end

def Task.raises : Task → List ParseError
  | .body b => b.raises
  | .rounds b _ _ => b.raises
  | .recover _ => []
  | .skip _ => []

namespace Lexer

theorem Finds.scanLocated {lx : Lexer} {goal : Goal} {prev : Option Kind} {source before rest : List Char}
    {cursor : Cursor} {broken : Bool} {found : Scan} (finds : lx.Finds goal prev rest cursor broken found)
    (h : cursor.CountedAt source before rest) : ∃ before text rest, before ++ text ++ rest = source ∧
      CountedBehind before found.position ∧ found.found.Spans (some found.offset) before text := by
  induction finds generalizing before with
  | ended =>
    refine ⟨before, [], [], ?_, h.lines, congrArg some h.offset, rfl⟩
    rw [List.append_nil]
    exact h.cut
  | @unrecognized c rest cursor _ _ =>
    refine ⟨before, [c], rest, ?_, h.lines, congrArg some h.offset, rfl⟩
    rw [List.append_assoc]
    exact h.cut
  | @token c rest cursor broken e n _ _ =>
    refine ⟨before, (c :: rest).take n, (c :: rest).drop n, ?_, h.lines, ?_⟩
    · rw [List.append_assoc, List.take_append_drop]
      exact h.cut
    · show TextRange.ofOffsets cursor.offset _ = _
      rw [Cursor.advanceOffset, h.offset, byteLengthAppend]
  | @trivia c rest cursor broken e n found _ _ _ ih =>
    rw [← List.take_append_drop n (c :: rest)] at h
    exact ih h.afterAdvance

end Lexer

theorem Scan.CountedAt.expectationLocated {env : Setup} {key : ScanKey} {found : Scan} (h : found.CountedAt env key)
    (name : String) : (({} : Failure).expecting name found []).Located env.source := by
  obtain ⟨cursor, ⟨before, rest, here⟩, _, _, rfl⟩ := h
  have left : dropBytes? env.source cursor.offset = some rest := by
    rw [← here.cut, here.offset]
    exact dropBytesAppend before rest
  exact .inr ((Lexer.readTokenFinds left).scanLocated here)

namespace Failure

variable {source : List Char} {f g : Failure}

theorem Located.mergeLocated (hf : f.Located source) (hg : g.Located source) : (f.merge g).Located source := by
  unfold Failure.merge
  split
  · exact hf
  · split
    · exact hg
    · split
      · exact hf
      · split
        · exact hf
        · exact hg

theorem Located.rootedAt (h : f.Located source) (stack : List String) : (f.rootedAt stack).Located source := by
  unfold Failure.rootedAt
  split <;> exact h

theorem locatedLasting (env : Setup) :
    Lasting (Located env.source) fun found => ∃ key, found.CountedAt env key where
  empty := .inl ⟨rfl, rfl⟩
  merge := Located.mergeLocated
  rootedAt := fun stack h => h.rootedAt stack
  cut := fun _ h => h
  missed := fun name ⟨_, read⟩ => read.expectationLocated name

end Failure

namespace ParseError

variable {source : List Char} {c : Cursor} {e : ParseError}

theorem locatedHere (here : c.Counted source) (span : e.span = .point c.offset)
    (position : ∀ position, e.position? = some position → position = c.position) : e.Located source := by
  obtain ⟨before, rest, at'⟩ := here
  refine ⟨before, [], ?_, ?_, fun p told => position p told ▸ at'.lines⟩
  · rw [List.append_nil]
    exact ⟨rest, at'.cut⟩
  · rw [span, List.append_nil, at'.offset]
    rfl

end ParseError

namespace Session

variable {env : Setup} {s t : Session}

theorem errorFromLocated (here : s.state.cursor.Counted env.source) {f : Failure} (h : f.Located env.source) :
    (s.errorFrom env f).Located env.source := by
  obtain ⟨offset, position, expected, found, path⟩ := f
  rcases h with ⟨none, nothing⟩ | ⟨before, text, rest, cut, lines, spans⟩
  · cases none
    cases nothing
    exact ParseError.locatedHere here rfl fun p told => (Option.some.inj told).symm
  · have inside : before ++ text <+: env.source := ⟨rest, cut⟩
    have told : ∀ p, Option.some position = Option.some p → CountedBehind before p :=
      fun p same => Option.some.inj same ▸ lines
    cases found with
    | nothing => exact spans.elim
    | token name word range => exact ⟨before, text, inside, spans, told⟩
    | unrecognized c =>
      obtain ⟨same, rfl⟩ := spans
      cases same
      refine ⟨before, [c], inside, ?_, told⟩
      rw [byteLengthAppend]
      rfl
    | ended =>
      obtain ⟨same, rfl⟩ := spans
      cases same
      refine ⟨before, [], inside, ?_, told⟩
      rw [List.append_nil]
      rfl

def locating (env : Setup) : Invariant := (counting env).recording (Failure.Located env.source)

theorem locatingKept (env : Setup) : (locating env).Kept env := by
  refine (countingKept env).recordingKept (Failure.locatedLasting env) fun {s} counted goal => ?_
  obtain ⟨found, scans, scan, read, _⟩ := Counted.afterScan counted goal
  rw [scan]
  exact ⟨_, read⟩

section
variable {rules : Rules} {depth d : Nat} {task k : Task}

theorem locatesAnswer {name : String} {memo : Memo} (answers : Answers env rules depth task s name t memo)
    (h : (locating env).holds t) (cache : Cache MemoKey Memo) (log : List Message)
    (subset : ∀ e ∈ cache.entries, e ∈ t.memo.entries) :
    (locating env).Step t (({ t with memo := cache, log := log } : Session).replay memo).2 :=
  have counted := countsAnswer answers h.1 cache log subset
  ⟨⟨counted.1, recordsAnswer (Failure.locatedLasting env) answers h.2 cache log subset⟩, counted.2⟩

theorem Reached.keepsLocated (reached : Reached env rules depth task s d k t) (h : (locating env).holds s) :
    (locating env).holds t :=
  (locatingKept env).holdsWhenReached locatesAnswer h reached

theorem Reached.locatedBehind (reached : Reached env rules depth task s d k t) (h : (locating env).holds s) :
    (locating env).holds (finishing env (invoke env rules d) k t) :=
  (locatingKept env).holdsInPasses locatesAnswer h ⟨d, k, t, reached, .inr rfl⟩

theorem locatedReset (counted : s.Counted env) : (locating env).holds s.reset :=
  ⟨countedReset counted, .inl ⟨rfl, rfl⟩, fun _ member => nomatch member⟩

def RaisedBy (env : Setup) (rules : Rules) (depth : Nat) (task : Task) (s : Session) (error : ParseError) : Prop :=
  ∃ d t, Reached env rules depth task s d (.body (.raise error)) t

theorem Starts.raisesAmong {call : String → String → Action} {k' : Task} (starts : Starts env call k s k' t) :
    ∀ error ∈ k'.raises, error ∈ k.raises := by
  cases starts with
  | first => exact fun _ member => List.mem_append_left _ member
  | next _ => exact fun _ member => List.mem_append_right _ member
  | branch => exact fun _ member => List.mem_append_left _ member
  | other _ => exact fun _ member => List.mem_append_right _ member
  | recover _ _ => exact nofun
  | _ => exact fun _ member => member

theorem Reached.raisesAmongRules (reached : Reached env rules depth task s d k t) :
    ∀ error ∈ k.raises, error ∈ task.raises ∨ ∃ rule, error ∈ (rules.body rule).raises := by
  induction reached with
  | start => exact fun _ member => .inl member
  | within _ starts ih => exact fun error member => ih error (starts.raisesAmong error member)
  | @enter _ _ rule _ _ _ _ _ => exact fun _ member => .inr ⟨rule, member⟩

theorem notRaised {name rule : String} (silent : ∀ e ∈ rules, e.2.raises = []) (error : ParseError) :
    ¬ RaisedBy env rules depth (.body (.call name rule)) s error := by
  rintro ⟨d, t, reached⟩
  rcases reached.raisesAmongRules error List.mem_cons_self with written | ⟨r, written⟩
  · exact nomatch written
  · rw [Rules.bodyFrom (motive := fun b => b.raises = []) rfl silent r] at written
    exact nomatch written

abbrev Blamed (env : Setup) (rules : Rules) (depth : Nat) (task : Task) (s : Session) (error : ParseError) : Prop :=
  RaisedBy env rules depth task s error ∨ error.Located env.source

theorem blamesSubrule {name rule : String} {body : Action} (h : (locating env).holds s)
    (inside : ∀ t error, Reached env rules depth task s d (.body (.call name rule)) t → t.Enters env name →
      t.remembered env name = none → (body (opened env name t (t.asked env name))).1 = .fatal error →
      Blamed env rules depth task s error) :
    FailsBy (Reached env rules depth task s d) (Blamed env rules depth task s) (.body (.call name rule))
      (subrule env name body) := by
  intro t error reached fatal
  have here := (reached.keepsLocated h).1.here
  rcases subruleFatal fatal with ⟨_, rfl⟩ | rfl | ⟨enters, miss, ran⟩
  · exact .inr (ParseError.locatedHere here rfl fun p told => (Option.some.inj told).symm)
  · exact .inr (ParseError.locatedHere here rfl fun p told => (Option.some.inj told).symm)
  · exact inside t error reached enters miss ran

theorem blamesExec (h : (locating env).holds s)
    (calls : ∀ name rule, FailsBy (Reached env rules depth task s d) (Blamed env rules depth task s)
      (.body (.call name rule)) (invoke env rules d name rule)) (b : Body) :
    FailsBy (Reached env rules depth task s d) (Blamed env rules depth task s) (.body b)
      (exec env (invoke env rules d) b) := by
  refine failsExec Reached.within ?_ (fun _ _ reached => .inl ⟨_, _, reached⟩) calls b
  intro k t u m attempts reached stands
  have here : u.state.cursor.Counted env.source := by
    rcases stands with rfl | rfl
    · exact (reached.keepsLocated h).1.here
    · exact (reached.locatedBehind h).1.here
  exact .inr (ParseError.locatedHere here rfl fun p told => (Option.some.inj told).symm)

theorem blamesInvoke (h : (locating env).holds s) (d : Nat) (name rule : String) :
    FailsBy (Reached env rules depth task s d) (Blamed env rules depth task s) (.body (.call name rule))
      (invoke env rules d name rule) := by
  induction d generalizing name rule with
  | zero => exact blamesSubrule h fun _ _ _ _ _ fatal => nomatch fatal
  | succ d ih =>
    refine blamesSubrule h fun t error reached enters miss fatal => ?_
    exact blamesExec h ih _ _ _ (.enter reached enters miss) fatal

theorem Reached.recoversLocated {failure : Failure} {b : Body}
    (reached : Reached env rules depth (.body b) s d (.recover failure) t) (h : (locating env).holds s) :
    failure.Located env.source := by
  cases reached with
  | within before starts =>
    cases starts with
    | recover failed _ =>
      have behind := (before.within .round).locatedBehind h
      rw [show finishing env (invoke env rules d) (.body _) _ = _ from congrArg Prod.snd failed] at behind
      exact behind.2.furthest

end

structure Repaired (source : List Char) (s : Session) : Prop where
  recoveries : ∀ r ∈ s.recoveries, r.2.Located source
  memo : ∀ e ∈ s.memo.entries, ∀ r ∈ e.2.recoveries, r.2.Located source

def repairing (env : Setup) : Invariant :=
  ⟨fun s => (locating env).holds s ∧ s.Repaired env.source, fun _ _ => True⟩

theorem Repaired.sameRecoveries {source : List Char} (h : s.Repaired source)
    (recoveries : ∀ r ∈ t.recoveries, r ∈ s.recoveries) (memo : t.memo = s.memo) : t.Repaired source :=
  ⟨fun r member => h.recoveries r (recoveries r member), memo ▸ h.memo⟩

theorem repairedRecover {failure : Failure} (located : failure.Located env.source) (h : (repairing env).holds s) :
    (s.recover env failure).2.Repaired env.source := by
  obtain ⟨⟨counted, _⟩, repaired⟩ := h
  refine ⟨?_, recoverMemo env failure s ▸ repaired.memo⟩
  have recoveries := skipRecoveries env (env.source.length + 1) s
  unfold recover
  split
  · exact repaired.recoveries
  · cases ran : s.skip env (env.source.length + 1) with
    | mk nodes t =>
      rw [ran] at recoveries
      have recoveries : t.recoveries = s.recoveries := recoveries
      simp only
      split
      · rw [recoveries]
        exact repaired.recoveries
      · rw [pushChildRecoveries]
        show ∀ r ∈ t.recoveries ++ [_], _
        rw [recoveries, List.forall_mem_append, List.forall_mem_singleton]
        exact ⟨repaired.recoveries, errorFromLocated counted.here located⟩

theorem Repaired.whenClosed {source : List Char} {name : String} (verdict : Verdict) (h : t.Repaired source) :
    (closed env name s (verdict, t)).2.Repaired source := by
  have given : ∀ r ∈ t.recoveries.take s.recoveries.length, r.2.Located source := fun r member =>
    h.recoveries r (List.mem_of_mem_take member)
  have stored : ∀ {memo : Memo}, (∀ r ∈ memo.recoveries, r.2.Located source) →
      ∀ e ∈ (remembering env t.memo (MemoKey.of name s.state) memo).entries, ∀ r ∈ e.2.recoveries,
          r.2.Located source := by
    intro memo told e member
    rcases memRemembering member with rfl | old
    · exact told
    · exact h.memo e old
  cases verdict with
  | ok =>
    obtain ⟨memo, eq, recoveries⟩ := closedOkMemo env name s t
    refine ⟨?_, ?_⟩
    · rw [closedOkRecoveries]
      exact h.recoveries
    · rw [eq]
      exact stored fun r member => h.recoveries r (List.mem_of_mem_drop (recoveries ▸ member))
  | mismatch =>
    obtain ⟨log, eq⟩ := closedMismatch env name s t
    rw [eq]
    exact ⟨given, stored fun _ member => nomatch member⟩
  | fatal error =>
    obtain ⟨log, eq⟩ := closedFatal env name s t error
    rw [eq]
    exact ⟨given, h.memo⟩

theorem repairingNested (env : Setup) : (repairing env).Nested env where
  refl := fun _ => trivial
  trans := fun _ _ => trivial
  scan := by
    rintro s goal ⟨located, h⟩
    have after := (locatingKept env).scan goal located
    obtain ⟨found, scans, scan⟩ := scanChangesScans env goal s
    rw [scan] at after ⊢
    exact ⟨⟨after.1, h.recoveries, h.memo⟩, trivial⟩
  rewound := by
    rintro s t ⟨located, _⟩ ⟨⟨inner, h⟩, _⟩
    refine ⟨⟨((locatingKept env).rewound located ⟨inner, trivial⟩).1,
      h.sameRecoveries (fun r member => ?_) (rewindMemo t s.mark)⟩,
      trivial⟩
    rw [rewindRecoveries] at member
    exact List.mem_of_mem_take member
  isolated := fun ⟨located, h⟩ => ⟨(locatingKept env).isolated located, h.recoveries, h.memo⟩
  rejoined := fun ⟨located, _⟩ ⟨⟨inner, h⟩, _⟩ =>
    ⟨⟨((locatingKept env).rejoined located ⟨inner, trivial⟩).1, h.recoveries, h.memo⟩, trivial⟩
  opened := by
    rintro s name ⟨located, h⟩ miss
    refine ⟨(locatingKept env).opened located miss, ?_⟩
    obtain ⟨log, eq⟩ := openedAsUpdate env name s (s.asked env name)
    rw [eq]
    exact ⟨h.recoveries, fun e member => h.memo e (askedEntries miss ▸ member)⟩
  closed := fun verdict ⟨located, _⟩ ⟨⟨inner, h⟩, _⟩ =>
    ⟨⟨((locatingKept env).closed verdict located ⟨inner, trivial⟩).1, h.whenClosed verdict⟩, trivial⟩

section
variable {rules : Rules} {depth : Nat} {b : Body}

theorem repairingTaking (h : (locating env).holds s) (d : Nat) :
    (repairing env).Taking env (Reached env rules depth (.body b) s d) where
  consume := by
    rintro t token goal _ ⟨located, repaired⟩
    exact ⟨⟨((locatingKept env).consume token goal located).1,
      repaired.sameRecoveries (fun r member => consumeRecoveries token goal t ▸ member)
        (consumeMemo env token goal t)⟩, trivial⟩
  recover := by
    rintro t failure reached ⟨located, repaired⟩
    exact ⟨⟨((locatingKept env).recover failure located).1,
      repairedRecover (reached.recoversLocated h) ⟨located, repaired⟩⟩, trivial⟩

theorem repairsAnswer {task : Task} {name : String} {memo : Memo}
    (answers : Answers env rules depth task s name t memo) (h : (repairing env).holds t) (cache : Cache MemoKey Memo)
    (log : List Message) (subset : ∀ e ∈ cache.entries, e ∈ t.memo.entries) :
    (repairing env).Step t (({ t with memo := cache, log := log } : Session).replay memo).2 := by
  obtain ⟨located, repaired⟩ := h
  refine ⟨⟨(locatesAnswer answers located cache log subset).1, ?_, ?_⟩, trivial⟩
  · rw [replayRecoveries, List.forall_mem_append]
    exact ⟨repaired.recoveries, repaired.memo _ answers.memoStored⟩
  · rw [replayMemo]
    exact fun e member => repaired.memo e (subset e member)

end

theorem concludedLocated (rules : Rules) (name rule : String) (counted : s.Counted env) :
    match concluded env (invoke env rules env.config.maxRuleDepth name rule s.reset) with
    | .error error => Blamed env rules env.config.maxRuleDepth (.body (.call name rule)) s.reset error
    | .ok output => ∀ error ∈ output.errors, error.Located env.source := by
  have first : (locating env).holds s.reset := locatedReset counted
  have here : Reached env rules env.config.maxRuleDepth (.body (.call name rule)) s.reset env.config.maxRuleDepth
    (.body (.call name rule)) s.reset := .start
  have behind := here.locatedBehind first
  have nothing : s.reset.Repaired env.source := ⟨fun _ member => (nomatch member), fun _ member => nomatch member⟩
  obtain ⟨⟨_, repaired⟩, _⟩ := (repairingNested env).invokeObeys repairsAnswer (repairingTaking first)
    env.config.maxRuleDepth name rule s.reset here ⟨first, nothing⟩
  simp only [finishing, exec] at behind
  cases ran : invoke env rules env.config.maxRuleDepth name rule s.reset with
  | mk verdict t =>
    rw [ran] at behind repaired
    obtain ⟨counted', records⟩ := behind
    cases verdict with
    | fatal error => exact blamesInvoke first _ name rule _ error here (congrArg Prod.fst ran)
    | mismatch => exact .inr (errorFromLocated counted'.here records.furthest)
    | ok =>
      obtain ⟨found, scans, scan, read, known⟩ := Counted.afterScan counted' defaultGoal
      have missed := (Failure.locatedLasting env).afterExpecting records.furthest ⟨_, read⟩ endOfInput t.path
      simp only [concluded, finish, scan]
      cases found with
      | token token next => exact .inr (errorFromLocated counted'.here missed)
      | unrecognized cursor c => exact .inr (errorFromLocated counted'.here missed)
      | ended cursor =>
        simp only
        cases t.root.getLast? with
        | none =>
          refine .inr ⟨[], [], List.nil_prefix, rfl, fun position told => ?_⟩
          exact absurd told.symm (Option.some_ne_none position)
        | some root =>
          intro error member
          obtain ⟨node, _, told⟩ := List.mem_filterMap.mp member
          obtain ⟨recovery, finds, rfl⟩ := Option.map_eq_some_iff.mp told
          exact repaired.recoveries recovery (List.mem_of_find?_eq_some finds)

end Session
end Packrat
